/-!
# Digits

A number by its last digits in some base, as many as are wanted, with zeros in front if it has fewer.
-/

namespace Sftp.Text

/-- The last `k` digits of a number, the most significant first. -/
def lastDigits (base : Nat) : (k n : Nat) → List Char
  | 0, _ => []
  | k + 1, n => lastDigits base k (n / base) ++ [Nat.digitChar (n % base)]

end Sftp.Text
