import Sftp.Fault
import Sftp.Text.Digits

/-!
# File statistics

What a caller learns about one remote file: its name and those attributes that matter for display.
The file type is read off the mode. Times are seconds since the start of 1970 in Coordinated
Universal Time; `Calendar` turns them into dates of the Gregorian calendar.
-/

namespace Sftp

/-! ## Dates -/

/-- A day and a time of day. -/
structure Calendar where
  /-- The year. -/
  year : Int
  /-- The month, from 1. -/
  month : Nat
  /-- The day of the month, from 1. -/
  day : Nat
  /-- The hour. -/
  hour : Nat
  /-- The minute. -/
  minute : Nat
  /-- The second. -/
  second : Nat
  deriving DecidableEq, Inhabited

namespace Calendar

/-- The date of a moment. Days are counted from the first of March of the year 0, so that the leap
day is the last of its year: 400 years are 146097 days, a century among them is 36524 and four
years are 1461, the last of each group apart. -/
def ofSeconds (t : Int) : Calendar :=
  let days := t / 86400 + 719468
  let rest := (t % 86400).toNat
  let era := days / 146097
  let dayOfEra := (days % 146097).toNat
  let yearOfEra := (dayOfEra - dayOfEra / 1460 + dayOfEra / 36524 - dayOfEra / 146096) / 365
  let dayOfYear := dayOfEra - (365 * yearOfEra + yearOfEra / 4 - yearOfEra / 100)
  let monthFromMarch := (5 * dayOfYear + 2) / 153
  let month := if monthFromMarch < 10 then monthFromMarch + 3 else monthFromMarch - 9
  let year := era * 400 + (yearOfEra : Int)
  { year := if month ≤ 2 then year + 1 else year
    month
    day := dayOfYear - (153 * monthFromMarch + 2) / 5 + 1
    hour := rest / 3600
    minute := rest / 60 % 60
    second := rest % 60 }

/-- A number with zeros before it up to the given width. -/
def padded (width n : Nat) : String :=
  let digits := toString n
  String.ofList (List.replicate (width - digits.length) '0') ++ digits

/-- Year, month and day. -/
def renderDate (c : Calendar) : String :=
  padded 4 c.year.toNat ++ "-" ++ padded 2 c.month ++ "-" ++ padded 2 c.day

/-- Date and time to the second, as one word. -/
def renderFull (c : Calendar) : String :=
  c.renderDate ++ "T" ++ padded 2 c.hour ++ ":" ++ padded 2 c.minute ++ ":" ++ padded 2 c.second

/-- Date and time to the minute. -/
def renderShort (c : Calendar) : String :=
  c.renderDate ++ " " ++ padded 2 c.hour ++ ":" ++ padded 2 c.minute

/-- The first second of the second day of the year 1. -/
def earliest : Int := -62135510400

/-- The last second of the year 9999. -/
def latest : Int := 253402300799

/-- Why a moment has no date, if it has none. A year is told as a 32-bit number. -/
def fault? (t : Int) : Option Fault :=
  if t < -0x8000000000000000 ∨ 0x8000000000000000 ≤ t then some .timeOutOfRange
  else if earliest ≤ t ∧ t ≤ latest then none
  else
    let year := (ofSeconds t).year
    if year < -0x80000000 + 1900 ∨ 0x80000000 + 1900 ≤ year then some .timeTooLarge
    else some (.yearOutOfRange (if year = 1 then 0 else year.bmod 0x100000000))

end Calendar

/-! ## Statistics -/

/-- The file types that matter. -/
inductive FileType
  | directory | symlink | regular
  deriving DecidableEq, Inhabited

/-- The type in a mode: four bits above the twelve permission bits. -/
def FileType.ofMode? (mode : Int) : Option FileType :=
  match (mode / 0x1000 % 16).toNat with
  | 0x4 => some directory
  | 0xA => some symlink
  | 0x8 => some regular
  | _ => none

/-- What is known about one remote file. -/
structure FileStats where
  /-- Its name within its directory. -/
  name : Text
  /-- Its length in bytes. -/
  size : Option Int := none
  /-- Its type and permission bits. -/
  mode : Option Int := none
  /-- When it was changed last, in seconds. -/
  mtime : Option Int := none
  /-- Its owner. -/
  uid : Option Int := none
  /-- Its group. -/
  gid : Option Int := none
  deriving DecidableEq, Inhabited

namespace FileStats

/-- The statistics of a file with the given name and attributes. -/
def ofAttributes (name : Text) (a : Attributes) : FileStats :=
  { name, size := a.size, mode := a.permissions, mtime := a.mtime, uid := a.uid, gid := a.gid }

/-- The type of the file, if it is known and one that matters. -/
def type? (s : FileStats) : Option FileType :=
  s.mode.bind FileType.ofMode?

/-- Whether the file is a directory. -/
def isDirectory (s : FileStats) : Bool :=
  s.type? = some .directory

/-- Why the statistics cannot be shown, if they cannot: a time without a date, or a mode that is no
32-bit number. Neither comes from a server. -/
def fault? (s : FileStats) : Option Fault :=
  match s.mtime.bind Calendar.fault? with
  | some f => some f
  | none =>
    match s.mode with
    | none => none
    | some m =>
      if m < 0 then some .negativeMode
      else if 0x10000000000000000 ≤ m then some .modeTooLarge
      else if 0x100000000 ≤ m then some .modeOutOfRange
      else none

/-- The line that lists the file. -/
def listing (s : FileStats) : Text :=
  let kind := match s.type? with
    | some .directory => "d"
    | some .symlink => "l"
    | _ => "-"
  let mode := match s.mode with
    | some m => String.ofList (Text.lastDigits 8 4 (m % 0x1000).toNat)
    | none => "????"
  let size : Text := match s.size with
    | some n => Text.ofInt n
    | none => "?"
  let mtime := match s.mtime with
    | some t => (Calendar.ofSeconds t).renderShort
    | none => "-"
  kind ++ mode ++ " " ++ size.padStart 12 ++ " " ++ mtime ++ " " ++ s.name

end FileStats

end Sftp
