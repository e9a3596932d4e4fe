import Sftp.Endpoint.Opening
import Sftp.Main
import Sftp.Proofs.Client.Conversation
import Sftp.Proofs.Client.Lifecycle
import Sftp.Proofs.Client.Operation
import Sftp.Proofs.Command.Exit
import Sftp.Proofs.Command.Transfer
import Sftp.Proofs.Endpoint.Closing
import Sftp.Proofs.Endpoint.Opening
import Sftp.Proofs.HostKeys.FirstUse
import Sftp.Proofs.Link.Allotment
import Sftp.Proofs.Link.FailedWrite
import Sftp.Proofs.Link.Replies
import Sftp.Proofs.Link.Unmade
import Sftp.Proofs.OpenDirectory.Listing
import Sftp.Proofs.OpenFile.Name
import Sftp.Proofs.OpenFile.Offset
import Sftp.Proofs.OpenFile.PacketSize
import Sftp.Proofs.OpenFile.Refinement
import Sftp.Proofs.OpenFile.SafeReading
import Sftp.Proofs.OpenFile.Slices
import Sftp.Proofs.OpenHandle.Methods
import Sftp.Proofs.Settings.Faults
import Sftp.Proofs.Status.Identity
import Sftp.Proofs.Stream.Reading
import Sftp.Proofs.Walk.Containment
import Sftp.Proofs.Walk.Faults
import Sftp.Proofs.Walk.Handles
import Sftp.Proofs.Walk.Stopping
import Sftp.Proofs.Wire.Duality
import Sftp.Proofs.Wire.NormalForm
import Sftp.Proofs.Wire.Refusal
import Sftp.Proofs.Wire.Truncation
import Sftp.Surroundings.Script
