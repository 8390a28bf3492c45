import DirectoryName.Codec
import DirectoryName.CommandLine.Workspace
import DirectoryName.Main
import DirectoryName.Probe
import DirectoryName.Proofs.Beginning
import DirectoryName.Proofs.CommandLine
import DirectoryName.Proofs.Codec
import DirectoryName.Proofs.Comparison
import DirectoryName.Proofs.Concatenation
import DirectoryName.Proofs.History
import DirectoryName.Proofs.Joining
import DirectoryName.Proofs.Offset
import DirectoryName.Proofs.Reading.Continuation
import DirectoryName.Proofs.Reading.Fault
import DirectoryName.Proofs.Respelling
import DirectoryName.Proofs.RoundTrip
import DirectoryName.Proofs.Shape
import DirectoryName.Proofs.Strictness
import DirectoryName.Proofs.Subtree
import DirectoryName.Proofs.Visibility
import DirectoryName.Proofs.Writing.Outcome
import DirectoryName.Session
import DirectoryName.Proofs.Cutting
import DirectoryName.Proofs.Writing.Display
import DirectoryName.Proofs.Explode
import DirectoryName.Proofs.Misfit
import DirectoryName.Proofs.LooseForm
import DirectoryName.Proofs.Registration
import DirectoryName.Proofs.TypeAgreement
import DirectoryName.Proofs.Writing.Printable
import DirectoryName.Proofs.Check
import DirectoryName.Proofs.Delivery
import DirectoryName.Proofs.Reading.Character
import DirectoryName.Proofs.Cursor.Name
import DirectoryName.Proofs.Writing.Quoting
