import Quadcopter.Text.Blank
import Quadcopter.Text.Uppercase
import Quadcopter.Text.Lowercase
import Quadcopter.Decimal.Shortest
import Quadcopter.Decimal.Plain
import Quadcopter.Decimal.Numeral
import Quadcopter.Fault
import Quadcopter.Token.Lexer
import Quadcopter.Line
import Quadcopter.Instruction.Decode
import Quadcopter.Program
import Quadcopter.Stack
import Quadcopter.Listing
import Quadcopter.Flight.Reckoning
import Quadcopter.Radio.Mailbox
import Quadcopter.Vision
import Quadcopter.Picture.Basic
import Quadcopter.Picture.Inflate.Stream
import Quadcopter.Picture.Png
import Quadcopter.Files.Tree
import Quadcopter.Picture.Format
import Quadcopter.Flight.Rehearsal
import Quadcopter.Radio.Basic
import Quadcopter.Machine.Core
import Quadcopter.Machine.Basic
import Quadcopter.Machine.Logbook
import Quadcopter.Machine.Craft
import Quadcopter.Host.CommandLine
import Quadcopter.Main
import Quadcopter.Proofs.Calls
import Quadcopter.Proofs.Run
import Quadcopter.Proofs.Failure
import Quadcopter.Proofs.Lifecycle
import Quadcopter.Proofs.Exchanges
import Quadcopter.Proofs.Wire
import Quadcopter.Proofs.Assembly
import Quadcopter.Proofs.Casing
import Quadcopter.Proofs.Lines
import Quadcopter.Proofs.Recompile
import Quadcopter.Proofs.Insertion
import Quadcopter.Proofs.Effect
import Quadcopter.Proofs.WellFormed
import Quadcopter.Proofs.Answers
import Quadcopter.Proofs.Restart
import Quadcopter.Proofs.Layout
import Quadcopter.Proofs.Appearance
import Quadcopter.Proofs.Path
import Quadcopter.Proofs.Acknowledgement
import Quadcopter.Proofs.Interrupt
import Quadcopter.Proofs.Listings
import Quadcopter.Proofs.Whole
import Quadcopter.Proofs.Hosts
import Quadcopter.Proofs.Decoding
import Quadcopter.Proofs.CommandLog
import Quadcopter.Proofs.Landing
import Quadcopter.Proofs.Batching
import Quadcopter.Proofs.FloorDivision
import Quadcopter.Proofs.Stacks
import Quadcopter.Proofs.Editing
import Quadcopter.Proofs.Places
import Quadcopter.Proofs.Storage
import Quadcopter.Proofs.Overflow
import Quadcopter.Proofs.Pixels
import Quadcopter.Proofs.Packets
import Quadcopter.Proofs.Provenance
import Quadcopter.Proofs.Digitwise
import Quadcopter.Proofs.Numerals
