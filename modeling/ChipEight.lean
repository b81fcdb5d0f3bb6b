import ChipEight.Display.Placement
import ChipEight.Main
import ChipEight.Session.InMemory
import ChipEight.Proofs.Fetch
import ChipEight.Proofs.History
import ChipEight.Proofs.Operands
import ChipEight.Proofs.Outcome
import ChipEight.Proofs.Atomicity
import ChipEight.Proofs.Bounds
import ChipEight.Proofs.CycleFaults
import ChipEight.Proofs.Returns
import ChipEight.Proofs.Nesting
import ChipEight.Proofs.Superposition
import ChipEight.Proofs.Frames
import ChipEight.Proofs.MemoryHistory
import ChipEight.Proofs.Switches
import ChipEight.Proofs.Masks
import ChipEight.Proofs.Channels
import ChipEight.Proofs.RandomDraws
import ChipEight.Proofs.TimerHistory
import ChipEight.Proofs.Writes
import ChipEight.Proofs.Counters
import ChipEight.Proofs.Patterns
import ChipEight.Proofs.Numerals
import ChipEight.Proofs.Reassembly
import ChipEight.Proofs.Recognition
import ChipEight.Proofs.Listing
import ChipEight.Proofs.Loading
import ChipEight.Proofs.Logbook
import ChipEight.Proofs.Runs
import ChipEight.Proofs.Transcripts
import ChipEight.Proofs.Exports
import ChipEight.Proofs.Reporting
import ChipEight.Proofs.Diagnosis
import ChipEight.Proofs.Drawing
import ChipEight.Proofs.ControlFlow
import ChipEight.Proofs.Arithmetic
import ChipEight.Proofs.BlockStreams
import ChipEight.Proofs.Waiting
import ChipEight.Proofs.Dialogues
import ChipEight.Proofs.StackSlots
import ChipEight.Proofs.MemoryAccess
import ChipEight.Proofs.Placements
