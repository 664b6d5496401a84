import Chip8.Main
import Chip8.Machine.Load
import Chip8.Machine.Session
import Chip8.Proofs.Bounds
import Chip8.Proofs.Footprint
import Chip8.Proofs.Access
import Chip8.Proofs.Faults
import Chip8.Proofs.Similarity
import Chip8.Proofs.Polling
import Chip8.Proofs.Loading
import Chip8.Proofs.Records
import Chip8.Proofs.Subroutines
import Chip8.Proofs.Schedule
import Chip8.Proofs.Timing
import Chip8.Proofs.Batching
import Chip8.Proofs.Refusals
import Chip8.Proofs.Rounding
import Chip8.Proofs.Overflow
import Chip8.Proofs.Redraw
import Chip8.Proofs.Stores
import Chip8.Proofs.Commuting
import Chip8.Proofs.Halting
import Chip8.Proofs.ScanModes
import Chip8.Proofs.Countdown
import Chip8.Proofs.Draws
import Chip8.Proofs.Frequencies
import Chip8.Proofs.Sprites
import Chip8.Proofs.WholeLoads
import Chip8.Proofs.Nesting
import Chip8.Proofs.ConfigErrors
import Chip8.Proofs.Opcodes
import Chip8.Proofs.Arithmetic
import Chip8.Proofs.Transfers
import Chip8.Proofs.Compositing
import Chip8.Proofs.ControlFlow
import Chip8.Proofs.Disassembly
import Chip8.Proofs.LetterCase
import Chip8.Proofs.Sections
import Chip8.Proofs.KeyBindings
import Chip8.Proofs.SpellingOut
import Chip8.Proofs.Raster
import Chip8.Proofs.ByteStore
import Chip8.Proofs.ReturnStack
