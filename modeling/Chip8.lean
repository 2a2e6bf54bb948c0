import Chip8.CallStack
import Chip8.Cell
import Chip8.Channel
import Chip8.Command.Arguments
import Chip8.Command.Session
import Chip8.Command.Switch
import Chip8.Command.Token
import Chip8.Dispatch
import Chip8.Dump
import Chip8.Excess
import Chip8.Execution
import Chip8.Fault
import Chip8.Host
import Chip8.Host.Buzzer
import Chip8.Host.Display
import Chip8.Host.Error
import Chip8.Host.Keyboard
import Chip8.Host.Keymap
import Chip8.Host.Palette
import Chip8.Instruction
import Chip8.Journal
import Chip8.Latest
import Chip8.Machine
import Chip8.Main
import Chip8.Memory
import Chip8.Mnemonic
import Chip8.Numeral.Bits
import Chip8.Numeral.Digit
import Chip8.Numeral.Floating
import Chip8.Numeral.Hex
import Chip8.Numeral.Length
import Chip8.Numeral.Nearest
import Chip8.Numeral.Power
import Chip8.Numeral.Reading
import Chip8.Numeral.Shortest
import Chip8.Numeral.Signed
import Chip8.Opcode
import Chip8.Processor
import Chip8.Processor.Rate
import Chip8.Processor.Run
import Chip8.Product
import Chip8.Proofs.Action
import Chip8.Proofs.Dispatch
import Chip8.Proofs.Memory
import Chip8.Proofs.Pixels
import Chip8.Random.Digest
import Chip8.Random.Seed
import Chip8.Random.Source
import Chip8.Random.Twister
import Chip8.Registers
import Chip8.Schedule
import Chip8.Screen
import Chip8.Startup
import Chip8.Startup.Failure
import Chip8.Startup.Folder
import Chip8.Startup.Options
import Chip8.Startup.Value
import Chip8.Text.Line
import Chip8.Text.Printable
import Chip8.Text.Quoted
import Chip8.Text.Split
import Chip8.Proofs.Sprite
import Chip8.Proofs.Outcome
import Chip8.Proofs.Execution
import Chip8.Proofs.Bounds
import Chip8.Proofs.Tick
import Chip8.Proofs.Reachable
import Chip8.Proofs.Failure
import Chip8.Proofs.Nesting
import Chip8.Proofs.Peripherals
import Chip8.Proofs.Waiting
import Chip8.Proofs.Countdown
import Chip8.Proofs.Frames
import Chip8.Proofs.Isolation
import Chip8.Proofs.Interleaving
import Chip8.Proofs.Devices
import Chip8.Proofs.Delivery
import Chip8.Proofs.Closing
import Chip8.Proofs.Tables
import Chip8.Proofs.Runs
import Chip8.Proofs.Keys
import Chip8.Proofs.Pacing
import Chip8.Proofs.Determinism
import Chip8.Proofs.Report
import Chip8.Proofs.Footprint
import Chip8.Proofs.Snapshots
import Chip8.Proofs.Rebooting
import Chip8.Proofs.Switching
import Chip8.Proofs.Oblivious
import Chip8.Proofs.Observation
import Chip8.Proofs.KeyIndependence
import Chip8.Proofs.Succession
import Chip8.Proofs.Rates
import Chip8.Proofs.Starting
import Chip8.Proofs.Exits
import Chip8.Proofs.Drawing
import Chip8.Proofs.Arithmetic
import Chip8.Proofs.Blocks
import Chip8.Proofs.Latest
import Chip8.Proofs.Packing
import Chip8.Proofs.Keymaps
import Chip8.Proofs.Palettes
import Chip8.Proofs.Painting
import Chip8.Proofs.Hexadecimal
import Chip8.Proofs.Edges
import Chip8.Proofs.Flips
import Chip8.Proofs.Cells
import Chip8.Proofs.Disassembly
import Chip8.Proofs.Dumps
import Chip8.Proofs.Shutdown
