import ChipEight.Main
import ChipEight.Storage
import ChipEight.Proofs.FailingCycles
import ChipEight.Proofs.Encoding
import ChipEight.Proofs.OpenCalls
import ChipEight.Proofs.TimerRate
import ChipEight.Proofs.Endings
import ChipEight.Proofs.Mirroring
import ChipEight.Proofs.HiddenHistories
import ChipEight.Proofs.Traces
import ChipEight.Proofs.TraceLines
import ChipEight.Proofs.KeyHistory
import ChipEight.Proofs.Dumps
import ChipEight.Proofs.WindowCalls
import ChipEight.Proofs.RegisterArithmetic
import ChipEight.Proofs.ControlFlow
import ChipEight.Proofs.DrawingOrder
import ChipEight.Proofs.DrawnSprites
import ChipEight.Proofs.KeypadMoves
import ChipEight.Proofs.Waiting
import ChipEight.Proofs.SelectedCells
import ChipEight.Proofs.MemoryAccess
import ChipEight.Proofs.LoadedPrograms
import ChipEight.Proofs.PaintedGrids
import ChipEight.Proofs.RegisterBlocks
import ChipEight.Proofs.Glyphs
