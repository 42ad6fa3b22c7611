import Watch.Main
import Watch.Proofs.Run.Limits
import Watch.Proofs.Run.Locality
import Watch.Proofs.Run.Cancellation
import Watch.Proofs.Run.Noninterference
import Watch.Proofs.Run.Atomicity
import Watch.Proofs.Run.Consumption
import Watch.Proofs.Run.Connective
import Watch.Proofs.Frame.Separation
import Watch.Proofs.Operation.Comparison
import Watch.Proofs.Server.Running
import Watch.Proofs.Server.Serial
import Watch.Proofs.Server.Line
import Watch.Proofs.Server.Framing
import Watch.Proofs.Wire.Document
import Watch.Proofs.Server.Answer
import Watch.Proofs.Operation.Arithmetic
import Watch.Proofs.Operation.Division
import Watch.Proofs.Operation.Update
import Watch.Proofs.Operation.Compound
import Watch.Proofs.Operation.Shift
import Watch.Proofs.Operation.Order
import Watch.Proofs.Operation.Equality
import Watch.Proofs.Operation.Inapplicable
import Watch.Proofs.Operation.Sign
import Watch.Proofs.Instruction.Element
import Watch.Proofs.Instruction.Cast
import Watch.Proofs.Value.Suiting
import Watch.Proofs.Value.Path
import Watch.Proofs.Run.Forward
import Watch.Proofs.Instruction.Invocation
import Watch.Proofs.Operation.Concatenation
import Watch.Proofs.Operation.Promotion
