import Descent.Main
import Descent.Proofs.Peg.Completeness
import Descent.Proofs.Placement.Grammar
import Descent.Proofs.Recursion.Termination
import Descent.Proofs.Table.Exact
import Descent.Proofs.Parallel.Action
import Descent.Proofs.Parallel.Parser
import Descent.Proofs.Parallel.Alike
import Descent.Proofs.Parallel.Grammar
import Descent.Proofs.Translation.Grammar
import Descent.Proofs.Cache.Replay
import Descent.Proofs.Cache.Uncached
import Descent.Proofs.Cache.History
import Descent.Proofs.Calculator.Tree
import Descent.Proofs.Calculator.Evaluating
import Descent.Proofs.Calculator.Exact
import Descent.Proofs.Calculator.Unsigned
import Descent.Proofs.Number.Zero
import Descent.Proofs.Calculator.Lockstep
import Descent.Proofs.Calculator.Agreement
import Descent.Proofs.Spelling.Grammar
import Descent.Proofs.Wording.Grammar
import Descent.Proofs.Report.Verdict
import Descent.Proofs.Faultless.Grammar
import Descent.Proofs.Tracing.Grammar
import Descent.Proofs.Repetition.Agreement
import Descent.Proofs.Chaining.Grammar
import Descent.Proofs.Choice.Factoring
import Descent.Proofs.Choice.Guarding
import Descent.Proofs.Separation.Field
import Descent.Proofs.Separation.Grammar
import Descent.Proofs.Sequencing.Binding
import Descent.Proofs.Sequencing.Nested
import Descent.Proofs.Report.Consumption
import Descent.Proofs.Table.Idle
import Descent.Proofs.Table.Unmixed
import Descent.Proofs.Cause.Composite
import Descent.Proofs.Lines.Offset
import Descent.Proofs.Numeral.Scanner
import Descent.Proofs.Spelling.Literal
import Descent.Proofs.Cause.Anchoring
