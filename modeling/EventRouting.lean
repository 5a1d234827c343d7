import EventRouting.Evaluation.Session
import EventRouting.Main
import EventRouting.Proofs.Routing.Filtering
import EventRouting.Proofs.Statement.Folding
import EventRouting.Proofs.Decimal.Quantity
import EventRouting.Proofs.Statement.Pointers
import EventRouting.Proofs.Statement.Rendering
import EventRouting.Proofs.Statement.Composition
import EventRouting.Proofs.Value.Equivalence
import EventRouting.Proofs.Evaluation.Comparison
import EventRouting.Proofs.Evaluation.Congruence
import EventRouting.Proofs.Command.Agreement
import EventRouting.Proofs.Evaluation.Sessions
import EventRouting.Proofs.Event.Independence
import EventRouting.Proofs.Statement.Partition
import EventRouting.Proofs.Statement.Explanations
import EventRouting.Proofs.Value.Conversion
import EventRouting.Proofs.Statement.Carets
import EventRouting.Proofs.Statement.Outlines
import EventRouting.Proofs.Routing.Framing
import EventRouting.Proofs.Evaluation.Dependence
import EventRouting.Proofs.Evaluation.Logic
import EventRouting.Proofs.Statement.Concatenation
import EventRouting.Proofs.Statement.Numbers
import EventRouting.Proofs.Evaluation.Membership
import EventRouting.Proofs.Routing.Building
import EventRouting.Proofs.Statement.PointerReaders
import EventRouting.Proofs.Evaluation.FloatForm
import EventRouting.Proofs.Evaluation.Endings
import EventRouting.Proofs.Statement.Discipline
import EventRouting.Proofs.Statement.Marking
