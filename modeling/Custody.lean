import Custody.Heap.Lemmas
import Custody.Host
import Custody.Lock
import Custody.Proofs.Session.Validation
import Custody.Proofs.Session.Waiting
import Custody.Session.Collector
import Custody.Session.HostError
import Custody.Session.Indicator
import Custody.Session.Shutdown
import Custody.Proofs.Heap.Cascade
import Custody.Proofs.Heap.Confluence
import Custody.Proofs.Heap.Generations
import Custody.Proofs.Finalizer.Batches
import Custody.Proofs.Finalizer.Reasons
import Custody.Proofs.Finalizer.Settlement
import Custody.Proofs.Session.Detachment
import Custody.Proofs.Session.Evolution
import Custody.Proofs.Session.RoundTrip
import Custody.Proofs.Heap.Display
import Custody.Proofs.Interpreter.NormalForm
import Custody.Proofs.Interpreter.Walks
import Custody.Proofs.Session.Draining
import Custody.Proofs.Session.Inert
import Custody.Proofs.Session.Interruption
import Custody.Proofs.Session.Order
import Custody.Proofs.Session.Schedules
import Custody.Proofs.Session.Signals
import Custody.Proofs.Session.Stoppages
import Custody.Proofs.Finalizer.Survival
import Custody.Proofs.Interpreter.Linking
import Custody.Proofs.Session.Chaining
import Custody.Proofs.Session.Wear
import Custody.Proofs.Session.Reporting
import Custody.Proofs.Interpreter.Reports
import Custody.Proofs.Session.Categories
import Custody.Proofs.Interpreter.Literals
import Custody.Proofs.Interpreter.Warnings
import Custody.Proofs.Finalizer.Occasions
import Custody.Proofs.Session.Announcing
import Custody.Proofs.Session.Recognition
import Custody.Proofs.Tracking.Circulation
