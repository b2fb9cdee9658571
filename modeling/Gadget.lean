import Gadget.Session.Device
import Gadget.Session.Engine
import Gadget.Session.Handles
import Gadget.Proofs.Delivery
import Gadget.Proofs.Submission
import Gadget.Proofs.Reachable
import Gadget.Proofs.Atomicity
import Gadget.Proofs.Ownership
import Gadget.Proofs.WakeUp
import Gadget.Proofs.Safety
import Gadget.Proofs.Conversation
import Gadget.Proofs.Blocking
import Gadget.Proofs.Lifetime
import Gadget.Proofs.Admission
import Gadget.Proofs.Compaction
import Gadget.Proofs.Sizing
import Gadget.Proofs.AllOrNothing
import Gadget.Proofs.FullFlight
import Gadget.Proofs.Draining
import Gadget.Proofs.Stability
import Gadget.Proofs.Mounting
import Gadget.Proofs.Scanning
import Gadget.Proofs.Slicing
import Gadget.Proofs.Tagging
