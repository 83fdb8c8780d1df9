import Looper.Form.Binding
import Looper.Form.Running
import Looper.Session.Control
import Looper.Session.LoopHalf
import Looper.Proofs.Kernel.Circulation
import Looper.Proofs.Dispatch.Delivery
import Looper.Proofs.Dispatch.Mirroring
import Looper.Proofs.Dispatch.Reach
import Looper.Proofs.Dispatch.Fanning
import Looper.Proofs.Dispatch.Numbering
import Looper.Proofs.Script.Release
import Looper.Proofs.Script.Places
import Looper.Proofs.Script.Reset
import Looper.Proofs.Script.Borrowing
import Looper.Proofs.Script.Performing
import Looper.Proofs.Script.Enlisting
import Looper.Proofs.Script.Interlude
import Looper.Proofs.Script.Pooling
import Looper.Proofs.Script.Answering
import Looper.Proofs.Script.Clicking
import Looper.Proofs.Script.Rounds
import Looper.Proofs.Script.Cancelling
import Looper.Proofs.Script.Boundary
import Looper.Proofs.Script.Leaving
import Looper.Proofs.Script.Adding
import Looper.Proofs.Script.Recognizing
import Looper.Proofs.Script.Shelving
import Looper.Proofs.Script.Rereading
import Looper.Proofs.Script.Grammar
import Looper.Proofs.Script.Accepting
import Looper.Proofs.Script.Calling
import Looper.Proofs.Script.Scoping
import Looper.Proofs.Script.Bounding
import Looper.Proofs.Script.Expanding
import Looper.Proofs.Script.Notifying
import Looper.Proofs.Binding.Recompile
import Looper.Proofs.Binding.Reuse
import Looper.Proofs.Binding.Sustain
import Looper.Proofs.Binding.Counterpart
import Looper.Proofs.Binding.Filing
import Looper.Proofs.Binding.Freshness
import Looper.Proofs.Binding.Interning
import Looper.Proofs.Binding.Snapshot
import Looper.Proofs.Binding.Rebuilding
import Looper.Proofs.Binding.Registry
import Looper.Proofs.Binding.Toggling
import Looper.Proofs.Binding.Merging
import Looper.Proofs.Binding.Identity
import Looper.Proofs.Binding.Rendering
import Looper.Proofs.Binding.Coding
import Looper.Proofs.Midi.Wire
import Looper.Proofs.Session.History
import Looper.Proofs.Session.Supply
import Looper.Proofs.Session.Agreement
import Looper.Proofs.Session.Reporting
import Looper.Proofs.Session.Returning
import Looper.Proofs.Session.Registering
import Looper.Proofs.Session.Loading
import Looper.Proofs.Session.Activating
