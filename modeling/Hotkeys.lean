import Hotkeys.Main
import Hotkeys.Platform
import Hotkeys.Proofs.Backend.Entries
import Hotkeys.Proofs.Backend.Grants
import Hotkeys.Proofs.Bridge.AllOrNothing
import Hotkeys.Proofs.Bridge.Calls
import Hotkeys.Proofs.Bridge.Commuting
import Hotkeys.Proofs.Bridge.Drain
import Hotkeys.Proofs.Bridge.Exclusive
import Hotkeys.Proofs.Bridge.Failures
import Hotkeys.Proofs.Bridge.Leftovers
import Hotkeys.Proofs.Bridge.Lifecycle
import Hotkeys.Proofs.Bridge.Shutdown
import Hotkeys.Proofs.Bridge.Streams
import Hotkeys.Proofs.Bridge.Strictness
import Hotkeys.Proofs.Bridge.Trace
import Hotkeys.Proofs.Chord.Denotation
import Hotkeys.Proofs.Chord.Keys
import Hotkeys.Proofs.Chord.Parts
import Hotkeys.Proofs.Chord.Refusal
import Hotkeys.Proofs.Chord.RoundTrip
import Hotkeys.Proofs.Config.Forms
import Hotkeys.Proofs.Config.Partial
import Hotkeys.Proofs.Config.Startup
import Hotkeys.Proofs.Config.Store
import Hotkeys.Proofs.Handles.Life
import Hotkeys.Proofs.Router
import Hotkeys.Proofs.Script.Allocation
import Hotkeys.Proofs.Script.Enabled
import Hotkeys.Proofs.Script.Enabling
import Hotkeys.Proofs.Script.Library
import Hotkeys.Proofs.Script.Naming
import Hotkeys.Proofs.Script.Ownership
import Hotkeys.Proofs.Script.Reservations
import Hotkeys.Script.Writer
import Hotkeys.Session.Run
