import Reink.D4.Delivery
import Reink.D4.Framing
import Reink.D4.Strictness
import Reink.D4.Answering
import Reink.D4.Fragmentation
import Reink.D4.Termination
import Reink.D4.Gating
import Reink.D4.Credit
import Reink.D4.Conversation
import Reink.D4.Panic
import Reink.D4.PeerFaults
import Reink.D4.Opening
import Reink.D4.Traffic
import Reink.D4.Sizes
import Reink.D4.Correspondence
import Reink.App.CounterReset
import Reink.App.EndToEnd
import Reink.App.EntryReply
import Reink.App.Restore
import Reink.Cli.Recognition
import Reink.Cli.Restore
import Reink.Core.AtomicWrite
import Reink.Core.Identity
import Reink.Core.Rollback
import Reink.Gui.AsciiResponse
import Reink.Gui.DebugTraffic
import Reink.Gui.FieldView
import Reink.Gui.NativeRedaction
import Reink.HardwareTest.Operation
import Reink.HardwareTest.WriteEvidence
import Reink.Platform.Transport
import Reink.Usb.DriverHandoff
import Reink.Usb.HardwareId
import Reink.Usb.Redaction
import Reink.Gui.Candidate
import Reink.Gui.Consent
import Reink.Gui.Exclusion
import Reink.Gui.Inputs
import Reink.Gui.Operation
import Reink.Gui.Perform
import Reink.Gui.Report
import Reink.Gui.System
import Reink.Gui.Thread
import Reink.Gui.Trace
import Reink.Gui.Traffic
import Reink.Gui.Window
import Reink.Library.Machine
