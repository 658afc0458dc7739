import Reink.Core.Controller
import Reink.D4.Link

/-!
# The D4 session

Entry into the printer's packet mode, the link, the `EPSON-CTRL` service on it, and the controller
on that. A failed setup gives the transport back with the error.
-/

namespace Reink

open Program (mapErr zoom throw)

/-- The command that enters the packet mode. -/
def epsonD4EntryCommand : List UInt8 :=
  [0x00, 0x00, 0x00, 0x1b, 0x01] ++ Text.ascii "@EJL 1284.4\n@EJL\n@EJL\n"

/-- The reply that the entry command is answered by. -/
def epsonD4EntryReply : List UInt8 := [0x00, 0x00, 0x00, 0x08, 0x01, 0x00, 0xc5, 0x00]

/-- The reads that the entry reply may take. -/
def entryReplyReadLimit : Nat := 5

/-- Failure while composing the transport, D4, and Epson layers. -/
inductive ApplicationError where
  | transport (error : TransportError)
  | d4 (error : D4Error)
  | setupRecovered (setup : D4Error)
  | setupRecovery (setup recovery : D4Error)
  | shutdown (close exit : Option D4Error)
  | epson (error : EpsonError)
  | writePlan (message : String)
  | entryReplyMissing
  | entryReplyInvalid
deriving DecidableEq, Repr

/-- A read-only Epson control session over an initialized IEEE 1284.4 link. -/
structure EpsonD4Session (T : Type) where
  link : LinkRun T
  controlChannel : ChannelId
  spec : EpsonSpec

section Entry

variable {T : Type} [ByteTransport T]

/-- Hand a buffer of the given size to the transport. -/
def readEntry (size : Nat) : Program T ApplicationError (List UInt8) := fun target ↦
  match ByteTransport.read size target with
  | (.ok bytes, target) => (.ok bytes, target)
  | (.error error, target) => (.err (.transport error), target)

/-- The reads of `waitForEntryReply` that are left, after the bytes received so far. -/
def entryReplyLoop : Nat → List UInt8 → Bool → Program T ApplicationError Unit
  | 0, _, receivedData => throw (if receivedData then .entryReplyInvalid else .entryReplyMissing)
  | limit + 1, reply, receivedData => do
    let bytes ← readEntry 256
    if bytes = [] then entryReplyLoop limit reply receivedData
    else if Text.contains epsonD4EntryReply (reply ++ bytes) then pure ()
    else entryReplyLoop limit (reply ++ bytes) true

/-- Read until the entry reply is there, or the limit is reached. -/
def waitForEntryReply : Program T ApplicationError Unit :=
  entryReplyLoop entryReplyReadLimit [] false

end Entry

namespace EpsonD4Session

variable {T : Type} [ByteTransport T] (bound : Nat)

/-- Enters Epson D4 mode, initializes the link, and opens `EPSON-CTRL`. The transport is returned if
the setup fails, after an exit if the link was up. -/
def connectRecoverable (target : T) (spec : EpsonSpec) :
    Outcome (ApplicationError × T) (EpsonD4Session T) :=
  match ByteTransport.writeAll epsonD4EntryCommand target with
  | (.error error, target) => .err (.transport error, target)
  | (.ok (), target) =>
    match waitForEntryReply target with
    | (.err error, target) => .err (error, target)
    | (.panic message, _) => .panic message
    | (.running, _) => .running
    | (.ok (), target) =>
      match D4Link.initializeLink bound (.start (D4Link.new target)) with
      | (.err error, link) => .err (.d4 error, link.state.target)
      | (.panic message, _) => .panic message
      | (.running, _) => .running
      | (.ok (), link) =>
        match D4Link.openService bound "EPSON-CTRL" link with
        | (.ok controlChannel, link) => .ok ⟨link, controlChannel, spec⟩
        | (.panic message, _) => .panic message
        | (.running, _) => .running
        | (.err setup, link) =>
          match D4Link.exit bound link with
          | (.ok (), link) => .err (.setupRecovered setup, link.state.target)
          | (.err recovery, link) => .err (.setupRecovery setup recovery, link.state.target)
          | (.panic message, _) => .panic message
          | (.running, _) => .running

/-- Run a program on the link of the session. -/
def onLink {α : Type} (m : LinkProgram T α) : Program (EpsonD4Session T) D4Error α :=
  zoom link (fun session link ↦ { session with link := link }) m

/-- Run a controller operation on the control channel of the session. -/
def onControl {α : Type} (m : EpsonSpec → Program (D4ControlChannel T bound) EpsonError α) :
    Program (EpsonD4Session T) ApplicationError α := fun session ↦
  (do
    mapErr .d4 (onLink (D4Link.controlChannel session.controlChannel))
    mapErr .epson (zoom (fun session ↦ ⟨session.link, session.controlChannel⟩)
      (fun session control ↦ { session with link := control.link }) (m session.spec)) :
    Program (EpsonD4Session T) ApplicationError α) session

/-- Reads the printer's raw Epson status response without changing printer state. -/
def readStatus : Program (EpsonD4Session T) ApplicationError (List UInt8) :=
  onControl bound fun _ ↦ EpsonController.readStatus

/-- Read the addresses one after the other. -/
def readEeprom [CharTables] (addresses : List UInt16) :
    Program (EpsonD4Session T) ApplicationError (List EepromReadReply) :=
  onControl bound fun spec ↦ EpsonController.readEeprom spec addresses

/-- The error of a call, as an option. -/
def errorOf (outcome : Except D4Error Unit) : Option D4Error :=
  match outcome with
  | .ok () => none
  | .error error => some error

/-- Closes the control channel and terminates the D4 conversation, whatever the close comes to. -/
def shutdown : Program (EpsonD4Session T) ApplicationError Unit := fun session ↦
  (do
    let close ← Program.attempt (onLink (D4Link.closeChannel bound session.controlChannel))
    let exit ← Program.attempt (onLink (D4Link.exit bound))
    match errorOf close, errorOf exit with
    | none, none => pure ()
    | close, exit => throw (.shutdown close exit) :
    Program (EpsonD4Session T) ApplicationError Unit) session

end EpsonD4Session

end Reink
