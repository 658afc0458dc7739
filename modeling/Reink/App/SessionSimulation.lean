import Reink.App.SessionCalls
import Reink.Core.Channels
import Reink.D4.Simulation

/-!
# Sessions over simulated transports

A session over transports that answer alike: entry, setup, every method and the shutdown do the
same.
-/

namespace Reink

open Program (Simulates)

variable {T T' : Type} {S : T → T' → Prop} {A : T → Prop}

/-! ### The control channel -/

/-- Control channels that differ in their transports only, and these are related. -/
structure D4ControlChannel.Over {bound : Nat} (S : T → T' → Prop)
    (control : D4ControlChannel T bound) (control' : D4ControlChannel T' bound) : Prop where
  link : Recorded.Beside (D4Link.Over S) (fun _ ↦ True) control.link control'.link
  channel : control.channel = control'.channel

/-- A request over a control channel is one of the link. -/
theorem D4ControlChannel.simulation [ByteTransport T] [ByteTransport T'] [Nonempty T'] {bound : Nat}
    (hS : TransportSimulation S A) : ControlSimulation
      (D4ControlChannel.Over S : D4ControlChannel T bound → D4ControlChannel T' bound → Prop)
      fun control ↦ A control.link.state.target := by
  intro request
  have hrequest (channel : ChannelId) :=
    D4Link.request_follow hS D4Link.accounts_true bound channel request
  refine ⟨fun control h ↦ (hrequest control.channel).allowed control.link h, ?_⟩
  intro control control' hR hA
  obtain ⟨houtcome, hlink⟩ := (hrequest control.channel).alike _ _ hR.link hA
  rw [hR.channel] at houtcome hlink
  refine ⟨?_, ?_⟩
  · show (D4Link.request bound control.channel request control.link).1.mapErr _ = _
    rw [hR.channel, houtcome]
    rfl
  · refine ⟨?_, hR.channel⟩
    show Recorded.Beside _ _ (D4Link.request bound control.channel request control.link).2 _
    rw [hR.channel]
    exact hlink

/-! ### The session -/

/-- Sessions that differ in their transports only, and these are related. -/
structure EpsonD4Session.Over (S : T → T' → Prop) (session : EpsonD4Session T)
    (session' : EpsonD4Session T') : Prop where
  link : Recorded.Beside (D4Link.Over S) (fun _ ↦ True) session.link session'.link
  controlChannel : session.controlChannel = session'.controlChannel
  spec : session.spec = session'.spec

namespace EpsonD4Session

/-- Programs on the two sessions. -/
abbrev Alongside {ε α : Type} (S : T → T' → Prop) (A : T → Prop)
    (m : Program (EpsonD4Session T) ε α) (m' : Program (EpsonD4Session T') ε α) : Prop :=
  Simulates (EpsonD4Session.Over S) (fun session ↦ A session.link.state.target) m m'

/-- Sessions alike in what the code of a method depends on. -/
def Like (session : EpsonD4Session T) (session' : EpsonD4Session T') : Prop :=
  session.controlChannel = session'.controlChannel ∧ session.spec = session'.spec

/-- For each session there is one of the other kind that the code cannot tell from it. -/
theorem exists_like [Nonempty T'] (session : EpsonD4Session T) :
    ∃ session' : EpsonD4Session T', Like session session' :=
  ⟨⟨.start (D4Link.new Classical.ofNonempty), session.controlChannel, session.spec⟩, rfl, rfl⟩

/-- A method looks at its session first. -/
theorem self_alongside [Nonempty T'] {ε α : Type}
    {f : EpsonD4Session T → Program (EpsonD4Session T) ε α}
    {f' : EpsonD4Session T' → Program (EpsonD4Session T') ε α}
    (hf : ∀ session session', Like session session' →
      Alongside S A (f session) (f' session')) :
    Alongside S A (fun session ↦ f session session) (fun session ↦ f' session session) :=
  Simulates.get_bind exists_like (fun _ _ h ↦ ⟨h.controlChannel, h.spec⟩) hf

/-- Code of the link, on the links of the sessions. -/
theorem onLink_alongside {α : Type} {m : LinkProgram T α} {m' : LinkProgram T' α}
    (h : D4Link.Follow S A (fun _ ↦ True) m m') : Alongside S A (onLink m) (onLink m') :=
  .zoom h (fun _ _ hR ↦ hR.link) (fun _ _ hR _ _ hlink ↦ { hR with link := hlink })
    (fun _ ↦ Iff.rfl) fun _ _ ↦ Iff.rfl

/-- **An operation of the controller** that does the same on channels that answer alike does the
same on the channels of the sessions. -/
theorem onControl_alongside [Nonempty T'] {α : Type} {bound : Nat}
    {m : EpsonSpec → Program (D4ControlChannel T bound) EpsonError α}
    {m' : EpsonSpec → Program (D4ControlChannel T' bound) EpsonError α}
    (h : ∀ spec, Simulates (D4ControlChannel.Over S)
      (fun control : D4ControlChannel T bound ↦ A control.link.state.target) (m spec) (m' spec)) :
    Alongside S A (onControl bound m) (onControl bound m') := by
  unfold onControl
  refine self_alongside fun session session' hlike ↦ ?_
  rw [hlike.1, hlike.2]
  refine .bind (.mapErr (onLink_alongside (D4Link.controlChannel_follow _))) fun _ ↦ .mapErr ?_
  exact .zoom (h _) (fun _ _ hR ↦ ⟨hR.link, hR.controlChannel⟩)
    (fun _ _ hR _ _ hcontrol ↦ { hR with link := hcontrol.link }) (fun _ ↦ Iff.rfl)
    fun _ _ ↦ Iff.rfl

section Methods

variable [ByteTransport T] [ByteTransport T'] [Nonempty T'] (hS : TransportSimulation S A)
  (bound : Nat)

include hS

/-- The identity is read by one request of the controller. -/
theorem readIdentity_alongside :
    Alongside S A (readIdentity (T := T) bound) (readIdentity (T := T') bound) :=
  .bind (.mapErr (onControl_alongside fun _ ↦ .bind (.ofExcept _ _) fun request ↦
    .mapErr (D4ControlChannel.simulation hS request))) fun _ ↦ .ofExcept _ _

/-- The status is what the controller reads. -/
theorem readStatus_alongside :
    Alongside S A (readStatus (T := T) bound) (readStatus (T := T') bound) :=
  onControl_alongside fun _ ↦
    EpsonController.readStatus_simulates (D4ControlChannel.simulation hS)

variable [CharTables]

/-- So are the cells. -/
theorem readEeprom_alongside (addresses : List UInt16) :
    Alongside S A (readEeprom (T := T) bound addresses) (readEeprom (T := T') bound addresses) :=
  onControl_alongside fun spec ↦
    EpsonController.readEeprom_simulates (D4ControlChannel.simulation hS) spec addresses

/-- The dump, by induction on the addresses that are left. -/
theorem dumpLoop_alongside (addresses : List UInt16) (bytes : List UInt8) :
    Alongside S A (dumpLoop (T := T) bound addresses bytes)
      (dumpLoop (T := T') bound addresses bytes) := by
  induction addresses generalizing bytes with
  | nil => exact .pure _
  | cons address addresses ih =>
    exact .bind (readEeprom_alongside hS bound [address]) fun _ ↦ .bind (.orPanic _ _) fun _ ↦ ih _

/-- The addresses of a dump are those of the spec, which the sessions share. -/
theorem dumpEeprom_alongside :
    Alongside S A (dumpEeprom (T := T) bound) (dumpEeprom (T := T') bound) := by
  unfold dumpEeprom
  refine self_alongside fun session session' hlike ↦ ?_
  rw [hlike.2]
  exact .bind (dumpLoop_alongside hS bound _ _) fun _ ↦ .pure _

/-- A plan is made of the updates and of a dump. -/
theorem prepareEepromWrite_alongside (updates : List (UInt16 × UInt8)) :
    Alongside S A (prepareEepromWrite (T := T) bound updates)
      (prepareEepromWrite (T := T') bound updates) := by
  unfold prepareEepromWrite
  refine self_alongside fun session session' hlike ↦ ?_
  rw [hlike.2]
  exact .bind (.ofExcept _ _) fun _ ↦ .bind (dumpEeprom_alongside hS bound) fun _ ↦ .pure _

/-- The checks of a plan read the session only, and the writes are the controller's. -/
theorem applyEepromWrite_alongside (plan : EepromWritePlan) :
    Alongside S A (applyEepromWrite (T := T) bound plan)
      (applyEepromWrite (T := T') bound plan) := by
  unfold applyEepromWrite
  refine self_alongside fun session session' hlike ↦ ?_
  rw [hlike.2]
  refine .bind (.rejectIf _) fun _ ↦ .bind (.ofExcept _ _) fun _ ↦ .bind (.ofExcept _ _) fun _ ↦ ?_
  exact onControl_alongside fun spec ↦
    EpsonController.writeEepromWithOriginals_simulates (D4ControlChannel.simulation hS) spec _ _ _

/-- **Every method** does the same over transports that answer alike. -/
theorem perform_alongside (call : SessionCall) :
    Alongside S A (perform (T := T) bound call) (perform (T := T') bound call) := by
  cases call with
  | readIdentity => exact readIdentity_alongside hS bound
  | readStatus => exact .mapErr (readStatus_alongside hS bound)
  | readEeprom addresses => exact .mapErr (readEeprom_alongside hS bound addresses)
  | dumpEeprom => exact .mapErr (dumpEeprom_alongside hS bound)
  | prepareEepromWrite updates => exact .mapErr (prepareEepromWrite_alongside hS bound updates)
  | applyEepromWrite plan => exact .mapErr (applyEepromWrite_alongside hS bound plan)

/-- What an operation gets for a call is a reply or the text of an error. -/
theorem serve_alongside {ε : Type} (call : SessionCall) :
    Alongside S A (serve (T := T) (ε := ε) bound call) (serve (T := T') (ε := ε) bound call) := by
  refine .bind (.attempt (perform_alongside hS bound call)) fun result ↦ ?_
  rcases result with error | reply
  · exact .bind (.ofOutcome _ _) fun _ ↦ .pure _
  · exact .pure _

omit [CharTables] in
/-- Both halves of the shutdown are operations of the link. -/
theorem shutdown_alongside :
    Alongside S A (shutdown (T := T) bound) (shutdown (T := T') bound) := by
  unfold shutdown
  refine self_alongside fun session session' hlike ↦ ?_
  rw [hlike.1]
  refine .bind (.attempt (onLink_alongside (D4Link.closeChannel_follow hS D4Link.accounts_true
    bound _))) fun close ↦ .bind (.attempt (onLink_alongside (D4Link.exit_follow hS
    D4Link.accounts_true bound))) fun exit ↦ ?_
  split
  · exact .pure _
  · exact .throw _

end Methods

end EpsonD4Session

end Reink
