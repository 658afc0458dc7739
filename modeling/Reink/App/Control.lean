import Reink.App.Session
import Reink.Core.Faithful
import Reink.Core.Log
import Reink.D4.Wire

/-!
# Operations on the control channel of a session

An operation of the controller runs on the link of the session if the control channel is open, and
not at all if it is not. So what is known of its requests is known of the link: which packets they
put on the wire, and, if the channel is faithful to a memory, that reading gives what the memory
holds.
-/

namespace Reink

open Program (Moves Makes rejectIf_neg rejectIf_pos)

variable {T : Type}

/-- Asking for the control channel changes nothing. -/
theorem D4Link.controlChannel_run (channel : ChannelId) (link : LinkRun T) :
    D4Link.controlChannel channel link =
      (if (link.state.channels channel).any (·.isOpen) then .ok ()
        else .err (.unknownChannel channel), link) := by
  rw [D4Link.controlChannel, Program.bind_run_ok (Program.observe_run link)]
  by_cases h : (link.state.channels channel).any (·.isOpen) = true
  · rw [rejectIf_neg (not_not.2 h), if_pos h]
    rfl
  · rw [rejectIf_pos h, if_neg h]
    rfl

namespace EpsonD4Session

variable {α : Type} {bound : Nat} {session : EpsonD4Session T}

/-- With the control channel open, the operation runs on it. -/
theorem onControl_of_open (m : EpsonSpec → Program (D4ControlChannel T bound) EpsonError α)
    (hopen : (session.link.state.channels session.controlChannel).any (·.isOpen) = true) :
    onControl bound m session =
      (((m session.spec ⟨session.link, session.controlChannel⟩).1.mapErr .epson),
        { session with
          link := (m session.spec ⟨session.link, session.controlChannel⟩).2.link }) := by
  have hrun := D4Link.controlChannel_run session.controlChannel session.link
  rw [if_pos hopen] at hrun
  have hchecked : Program.mapErr ApplicationError.d4
      (onLink (D4Link.controlChannel session.controlChannel)) session = (.ok (), session) := by
    rw [Program.mapErr, onLink, Program.zoom, hrun]
    rfl
  exact Program.bind_run_ok hchecked

/-- An operation on the control channel fails without one, or runs on it. -/
theorem onControl_cases (m : EpsonSpec → Program (D4ControlChannel T bound) EpsonError α)
    (session : EpsonD4Session T) :
    (∃ e, onControl bound m session = (.err (.d4 e), session)) ∨
    onControl bound m session =
      (((m session.spec ⟨session.link, session.controlChannel⟩).1.mapErr .epson),
        { session with
          link := (m session.spec ⟨session.link, session.controlChannel⟩).2.link }) := by
  by_cases hopen : (session.link.state.channels session.controlChannel).any (·.isOpen) = true
  · exact .inr (onControl_of_open m hopen)
  · have hrun := D4Link.controlChannel_run session.controlChannel session.link
    rw [if_neg hopen] at hrun
    have hchecked : Program.mapErr ApplicationError.d4
        (onLink (D4Link.controlChannel session.controlChannel)) session =
          (.err (.d4 (.unknownChannel session.controlChannel)), session) := by
      rw [Program.mapErr, onLink, Program.zoom, hrun]
      rfl
    exact .inl ⟨_, Program.bind_run_err hchecked⟩

/-- The specification of a session is fixed. -/
theorem onControl_spec (m : EpsonSpec → Program (D4ControlChannel T bound) EpsonError α) :
    (onControl bound m session).2.spec = session.spec := by
  rcases onControl_cases m session with ⟨e, h⟩ | h <;> rw [h]

end EpsonD4Session

variable [ByteTransport T] {bound : Nat}

/-! ### Requests -/

section Requests

variable {P : List UInt8 → Prop} {control control' : D4ControlChannel T bound}

/-- What requests of the kind put on the wire. -/
theorem D4ControlChannel.makes_of_requests
    (hmessages : ∀ payload, TransactionMessage.Encodes payload → P payload)
    (h : Relation.ReflTransGen (Requests P) control control') :
    Relation.ReflTransGen (Makes (Event.Carries P)) control.link control'.link := by
  induction h with
  | refl => exact .refl
  | @tail control₁ _ _ hstep ih =>
    obtain ⟨request, hrequest, rfl⟩ := hstep
    exact ih.trans (D4Link.request_carries hmessages bound control₁.channel hrequest control₁.link)

/-- Requests stay on their channel. -/
theorem D4ControlChannel.channel_of_requests
    (h : Relation.ReflTransGen (Requests P) control control') :
    control'.channel = control.channel := by
  induction h with
  | refl => rfl
  | tail _ hstep ih =>
    obtain ⟨request, -, rfl⟩ := hstep
    exact ih

/-- The session's link after an operation on its control channel. -/
theorem EpsonD4Session.makes_of_onControl {α : Type}
    (hmessages : ∀ payload, TransactionMessage.Encodes payload → P payload)
    {m : EpsonSpec → Program (D4ControlChannel T bound) EpsonError α} (session : EpsonD4Session T)
    (hm : Moves (Requests P) (m session.spec)) :
    Relation.ReflTransGen (Makes (Event.Carries P)) session.link
      (onControl bound m session).2.link := by
  rcases onControl_cases m session with ⟨e, h⟩ | h
  · rw [h]
  · rw [h]
    exact D4ControlChannel.makes_of_requests hmessages
      (hm ⟨session.link, session.controlChannel⟩)

end Requests

/-! ### Faithful sessions -/

/-- A faithful control channel on a link, open as long as it is ready. -/
structure FaithfulSession (spec : EpsonSpec) (T : Type) [ByteTransport T] (bound : Nat) extends
    FaithfulChannel spec (D4ControlChannel T bound) where
  isOpen : ∀ {control : D4ControlChannel T bound}, Ready control →
    (control.link.state.channels control.channel).any (·.isOpen) = true

/-- The channel of the session as the controller works on it. -/
def EpsonD4Session.control (session : EpsonD4Session T) (bound : Nat) : D4ControlChannel T bound :=
  ⟨session.link, session.controlChannel⟩

/-- **Reading over a faithful session** gives what the memory holds, and only the link moves on. -/
theorem FaithfulSession.readEeprom_ok [CharTables] {spec : EpsonSpec}
    (faithful : FaithfulSession spec T bound) {session : EpsonD4Session T}
    {addresses : List UInt16} (hready : faithful.Ready (session.control bound))
    (hspec : session.spec = spec) (haddresses : ∀ address ∈ addresses, spec.CanRead address) :
    ∃ link, EpsonD4Session.readEeprom bound addresses session =
        (.ok (addresses.map fun address ↦
          ⟨address, faithful.memory (session.control bound) address⟩),
          { session with link := link }) ∧
      faithful.Ready ({ session with link := link }.control bound) ∧
      faithful.memory ({ session with link := link }.control bound) =
        faithful.memory (session.control bound) := by
  obtain ⟨control', hread, hready', hmemory⟩ :=
    faithful.toFaithfulChannel.readEeprom_ok hready haddresses
  have hmoves : Relation.ReflTransGen (Requests fun _ ↦ True) (session.control bound)
      (EpsonController.readEeprom spec addresses (session.control bound)).2 :=
    EpsonController.readEeprom_moves (fun _ _ _ _ ↦ trivial) (session.control bound)
  rw [hread] at hmoves
  have hcontrol : control' = { session with link := control'.link }.control bound := by
    rw [EpsonD4Session.control, ← show control'.channel = session.controlChannel from
      D4ControlChannel.channel_of_requests hmoves]
  refine ⟨control'.link, ?_, hcontrol ▸ hready', hcontrol ▸ hmemory⟩
  have hrun : EpsonController.readEeprom spec addresses
      (⟨session.link, session.controlChannel⟩ : D4ControlChannel T bound) = _ := hread
  rw [EpsonD4Session.readEeprom, EpsonD4Session.onControl_of_open _ (faithful.isOpen hready), hspec,
    hrun]
  rfl

end Reink
