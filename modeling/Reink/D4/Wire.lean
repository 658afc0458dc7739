import Reink.D4.Effects

/-!
# The labels of the steps

Which steps the code of the link can make, read off its text: no invariant of the link is needed.
The set of labels is a parameter. It covers the transaction messages that are written, and every
step that neither writes nor asks for the exit; with two such sets follow what a request puts on the
wire (`request_carries`), and that no operation but `exit` asks for it (in `Reink.D4.Traffic`).
-/

namespace Reink

/-- Labels of the steps that neither write nor ask for the exit. -/
def Event.IsPlain : Event → Prop
  | .wrote _ | .writeFailed _ | .exitRequested => False
  | _ => True

/-- The labels are those of the writes of the payload, whether they succeed or not. -/
def Event.Writes (E : Event → Prop) (payload : List UInt8) : Prop :=
  ∀ packet : Packet, packet.payload = payload → E (.wrote packet) ∧ E (.writeFailed packet)

/-- The labels cover what the link does by itself. -/
structure Event.Covers (E : Event → Prop) : Prop where
  message : ∀ payload, TransactionMessage.Encodes payload → Event.Writes E payload
  plain : ∀ event : Event, event.IsPlain → E event

namespace D4Link

open Program (Moves Makes)

variable {T : Type} [ByteTransport T] {E : Event → Prop}

/-- The write of a packet is one of its payload. -/
theorem writes_writeEvent {packet : Packet} (h : Event.Writes E packet.payload)
    (o : Outcome D4Error Unit) : E (writeEvent packet o) := by
  obtain ⟨hwrote, hfailed⟩ := h packet rfl
  cases o <;> first | exact hfailed | exact hwrote

theorem crossesWrite_makes {payload : List UInt8} (h : Event.Writes E payload) :
    CrossesWrite (Makes E : LinkRun T → LinkRun T → Prop) payload := by
  rintro w packet outcome after rfl -
  exact ⟨_, after, writes_writeEvent h outcome, rfl⟩

/-- A set of labels that covers what the link does by itself is a relation that does. -/
theorem crosses_makes (hE : Event.Covers E) :
    Crosses (Makes E : LinkRun T → LinkRun T → Prop) where
  message payload hencodes := crossesWrite_makes (hE.message payload hencodes)
  read w := by
    refine ⟨_, _, hE.plain _ ?_, rfl⟩
    rcases readTarget 4096 w.state with ⟨_ | _ | _ | _, link⟩ <;> trivial
  internal w event after hevent _ := by
    refine ⟨event, after, hE.plain event ?_, rfl⟩
    cases event <;> first | exact hevent.elim | trivial

/-! ### Operations that start with a transaction -/

/-- The program starts with a transaction. -/
def Begins (E : Event → Prop) {α : Type} (m : LinkProgram T α) : Prop :=
  ∃ (bound : Nat) (message : TransactionMessage) (consumeCredit : Bool)
    (f : TransactionMessage → LinkProgram T α),
    m = (transaction bound message consumeCredit >>= f) ∧ ∀ reply, Moves (Makes E) (f reply)

variable (hE : Event.Covers E)

include hE

/-- An attempt of `ensure_channel_credit` starts with a transaction, unless the credit is there. -/
theorem ensureCreditLoop_begins {bound : Nat} {channel : ChannelId} {attempts : Nat}
    (hrest : Moves (Makes E) (ensureCreditLoop bound channel attempts : LinkProgram T Unit)) :
    ∃ m : ChannelState → LinkProgram T Unit, (∀ state, Begins E (m state)) ∧
      ensureCreditLoop bound channel (attempts + 1) = (do
        let link ← Program.observe
        let state ← Program.orThrow (link.channels channel) (.unknownChannel channel)
        if state.credit > 0 then pure () else m state) := by
  refine ⟨_, fun state ↦ ⟨bound, .creditRequest channel.peerSocket channel.sourceSocket
    state.maxCredit, true, _, rfl, fun reply ↦ ?_⟩, rfl⟩
  split
  · refine .bind (.rejectIf _) fun _ ↦ ?_
    refine .bind (.atomic fun o ↦ hE.plain _ (by cases o <;> trivial)) fun _ ↦ .bind .observe ?_
    intro link
    split
    · exact .pure _
    · exact hrest
  · exact .throw _

theorem negotiate_begins {bound : Nat} {revision : ProtocolRevision}
    {revisions : List ProtocolRevision}
    (hrest : Moves (Makes E) (negotiate bound revisions : LinkProgram T Unit)) :
    Begins E (negotiate bound (revision :: revisions) : LinkProgram T Unit) := by
  refine ⟨bound, .init revision, false, _, rfl, fun reply ↦ ?_⟩
  split
  · split
    · exact .atomic fun _ ↦ hE.plain _ trivial
    · split
      · exact .throw _
      · exact hrest
  · exact .throw _

theorem openService_begins (bound : Nat) (name : String) :
    Begins E (openService bound name : LinkProgram T ChannelId) := by
  refine ⟨bound, .getSocketId name, true, _, rfl, fun reply ↦ ?_⟩
  split
  · refine .bind (.rejectIf _) fun _ ↦ .bind (.atomic fun _ ↦ hE.plain _ trivial) fun _ ↦ ?_
    refine .bind (transaction_effects (crosses_makes hE)) fun reply ↦ ?_
    split
    · refine .bind (.rejectIf _) fun _ ↦ .bind (.atomic fun _ ↦ hE.plain _ trivial) fun _ ↦ ?_
      exact .pure _
    · exact .throw _
  · exact .throw _

omit hE in
theorem serviceName_begins (bound : Nat) (socketId : UInt8) :
    Begins E (serviceName bound socketId : LinkProgram T String) := by
  refine ⟨bound, .getServiceName socketId, true, _, rfl, fun reply ↦ ?_⟩
  split
  · exact .bind (.rejectIf _) fun _ ↦ .pure _
  · exact .throw _

/-- What follows the checks of `close_channel`. -/
theorem closeChannel_begins (bound : Nat) (channel : ChannelId) :
    ∃ m : LinkProgram T Unit, Begins E m ∧ closeChannel bound channel = (do
      Program.rejectIf (channel = .transaction) .transactionChannelOperation
      let link ← Program.observe
      Program.rejectIf (¬ (link.channels channel).any (·.isOpen)) (.unknownChannel channel)
      m) := by
  refine ⟨_, ⟨bound, .closeChannel channel.peerSocket channel.sourceSocket, true, _, rfl,
    fun reply ↦ ?_⟩, rfl⟩
  split
  · exact .bind (.rejectIf _) fun _ ↦ .atomic fun _ ↦ hE.plain _ trivial
  · exact .throw _

/-- Behind the request for the exit comes the transaction. -/
theorem exit_begins (bound : Nat) :
    ∃ f : TransactionMessage → LinkProgram T Unit, (∀ reply, Moves (Makes E) (f reply)) ∧
      D4Link.exit bound = (do
        requireActiveConversation
        Program.atomic (fun _ ↦ .exitRequested)
          (Program.modify fun link ↦ { link with exitRequested := true })
        transaction bound .exit true >>= f) := by
  refine ⟨_, fun reply ↦ ?_, rfl⟩
  split
  · split
    · exact .atomic fun _ ↦ hE.plain _ trivial
    · exact .throw _
  · exact .throw _

end D4Link

/-! ### What a request puts on the wire -/

/-- What the packet of a write carries is of the kind `P`, whether the write succeeded or not. -/
def Event.Carries (P : List UInt8 → Prop) : Event → Prop
  | .wrote packet | .writeFailed packet => P packet.payload
  | _ => True

theorem Event.writes_carries {P : List UInt8 → Prop} {payload : List UInt8} (h : P payload) :
    Event.Writes (Event.Carries P) payload := by
  rintro packet rfl
  exact ⟨h, h⟩

theorem Event.covers_carries {P : List UInt8 → Prop}
    (h : ∀ payload, TransactionMessage.Encodes payload → P payload) :
    Event.Covers (Event.Carries P) where
  message payload hencodes := Event.writes_carries (h payload hencodes)
  plain event hplain := by
    cases event <;> first | exact hplain.elim | trivial

/-- **What a request puts on the wire**: transaction messages, and the request. -/
theorem D4Link.request_carries {T : Type} [ByteTransport T] {P : List UInt8 → Prop}
    (hmessages : ∀ payload, TransactionMessage.Encodes payload → P payload) (bound : Nat)
    (channel : ChannelId) {payload : List UInt8} (h : P payload) :
    Program.Moves (Program.Makes (Event.Carries P))
      (request bound channel payload : LinkProgram T (List UInt8)) :=
  request_effects (crosses_makes (Event.covers_carries hmessages)) bound channel
    (crossesWrite_makes (Event.writes_carries h))

end Reink
