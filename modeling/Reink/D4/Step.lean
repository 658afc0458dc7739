import Reink.D4.Link

/-!
# What one step of the link can do

`Transition w event after` says, once for the whole development, everything that a recorded step of
the link can do after the record `w`: which guards the code has passed when it takes the step, and
exactly which fields change. Every result about runs is derived from it by induction along a
`Trail`, and no other proof about runs unfolds the operations again.

A step in which the code panics is not a transition. There are two kinds. `Broken` is a link without
its transaction channel, which no run reaches. `Loses` is a reply that arrives after the
conversation has ended: the entry its result belongs to is gone.

`follows_serves` (for `transactionLoop`, and `request_follows_serves` for `requestLoop`) is the
theorem behind the receive loops: between the write of a request and its answer the link makes only
*service* steps, those that peer traffic causes, and it writes only responses. The operations add
their own steps around them, in `Reink.D4.Operation`.
-/

namespace Reink

/-- Labels of steps that change nothing. -/
def Event.IsMark : Event → Prop
  | .called _ | .awaiting _ | .polled _ | .refused _ => True
  | _ => False

/-- Labels of steps that change the transport only. -/
def Event.IsTransport : Event → Prop
  | .read _ | .readFailed | .writeFailed _ => True
  | _ => False

/-- The channel whose entry the result of a successful reply is stored in. -/
def Event.installs : Event → Option ChannelId
  | .opened channel .. => some channel
  | .granted channel _ .host => some channel
  | _ => none

/-- Labels of the steps that a receive loop makes. -/
def Event.IsService : Event → Prop
  | .activated _ side | .granted _ _ side | .closed _ side => side = .peer
  | .called _ | .registered _ | .opened .. | .refused _ | .exitRequested => False
  | _ => True

/-- Labels of steps that leave the received queue alone and belong to no loop. -/
def Event.IsQuiet : Event → Prop
  | .awaiting _ | .polled _ | .answered _ _ | .read _ | .readFailed | .decoded _ | .decodeFailed
  | .took _ | .putBack _ => False
  | _ => True

/-- Labels of the steps by which the peer takes channels out of service. -/
def Event.IsEnding : Event → Prop
  | .closed _ side => side = .peer
  | .exiting | .terminated => True
  | _ => False

/-- Labels of the steps by which the host begins the conversation, enters or opens a channel, or
adds credit to one, as the reply that it has been waiting for tells it. -/
def Event.ActsOnReply : Event → Prop
  | .activated _ side | .granted _ _ side => side = .host
  | .registered _ | .opened .. => True
  | _ => False

/-- The packet whose header credit the event adds. -/
def Event.creditedPacket? : Event → Option Packet
  | .credited packet => some packet
  | _ => none

/-- The message asks for the end of a channel or of the conversation. -/
def TransactionMessage.ends : TransactionMessage → Bool
  | .closeChannel .. | .exit => true
  | _ => false

/-- The message is the one by which the peer causes the event. -/
def Event.endedBy : Event → TransactionMessage → Bool
  | .closed channel .peer, .closeChannel peerSocket sourceSocket =>
    channel = ⟨peerSocket, sourceSocket⟩
  | .exiting, .exit | .terminated, .exit => true
  | _, _ => false

theorem TransactionMessage.ends_of_endedBy {event : Event} {message : TransactionMessage}
    (h : event.endedBy message = true) : message.ends = true := by
  unfold Event.endedBy at h
  split at h
  case h_4 => cases h
  all_goals rfl

namespace D4Link

variable {T : Type}

/-- The link once the conversation has ended. -/
def ended (link : D4Link T) (state : ChannelState) : D4Link T :=
  { link with
    channels := fun channel ↦
      if channel = .transaction then some { state with credit := 0 } else none
    conversation := .terminated }

/-- The link once the conversation has begun in the given revision. -/
def begun (link : D4Link T) (revision : ProtocolRevision) (state : ChannelState) : D4Link T :=
  { link.setChannel .transaction { state with credit := 1 } with
    revision := revision
    conversation := .active }

/-- The conversation states in which `send` writes. -/
def MaySend (link : D4Link T) : Prop :=
  link.conversation = .inactive ∨ link.conversation = .active

instance (link : D4Link T) : Decidable link.MaySend := by
  unfold MaySend
  infer_instance

theorem MaySend.ne_terminated {link : D4Link T} (h : link.MaySend) :
    link.conversation ≠ .terminated := by
  rcases h with h | h <;> rw [h] <;> simp

/-- The last step took the packet off the front of the received queue. -/
def JustTook (w : LinkRun T) (packet : Packet) : Prop :=
  ∃ (v : LinkRun T) (rest : List Packet), v.state.received = packet :: rest ∧
    w = v.push (.took packet) { v.state with received := rest }

/-- The last two steps took the packet and applied its credit. -/
def JustCredited (w : LinkRun T) (packet : Packet) : Prop :=
  ∃ (v : LinkRun T) (link : D4Link T), JustTook v packet ∧ w = v.push (.credited packet) link

/-- **What one step can do.** -/
inductive Transition (w : LinkRun T) : Event → D4Link T → Prop
  | marked {event : Event} (h : event.IsMark) : Transition w event w.state
  | transported {event : Event} (h : event.IsTransport) (target : T) :
      Transition w event { w.state with target := target }
  | decoded {packets : List Packet} {bytes : List UInt8} {decoder : PacketDecoder}
      (push : w.state.decoder.push bytes = (.ok packets, decoder))
      (empty : w.state.received = []) :
      Transition w (.decoded packets)
        { w.state with decoder := decoder, received := w.state.received ++ packets }
  | decodeFailed (decoder : PacketDecoder) :
      Transition w .decodeFailed { w.state with decoder := decoder }
  | took {packet : Packet} {rest : List Packet} (queue : w.state.received = packet :: rest) :
      Transition w (.took packet) { w.state with received := rest }
  | answered {awaited : Option ChannelId} {packet : Packet} (taken : JustCredited w packet)
      (channel : packet.channel = awaited.getD .transaction) :
      Transition w (.answered awaited packet) w.state
  | putBack {packet : Packet} (taken : JustCredited w packet)
      (service : packet.channel ≠ .transaction)
      (running : w.state.conversation ≠ .terminated) :
      Transition w (.putBack packet)
        { w.state with received := w.state.received ++ [packet] }
  | credited {packet : Packet} {state : ChannelState} {credit : UInt16}
      (taken : JustTook w packet)
      (lookup : w.state.channels packet.channel = some state)
      (size : packet.header.length ≤ state.maxServiceSize)
      (sum : state.credit.checkedAdd packet.header.credit.toUInt16 = some credit)
      (running : packet.channel ≠ .transaction → w.state.conversation ≠ .terminated) :
      Transition w (.credited packet)
        (w.state.setChannel packet.channel { state with credit := credit })
  | sentFree {packet : Packet} {state : ChannelState} (target : T) (maySend : w.state.MaySend)
      (transaction : packet.channel = .transaction)
      (greeting : packet.payload.head? = some 0x00 ∨ packet.payload.head? = some 0x80)
      (lookup : w.state.channels packet.channel = some state)
      (size : packet.encode.length ≤ state.maxPacketSize.toNat) :
      Transition w (.wrote packet) { w.state with target := target }
  | sentPaid {packet : Packet} {state : ChannelState} {credit : UInt16} (target : T)
      (maySend : w.state.MaySend)
      (lookup : w.state.channels packet.channel = some state)
      (isOpen : packet.channel ≠ .transaction → state.isOpen = true)
      (size : packet.encode.length ≤ state.maxPacketSize.toNat)
      (difference : state.credit.checkedSub 1 = some credit) :
      Transition w (.wrote packet)
        ({ w.state with target := target }.setChannel packet.channel
          { state with credit := credit })
  | reported {packet offending : Packet} {state : ChannelState} (target : T)
      (taken : JustTook w offending)
      (transaction : packet.channel = .transaction)
      (payload : packet.payload = [0x7f, offending.channel.peerSocket,
        offending.channel.sourceSocket, 0x86])
      (lookup : w.state.channels offending.channel = some state)
      (size : offending.header.length ≤ state.maxServiceSize)
      (overflow : state.credit.checkedAdd offending.header.credit.toUInt16 = none)
      (running : offending.channel ≠ .transaction → w.state.conversation ≠ .terminated) :
      Transition w (.wrote packet) { w.state with target := target }
  | activated {revision : ProtocolRevision} {side : Side} {state : ChannelState}
      (inactive : side = .peer → w.state.conversation = .inactive)
      (lookup : w.state.channels .transaction = some state) :
      Transition w (.activated revision side) (w.state.begun revision state)
  | registered {channel : ChannelId} (name : String) :
      Transition w (.registered channel)
        (w.state.setChannel channel ⟨name, 0, 0x100, 0x100, 0, false⟩)
  | opened {channel : ChannelId} {state : ChannelState}
      {maxPacketSize maxServiceSize maxCredit grantedCredit : UInt16}
      (service : channel ≠ .transaction) (running : w.state.conversation ≠ .terminated)
      (lookup : w.state.channels channel = some state) (pending : state.isOpen = false) :
      Transition w (.opened channel maxPacketSize maxServiceSize maxCredit grantedCredit)
        (w.state.setChannel channel
          ⟨state.name, grantedCredit, maxPacketSize, maxServiceSize, maxCredit, true⟩)
  | granted {channel : ChannelId} {state : ChannelState} {addedCredit credit : UInt16} {side : Side}
      (lookup : w.state.channels channel = some state)
      (sum : state.credit.checkedAdd addedCredit = some credit)
      (byHost : side = .host → channel ≠ .transaction ∧ w.state.conversation ≠ .terminated) :
      Transition w (.granted channel addedCredit side)
        (w.state.setChannel channel { state with credit := credit })
  | closedByPeer {channel : ChannelId} {state : ChannelState} (service : channel ≠ .transaction)
      (maySend : w.state.MaySend) (lookup : w.state.channels channel = some state) :
      Transition w (.closed channel .peer)
        (w.state.setChannel channel { state with isOpen := false })
  | closedByHost {channel : ChannelId} (service : channel ≠ .transaction) :
      Transition w (.closed channel .host)
        { w.state with channels := Function.update w.state.channels channel none }
  | exitRequested (active : w.state.conversation = .active) :
      Transition w .exitRequested { w.state with exitRequested := true }
  | exiting (maySend : w.state.MaySend) (requested : w.state.exitRequested = true) :
      Transition w .exiting { w.state with conversation := .exiting }
  | terminated {state : ChannelState} (lookup : w.state.channels .transaction = some state) :
      Transition w .terminated (w.state.ended state)

/-- A link without its transaction channel, which is never reached (`Present`). -/
def Broken (w : LinkRun T) (_ : Event) (_ : D4Link T) : Prop :=
  w.state.channels .transaction = none

/-- The entry that the result of a reply was to be stored in is gone, as the conversation has
ended. -/
def Loses (w : LinkRun T) (event : Event) (after : D4Link T) : Prop :=
  after = w.state ∧ w.state.conversation = .terminated ∧
    ∃ channel, event.installs = some channel ∧ w.state.channels channel = none

/-- A step in which the code panics. -/
def Faulty (w : LinkRun T) (event : Event) (after : D4Link T) : Prop :=
  Broken w event after ∨ Loses w event after

/-- The packet is a reply or an error report on the transaction channel. -/
def Responds (packet : Packet) : Prop :=
  packet.channel = .transaction ∧
    ∃ code, packet.payload.head? = some code ∧ (0x80 ≤ code ∨ code = 0x7f)

/-- A step of a receive loop: peer traffic causes it, and what it writes are responses. -/
def Serves (w : LinkRun T) (event : Event) (after : D4Link T) : Prop :=
  Transition w event after ∧ event.IsService ∧ ∀ packet, event = .wrote packet → Responds packet

/-- A step of the code that answers a command of the peer: a service step that does not receive. -/
def Handles (w : LinkRun T) (event : Event) (after : D4Link T) : Prop :=
  Serves w event after ∧ event.IsQuiet

/-- A service step that writes nothing. -/
theorem Serves.quiet {w : LinkRun T} {event : Event} {after : D4Link T}
    (h : Transition w event after) (hservice : event.IsService)
    (hquiet : ∀ packet, event ≠ .wrote packet) : Serves w event after :=
  ⟨h, hservice, fun packet hevent ↦ absurd hevent (hquiet packet)⟩

/-! ### Fields of the updated link -/

section Fields

variable (link : D4Link T) (channel channel' : ChannelId) (state : ChannelState)

theorem setChannel_channels : (link.setChannel channel state).channels channel' =
    if channel' = channel then some state else link.channels channel' := by
  show Function.update link.channels channel (some state) channel' = _
  rw [Function.update_apply]

@[simp] theorem setChannel_channels_self :
    (link.setChannel channel state).channels channel = some state := by
  rw [setChannel_channels, if_pos rfl]

variable {channel channel'} in
theorem setChannel_channels_of_ne (h : channel' ≠ channel) :
    (link.setChannel channel state).channels channel' = link.channels channel' := by
  rw [setChannel_channels, if_neg h]

variable {link channel state} in
/-- Putting an entry where it is changes nothing. -/
theorem setChannel_self (h : link.channels channel = some state) :
    link.setChannel channel state = link := by
  rw [setChannel, ← h, Function.update_eq_self]

variable {link channel} in
/-- The later entry of a channel replaces the earlier one. -/
@[simp] theorem setChannel_setChannel (state' : ChannelState) :
    (link.setChannel channel state).setChannel channel state' = link.setChannel channel state' := by
  rw [setChannel, setChannel, setChannel, Function.update_idem]

variable {channel channel' state} in
theorem setChannel_comm (h : channel ≠ channel') (state' : ChannelState) :
    (link.setChannel channel state).setChannel channel' state' =
      (link.setChannel channel' state').setChannel channel state := by
  rw [setChannel, setChannel, setChannel, setChannel, Function.update_comm h]

@[simp] theorem setChannel_received :
    (link.setChannel channel state).received = link.received := rfl

@[simp] theorem setChannel_decoder :
    (link.setChannel channel state).decoder = link.decoder := rfl

@[simp] theorem setChannel_target : (link.setChannel channel state).target = link.target := rfl

@[simp] theorem setChannel_conversation :
    (link.setChannel channel state).conversation = link.conversation := rfl

@[simp] theorem setChannel_revision :
    (link.setChannel channel state).revision = link.revision := rfl

@[simp] theorem setChannel_exitRequested :
    (link.setChannel channel state).exitRequested = link.exitRequested := rfl

theorem begun_channels (revision : ProtocolRevision) : (link.begun revision state).channels =
    (link.setChannel .transaction { state with credit := 1 }).channels := rfl

@[simp] theorem begun_conversation (revision : ProtocolRevision) :
    (link.begun revision state).conversation = .active := rfl

@[simp] theorem ended_channels_transaction :
    (link.ended state).channels .transaction = some { state with credit := 0 } := by
  simp [ended]

variable {channel} in
theorem ended_channels_of_ne (h : channel ≠ .transaction) :
    (link.ended state).channels channel = none := by
  simp [ended, h]

@[simp] theorem ended_conversation : (link.ended state).conversation = .terminated := rfl

end Fields

/-! ### Blocks of code -/

section Blocks

variable {link : D4Link T} {channel : ChannelId} {state : ChannelState} {expectation : String}

theorem updateChannel_some {f : ChannelState → LinkBlock T ChannelState}
    (h : link.channels channel = some state) :
    updateChannel channel expectation f link =
      (f state >>= fun state ↦ Program.modify fun link ↦ link.setChannel channel state) link := by
  unfold updateChannel
  rw [Program.bind_run_ok (Program.get_run link), h, Program.orPanic_some, Program.pure_bind]

/-- The entry is there and its new value needs no check. -/
theorem updateChannel_pure {f : ChannelState → ChannelState}
    (h : link.channels channel = some state) :
    updateChannel channel expectation (fun state ↦ pure (f state)) link =
      (.ok (), link.setChannel channel (f state)) := by
  rw [updateChannel_some h, Program.pure_bind, Program.modify_run]

theorem updateChannel_none {f : ChannelState → LinkBlock T ChannelState}
    (h : link.channels channel = none) :
    updateChannel channel expectation f link = (.panic expectation, link) := by
  unfold updateChannel
  rw [Program.bind_run_ok (Program.get_run link), h, Program.orPanic_none, Program.panic_bind,
    Program.panic_run]

theorem terminateConversation_run (h : link.channels .transaction = some state) :
    terminateConversation link = (.ok (), link.ended state) := by
  let kept : D4Link T := { link with
    channels := fun channel ↦ if channel = .transaction then link.channels channel else none }
  have hkept : kept.channels .transaction = some state := by
    simpa [kept] using h
  have hchannels : (kept.setChannel .transaction { state with credit := 0 }).channels =
      (link.ended state).channels := by
    funext channel
    rw [setChannel_channels]
    by_cases hchannel : channel = .transaction
    · simp [ended, hchannel]
    · simp [ended, kept, hchannel]
  unfold terminateConversation transactionChannelMut
  rw [Program.bind_run_ok (Program.modify_run _ _), Program.bind_run_ok (updateChannel_pure hkept)]
  exact congrArg (fun channels ↦ (Outcome.ok (),
    ({ link with channels := channels, conversation := .terminated } : D4Link T))) hchannels

theorem beginConversation_run (revision : ProtocolRevision)
    (h : link.channels .transaction = some state) :
    beginConversation revision link = (.ok (), link.begun revision state) := by
  have hrevised : ({ link with revision := revision } : D4Link T).channels .transaction =
      some state := h
  unfold beginConversation transactionChannelMut
  rw [Program.bind_run_ok (Program.modify_run _ _),
    Program.bind_run_ok (updateChannel_pure hrevised)]
  rfl

end Blocks

/-! ### Blocks on the channel table -/

/-- The parts of the link that receiving works on. -/
structure SameInput (link link' : D4Link T) : Prop where
  target : link'.target = link.target
  decoder : link'.decoder = link.decoder
  received : link'.received = link.received

theorem SameInput.refl (link : D4Link T) : SameInput link link := ⟨rfl, rfl, rfl⟩

theorem SameInput.trans {link link' link'' : D4Link T} (h : SameInput link link')
    (h' : SameInput link' link'') : SameInput link link'' :=
  ⟨h'.target.trans h.target, h'.decoder.trans h.decoder, h'.received.trans h.received⟩

/-- The block ends, and it leaves alone what receiving works on. -/
def Local {α : Type} (body : LinkBlock T α) : Prop :=
  ∀ link, SameInput link (body link).2 ∧ (body link).1 ≠ .running

namespace Local

variable {α β : Type}

theorem pure (a : α) : Local (Pure.pure a : LinkBlock T α) :=
  fun link ↦ ⟨.refl link, by simp⟩

theorem orThrow (o : Option α) (error : D4Error) :
    Local (Program.orThrow o error : LinkBlock T α) := by
  cases o with
  | none => exact fun link ↦ ⟨.refl link, by simp⟩
  | some a => exact .pure a

theorem orPanic (o : Option α) (message : String) :
    Local (Program.orPanic o message : LinkBlock T α) := by
  cases o with
  | none => exact fun link ↦ ⟨.refl link, by simp⟩
  | some a => exact .pure a

theorem modify {f : D4Link T → D4Link T} (hf : ∀ link, SameInput link (f link)) :
    Local (Program.modify f) :=
  fun link ↦ ⟨hf link, by simp⟩

theorem bind {body : LinkBlock T α} {f : α → LinkBlock T β} (hbody : Local body)
    (hf : ∀ a, Local (f a)) : Local (body >>= f) := by
  intro link
  obtain ⟨hsame, hended⟩ := hbody link
  rcases Program.bind_cases body f link with ⟨a, s, h, hb⟩ | ⟨e, s, h, hb⟩ | ⟨p, s, h, hb⟩ |
    ⟨s, h, hb⟩
  · obtain ⟨hsame', hended'⟩ := hf a s
    rw [hb]
    rw [h] at hsame
    exact ⟨hsame.trans hsame', hended'⟩
  · rw [hb]
    rw [h] at hsame
    exact ⟨hsame, by simp⟩
  · rw [hb]
    rw [h] at hsame
    exact ⟨hsame, by simp⟩
  · rw [h] at hended
    exact absurd rfl hended

theorem updateChannel {channel : ChannelId} {expectation : String}
    {f : ChannelState → LinkBlock T ChannelState} (hf : ∀ state, Local (f state)) :
    Local (updateChannel channel expectation f) :=
  .bind (fun link ↦ ⟨.refl link, by simp⟩) fun _ ↦
    .bind (.orPanic _ _) fun state ↦ .bind (hf state) fun _ ↦ .modify fun _ ↦ ⟨rfl, rfl, rfl⟩

theorem transactionChannelMut (f : ChannelState → ChannelState) :
    Local (transactionChannelMut f : LinkBlock T Unit) :=
  .updateChannel fun _ ↦ .pure _

theorem beginConversation (revision : ProtocolRevision) :
    Local (beginConversation revision : LinkBlock T Unit) :=
  .bind (.modify fun _ ↦ ⟨rfl, rfl, rfl⟩) fun _ ↦
    .bind (.transactionChannelMut _) fun _ ↦ .modify fun _ ↦ ⟨rfl, rfl, rfl⟩

theorem terminateConversation : Local (terminateConversation : LinkBlock T Unit) :=
  .bind (.modify fun _ ↦ ⟨rfl, rfl, rfl⟩) fun _ ↦
    .bind (.transactionChannelMut _) fun _ ↦ .modify fun _ ↦ ⟨rfl, rfl, rfl⟩

theorem grantCredit (channel : ChannelId) (addedCredit : UInt16) :
    Local (grantCredit channel addedCredit : LinkBlock T Unit) :=
  .updateChannel fun _ ↦ .bind (.orThrow _ _) fun _ ↦ .pure _

end Local

/-! ### What a step does to one entry of the channel table -/

end D4Link

/-- The events that concern the entry of a channel. -/
def Event.touches (channel : ChannelId) : Event → Prop
  | .credited packet | .wrote packet => packet.channel = channel
  | .registered channel' | .opened channel' .. | .granted channel' .. | .closed channel' _ =>
    channel' = channel
  | .activated .. => channel = .transaction
  | .terminated => True
  | _ => False

/-- The rules by which the credit of a channel changes from `credit` to `credit'`. -/
inductive CreditRule (channel : ChannelId) : Event → UInt16 → UInt16 → Prop
  | initialization {revision : ProtocolRevision} {side : Side} (credit : UInt16)
      (transaction : channel = .transaction) :
      CreditRule channel (.activated revision side) credit 1
  | header {packet : Packet} {credit credit' : UInt16} (route : packet.channel = channel)
      (sum : credit'.toNat = credit.toNat + packet.header.credit.toNat) :
      CreditRule channel (.credited packet) credit credit'
  | send {packet : Packet} {credit credit' : UInt16} (route : packet.channel = channel)
      (difference : credit'.toNat + 1 = credit.toNat) :
      CreditRule channel (.wrote packet) credit credit'
  | grant {addedCredit credit credit' : UInt16} {side : Side}
      (byHost : side = .host → channel ≠ .transaction)
      (sum : credit'.toNat = credit.toNat + addedCredit.toNat) :
      CreditRule channel (.granted channel addedCredit side) credit credit'
  | termination (credit : UInt16) (transaction : channel = .transaction) :
      CreditRule channel .terminated credit 0

namespace D4Link

/-- The ways a step can treat the entry of a channel. -/
inductive EntryStep (channel : ChannelId) (w : LinkRun T) (event : Event) (after : D4Link T) : Prop
  | kept (untouched : channel ≠ .transaction → ¬ event.touches channel)
      (same : after.channels channel = w.state.channels channel)
  | counted {state : ChannelState} {credit : UInt16}
      (rule : CreditRule channel event state.credit credit)
      (lookup : w.state.channels channel = some state)
      (now : after.channels channel = some { state with credit := credit })
  | registered (name : String) (label : event = .registered channel)
      (now : after.channels channel = some ⟨name, 0, 0x100, 0x100, 0, false⟩)
  | opened {state : ChannelState} {maxPacketSize maxServiceSize maxCredit grantedCredit : UInt16}
      (label : event = .opened channel maxPacketSize maxServiceSize maxCredit grantedCredit)
      (service : channel ≠ .transaction) (lookup : w.state.channels channel = some state)
      (now : after.channels channel =
        some ⟨state.name, grantedCredit, maxPacketSize, maxServiceSize, maxCredit, true⟩)
  | closed {state : ChannelState} (label : event = .closed channel .peer)
      (service : channel ≠ .transaction) (lookup : w.state.channels channel = some state)
      (now : after.channels channel = some { state with isOpen := false })
  | removed (label : event = .closed channel .host ∨ event = .terminated)
      (service : channel ≠ .transaction) (now : after.channels channel = none)

/-- A step that writes the entry of `touched` keeps every other entry. -/
theorem EntryStep.of_setChannel {w : LinkRun T} {event : Event} {link : D4Link T}
    {channel touched : ChannelId} {state : ChannelState}
    (hlink : link.channels channel = w.state.channels channel)
    (hevent : channel ≠ touched → ¬ event.touches channel)
    (h : channel = touched → EntryStep channel w event (link.setChannel touched state)) :
    EntryStep channel w event (link.setChannel touched state) := by
  by_cases hchannel : channel = touched
  · exact h hchannel
  · exact .kept (fun _ ↦ hevent hchannel)
      ((setChannel_channels_of_ne link state hchannel).trans hlink)

/-- **Every step treats every entry in one of these ways.** -/
theorem Transition.entry {w : LinkRun T} {event : Event} {after : D4Link T}
    (h : Transition w event after) (channel : ChannelId) : EntryStep channel w event after := by
  cases h with
  | marked h => exact .kept (fun _ ↦ by cases event <;> first | exact h.elim | exact id) rfl
  | transported h _ => exact .kept (fun _ ↦ by cases event <;> first | exact h.elim | exact id) rfl
  | decoded _ _ | decodeFailed _ | took _ | answered _ _ | putBack _ _ _ | exitRequested _
  | exiting _ _ => exact .kept (fun _ ↦ id) rfl
  | sentFree _ _ htransaction _ _ _ =>
    exact .kept (fun hservice hroute ↦ hservice (hroute.symm.trans htransaction)) rfl
  | reported _ _ htransaction _ _ _ _ _ =>
    exact .kept (fun hservice hroute ↦ hservice (hroute.symm.trans htransaction)) rfl
  | credited _ hlookup _ hsum =>
    refine .of_setChannel rfl (fun hne h ↦ hne h.symm) ?_
    rintro rfl
    refine .counted (.header rfl ?_) hlookup (setChannel_channels_self _ _ _)
    rw [UInt16.toNat_of_checkedAdd hsum, UInt8.toNat_toUInt16]
  | sentPaid target _ hlookup _ _ hdifference =>
    refine .of_setChannel rfl (fun hne h ↦ hne h.symm) ?_
    rintro rfl
    exact .counted (.send rfl (UInt16.toNat_of_checkedSub_one hdifference)) hlookup
      (setChannel_channels_self _ _ _)
  | granted hlookup hsum hbyHost =>
    refine .of_setChannel rfl (fun hne h ↦ hne h.symm) ?_
    rintro rfl
    exact .counted (.grant (fun hside ↦ (hbyHost hside).1) (UInt16.toNat_of_checkedAdd hsum))
      hlookup (setChannel_channels_self _ _ _)
  | activated _ hlookup =>
    by_cases htransaction : channel = .transaction
    · subst htransaction
      refine .counted (.initialization _ rfl) hlookup ?_
      rw [begun_channels, setChannel_channels_self]
    · refine .kept (fun _ ↦ htransaction) ?_
      rw [begun_channels, setChannel_channels_of_ne _ _ htransaction]
  | registered name =>
    refine .of_setChannel rfl (fun hne h ↦ hne h.symm) ?_
    rintro rfl
    exact .registered name rfl (setChannel_channels_self _ _ _)
  | opened hservice _ hlookup =>
    refine .of_setChannel rfl (fun hne h ↦ hne h.symm) ?_
    rintro rfl
    exact .opened rfl hservice hlookup (setChannel_channels_self _ _ _)
  | closedByPeer hservice _ hlookup =>
    refine .of_setChannel rfl (fun hne h ↦ hne h.symm) ?_
    rintro rfl
    exact .closed rfl hservice hlookup (setChannel_channels_self _ _ _)
  | @closedByHost closed hservice =>
    by_cases hchannel : channel = closed
    · subst hchannel
      exact .removed (.inl rfl) hservice (Function.update_self _ _ _)
    · exact .kept (fun _ h ↦ hchannel h.symm) (Function.update_of_ne hchannel _ _)
  | terminated hlookup =>
    by_cases htransaction : channel = .transaction
    · subst htransaction
      exact .counted (.termination _ rfl) hlookup (ended_channels_transaction _ _)
    · exact .removed (.inr rfl) htransaction (ended_channels_of_ne _ _ htransaction)

/-- A lost reply leaves every entry as it is, and concerns only a channel that has none. -/
theorem Loses.entry {w : LinkRun T} {event : Event} {after : D4Link T} (h : Loses w event after)
    (channel : ChannelId) : after.channels channel = w.state.channels channel ∧
      (¬ event.touches channel ∨ after.channels channel = none) := by
  obtain ⟨rfl, -, installed, hinstalls, habsent⟩ := h
  refine ⟨rfl, ?_⟩
  by_cases hchannel : channel = installed
  · exact .inr (hchannel ▸ habsent)
  · refine .inl fun htouches ↦ hchannel ?_
    cases event with
    | opened _ _ _ _ _ =>
      cases hinstalls
      exact htouches.symm
    | granted _ _ side =>
      cases side with
      | host =>
        cases hinstalls
        exact htouches.symm
      | peer => cases hinstalls
    | _ => cases hinstalls

/-- Nothing is written, and no header credit is added, when a reply is lost. -/
theorem Loses.not_packet {w : LinkRun T} {event : Event} {after : D4Link T}
    (h : Loses w event after) (packet : Packet) :
    event ≠ .wrote packet ∧ event ≠ .credited packet := by
  obtain ⟨-, -, installed, hinstalls, -⟩ := h
  constructor <;> rintro rfl <;> cases hinstalls

/-- The transaction channel has an entry. -/
def Present (link : D4Link T) : Prop := ∃ state, link.channels .transaction = some state

/-- No step removes the transaction channel. -/
theorem Transition.present {w : LinkRun T} {event : Event} {after : D4Link T}
    (h : Transition w event after) (hw : w.state.Present) : after.Present := by
  cases h.entry .transaction with
  | kept untouched same => rwa [Present, same]
  | counted rule lookup now => exact ⟨_, now⟩
  | registered name label now => exact ⟨_, now⟩
  | opened label service lookup now => exact ⟨_, now⟩
  | closed label service lookup now => exact ⟨_, now⟩
  | removed label service now => exact absurd rfl service

/-! ### What a step does to the conversation -/

/-- The ways a step can treat the conversation state. -/
inductive ConversationStep (w : LinkRun T) (event : Event) (after : D4Link T) : Prop
  | kept (same : after.conversation = w.state.conversation)
  | begun {revision : ProtocolRevision} {side : Side} (label : event = .activated revision side)
      (inactive : side = .peer → w.state.conversation = .inactive)
      (now : after.conversation = .active)
  | exiting (label : event = .exiting) (maySend : w.state.MaySend)
      (now : after.conversation = .exiting)
  | ended (label : event = .terminated) (now : after.conversation = .terminated)

theorem Transition.conversation {w : LinkRun T} {event : Event} {after : D4Link T}
    (h : Transition w event after) : ConversationStep w event after := by
  cases h with
  | activated hinactive _ => exact .begun rfl hinactive rfl
  | exiting hmay _ => exact .exiting rfl hmay rfl
  | terminated _ => exact .ended rfl rfl
  | _ => exact .kept rfl

/-- Any other step ends in a terminated state only if it starts in one. -/
theorem Transition.terminated_of_ne {w : LinkRun T} {event : Event} {after : D4Link T}
    (h : Transition w event after) (hevent : event ≠ .terminated)
    (hafter : after.conversation = .terminated) : w.state.conversation = .terminated := by
  cases h.conversation with
  | kept same => rwa [← same]
  | begun _ _ now => rw [now] at hafter; cases hafter
  | exiting _ _ now => rw [now] at hafter; cases hafter
  | ended label _ => exact absurd label hevent

end D4Link

end Reink
