import Reink.D4.Codec
import Reink.D4.Step

/-!
# What the code of the link does, step by step

One theorem for each function of the link below the public operations, along the call graph: how a
write ends (`send_sending`), what a receive does (`nextPacket_follows`), what a peer command causes
(`handlePeerTransaction_follows`), and from these the two receive loops (`transactionLoop_follows`,
`requestLoop_follows`). The results say that the recorded steps are transitions; what the caller
learns from a value being returned is a lemma of its own (`sendTransaction_ok`, `nextPacket_ok`,
`applyCredit_ok`).
-/

namespace Reink

namespace D4Link

open Program (Follows atomic bind_run_ok bind_run_err)

variable {T : Type}

/-! ### The conversation gate -/

section Gate

variable {w : LinkRun T}

theorem requireActiveConversation_of_active (h : w.state.conversation = .active) :
    requireActiveConversation w = (.ok (), w) := by
  unfold requireActiveConversation
  rw [bind_run_ok (Program.observe_run w), h]
  rfl

theorem requireActiveConversation_of_ne (h : w.state.conversation ≠ .active) :
    ∃ error, requireActiveConversation w = (.err error, w) := by
  unfold requireActiveConversation
  rw [bind_run_ok (Program.observe_run w)]
  cases hc : w.state.conversation with
  | active => exact absurd hc h
  | inactive => exact ⟨_, rfl⟩
  | exiting => exact ⟨_, rfl⟩
  | terminated => exact ⟨_, rfl⟩

theorem requireActiveConversation_ok {w' : LinkRun T} {a : Unit}
    (h : requireActiveConversation w = (.ok a, w')) :
    w.state.conversation = .active ∧ w' = w := by
  by_cases hactive : w.state.conversation = .active
  · rw [requireActiveConversation_of_active hactive] at h
    exact ⟨hactive, (Prod.mk.inj h).2.symm⟩
  · obtain ⟨error, hgate⟩ := requireActiveConversation_of_ne hactive
    cases hgate.symm.trans h

/-- Behind the check of an operation the conversation is active. -/
theorem follows_of_active {S F : Law (D4Link T) Event} {α : Type} {f : Unit → LinkProgram T α}
    (h : w.state.conversation = .active → Follows S F (f ()) w) :
    Follows S F (requireActiveConversation >>= f) w := by
  by_cases hactive : w.state.conversation = .active
  · exact Follows.congr (bind_run_ok (requireActiveConversation_of_active hactive)) (h hactive)
  · obtain ⟨error, hgate⟩ := requireActiveConversation_of_ne hactive
    exact Follows.of_stay (bind_run_err hgate) (by simp)

/-- The gate of `send` passes in the states in which it may write. -/
theorem gate_of_maySend (h : w.state.MaySend) :
    Program.when (w.state.conversation ≠ .inactive) requireActiveConversation w = (.ok (), w) := by
  unfold Program.when
  rcases h with h | h
  · rw [if_neg (not_not.2 h)]
    rfl
  · rw [if_pos (by rw [h]; simp)]
    exact requireActiveConversation_of_active h

theorem gate_of_not_maySend (h : ¬ w.state.MaySend) :
    ∃ error, Program.when (w.state.conversation ≠ .inactive) requireActiveConversation w =
      (.err error, w) := by
  unfold Program.when
  rw [if_pos fun hinactive ↦ h (.inl hinactive)]
  exact requireActiveConversation_of_ne fun hactive ↦ h (.inr hactive)

end Gate

/-! ### Writing -/

theorem Packet.channel_of_new {peerSocket sourceSocket : UInt8} {payload : List UInt8}
    {credit control : UInt8} {packet : Packet}
    (h : Packet.new peerSocket sourceSocket payload credit control = .ok packet) :
    packet.channel = ⟨peerSocket, sourceSocket⟩ := by
  have hid := (Packet.of_new h).2.1
  rw [PacketHeader.channelId, Prod.mk.injEq] at hid
  rw [Packet.channel, hid.1, hid.2]

section Write

variable [ByteTransport T] {channel : ChannelId} {payload : List UInt8} {consumeCredit : Bool}
  {w w' : LinkRun T}

theorem writeAll_run (packet : Packet) (link : D4Link T) :
    (∃ target, writeAll packet link = (.ok (), { link with target := target })) ∨
      ∃ error target, writeAll packet link = (.err error, { link with target := target }) := by
  unfold writeAll
  rcases ByteTransport.writeAll packet.encode link.target with ⟨error | _, target⟩
  · exact .inr ⟨_, target, rfl⟩
  · exact .inl ⟨target, rfl⟩

/-- How a write ends: refused before anything is written, failed in the transport, or written,
with or without a credit spent on it. -/
inductive Sending (channel : ChannelId) (payload : List UInt8) (consumeCredit : Bool)
    (w : LinkRun T) : Outcome D4Error Unit × LinkRun T → Prop
  | refused (error : D4Error) : Sending channel payload consumeCredit w (.err error, w)
  | failed {packet : Packet} {state : ChannelState} (error : D4Error) (target : T)
      (route : packet.channel = channel) (content : packet.payload = payload)
      (lookup : w.state.channels channel = some state)
      (positive : consumeCredit = true → state.credit ≠ 0) :
      Sending channel payload consumeCredit w
        (.err error, w.push (.writeFailed packet) { w.state with target := target })
  | free {packet : Packet} {state : ChannelState} (target : T)
      (free : consumeCredit = false)
      (route : packet.channel = channel) (content : packet.payload = payload)
      (maySend : w.state.MaySend) (lookup : w.state.channels channel = some state)
      (isOpen : channel ≠ .transaction → state.isOpen = true)
      (size : packet.encode.length ≤ state.maxPacketSize.toNat) :
      Sending channel payload consumeCredit w
        (.ok (), w.push (.wrote packet) { w.state with target := target })
  | paid {packet : Packet} {state : ChannelState} {credit : UInt16} (target : T)
      (paid : consumeCredit = true)
      (route : packet.channel = channel) (content : packet.payload = payload)
      (maySend : w.state.MaySend) (lookup : w.state.channels channel = some state)
      (isOpen : channel ≠ .transaction → state.isOpen = true)
      (size : packet.encode.length ≤ state.maxPacketSize.toNat)
      (difference : state.credit.checkedSub 1 = some credit) :
      Sending channel payload consumeCredit w
        (.ok (), w.push (.wrote packet)
          ({ w.state with target := target }.setChannel channel { state with credit := credit }))

/-- The end of `send`, once the transport has taken the bytes. -/
theorem writeAndSpend_run {link : D4Link T} {packet : Packet} {state : ChannelState} {target : T}
    (hlookup : link.channels channel = some state)
    (hcredit : consumeCredit = true → state.credit ≠ 0)
    (hwrite : writeAll packet link = (.ok (), { link with target := target })) :
    (consumeCredit = false ∧
      writeAndSpend packet channel consumeCredit link = (.ok (), { link with target := target })) ∨
    (consumeCredit = true ∧ ∃ credit, state.credit.checkedSub 1 = some credit ∧
      writeAndSpend packet channel consumeCredit link = (.ok (),
        { link with target := target }.setChannel channel { state with credit := credit })) := by
  unfold writeAndSpend
  cases consumeCredit with
  | false =>
    refine .inl ⟨rfl, ?_⟩
    rw [bind_run_ok hwrite]
    rfl
  | true =>
    obtain ⟨credit, hdifference⟩ := UInt16.exists_checkedSub_one (hcredit rfl)
    refine .inr ⟨rfl, credit, hdifference, ?_⟩
    have hlookup' : ({ link with target := target } : D4Link T).channels channel = some state :=
      hlookup
    rw [bind_run_ok hwrite, Program.when, if_pos rfl, updateChannel_some hlookup', hdifference,
      Program.orPanic_some]
    rfl

/-- **How `send` ends.** -/
theorem send_sending (channel : ChannelId) (payload : List UInt8) (consumeCredit : Bool)
    (w : LinkRun T) :
    Sending channel payload consumeCredit w (send channel payload consumeCredit w) := by
  unfold send
  rw [bind_run_ok (Program.observe_run w)]
  by_cases hmay : w.state.MaySend
  case neg =>
    obtain ⟨error, hgate⟩ := gate_of_not_maySend hmay
    rw [bind_run_err hgate]
    exact .refused error
  rw [bind_run_ok (gate_of_maySend hmay)]
  -- The checks, in the order of the source; each that fails ends the call with nothing written.
  rcases hlookup : w.state.channels channel with _ | state
  · exact .refused _
  rw [Program.orThrow_some, Program.pure_bind]
  by_cases hopen : channel ≠ .transaction ∧ ¬ state.isOpen = true
  · rw [Program.rejectIf_pos hopen]
    exact .refused _
  rw [Program.rejectIf_neg hopen, Program.pure_bind]
  by_cases hcredit : consumeCredit = true ∧ state.credit = 0
  · rw [Program.rejectIf_pos hcredit]
    exact .refused _
  rw [Program.rejectIf_neg hcredit, Program.pure_bind]
  by_cases hsize : headerLength + payload.length > state.maxPacketSize.toNat
  · rw [Program.rejectIf_pos hsize]
    exact .refused _
  rw [Program.rejectIf_neg hsize, Program.pure_bind]
  rcases hnew : Packet.new channel.peerSocket channel.sourceSocket payload 1 0 with error | packet
  · exact .refused _
  rw [Program.ofExcept_ok, Program.pure_bind]
  have hroute : packet.channel = channel := Packet.channel_of_new hnew
  have hcontent : packet.payload = payload := (Packet.of_new hnew).2.2.1
  have hisOpen : channel ≠ .transaction → state.isOpen = true := by
    intro hne
    by_contra hclosed
    exact hopen ⟨hne, hclosed⟩
  have hlength : packet.encode.length ≤ state.maxPacketSize.toNat := by
    rw [Packet.length_encode, hcontent]
    exact Nat.le_of_not_lt hsize
  have hpositive : consumeCredit = true → state.credit ≠ 0 :=
    fun hconsume hzero ↦ hcredit ⟨hconsume, hzero⟩
  rcases writeAll_run packet w.state with ⟨target, hwrite⟩ | ⟨error, target, hwrite⟩
  · rcases writeAndSpend_run hlookup hpositive hwrite with ⟨hfree, hrun⟩ |
      ⟨hpaid, credit, hdifference, hrun⟩
    · rw [Program.atomic_run _ _ w hrun]
      exact .free target hfree hroute hcontent hmay hlookup hisOpen hlength
    · rw [Program.atomic_run _ _ w hrun]
      exact .paid target hpaid hroute hcontent hmay hlookup hisOpen hlength hdifference
  · have hrun : writeAndSpend packet channel consumeCredit w.state =
        (.err error, { w.state with target := target }) := by
      unfold writeAndSpend
      exact bind_run_err hwrite
    rw [Program.atomic_run _ _ w hrun]
    exact .failed error target hroute hcontent hlookup hpositive

/-- The property of the packet that a step writes or fails to write. -/
def Writes (P : Packet → Prop) (w : LinkRun T) (event : Event) (after : D4Link T) : Prop :=
  Transition w event after ∧ ∃ packet, P packet ∧
    (event = .wrote packet ∨ event = .writeFailed packet)

/-- Without a credit `send` writes only greetings, `Init` and its reply. -/
theorem send_follows {F : Law (D4Link T) Event}
    (hgreeting : consumeCredit = false → channel = .transaction ∧
      (payload.head? = some 0x00 ∨ payload.head? = some 0x80)) :
    Follows (Writes fun packet ↦ packet.channel = channel ∧ packet.payload = payload) F
      (send channel payload consumeCredit) w := by
  have hsending := send_sending channel payload consumeCredit w
  unfold Follows
  generalize send channel payload consumeCredit w = result at hsending ⊢
  cases hsending with
  | refused error => exact .refl
  | failed error target hroute hcontent _ _ =>
    exact Trail.single ⟨.transported (by exact trivial) target, _, ⟨hroute, hcontent⟩, .inr rfl⟩
  | free target hfree hroute hcontent hmay hlookup hopen hsize =>
    obtain ⟨htransaction, hhead⟩ := hgreeting hfree
    rw [← hcontent] at hhead
    refine Trail.single ⟨?_, _, ⟨hroute, hcontent⟩, .inl rfl⟩
    subst hroute
    exact .sentFree target hmay htransaction hhead hlookup hsize
  | paid target hpaid hroute hcontent hmay hlookup hopen hsize hdifference =>
    refine Trail.single ⟨?_, _, ⟨hroute, hcontent⟩, .inl rfl⟩
    subst hroute
    exact .sentPaid target hmay hlookup hopen hsize hdifference

/-- A message starts with its code. -/
theorem head?_of_encode {message : TransactionMessage} {revision : ProtocolRevision}
    (h : message.encode revision = .ok payload) : payload.head? = some message.code := by
  obtain ⟨hbody, -⟩ := TransactionMessage.encode_eq_ok.1 h
  cases message with
  | getSocketId serviceName =>
    rw [TransactionMessage.encodeBody] at hbody
    rcases hname : ascii serviceName with error | bytes
    all_goals rw [hname] at hbody; cases hbody
    rfl
  | getSocketIdReply result socketId serviceName =>
    obtain ⟨rest, rfl, -⟩ := TransactionMessage.rest_of_reply hbody
    rfl
  | getServiceNameReply result socketId serviceName =>
    obtain ⟨rest, rfl, -⟩ := TransactionMessage.rest_of_reply hbody
    rfl
  | _ =>
    -- the other messages are written without a check
    cases hbody
    rfl

/-- A message that cannot be encoded, or is too long, is refused; any other is sent. -/
theorem sendTransaction_run (message : TransactionMessage) (consumeCredit : Bool) (w : LinkRun T) :
    (∃ error, sendTransaction message consumeCredit w = (.err error, w)) ∨
      ∃ payload, message.encode w.state.revision = .ok payload ∧
        sendTransaction message consumeCredit w = send .transaction payload consumeCredit w := by
  unfold sendTransaction
  rw [bind_run_ok (Program.observe_run w)]
  rcases hencode : message.encode w.state.revision with error | payload
  · exact .inl ⟨_, rfl⟩
  rw [Program.ofExcept_ok, Program.pure_bind]
  by_cases hlong : payload.length > 58
  · rw [Program.rejectIf_pos hlong]
    exact .inl ⟨_, rfl⟩
  · rw [Program.rejectIf_neg hlong, Program.pure_bind]
    exact .inr ⟨payload, rfl, rfl⟩

/-- The packets that carry a message with the given code. -/
def Carries (code : UInt8) (packet : Packet) : Prop :=
  packet.channel = .transaction ∧ packet.payload.head? = some code

/-- Without a credit only greetings may be sent. -/
theorem sendTransaction_follows {F : Law (D4Link T) Event} {message : TransactionMessage}
    (hgreeting : consumeCredit = false → message.code = 0x00 ∨ message.code = 0x80) :
    Follows (Writes (Carries message.code)) F (sendTransaction message consumeCredit) w := by
  rcases sendTransaction_run message consumeCredit w with ⟨error, hrun⟩ | ⟨payload, hencode, hrun⟩
  · exact Follows.of_stay hrun (by simp)
  · have hhead : payload.head? = some message.code := head?_of_encode hencode
    have hsend : Follows _ F (send .transaction payload consumeCredit) w :=
      send_follows fun hfree ↦ ⟨rfl, by
        rw [hhead]
        exact (hgreeting hfree).imp (congrArg some) (congrArg some)⟩
    refine Follows.congr hrun (hsend.mono ?_ fun _ _ _ h ↦ h)
    rintro v event after ⟨htransition, packet, ⟨hroute, hcontent⟩, hevent⟩
    exact ⟨htransition, packet, ⟨hroute, by rw [hcontent, hhead]⟩, hevent⟩

omit [ByteTransport T] in
/-- Writing a response is a service step. -/
theorem Writes.handles {P : Packet → Prop} (hP : ∀ packet, P packet → Responds packet)
    {event : Event} {after : D4Link T} (h : Writes P w event after) : Handles w event after := by
  obtain ⟨htransition, packet, hpacket, rfl | rfl⟩ := h
  · refine ⟨⟨htransition, trivial, fun packet' hevent ↦ ?_⟩, trivial⟩
    cases hevent
    exact hP packet hpacket
  · exact ⟨.quiet htransition trivial (by simp), trivial⟩

omit [ByteTransport T] in
theorem Writes.not_isEnding {P : Packet → Prop} {event : Event} {after : D4Link T}
    (h : Writes P w event after) : ¬ event.IsEnding := by
  obtain ⟨-, packet, -, rfl | rfl⟩ := h <;> exact id

/-- A step that answers the peer and ends nothing. -/
def Continues (w : LinkRun T) (event : Event) (after : D4Link T) : Prop :=
  Handles w event after ∧ ¬ event.IsEnding

/-- A response to the peer, for which a credit is spent. -/
theorem respond_follows {message : TransactionMessage} (h : 0x80 ≤ message.code)
    (hgreeting : consumeCredit = false → message.code = 0x80) :
    Follows Continues Broken (sendTransaction message consumeCredit) w := by
  refine (sendTransaction_follows fun hfree ↦ .inr (hgreeting hfree)).mono ?_ (fun _ _ _ h ↦ h)
  intro v event after hwrites
  refine ⟨hwrites.handles ?_, hwrites.not_isEnding⟩
  rintro packet ⟨hroute, hhead⟩
  exact ⟨hroute, _, hhead, .inl h⟩

/-- A paid message was written: one credit is gone from the transaction channel. -/
theorem sendTransaction_ok {message : TransactionMessage} {a : Unit}
    (h : sendTransaction message true w = (.ok a, w')) :
    w.state.MaySend ∧ ∃ packet state credit target, Carries message.code packet ∧
      w.state.channels .transaction = some state ∧ state.credit.checkedSub 1 = some credit ∧
      w' = w.push (.wrote packet) ({ w.state with target := target }.setChannel .transaction
        { state with credit := credit }) := by
  rcases sendTransaction_run message true w with ⟨error, hrun⟩ | ⟨payload, hencode, hrun⟩
  · rw [hrun] at h
    cases h
  · rw [hrun] at h
    have hsending := send_sending .transaction payload true w
    rw [h] at hsending
    cases hsending with
    | free target hfree => cases hfree
    | paid target hpaid hroute hcontent hmay hlookup hopen hsize hdifference =>
      refine ⟨hmay, _, _, _, target, ⟨hroute, ?_⟩, hlookup, hdifference, rfl⟩
      rw [hcontent]
      exact head?_of_encode hencode

/-- The report of an overflow is written as it stands: no credit, no gate. -/
theorem sendError_run (channel : ChannelId) (errorCode : UInt8) (w : LinkRun T) :
    ∃ packet target, packet.channel = .transaction ∧
      packet.payload = [0x7f, channel.peerSocket, channel.sourceSocket, errorCode] ∧
      (sendError channel errorCode w =
          (.ok (), w.push (.wrote packet) { w.state with target := target }) ∨
        ∃ error, sendError channel errorCode w =
          (.err error, w.push (.writeFailed packet) { w.state with target := target })) := by
  have hnew : ∃ packet, Packet.new 0 0 [0x7f, channel.peerSocket, channel.sourceSocket, errorCode]
      0 0 = .ok packet := ⟨_, rfl⟩
  obtain ⟨packet, hnew⟩ := hnew
  have hrun : sendError channel errorCode w =
      atomic (writeEvent packet) (writeAll packet) w := by
    unfold sendError
    rw [bind_run_ok (Program.observe_run w)]
    have hencode : (TransactionMessage.error channel.peerSocket channel.sourceSocket
        errorCode).encode w.state.revision =
        .ok [0x7f, channel.peerSocket, channel.sourceSocket, errorCode] := rfl
    rw [hencode, Program.ofExcept_ok, Program.pure_bind, hnew, Program.ofExcept_ok,
      Program.pure_bind]
  rw [hrun]
  rcases writeAll_run packet w.state with ⟨target, hwrite⟩ | ⟨error, target, hwrite⟩
  · exact ⟨packet, target, Packet.channel_of_new hnew, (Packet.of_new hnew).2.2.1,
      .inl (Program.atomic_run _ _ w hwrite)⟩
  · exact ⟨packet, target, Packet.channel_of_new hnew, (Packet.of_new hnew).2.2.1,
      .inr ⟨error, Program.atomic_run _ _ w hwrite⟩⟩

end Write

/-! ### Receiving -/

/-- Labels of the steps that fetch bytes and packets from the transport. -/
def IsRead : Event → Prop
  | .read _ | .readFailed | .decoded _ | .decodeFailed => True
  | _ => False

/-- A step that fetches from the transport. -/
def Reads (w : LinkRun T) (event : Event) (after : D4Link T) : Prop :=
  Transition w event after ∧ IsRead event

/-- A step of `next_packet`: it fetches from the transport, or takes a packet from the queue. -/
def Receives (w : LinkRun T) (event : Event) (after : D4Link T) : Prop :=
  Transition w event after ∧ (IsRead event ∨ ∃ packet, event = .took packet)

theorem Reads.receives {w : LinkRun T} {event : Event} {after : D4Link T}
    (h : Reads w event after) : Receives w event after :=
  ⟨h.1, .inl h.2⟩

/-- The parts of the link that receiving leaves alone. -/
structure SameControl (link link' : D4Link T) : Prop where
  channels : link'.channels = link.channels
  conversation : link'.conversation = link.conversation
  revision : link'.revision = link.revision
  exitRequested : link'.exitRequested = link.exitRequested

theorem Receives.serves {w : LinkRun T} {event : Event} {after : D4Link T}
    (h : Receives w event after) : Serves w event after := by
  obtain ⟨htransition, hread | ⟨packet, rfl⟩⟩ := h
  · cases event with
    | read _ | readFailed | decoded _ | decodeFailed => exact .quiet htransition trivial (by simp)
    | _ => exact hread.elim
  · exact .quiet htransition trivial (by simp)

section Queue

variable {w w' : LinkRun T}

theorem popFront_cons {packet : Packet} {rest : List Packet}
    (h : w.state.received = packet :: rest) :
    popFront w = (.ok (some packet), w.push (.took packet) { w.state with received := rest }) := by
  unfold popFront
  rw [bind_run_ok (Program.observe_run w), h]
  rfl

theorem popFront_nil (h : w.state.received = []) : popFront w = (.ok none, w) := by
  unfold popFront
  rw [bind_run_ok (Program.observe_run w), h]
  rfl

theorem popFront_follows {F : Law (D4Link T) Event} : Follows Receives F popFront w := by
  rcases h : w.state.received with _ | ⟨packet, rest⟩
  · exact Follows.of_stay (popFront_nil h) (by simp)
  · exact Follows.of_step (popFront_cons h) (by simp) ⟨.took h, .inr ⟨packet, rfl⟩⟩

theorem popFront_none (h : popFront w = (.ok none, w')) : w' = w ∧ w'.state.received = [] := by
  rcases hqueue : w.state.received with _ | ⟨front, rest⟩
  · rw [popFront_nil hqueue] at h
    cases h
    exact ⟨rfl, hqueue⟩
  · rw [popFront_cons hqueue] at h
    cases h

theorem pushBack_run (packet : Packet) (w : LinkRun T) :
    pushBack packet w = (.ok (), w.push (.putBack packet)
      { w.state with received := w.state.received ++ [packet] }) :=
  rfl

end Queue

section Receive

variable [ByteTransport T] {w w' : LinkRun T}

theorem readTarget_run (size : Nat) (link : D4Link T) :
    (∃ bytes target, readTarget size link = (.ok bytes, { link with target := target })) ∨
      ∃ error target, readTarget size link = (.err error, { link with target := target }) := by
  unfold readTarget
  rcases ByteTransport.read size link.target with ⟨error | bytes, target⟩
  · exact .inr ⟨_, target, rfl⟩
  · exact .inl ⟨bytes, target, rfl⟩

theorem readTarget_follows {F : Law (D4Link T) Event} (size : Nat) :
    Follows Reads F (atomic readEvent (readTarget size)) w := by
  rcases readTarget_run size w.state with ⟨bytes, target, h⟩ | ⟨error, target, h⟩
  · exact Follows.of_step (Program.atomic_run _ _ w h) (by simp)
      ⟨.transported (by exact trivial) target, trivial⟩
  · exact Follows.of_step (Program.atomic_run _ _ w h) (by simp)
      ⟨.transported (by exact trivial) target, trivial⟩

omit [ByteTransport T] in
theorem decodeReceived_follows {F : Law (D4Link T) Event} (bytes : List UInt8)
    (hempty : w.state.received = []) :
    Follows Reads F (atomic decodeEvent (decodeReceived bytes)) w := by
  rcases h : w.state.decoder.push bytes with ⟨error | packets, decoder⟩
  · have hrun : decodeReceived bytes w.state =
        (.err (.packet error), { w.state with decoder := decoder }) := by
      unfold decodeReceived
      rw [h]
    exact Follows.of_step (Program.atomic_run _ _ w hrun) (by simp)
      ⟨.decodeFailed decoder, trivial⟩
  · have hrun : decodeReceived bytes w.state = (.ok packets,
        { w.state with decoder := decoder, received := w.state.received ++ packets }) := by
      unfold decodeReceived
      rw [h]
    exact Follows.of_step (Program.atomic_run _ _ w hrun) (by simp) ⟨.decoded h hempty, trivial⟩

theorem readTarget_received {size : Nat} {bytes : List UInt8}
    (h : atomic readEvent (readTarget size) w = (.ok bytes, w')) :
    w'.state.received = w.state.received := by
  rcases readTarget_run size w.state with ⟨bytes', target, hrun⟩ | ⟨error, target, hrun⟩
  · rw [Program.atomic_run _ _ w hrun] at h
    cases h
    rfl
  · rw [Program.atomic_run _ _ w hrun] at h
    cases h

/-- The link reads only while its queue is empty. -/
theorem readPacket_follows {F : Law (D4Link T) Event} (bound consecutiveEmptyReads : Nat)
    (hqueue : w.state.received = []) :
    Follows Receives F (readPacket bound consecutiveEmptyReads) w := by
  induction bound generalizing w consecutiveEmptyReads with
  | zero => exact Follows.running
  | succ bound ih =>
    refine ((readTarget_follows 4096).mono (fun _ _ _ h ↦ h.receives) fun _ _ _ h ↦ h).bind
      fun bytes v hread ↦ ?_
    have hv : v.state.received = [] := (readTarget_received hread).trans hqueue
    by_cases hempty : bytes = []
    · rw [if_pos hempty]
      split
      · exact Follows.throw _
      · exact ih _ hv
    · rw [if_neg hempty]
      refine ((decodeReceived_follows bytes hv).mono (fun _ _ _ h ↦ h.receives)
        fun _ _ _ h ↦ h).bind fun _ v _ ↦ ?_
      refine popFront_follows.bind fun popped v hpop ↦ ?_
      cases popped with
      | none => exact ih _ (popFront_none hpop).2
      | some packet => exact Follows.pure packet

theorem nextPacket_follows {F : Law (D4Link T) Event} (bound : Nat) :
    Follows Receives F (nextPacket bound) w := by
  refine popFront_follows.bind fun popped v hpop ↦ ?_
  cases popped with
  | none => exact readPacket_follows bound 0 (popFront_none hpop).2
  | some packet => exact Follows.pure packet

/-- The packets fetched from the transport are queued, and the first of the queue is taken. -/
def Fetched (w w' : LinkRun T) (packet : Packet) : Prop :=
  ∃ (v : LinkRun T) (rest : List Packet), Trail Reads w v ∧ v.state.received = packet :: rest ∧
    w' = v.push (.took packet) { v.state with received := rest }

omit [ByteTransport T] in
theorem popFront_some {packet : Packet} (h : popFront w = (.ok (some packet), w')) :
    Fetched w w' packet := by
  rcases hqueue : w.state.received with _ | ⟨front, rest⟩
  · rw [popFront_nil hqueue] at h
    cases h
  · rw [popFront_cons hqueue] at h
    cases h
    exact ⟨w, rest, .refl, hqueue, rfl⟩

theorem readPacket_ok {bound consecutiveEmptyReads : Nat} {packet : Packet}
    (hqueue : w.state.received = [])
    (h : readPacket bound consecutiveEmptyReads w = (.ok packet, w')) : Fetched w w' packet := by
  induction bound generalizing w consecutiveEmptyReads with
  | zero => cases h
  | succ bound ih =>
    obtain ⟨bytes, v, hread, h⟩ := Program.bind_eq_ok.1 h
    have hpath : Trail Reads w v := (readTarget_follows (F := Broken) 4096).path_ok hread
    have hv : v.state.received = [] := (readTarget_received hread).trans hqueue
    by_cases hempty : bytes = []
    · rw [if_pos hempty] at h
      split at h
      · cases h
      · obtain ⟨u, rest, hu, hrest⟩ := ih hv h
        exact ⟨u, rest, hpath.trans hu, hrest⟩
    · rw [if_neg hempty] at h
      obtain ⟨_, v', hdecode, h⟩ := Program.bind_eq_ok.1 h
      have hpath' : Trail Reads w v' :=
        hpath.trans ((decodeReceived_follows (F := Broken) bytes hv).path_ok hdecode)
      obtain ⟨popped, v'', hpop, hrest⟩ := Program.bind_eq_ok.1 h
      cases popped with
      | none =>
        obtain ⟨rfl, hempty'⟩ := popFront_none hpop
        obtain ⟨u, rest, hu, hrest⟩ := ih hempty' hrest
        exact ⟨u, rest, hpath'.trans hu, hrest⟩
      | some front =>
        cases hrest
        obtain ⟨u, rest, hu, hrest⟩ := popFront_some hpop
        exact ⟨u, rest, hpath'.trans hu, hrest⟩

/-- The packet that `next_packet` gives has just been taken from the queue. -/
theorem nextPacket_ok {bound : Nat} {packet : Packet}
    (h : nextPacket bound w = (.ok packet, w')) : Fetched w w' packet := by
  obtain ⟨popped, v, hpop, hrest⟩ := Program.bind_eq_ok.1 h
  cases popped with
  | none =>
    obtain ⟨rfl, hempty⟩ := popFront_none hpop
    exact readPacket_ok hempty hrest
  | some front =>
    cases hrest
    exact popFront_some hpop

omit [ByteTransport T] in
theorem Fetched.justTook {packet : Packet} (h : Fetched w w' packet) : JustTook w' packet := by
  obtain ⟨v, rest, -, hqueue, rfl⟩ := h
  exact ⟨v, rest, hqueue, rfl⟩

/-- The block of `apply_credit` that adds the credit. -/
theorem applyCredit_run {packet : Packet} {state : ChannelState} {credit : UInt16}
    (hlookup : w.state.channels packet.channel = some state)
    (hsize : packet.header.length ≤ state.maxServiceSize)
    (hsum : state.credit.checkedAdd packet.header.credit.toUInt16 = some credit) :
    applyCredit packet w = (.ok (), w.push (.credited packet)
      (w.state.setChannel packet.channel { state with credit := credit })) := by
  unfold applyCredit
  rw [bind_run_ok (Program.observe_run w), hlookup, Program.orThrow_some, Program.pure_bind,
    Program.rejectIf_neg (by simpa using hsize), Program.pure_bind, hsum]
  refine Program.atomic_run _ _ w ?_
  rw [updateChannel_some hlookup, hsum, Program.orPanic_some]
  rfl

/-- How `apply_credit` ends: refused with nothing changed, an overflow reported, or the credit
added. -/
theorem applyCredit_cases (packet : Packet) (w : LinkRun T) :
    (∃ error, applyCredit packet w = (.err error, w)) ∨
    (∃ state, w.state.channels packet.channel = some state ∧
      packet.header.length ≤ state.maxServiceSize ∧
      state.credit.checkedAdd packet.header.credit.toUInt16 = none ∧
      applyCredit packet w =
        (sendError packet.channel 0x86 >>= fun _ ↦
          Program.throw (.creditOverflow packet.channel)) w) ∨
    ∃ state credit, w.state.channels packet.channel = some state ∧
      packet.header.length ≤ state.maxServiceSize ∧
      state.credit.checkedAdd packet.header.credit.toUInt16 = some credit ∧
      applyCredit packet w = (.ok (), w.push (.credited packet)
        (w.state.setChannel packet.channel { state with credit := credit })) := by
  rcases hlookup : w.state.channels packet.channel with _ | state
  · refine .inl ⟨.unknownChannel packet.channel, ?_⟩
    unfold applyCredit
    rw [bind_run_ok (Program.observe_run w), hlookup]
    rfl
  by_cases hsize : packet.header.length > state.maxServiceSize
  · refine .inl ⟨.packetExceedsNegotiatedSize packet.channel packet.header.length.toNat
      state.maxServiceSize, ?_⟩
    unfold applyCredit
    rw [bind_run_ok (Program.observe_run w), hlookup, Program.orThrow_some, Program.pure_bind,
      Program.rejectIf_pos hsize]
    rfl
  have hsize' : packet.header.length ≤ state.maxServiceSize := by simpa using hsize
  rcases hsum : state.credit.checkedAdd packet.header.credit.toUInt16 with _ | credit
  · refine .inr (.inl ⟨state, rfl, hsize', hsum, ?_⟩)
    unfold applyCredit
    rw [bind_run_ok (Program.observe_run w), hlookup, Program.orThrow_some, Program.pure_bind,
      Program.rejectIf_neg hsize, Program.pure_bind, hsum]
  · exact .inr (.inr ⟨state, credit, rfl, hsize', hsum, applyCredit_run hlookup hsize' hsum⟩)

/-- Applying a credit, or reporting its overflow, ends nothing. -/
theorem applyCredit_continues {packet : Packet} (htaken : JustTook w packet)
    (hrunning : packet.channel ≠ .transaction → w.state.conversation ≠ .terminated) :
    Follows Continues Broken (applyCredit packet) w := by
  rcases applyCredit_cases packet w with ⟨error, hrun⟩ | ⟨state, hlookup, hsize, hsum, hrun⟩ |
    ⟨state, credit, hlookup, hsize, hsum, hrun⟩
  · exact Follows.of_stay hrun (by simp)
  · refine Follows.congr hrun (Follows.bind ?_ fun _ v _ ↦ Follows.throw _)
    obtain ⟨report, target, hroute, hcontent, hsend | ⟨error, hsend⟩⟩ :=
      sendError_run packet.channel 0x86 w
    · refine Follows.of_step hsend (by simp) ⟨⟨⟨.reported target htaken hroute hcontent hlookup
        hsize hsum hrunning, trivial, fun written hevent ↦ ?_⟩, trivial⟩, id⟩
      cases hevent
      exact ⟨hroute, 0x7f, by rw [hcontent]; rfl, .inr rfl⟩
    · exact Follows.of_step hsend (by simp)
        ⟨⟨.quiet (.transported (by exact trivial) target) trivial (by simp), trivial⟩, id⟩
  · exact Follows.of_step hrun (by simp)
      ⟨⟨.quiet (.credited htaken hlookup hsize hsum hrunning) trivial (by simp), trivial⟩, id⟩

theorem applyCredit_follows {packet : Packet} (htaken : JustTook w packet)
    (hrunning : packet.channel ≠ .transaction → w.state.conversation ≠ .terminated) :
    Follows Serves Broken (applyCredit packet) w :=
  (applyCredit_continues htaken hrunning).mono (fun _ _ _ h ↦ h.1.1) fun _ _ _ h ↦ h

/-- The credit was added. -/
theorem applyCredit_ok {packet : Packet} {a : Unit} (h : applyCredit packet w = (.ok a, w')) :
    ∃ state credit, w.state.channels packet.channel = some state ∧
      packet.header.length ≤ state.maxServiceSize ∧
      state.credit.checkedAdd packet.header.credit.toUInt16 = some credit ∧
      w' = w.push (.credited packet)
        (w.state.setChannel packet.channel { state with credit := credit }) := by
  rcases applyCredit_cases packet w with ⟨error, hrun⟩ | ⟨state, hlookup, hsize, hsum, hrun⟩ |
    ⟨state, credit, hlookup, hsize, hsum, hrun⟩
  · rw [hrun] at h
    cases h
  · rw [hrun] at h
    obtain ⟨_, v, -, h⟩ := Program.bind_eq_ok.1 h
    cases h
  · rw [hrun] at h
    cases h
    exact ⟨state, credit, hlookup, hsize, hsum, rfl⟩

theorem justCredited_of_applyCredit {packet : Packet} {a : Unit} (htaken : JustTook w packet)
    (h : applyCredit packet w = (.ok a, w')) : JustCredited w' packet := by
  obtain ⟨_, _, -, -, -, rfl⟩ := applyCredit_ok h
  exact ⟨w, _, htaken, rfl⟩

/-! ### Commands of the peer -/

theorem handlePeerOpen_follows (channel : ChannelId)
    (peerMaxPacketSize peerMaxServiceSize : UInt16) :
    Follows Continues Broken (handlePeerOpen channel peerMaxPacketSize peerMaxServiceSize) w := by
  unfold handlePeerOpen
  refine Follows.observe_bind ?_
  cases w.state.channels channel with
  | none => exact respond_follows (by simp [TransactionMessage.code]) (by simp)
  | some state => exact respond_follows (by simp [TransactionMessage.code]) (by simp)

omit [ByteTransport T] in
/-- Beginning the conversation is one step, unless the transaction channel is missing. -/
theorem beginConversation_follows {S : Law (D4Link T) Event} {revision : ProtocolRevision}
    {side : Side} (hS : ∀ state, w.state.channels .transaction = some state →
      S w (.activated revision side) (w.state.begun revision state)) :
    Follows S Broken
      (atomic (fun _ ↦ .activated revision side) (beginConversation revision)) w := by
  rcases hlookup : w.state.channels .transaction with _ | state
  · have hrun : beginConversation revision w.state =
        (.panic "transaction channel is created with D4Link",
          { w.state with revision := revision }) := by
      unfold beginConversation transactionChannelMut
      rw [bind_run_ok (Program.modify_run _ _)]
      exact Program.bind_run_panic (updateChannel_none hlookup)
    exact Follows.of_fault (Program.atomic_run _ _ w hrun) hlookup
  · exact Follows.of_step (Program.atomic_run _ _ w (beginConversation_run revision hlookup))
      (by simp) (hS state hlookup)

omit [ByteTransport T] in
/-- So is ending it. -/
theorem terminateConversation_follows {S : Law (D4Link T) Event}
    (hS : ∀ state, w.state.channels .transaction = some state →
      S w .terminated (w.state.ended state)) :
    Follows S Broken (atomic (fun _ ↦ .terminated) terminateConversation) w := by
  rcases hlookup : w.state.channels .transaction with _ | state
  · have hrun : terminateConversation w.state =
        (.panic "transaction channel is created with D4Link", { w.state with
          channels := fun channel ↦
            if channel = .transaction then w.state.channels channel else none }) := by
      unfold terminateConversation transactionChannelMut
      rw [bind_run_ok (Program.modify_run _ _)]
      exact Program.bind_run_panic (updateChannel_none (by simpa using hlookup))
    exact Follows.of_fault (Program.atomic_run _ _ w hrun) hlookup
  · exact Follows.of_step (Program.atomic_run _ _ w (terminateConversation_run hlookup))
      (by simp) (hS state hlookup)

/-- A step that the command of the peer causes: it ends something only if the command asks for just
that. -/
def Causes (message : TransactionMessage) (w : LinkRun T) (event : Event)
    (after : D4Link T) : Prop :=
  Handles w event after ∧ (event.IsEnding → event.endedBy message = true)

omit [ByteTransport T] in
theorem Causes.of_continues {message : TransactionMessage} {event : Event} {after : D4Link T}
    (h : Continues w event after) : Causes message w event after :=
  ⟨h.1, fun hending ↦ absurd hending h.2⟩

theorem respond_causes {message reply : TransactionMessage} {consumeCredit : Bool}
    (h : 0x80 ≤ reply.code) (hgreeting : consumeCredit = false → reply.code = 0x80) :
    Follows (Causes message) Broken (sendTransaction reply consumeCredit) w :=
  (respond_follows h hgreeting).mono (fun _ _ _ h ↦ .of_continues h) fun _ _ _ h ↦ h

/-- **What a peer command causes.** -/
theorem handlePeerTransaction_causes (message : TransactionMessage) :
    Follows (Causes message) Broken (handlePeerTransaction message) w := by
  unfold handlePeerTransaction
  refine Follows.observe_bind ?_
  cases message with
  | init revision =>
    by_cases hinactive : w.state.conversation = .inactive
    · dsimp only
      rw [if_pos hinactive]
      refine Follows.bind (beginConversation_follows fun state hlookup ↦ ?_) fun _ v _ ↦
        respond_causes (by simp [TransactionMessage.code]) (by simp [TransactionMessage.code])
      exact ⟨⟨.quiet (.activated (fun _ ↦ hinactive) hlookup) rfl (by simp), trivial⟩, False.elim⟩
    · dsimp only
      rw [if_neg hinactive]
      exact respond_causes (by simp [TransactionMessage.code]) (by simp [TransactionMessage.code])
  | openChannel peerSocket sourceSocket maxPacketSize maxServiceSize _ _ =>
    exact (handlePeerOpen_follows _ _ _).mono (fun _ _ _ h ↦ .of_continues h) fun _ _ _ h ↦ h
  | closeChannel peerSocket sourceSocket =>
    refine (respond_causes (by simp [TransactionMessage.code]) (by simp)).bind fun _ v hsent ↦ ?_
    obtain ⟨hmay, _, _, _, target, -, -, -, rfl⟩ := sendTransaction_ok hsent
    by_cases htransaction : (⟨peerSocket, sourceSocket⟩ : ChannelId) = .transaction
    · rw [if_pos htransaction, Program.when, if_neg (by decide)]
      exact Follows.pure ()
    rw [if_neg htransaction]
    rcases hlookup : w.state.channels ⟨peerSocket, sourceSocket⟩ with _ | state
    · rw [Program.when, if_neg (by simp)]
      exact Follows.pure ()
    · rw [Program.when, if_pos (by simp)]
      -- The reply has changed the transaction channel only, so the entry is still there.
      refine Follows.of_step (Program.atomic_run _ _ _ (updateChannel_pure
        ((setChannel_channels_of_ne _ _ htransaction).trans hlookup))) (by simp) ?_
      exact ⟨⟨.quiet (.closedByPeer htransaction hmay
        ((setChannel_channels_of_ne _ _ htransaction).trans hlookup)) rfl (by simp), trivial⟩,
        fun _ ↦ decide_eq_true rfl⟩
  | credit peerSocket sourceSocket addedCredit =>
    refine Follows.orThrow_bind fun state hlookup ↦ Follows.orThrow_bind fun credit hsum ↦ ?_
    refine Follows.bind ?_ fun _ v _ ↦ respond_causes (by simp [TransactionMessage.code]) (by simp)
    exact Follows.of_step (Program.atomic_run _ _ w (updateChannel_pure hlookup)) (by simp)
      ⟨⟨.quiet (.granted hlookup hsum (by simp)) rfl (by simp), trivial⟩, False.elim⟩
  | creditRequest peerSocket sourceSocket _ =>
    exact respond_causes (by simp [TransactionMessage.code]) (by simp)
  | exit =>
    refine (respond_causes (by simp [TransactionMessage.code]) (by simp)).bind fun _ v hsent ↦ ?_
    obtain ⟨hmay, _, _, _, target, -, -, -, rfl⟩ := sendTransaction_ok hsent
    refine Follows.observe_bind ?_
    split
    case isTrue hrequested =>
      exact Follows.of_step rfl (by simp)
        ⟨⟨.quiet (.exiting hmay hrequested) trivial (by simp), trivial⟩, fun _ ↦ rfl⟩
    case isFalse =>
      exact terminateConversation_follows fun state hlookup ↦
        ⟨⟨.quiet (.terminated hlookup) trivial (by simp), trivial⟩, fun _ ↦ rfl⟩
  | getSocketId serviceName => exact respond_causes (by simp [TransactionMessage.code]) (by simp)
  | getServiceName socketId => exact respond_causes (by simp [TransactionMessage.code]) (by simp)
  | error _ _ _ => exact Follows.pure ()
  | _ => exact Follows.throw _

theorem handlePeerTransaction_follows (message : TransactionMessage) :
    Follows Handles Broken (handlePeerTransaction message) w :=
  (handlePeerTransaction_causes message).mono (fun _ _ _ h ↦ h.1) fun _ _ _ h ↦ h

/-- What a peer command causes are service steps. -/
theorem handlePeerTransaction_serves (message : TransactionMessage) :
    Follows Serves Broken (handlePeerTransaction message) w :=
  (handlePeerTransaction_follows message).mono (fun _ _ _ h ↦ h.1) fun _ _ _ h ↦ h

/-! ### What the peer asks an end for -/

section Heard

variable {w₀ : LinkRun T}

omit [ByteTransport T]

/-- The step takes a message of the transaction channel that passes the test. -/
def takes (asks : TransactionMessage → Bool) (step : Step (D4Link T) Event) : Bool :=
  match step.event with
  | .took packet => packet.channel = .transaction &&
    match TransactionMessage.decode packet.payload step.before.revision with
    | .ok message => asks message
    | .error _ => false
  | _ => false

/-- Such a message was taken between the two records. -/
def Heard (asks : TransactionMessage → Bool) (w w' : LinkRun T) : Prop :=
  ∃ step ∈ w'.since w, takes asks step = true

/-- Between the two records the peer has asked for the end of a channel or of the conversation. -/
def HeardEnd (w w' : LinkRun T) : Prop := Heard TransactionMessage.ends w w'

/-- Between the two records the peer has asked for the end of the conversation. -/
def HeardExit (w w' : LinkRun T) : Prop := Heard (· = .exit) w w'

variable {asks asks' : TransactionMessage → Bool}

instance (w w' : LinkRun T) : Decidable (Heard asks w w') := by
  unfold Heard
  infer_instance

instance (w w' : LinkRun T) : Decidable (HeardEnd w w') := by
  unfold HeardEnd
  infer_instance

instance (w w' : LinkRun T) : Decidable (HeardExit w w') := by
  unfold HeardExit
  infer_instance

theorem Heard.push {event : Event} {after : D4Link T} (h : Heard asks w₀ w) :
    Heard asks w₀ (w.push event after) := by
  obtain ⟨step, hmem, htakes⟩ := h
  exact ⟨step, Recorded.since_subset (List.prefix_append _ _) hmem, htakes⟩

theorem Heard.of_trail {S : Law (D4Link T) Event} (h : Heard asks w₀ w) (hpath : Trail S w w') :
    Heard asks w₀ w' :=
  hpath.invariant (fun _ _ _ _ hv ↦ hv.push) h

/-- What passes one test passes a weaker one. -/
theorem Heard.mono (hasks : ∀ message, asks message = true → asks' message = true)
    (h : Heard asks w₀ w) : Heard asks' w₀ w := by
  obtain ⟨step, hmem, htakes⟩ := h
  refine ⟨step, hmem, ?_⟩
  unfold takes at htakes ⊢
  split at htakes
  case h_1 packet hevent =>
    rw [Bool.and_eq_true] at htakes ⊢
    refine ⟨htakes.1, ?_⟩
    split at htakes
    · exact hasks _ htakes.2
    · cases htakes.2
  case h_2 => cases htakes

/-- The message is heard when its packet is taken. -/
theorem Heard.of_fetched {v : LinkRun T} {packet : Packet} {message : TransactionMessage}
    (hgrown : w₀.history <+: w.history) (hfetched : Fetched w v packet)
    (hroute : packet.channel = .transaction)
    (hdecode : TransactionMessage.decode packet.payload v.state.revision = .ok message)
    (hasks : asks message = true) : Heard asks w₀ v := by
  obtain ⟨u, rest, hpath, -, rfl⟩ := hfetched
  refine ⟨⟨u.state, .took packet, { u.state with received := rest }⟩, ?_, ?_⟩
  · rw [Recorded.since_push (hgrown.trans hpath.isPrefix)]
    exact List.mem_append_right _ (List.mem_singleton.2 rfl)
  · have hmessage : TransactionMessage.decode packet.payload u.state.revision = .ok message :=
      hdecode
    rw [takes]
    dsimp only
    rw [hroute, hmessage, decide_eq_true rfl]
    exact hasks

/-- A service step that ends something only if the peer has asked for just that since `w₀`. -/
def Heeds (w₀ w : LinkRun T) (event : Event) (after : D4Link T) : Prop :=
  Serves w event after ∧ (event.IsEnding → Heard event.endedBy w₀ w)

theorem Heeds.quiet {event : Event} {after : D4Link T} (h : Transition w event after)
    (hservice : event.IsService) (hquiet : ∀ packet, event ≠ .wrote packet)
    (hending : ¬ event.IsEnding) : Heeds w₀ w event after :=
  ⟨Serves.quiet h hservice hquiet, fun h ↦ absurd h hending⟩

theorem Heeds.of_continues {event : Event} {after : D4Link T} (h : Continues w event after) :
    Heeds w₀ w event after :=
  ⟨h.1.1, fun hending ↦ absurd hending h.2⟩

theorem Heeds.of_receives {event : Event} {after : D4Link T} (h : Receives w event after) :
    Heeds w₀ w event after := by
  refine ⟨h.serves, fun hending ↦ ?_⟩
  rcases h.2 with hread | ⟨packet, rfl⟩
  · cases event <;> first | exact hread.elim | exact hending.elim
  · exact hending.elim

end Heard

/-! ### The receive loops -/

variable {w₀ : LinkRun T}

theorem Packet.channelId_eq_iff (packet : Packet) :
    packet.header.channelId = (0, 0) ↔ packet.channel = .transaction := by
  rw [PacketHeader.channelId, Packet.channel, ChannelId.transaction, Prod.mk.injEq,
    ChannelId.mk.injEq]

/-- Taking the next packet, as the first step of an iteration. -/
theorem nextPacket_serves (bound : Nat) : Follows Serves Broken (nextPacket bound) w :=
  (nextPacket_follows bound).mono (fun _ _ _ h ↦ h.serves) fun _ _ _ h ↦ h

omit [ByteTransport T] in
/-- Putting a packet back is a service step once its credit has been applied. -/
theorem pushBack_follows {packet : Packet} (htaken : JustCredited w packet)
    (hservice : packet.channel ≠ .transaction) (hrunning : w.state.conversation ≠ .terminated) :
    Follows Serves Broken (pushBack packet) w :=
  Follows.of_step (pushBack_run packet w) (by simp)
    (.quiet (.putBack htaken hservice hrunning) trivial (by simp))

/-- **The receive loop of `transaction`** ends something only at the peer's request. By induction on
the bound; a message that asks for an end was heard when its packet was taken, and stays heard. -/
theorem transactionLoop_heeds (expectedReply : UInt8) (readBound bound : Nat)
    (hgrown : w₀.history <+: w.history) :
    Follows (Heeds w₀) Broken (transactionLoop expectedReply readBound bound) w := by
  induction bound generalizing w with
  | zero => exact Follows.running
  | succ bound ih =>
    refine Follows.bind (Follows.mark (.quiet (.marked trivial) trivial (by simp) id))
      fun _ v hmark ↦ ?_
    cases hmark
    have hpolled : w₀.history <+: (w.push (.polled none) w.state).history :=
      hgrown.trans (List.prefix_append _ _)
    refine ((nextPacket_follows readBound).mono (fun _ _ _ h ↦ .of_receives h)
      fun _ _ _ h ↦ h).bind fun packet v hnext ↦ ?_
    have hfetched : Fetched (w.push (.polled none) w.state) v packet := nextPacket_ok hnext
    have htaken : JustTook v packet := hfetched.justTook
    have hv : w₀.history <+: v.history :=
      hpolled.trans ((nextPacket_follows (F := Broken) readBound).path_ok hnext).isPrefix
    split
    case isTrue hchannel =>
      have hservice : packet.channel ≠ .transaction :=
        fun h ↦ hchannel ((Packet.channelId_eq_iff packet).2 h)
      refine Follows.observe_bind ?_
      split
      case isTrue => exact ih hv -- dropped
      case isFalse hrunning =>
        -- put back
        refine ((applyCredit_continues htaken fun _ ↦ hrunning).mono (fun _ _ _ h ↦ .of_continues h)
          fun _ _ _ h ↦ h).bind fun _ v' hcredit ↦ ?_
        obtain ⟨_, _, -, -, -, rfl⟩ := applyCredit_ok hcredit
        refine Follows.bind (Follows.of_step (pushBack_run packet _) (by simp)
          (.quiet (.putBack ⟨v, _, htaken, rfl⟩ hservice hrunning) trivial (by simp) id))
          fun _ v' hback ↦ ih ?_
        cases hback
        exact hv.trans ((List.prefix_append _ _).trans (List.prefix_append _ _))
    case isFalse hchannel =>
      have htransaction : packet.channel = .transaction :=
        (Packet.channelId_eq_iff packet).1 (not_not.1 hchannel)
      refine ((applyCredit_continues htaken fun h ↦ absurd htransaction h).mono
        (fun _ _ _ h ↦ .of_continues h) fun _ _ _ h ↦ h).bind fun _ v' hcredit ↦ ?_
      obtain ⟨_, _, -, -, -, rfl⟩ := applyCredit_ok hcredit
      refine Follows.observe_bind (Follows.ofExcept_bind fun received hdecode ↦ ?_)
      split
      · -- a command of the peer, which is served until it has caused all it causes
        have hheard {asks : TransactionMessage → Bool} (hasks : asks received = true) :
            Heard asks w₀ v :=
          Heard.of_fetched hpolled hfetched htransaction hdecode hasks
        refine ((handlePeerTransaction_causes received).strengthen
          (I := fun u ↦ ∀ asks, asks received = true → Heard asks w₀ u) ?_ ?_ ?_).bind
            fun _ v' hhandle ↦ ih ?_
        · exact fun u event after _ hears asks hasks ↦ (hears asks hasks).push
        · exact fun u event after hcauses hears ↦
            ⟨hcauses.1.1, fun hending ↦ hears _ (hcauses.2 hending)⟩
        · exact fun asks hasks ↦ (hheard hasks).push
        · exact (hv.trans (List.prefix_append _ _)).trans
            ((handlePeerTransaction_follows received).path_ok hhandle).isPrefix
      · split
        · refine Follows.bind (Follows.mark ?_) fun _ _ _ ↦ Follows.pure received
          exact .quiet (.answered ⟨v, _, htaken, rfl⟩ htransaction) trivial (by simp) id
        · exact Follows.throw _

/-- It makes service steps only. -/
theorem transactionLoop_follows (expectedReply : UInt8) (readBound bound : Nat) :
    Follows Serves Broken (transactionLoop expectedReply readBound bound) w :=
  (transactionLoop_heeds expectedReply readBound bound List.prefix_rfl).mono (fun _ _ _ h ↦ h.1)
    fun _ _ _ h ↦ h

/-- **The receive loop of `request`** makes service steps only. -/
theorem requestLoop_follows (channel : ChannelId) (readBound bound : Nat) :
    Follows Serves Broken (requestLoop channel readBound bound) w := by
  induction bound generalizing w with
  | zero => exact Follows.running
  | succ bound ih =>
    refine Follows.bind (Follows.mark (.quiet (.marked trivial) trivial (by simp))) fun _ v _ ↦ ?_
    refine (nextPacket_serves readBound).bind fun packet v hnext ↦ ?_
    have htaken : JustTook v packet := (nextPacket_ok hnext).justTook
    split
    case isTrue hchannel =>
      have htransaction : packet.channel = .transaction :=
        (Packet.channelId_eq_iff packet).1 hchannel
      refine (applyCredit_follows htaken fun h ↦ absurd htransaction h).bind fun _ v' _ ↦ ?_
      refine Follows.observe_bind (Follows.ofExcept_bind fun message _ ↦ ?_)
      split
      · refine (handlePeerTransaction_serves message).bind fun _ _ _ ↦ Follows.observe_bind ?_
        split
        · exact Follows.throw _
        · exact ih
      · exact Follows.throw _
    case isFalse hchannel =>
      have hservice : packet.channel ≠ .transaction :=
        fun h ↦ hchannel ((Packet.channelId_eq_iff packet).2 h)
      refine Follows.observe_bind ?_
      split
      case isTrue => exact ih -- dropped
      case isFalse hrunning =>
        refine (applyCredit_follows htaken fun _ ↦ hrunning).bind fun _ v' hcredit ↦ ?_
        obtain ⟨_, _, -, -, -, rfl⟩ := applyCredit_ok hcredit
        split
        case isTrue hanswer =>
          refine Follows.bind (Follows.mark ?_) fun _ _ _ ↦ Follows.pure packet.payload
          exact .quiet (.answered ⟨v, _, htaken, rfl⟩ hanswer) trivial (by simp)
        case isFalse =>
          refine Follows.bind (pushBack_follows ⟨v, _, htaken, rfl⟩ hservice ?_) fun _ _ _ ↦ ih
          exact hrunning

end Receive

end D4Link

end Reink
