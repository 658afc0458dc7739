import Reink.D4.Exchange
import Reink.Platform.Stream

/-!
# Answering the peer

What a command of the peer does to a link in an active conversation. Every command except the report
of an error is answered, whatever channels it names: one packet on the transaction channel carries
the reply to it (`RepliesTo`), for one credit unless it is the greeting. Beside that credit the link
changes by what the command asks for only (`obey`).
-/

namespace Reink

/-- The steps that hand a packet to the transport. -/
def Event.isWrite : Event → Bool
  | .wrote _ | .writeFailed _ => true
  | _ => false

namespace TransactionMessage

/-- The socket pair that the message is about. -/
def socketPair : TransactionMessage → Option ChannelId
  | openChannel peerSocket sourceSocket .. | openChannelReply _ peerSocket sourceSocket ..
  | closeChannel peerSocket sourceSocket | closeChannelReply _ peerSocket sourceSocket
  | credit peerSocket sourceSocket _ | creditReply _ peerSocket sourceSocket
  | creditRequest peerSocket sourceSocket _ | creditRequestReply _ peerSocket sourceSocket _
  | error peerSocket sourceSocket _ => some ⟨peerSocket, sourceSocket⟩
  | _ => none

/-- The single socket that the message is about. -/
def socketId : TransactionMessage → Option UInt8
  | getSocketIdReply _ socketId _ | getServiceName socketId
  | getServiceNameReply _ socketId _ => some socketId
  | _ => none

/-- The message is a reply to the command: it has the code of the reply, and names what the command
names. -/
structure RepliesTo (command reply : TransactionMessage) : Prop where
  code : reply.code = command.code ||| 0x80
  socketPair : reply.socketPair = command.socketPair
  socketId : ∀ socketId, command.socketId = some socketId → reply.socketId = some socketId

variable {command reply message : TransactionMessage} {revision : ProtocolRevision}

/-- A reply to a command that names no single socket, from the codes of both. -/
theorem RepliesTo.of_codes (c d : UInt8) (hcommand : command.code = c) (hreply : reply.code = d)
    (hcodes : c ||| 0x80 = d) (hpair : reply.socketPair = command.socketPair)
    (hsocket : command.socketId = none) : RepliesTo command reply where
  code := by rw [hcommand, hcodes, hreply]
  socketPair := hpair
  socketId := fun _ hsome ↦ nomatch hsocket.symm.trans hsome

theorem code_carried : (message.carried revision).code = message.code := by
  cases message <;> rfl

theorem socketPair_carried : (message.carried revision).socketPair = message.socketPair := by
  cases message <;> rfl

theorem socketId_carried : (message.carried revision).socketId = message.socketId := by
  cases message <;> rfl

/-- What the layout does not carry is no part of a reply. -/
theorem RepliesTo.carried (h : RepliesTo command reply) (revision : ProtocolRevision) :
    RepliesTo command (reply.carried revision) :=
  ⟨code_carried.trans h.code, socketPair_carried.trans h.socketPair,
    fun socketId hcommand ↦ socketId_carried.trans (h.socketId socketId hcommand)⟩

end TransactionMessage

namespace D4Link

open Program (atomic bind_run_ok)
open TransactionMessage (RepliesTo)

variable {T : Type}

/-- What the command asks for: added credit, the end of a channel or of the conversation. -/
def obey (link : D4Link T) : TransactionMessage → D4Link T
  | .closeChannel peerSocket sourceSocket =>
    let channel : ChannelId := ⟨peerSocket, sourceSocket⟩
    match link.channels channel with
    | some state =>
      if channel = .transaction then link
      else link.setChannel channel { state with isOpen := false }
    | none => link
  | .credit peerSocket sourceSocket addedCredit =>
    let channel : ChannelId := ⟨peerSocket, sourceSocket⟩
    match link.channels channel with
    | some state => link.setChannel channel { state with credit := state.credit + addedCredit }
    | none => link
  | .exit =>
    if link.exitRequested then { link with conversation := .exiting }
    else
      match link.channels .transaction with
      | some state => link.ended state
      | none => link
  | _ => link

section Obey

variable {link : D4Link T} {state : ChannelState} {peerSocket sourceSocket : UInt8}

theorem obey_closeChannel (hservice : (⟨peerSocket, sourceSocket⟩ : ChannelId) ≠ .transaction)
    (hlookup : link.channels ⟨peerSocket, sourceSocket⟩ = some state) :
    link.obey (.closeChannel peerSocket sourceSocket) =
      link.setChannel ⟨peerSocket, sourceSocket⟩ { state with isOpen := false } := by
  unfold obey
  dsimp only
  rw [hlookup]
  exact if_neg hservice

/-- Neither the transaction channel nor an unknown one is closed. -/
theorem obey_closeChannel_self (h : (⟨peerSocket, sourceSocket⟩ : ChannelId) = .transaction ∨
      link.channels ⟨peerSocket, sourceSocket⟩ = none) :
    link.obey (.closeChannel peerSocket sourceSocket) = link := by
  unfold obey
  dsimp only
  split
  next state hlookup =>
    exact if_pos (h.resolve_right fun hnone ↦ nomatch hnone.symm.trans hlookup)
  next => rfl

theorem obey_credit (addedCredit : UInt16)
    (hlookup : link.channels ⟨peerSocket, sourceSocket⟩ = some state) :
    link.obey (.credit peerSocket sourceSocket addedCredit) =
      link.setChannel ⟨peerSocket, sourceSocket⟩
        { state with credit := state.credit + addedCredit } := by
  unfold obey
  dsimp only
  rw [hlookup]

theorem obey_exit (hlookup : link.channels .transaction = some state) :
    link.obey .exit =
      if link.exitRequested then { link with conversation := .exiting } else link.ended state := by
  unfold obey
  dsimp only
  rw [hlookup]

/-- Adding the credit before the answer is paid for, as the code does, is the same as after it. -/
theorem obey_credit_spent {entry : ChannelState} {addedCredit : UInt16}
    (htransaction : link.channels .transaction = some state) (hcredit : state.credit ≠ 0)
    (hlookup : link.channels ⟨peerSocket, sourceSocket⟩ = some entry)
    (hfits : entry.credit.toNat + addedCredit.toNat < 65536) :
    let granted := link.setChannel ⟨peerSocket, sourceSocket⟩
      { entry with credit := entry.credit + addedCredit }
    ∃ paying : ChannelState, granted.channels .transaction = some paying ∧
      paying.maxPacketSize = state.maxPacketSize ∧ paying.credit ≠ 0 ∧
      granted.setChannel .transaction { paying with credit := paying.credit - 1 } =
        (link.setChannel .transaction { state with credit := state.credit - 1 }).obey
          (.credit peerSocket sourceSocket addedCredit) := by
  intro granted
  by_cases hchannel : (⟨peerSocket, sourceSocket⟩ : ChannelId) = .transaction
  case pos =>
    -- the channel pays for its own answer
    obtain rfl : state = entry := by
      rw [hchannel, htransaction] at hlookup
      exact Option.some.inj hlookup
    have hsum : (state.credit + addedCredit).toNat = state.credit.toNat + addedCredit.toNat := by
      rw [UInt16.toNat_add, Nat.mod_eq_of_lt hfits]
    have hpays : state.credit + addedCredit ≠ 0 := by
      intro hzero
      rw [hzero] at hsum
      exact hcredit (UInt16.toNat_inj.1 (Nat.eq_zero_of_add_eq_zero_right hsum.symm))
    have hcommute : state.credit + addedCredit - 1 = state.credit - 1 + addedCredit := by
      rw [UInt16.sub_eq_add_neg, UInt16.sub_eq_add_neg, UInt16.add_assoc, UInt16.add_assoc,
        UInt16.add_comm addedCredit]
    refine ⟨{ state with credit := state.credit + addedCredit }, ?_, rfl, hpays, ?_⟩
    · rw [← hchannel]
      exact setChannel_channels_self _ _ _
    · rw [obey_credit addedCredit (by rw [hchannel]; exact setChannel_channels_self _ _ _)]
      dsimp only [granted]
      rw [hchannel, hcommute, setChannel_setChannel, setChannel_setChannel]
  case neg =>
    have hother : (link.setChannel .transaction { state with credit := state.credit - 1 }).channels
        ⟨peerSocket, sourceSocket⟩ = some entry := by
      rw [setChannel_channels_of_ne _ _ hchannel, hlookup]
    refine ⟨state, ?_, rfl, hcredit, ?_⟩
    · rw [setChannel_channels_of_ne _ _ (Ne.symm hchannel), htransaction]
    · rw [obey_credit addedCredit hother, setChannel_comm _ hchannel]

end Obey

section Answers

variable [ByteTransport T]

/-- The command is answered with the reply in the packet. -/
structure Answered (command : TransactionMessage) (state : ChannelState) (w v : LinkRun T)
    (packet : Packet) (reply : TransactionMessage) : Prop where
  run : handlePeerTransaction command w = (.ok (), v)
  /-- The packet is written, and no other. -/
  written : ((v.since w).map Step.event).filter Event.isWrite = [.wrote packet]
  target : ByteTransport.writeAll packet.encode w.state.target = (.ok (), v.state.target)
  channel : packet.channel = .transaction
  decode : TransactionMessage.decode packet.payload w.state.revision = .ok reply
  reply : RepliesTo command reply
  /-- One credit is spent, none for the greeting, and the command is obeyed. -/
  after : v.state = ({ w.state with target := v.state.target }.setChannel .transaction
    { state with credit := if command.code = 0 then state.credit else state.credit - 1 }).obey
      command

/-- The packet carries a reply to the command, and the transport takes it. -/
structure Carried (command : TransactionMessage) (link : D4Link T) (packet : Packet) (target : T)
    (reply : TransactionMessage) : Prop where
  target : ByteTransport.writeAll packet.encode link.target = (.ok (), target)
  channel : packet.channel = .transaction
  decode : TransactionMessage.decode packet.payload link.revision = .ok reply
  reply : RepliesTo command reply

/-- The links on which a command is answered. -/
structure Answering (link : D4Link T) (state : ChannelState) : Prop where
  active : link.conversation = .active
  lookup : link.channels .transaction = some state
  packetSize : state.maxPacketSize = 64
  credit : state.credit ≠ 0
  writes : ∀ bytes, ∃ target, ByteTransport.writeAll bytes link.target = (.ok (), target)

variable {w : LinkRun T} {state : ChannelState} {command message : TransactionMessage}

omit [ByteTransport T] in
theorem spent_true {credit : UInt16} (h : credit ≠ 0) : spent true credit = some (credit - 1) := by
  obtain ⟨left, hleft⟩ := UInt16.exists_checkedSub_one h
  rw [spent, if_pos rfl, hleft]
  unfold UInt16.checkedSub at hleft
  split at hleft
  · exact hleft.symm
  · cases hleft

/-- A reply that can be encoded is written. -/
theorem Answering.send (h : Answering w.state state) (command message : TransactionMessage)
    {consumeCredit : Bool} {credit : UInt16} {payload : List UInt8}
    (hencode : message.encode w.state.revision = .ok payload)
    (hreply : RepliesTo command message) (hspent : spent consumeCredit state.credit = some credit) :
    ∃ packet target, Carried command w.state packet target (message.carried w.state.revision) ∧
      sendTransaction message consumeCredit w = (.ok (), w.push (.wrote packet)
        ({ w.state with target := target }.setChannel .transaction
          { state with credit := credit })) := by
  have hsize : 64 ≤ state.maxPacketSize.toNat := by
    rw [h.packetSize]
    decide
  obtain ⟨packet, hpacket⟩ := Packet.exists_new 0 0 1
    (Nat.lt_of_le_of_lt (TransactionMessage.length_of_encode hencode) (by decide))
  obtain ⟨target, hwrite⟩ := h.writes packet.encode
  have hpayload : packet.payload = payload := (Packet.of_new hpacket).2.2.1
  refine ⟨packet, target, ⟨hwrite, Packet.channel_of_new hpacket, ?_, hreply.carried _⟩,
    sendTransaction_ready (.inr h.active) h.lookup hsize hencode hspent hpacket hwrite⟩
  rw [hpayload]
  exact TransactionMessage.decode_encode hencode

omit [ByteTransport T] in
/-- The steps of an answer that is the only step. -/
theorem since_push_self (w : LinkRun T) (event : Event) (after : D4Link T) :
    ((w.push event after).since w).map Step.event = [event] := by
  rw [Recorded.since_push List.prefix_rfl, Recorded.since_self]
  rfl

omit [ByteTransport T] in
theorem since_push_push (w : LinkRun T) (event event' : Event) (after after' : D4Link T) :
    (((w.push event after).push event' after').since w).map Step.event = [event, event'] := by
  rw [Recorded.since_push (List.prefix_append _ _), List.map_append, since_push_self]
  rfl

theorem Carried.answered {v : LinkRun T} {packet : Packet} {target : T}
    {reply : TransactionMessage} (h : Carried command w.state packet target reply)
    (hrun : handlePeerTransaction command w = (.ok (), v))
    (hwritten : ((v.since w).map Step.event).filter Event.isWrite = [.wrote packet])
    (htarget : v.state.target = target)
    (hafter : v.state = ({ w.state with target := target }.setChannel .transaction
      { state with credit := if command.code = 0 then state.credit else state.credit - 1 }).obey
        command) : Answered command state w v packet reply where
  run := hrun
  written := hwritten
  target := by rw [htarget, h.target]
  channel := h.channel
  decode := h.decode
  reply := h.reply
  after := by rw [htarget, hafter]

/-- A command that asks for its answer only. -/
theorem Answering.answered_of_send (h : Answering w.state state) (message : TransactionMessage)
    {consumeCredit : Bool} {payload : List UInt8}
    (hrun : handlePeerTransaction command w = sendTransaction message consumeCredit w)
    (hspent : spent consumeCredit state.credit =
      some (if command.code = 0 then state.credit else state.credit - 1))
    (hobey : ∀ link : D4Link T, link.obey command = link)
    (hencode : message.encode w.state.revision = .ok payload)
    (hreply : RepliesTo command message) :
    ∃ v packet reply, Answered command state w v packet reply := by
  obtain ⟨packet, target, hcarried, hsend⟩ := h.send command message hencode hreply hspent
  exact ⟨_, packet, _, hcarried.answered (hrun.trans hsend)
    (congrArg (List.filter Event.isWrite) (since_push_self w _ _)) rfl (hobey _).symm⟩

/-! ### The commands -/

theorem Answering.init (h : Answering w.state state) (revision : ProtocolRevision) :
    ∃ v packet reply, Answered (.init revision) state w v packet reply := by
  have hrun : handlePeerTransaction (.init revision) w =
      sendTransaction (.initReply 0x0b w.state.revision) false w := by
    rw [handlePeerTransaction, bind_run_ok (Program.observe_run w)]
    exact congrFun (if_neg (by rw [h.active]; decide)) w
  exact h.answered_of_send _ hrun rfl (fun _ ↦ rfl) rfl
    (.of_codes 0x00 0x80 rfl rfl (by decide) rfl rfl)

theorem Answering.openChannel (h : Answering w.state state) (peerSocket sourceSocket : UInt8)
    (maxPacketSize maxServiceSize maxCredit : UInt16) (initialCredit : Option UInt16) :
    ∃ v packet reply, Answered (.openChannel peerSocket sourceSocket maxPacketSize maxServiceSize
      maxCredit initialCredit) state w v packet reply := by
  have hspent := spent_true h.credit
  have hencode (result : UInt8) (packetSize serviceSize credit granted : UInt16) :
      ∃ payload, (TransactionMessage.openChannelReply result peerSocket sourceSocket packetSize
        serviceSize credit granted).encode w.state.revision = .ok payload := by
    cases w.state.revision <;> exact ⟨_, rfl⟩
  rcases hlookup : w.state.channels ⟨peerSocket, sourceSocket⟩ with _ | entry
  · obtain ⟨payload, hpayload⟩ := hencode 0x0d 0 0 0 0
    refine h.answered_of_send _ ?_ hspent (fun _ ↦ rfl) hpayload
      (.of_codes 0x01 0x81 rfl rfl (by decide) rfl rfl)
    rw [handlePeerTransaction, bind_run_ok (Program.observe_run w)]
    dsimp only
    rw [handlePeerOpen, bind_run_ok (Program.observe_run w), hlookup]
  · obtain ⟨payload, hpayload⟩ := hencode 0 (min entry.maxPacketSize maxPacketSize)
      (min entry.maxServiceSize maxServiceSize) entry.maxCredit 0
    refine h.answered_of_send _ ?_ hspent (fun _ ↦ rfl) hpayload
      (.of_codes 0x01 0x81 rfl rfl (by decide) rfl rfl)
    rw [handlePeerTransaction, bind_run_ok (Program.observe_run w)]
    dsimp only
    rw [handlePeerOpen, bind_run_ok (Program.observe_run w), hlookup]

theorem Answering.creditRequest (h : Answering w.state state) (peerSocket sourceSocket : UInt8)
    (maxCredit : UInt16) : ∃ v packet reply,
      Answered (.creditRequest peerSocket sourceSocket maxCredit) state w v packet reply :=
  h.answered_of_send (.creditRequestReply 0 peerSocket sourceSocket 0) rfl
    (spent_true h.credit) (fun _ ↦ rfl) rfl (.of_codes 0x04 0x84 rfl rfl (by decide) rfl rfl)

theorem Answering.getSocketId (h : Answering w.state state) (serviceName : String) :
    ∃ v packet reply, Answered (.getSocketId serviceName) state w v packet reply :=
  h.answered_of_send (.getSocketIdReply 0x0a 0 serviceName) rfl
    (spent_true h.credit) (fun _ ↦ rfl) rfl (.of_codes 0x09 0x89 rfl rfl (by decide) rfl rfl)

theorem Answering.getServiceName (h : Answering w.state state) (socketId : UInt8) :
    ∃ v packet reply, Answered (.getServiceName socketId) state w v packet reply := by
  have hcode : (0x0a : UInt8) ||| 0x80 = 0x8a := by decide
  exact h.answered_of_send (.getServiceNameReply 0x0a socketId "") rfl
    (spent_true h.credit) (fun _ ↦ rfl) rfl ⟨hcode.symm, rfl, fun _ hsocket ↦ hsocket⟩

/-- The answer is written first, and the channel, if there is one, closed after it. -/
theorem Answering.closeChannel (h : Answering w.state state) (peerSocket sourceSocket : UInt8) :
    ∃ v packet reply,
      Answered (.closeChannel peerSocket sourceSocket) state w v packet reply := by
  set channel : ChannelId := ⟨peerSocket, sourceSocket⟩ with hchannel
  set result : UInt8 := if channel = .transaction then 0x03
    else if (w.state.channels channel).isSome then 0 else 0x08 with hresult
  obtain ⟨packet, target, hcarried, hsend⟩ := h.send
    (.closeChannel peerSocket sourceSocket) (.closeChannelReply result peerSocket sourceSocket) rfl
    (.of_codes 0x02 0x82 rfl rfl (by decide) rfl rfl) (spent_true h.credit)
  set sent := { w.state with target := target }.setChannel .transaction
    { state with credit := state.credit - 1 } with hsent
  have hrun : handlePeerTransaction (.closeChannel peerSocket sourceSocket) w =
      Program.when (result = 0) (atomic (fun _ ↦ .closed channel .peer)
        (updateChannel channel "channel existence was checked before closing" fun state ↦
          pure { state with isOpen := false })) (w.push (.wrote packet) sent) := by
    rw [handlePeerTransaction, bind_run_ok (Program.observe_run w)]
    exact bind_run_ok hsend
  by_cases hkept : channel = .transaction ∨ w.state.channels channel = none
  case pos =>
    have hrefused : result ≠ 0 := by
      rw [hresult]
      split
      · decide
      · rw [hkept.resolve_left ‹_›]
        decide
    have hsame : channel = .transaction ∨ sent.channels channel = none := by
      refine or_iff_not_imp_left.2 fun hservice ↦ ?_
      rw [hsent, setChannel_channels_of_ne _ _ hservice]
      exact hkept.resolve_left hservice
    rw [Program.when, if_neg hrefused] at hrun
    refine ⟨_, packet, _, hcarried.answered hrun ?_ rfl (obey_closeChannel_self hsame).symm⟩
    rw [since_push_self]
    rfl
  case neg =>
    rw [not_or] at hkept
    obtain ⟨hservice, hsome⟩ := hkept
    obtain ⟨entry, hentry⟩ := Option.ne_none_iff_exists'.1 hsome
    have hzero : result = 0 := by
      rw [hresult, if_neg hservice, hentry]
      rfl
    have hlookup : sent.channels channel = some entry := by
      rw [hsent, setChannel_channels_of_ne _ _ hservice]
      exact hentry
    have hblock : updateChannel channel "channel existence was checked before closing"
        (fun state ↦ pure { state with isOpen := false }) sent = (.ok (), _) :=
      updateChannel_pure hlookup
    have hclose := Program.atomic_run (fun _ ↦ Event.closed channel .peer) _
      (w.push (.wrote packet) sent) hblock
    rw [Program.when, if_pos hzero, hclose] at hrun
    refine ⟨_, packet, _, hcarried.answered hrun ?_ rfl (obey_closeChannel hservice hlookup).symm⟩
    rw [since_push_push]
    rfl

/-- The credit is added first, perhaps to the channel that pays for the answer. -/
theorem Answering.creditCommand (h : Answering w.state state) {peerSocket sourceSocket : UInt8}
    {addedCredit : UInt16} {entry : ChannelState}
    (hlookup : w.state.channels ⟨peerSocket, sourceSocket⟩ = some entry)
    (hfits : entry.credit.toNat + addedCredit.toNat < 65536) : ∃ v packet reply,
      Answered (.credit peerSocket sourceSocket addedCredit) state w v packet reply := by
  have hsum : entry.credit.checkedAdd addedCredit = some (entry.credit + addedCredit) :=
    if_pos hfits
  set channel : ChannelId := ⟨peerSocket, sourceSocket⟩ with hchannel
  set granted := w.state.setChannel channel { entry with credit := entry.credit + addedCredit }
    with hgranted
  set v := w.push (.granted channel addedCredit .peer) granted with hv
  have hrun : handlePeerTransaction (.credit peerSocket sourceSocket addedCredit) w =
      sendTransaction (.creditReply 0 peerSocket sourceSocket) true v := by
    have hblock : updateChannel channel "channel existence was checked before granting credit"
        (fun state ↦ pure { state with credit := entry.credit + addedCredit }) w.state =
          (.ok (), _) :=
      updateChannel_pure hlookup
    have hgrant := Program.atomic_run (fun _ ↦ Event.granted channel addedCredit .peer) _ w hblock
    rw [handlePeerTransaction, bind_run_ok (Program.observe_run w)]
    dsimp only
    rw [hlookup, Program.orThrow_some, Program.pure_bind, hsum, Program.orThrow_some,
      Program.pure_bind, bind_run_ok hgrant]
  obtain ⟨paying, hpaying, hsize, hpays, -⟩ :=
    obey_credit_spent h.lookup h.credit hlookup hfits
  have hready : Answering v.state paying :=
    ⟨h.active, hpaying, hsize.trans h.packetSize, hpays, h.writes⟩
  obtain ⟨packet, target, hcarried, hsend⟩ := hready.send
    (.credit peerSocket sourceSocket addedCredit) (.creditReply 0 peerSocket sourceSocket) rfl
    (.of_codes 0x03 0x83 rfl rfl (by decide) rfl rfl) (spent_true hpays)
  have hcarried' : Carried (.credit peerSocket sourceSocket addedCredit) w.state packet target _ :=
    ⟨hcarried.target, hcarried.channel, hcarried.decode, hcarried.reply⟩
  have htransaction :
      ({ w.state with target := target } : D4Link T).channels .transaction = some state := h.lookup
  obtain ⟨paying', hpaying', -, -, hcommute⟩ :=
    obey_credit_spent htransaction h.credit hlookup hfits
  obtain rfl : paying = paying' := Option.some.inj (hpaying.symm.trans hpaying')
  refine ⟨_, packet, _, hcarried'.answered (hrun.trans hsend) ?_ rfl hcommute⟩
  rw [hv, since_push_push]
  rfl

/-- The answer is written first. Whether the conversation is exiting then or at its end depends on
the host. -/
theorem Answering.exit (h : Answering w.state state) :
    ∃ v packet reply, Answered .exit state w v packet reply := by
  obtain ⟨packet, target, hcarried, hsend⟩ := h.send .exit (.exitReply 0) rfl
    (.of_codes 0x08 0x88 rfl rfl (by decide) rfl rfl) (spent_true h.credit)
  set sent := { w.state with target := target }.setChannel .transaction
    { state with credit := state.credit - 1 } with hsent
  have hlookup : sent.channels .transaction = some { state with credit := state.credit - 1 } :=
    setChannel_channels_self _ _ _
  have hobey := obey_exit hlookup
  have hrun : handlePeerTransaction .exit w =
      (if sent.exitRequested then atomic (fun _ ↦ .exiting)
          (Program.modify fun link ↦ { link with conversation := .exiting })
        else atomic (fun _ ↦ .terminated) terminateConversation) (w.push (.wrote packet) sent) := by
    rw [handlePeerTransaction, bind_run_ok (Program.observe_run w)]
    dsimp only
    rw [bind_run_ok hsend, bind_run_ok (Program.observe_run _)]
    rfl
  by_cases hrequested : sent.exitRequested = true
  case pos =>
    rw [if_pos hrequested] at hrun hobey
    refine ⟨_, packet, _, hcarried.answered hrun ?_ rfl hobey.symm⟩
    rw [since_push_push]
    rfl
  case neg =>
    have hend := Program.atomic_run (fun _ ↦ Event.terminated) _ (w.push (.wrote packet) sent)
      (terminateConversation_run hlookup)
    rw [if_neg hrequested] at hrun hobey
    refine ⟨_, packet, _, hcarried.answered (hrun.trans hend) ?_ rfl hobey.symm⟩
    rw [since_push_push]
    rfl

/-- One case for each command. -/
theorem Answering.answered (h : Answering w.state state) (hcommand : command.isCommand = true)
    (herror : ∀ peerSocket sourceSocket errorCode,
      command ≠ .error peerSocket sourceSocket errorCode)
    (hgrant : ∀ peerSocket sourceSocket addedCredit,
      command = .credit peerSocket sourceSocket addedCredit →
        ∃ entry, w.state.channels ⟨peerSocket, sourceSocket⟩ = some entry ∧
          entry.credit.toNat + addedCredit.toNat < 65536) :
    ∃ v packet reply, Answered command state w v packet reply := by
  cases command with
  | init revision => exact h.init revision
  | openChannel => exact h.openChannel ..
  | closeChannel peerSocket sourceSocket => exact h.closeChannel peerSocket sourceSocket
  | credit peerSocket sourceSocket addedCredit =>
    obtain ⟨entry, hlookup, hfits⟩ := hgrant _ _ _ rfl
    exact h.creditCommand hlookup hfits
  | creditRequest => exact h.creditRequest ..
  | exit => exact h.exit
  | getSocketId serviceName => exact h.getSocketId serviceName
  | getServiceName socketId => exact h.getServiceName socketId
  | error peerSocket sourceSocket errorCode => exact absurd rfl (herror _ _ _)
  | _ =>
    -- a reply is no command
    simp [TransactionMessage.isCommand, TransactionMessage.code] at hcommand

end Answers

/-- **The commands of the peer are answered.** In an active conversation, with a credit on the
transaction channel and a transport that takes what is written, every command except the report of
an error is answered with the reply to it; an added credit must be for a known channel, and fit.
The code never comes to the branch for messages that are no commands. -/
theorem handlePeerTransaction_answers [ByteTransport T] {w : LinkRun T} {state : ChannelState}
    (hactive : w.state.conversation = .active)
    (hlookup : w.state.channels .transaction = some state) (hlimit : state.maxPacketSize = 64)
    (hcredit : state.credit ≠ 0)
    (hwrites : ∀ bytes, ∃ target,
      ByteTransport.writeAll bytes w.state.target = (.ok (), target)) :
    (∀ command : TransactionMessage, command.isCommand = true →
      (∀ peerSocket sourceSocket errorCode,
        command ≠ .error peerSocket sourceSocket errorCode) →
      (∀ peerSocket sourceSocket addedCredit,
        command = .credit peerSocket sourceSocket addedCredit →
          ∃ entry, w.state.channels ⟨peerSocket, sourceSocket⟩ = some entry ∧
            entry.credit.toNat + addedCredit.toNat < 65536) →
      ∃ v packet reply, Answered command state w v packet reply) ∧
    ∀ payload command, TransactionMessage.decode payload w.state.revision = .ok command →
      command.isCommand = true →
        (handlePeerTransaction command w).1 ≠ .err .unexpectedTransactionReply := by
  have hanswering : Answering w.state state := ⟨hactive, hlookup, hlimit, hcredit, hwrites⟩
  refine ⟨fun command ↦ hanswering.answered, fun payload command _ hcommand herr ↦ ?_⟩
  by_cases herror : ∃ peerSocket sourceSocket errorCode,
      command = .error peerSocket sourceSocket errorCode
  case pos =>
    obtain ⟨peerSocket, sourceSocket, errorCode, rfl⟩ := herror
    cases herr
  by_cases hgrant : ∃ peerSocket sourceSocket addedCredit,
      command = .credit peerSocket sourceSocket addedCredit ∧
        ∀ entry, w.state.channels ⟨peerSocket, sourceSocket⟩ = some entry →
          ¬ entry.credit.toNat + addedCredit.toNat < 65536
  case pos =>
    -- the two refusals of the credit
    obtain ⟨peerSocket, sourceSocket, addedCredit, rfl, hrefused⟩ := hgrant
    rw [handlePeerTransaction, bind_run_ok (Program.observe_run w)] at herr
    dsimp only at herr
    rcases hentry : w.state.channels ⟨peerSocket, sourceSocket⟩ with _ | entry
    · rw [hentry] at herr
      cases herr
    · rw [hentry, Program.orThrow_some, Program.pure_bind, UInt16.checkedAdd,
        if_neg (hrefused entry hentry)] at herr
      cases herr
  case neg =>
    push Not at herror hgrant
    obtain ⟨v, packet, reply, hanswered⟩ := hanswering.answered hcommand herror hgrant
    rw [hanswered.run] at herr
    cases herr

/-- A link that has just begun its conversation is asked to close a channel it does not know. -/
theorem handlePeerTransaction_answers_closeChannel :
    ∃ v packet reply, Answered (.closeChannel 2 2) ⟨"(transaction channel)", 1, 64, 64, 1, true⟩
      (.start ((D4Link.new (StreamTransport.sending [])).begun .v20
        ⟨"(transaction channel)", 0, 64, 64, 1, true⟩)) v packet reply := by
  have hanswers := @handlePeerTransaction_answers StreamTransport _
    (.start ((D4Link.new (StreamTransport.sending [])).begun .v20
      ⟨"(transaction channel)", 0, 64, 64, 1, true⟩))
    ⟨"(transaction channel)", 1, 64, 64, 1, true⟩ rfl rfl rfl (by decide) fun _ ↦ ⟨_, rfl⟩
  exact hanswers.1 (.closeChannel 2 2) (by decide) (fun _ _ _ h ↦ nomatch h)
    fun _ _ _ h ↦ nomatch h

end D4Link

end Reink
