import Reink.D4.Codec
import Reink.D4.Service

/-!
# One command and its reply

A run of the link against a peer that answers what is written and sends nothing else. The peer is
any transport whose pending bytes are there to read, in pieces of whatever size (`PromptPeer`). A
link at rest has read all of them; it sends its packet, reads exactly the answering packet and is at
rest again. So a call is a function of what the peer answers, and the read boundaries, which are the
transport's choice, are gone from its result.
-/

namespace Reink

/-- A peer whose state changes only with what is written to it, and that has what it sent ready to
be read. -/
structure PromptPeer (T σ : Type) [ByteTransport T] where
  stage : T → σ
  /-- What the peer has sent and nobody has read. -/
  outbox : T → List UInt8
  /-- A read of a buffer that is not too small takes something off the outbox. -/
  read : ∀ {size : Nat} {t : T}, 256 ≤ size → outbox t ≠ [] →
    ∃ bytes t', ByteTransport.read size t = (.ok bytes, t') ∧ bytes ≠ [] ∧
      bytes ++ outbox t' = outbox t ∧ stage t' = stage t

/-- The packet of a message stays within the limit of the transaction channel. -/
theorem TransactionMessage.length_of_encode {message : TransactionMessage}
    {revision : ProtocolRevision} {payload : List UInt8}
    (h : message.encode revision = .ok payload) :
    headerLength + payload.length ≤ 64 := by
  have hshort := (TransactionMessage.encode_eq_ok.1 h).2
  rw [maxTransactionPayloadLength] at hshort
  rw [headerLength]
  omega

namespace D4Link

variable {T σ : Type} [ByteTransport T]

open Program (bind_run_ok)

/-- Nothing is pending between the link and the peer. -/
structure AtRest (peer : PromptPeer T σ) (link : D4Link T) : Prop where
  outbox : peer.outbox link.target = []
  received : link.received = []
  decoder : link.decoder = {}

variable (peer : PromptPeer T σ) {w : LinkRun T}

/-! ### Receiving -/

/-- The bytes that complete a packet bring it into the queue. -/
theorem decodeReceived_last {T : Type} (link : D4Link T) {packet : Packet} {bytes : List UInt8}
    (hpacket : packet.WellFormed) (hreceived : link.received = [])
    (hbytes : link.decoder.buffer ++ bytes = packet.encode) :
    decodeReceived bytes link =
      (.ok [packet], { link with
        decoder := {}
        received := [packet] }) := by
  unfold decodeReceived
  rw [PacketDecoder.push_last hpacket hbytes, hreceived]
  rfl

/-- The bytes of a packet of which more are to come wait in the decoder. -/
theorem decodeReceived_part {T : Type} (link : D4Link T) {packet : Packet}
    {bytes rest : List UInt8} (hpacket : packet.WellFormed) (hreceived : link.received = [])
    (hbytes : link.decoder.buffer ++ bytes ++ rest = packet.encode) (hrest : rest ≠ []) :
    decodeReceived bytes link =
      (.ok [], { link with
        decoder := ⟨link.decoder.buffer ++ bytes⟩
        received := [] }) := by
  unfold decodeReceived
  rw [PacketDecoder.push_part hpacket hbytes hrest, hreceived]
  rfl

/-- A packet that is pending is taken, in however many reads. By induction on the bound, which the
pending bytes do not exceed. -/
theorem readPacket_prompt {packet : Packet} {bound : Nat} (empties : Nat)
    (hpacket : packet.WellFormed) (hreceived : w.state.received = [])
    (hbytes : w.state.decoder.buffer ++ peer.outbox w.state.target = packet.encode)
    (hpending : peer.outbox w.state.target ≠ [])
    (hbound : (peer.outbox w.state.target).length ≤ bound) :
    ∃ v target, readPacket bound empties w = (.ok packet, v) ∧
      v.state = { w.state with
        target := target
        decoder := {} } ∧
      peer.stage target = peer.stage w.state.target ∧ peer.outbox target = [] := by
  induction bound generalizing w empties with
  | zero => exact absurd (List.length_eq_zero_iff.1 (Nat.le_zero.1 hbound)) hpending
  | succ bound ih =>
    obtain ⟨bytes, target, hread, hne, hrest, hstage⟩ :=
      peer.read (show 256 ≤ 4096 by decide) hpending
    have hreadTarget : readTarget 4096 w.state =
        (.ok bytes, { w.state with target := target }) := by
      rw [readTarget, hread]
    rw [← hrest, ← List.append_assoc] at hbytes
    rw [readPacket, bind_run_ok (Program.atomic_run readEvent _ w hreadTarget), if_neg hne]
    by_cases hlast : peer.outbox target = []
    · -- the packet is complete, and goes through the queue
      rw [hlast, List.append_nil] at hbytes
      have hdecode := decodeReceived_last { w.state with target := target } hpacket hreceived hbytes
      rw [bind_run_ok (Program.atomic_run decodeEvent _ _ hdecode), bind_run_ok (popFront_cons rfl)]
      refine ⟨_, target, rfl, ?_, hstage, hlast⟩
      rw [← hreceived]
      rfl
    · -- more is to come, and less is pending
      have hdecode := decodeReceived_part { w.state with target := target } hpacket hreceived
        hbytes hlast
      rw [bind_run_ok (Program.atomic_run decodeEvent _ _ hdecode), bind_run_ok (popFront_nil rfl)]
      have hshorter : (peer.outbox target).length ≤ bound := by
        have hlength := congrArg List.length hrest
        have hpos := List.length_pos_of_ne_nil hne
        rw [List.length_append] at hlength
        omega
      obtain ⟨v, target', hrun, hstate, hstage', houtbox⟩ :=
        ih (w := (w.push (.read bytes) { w.state with target := target }).push (.decoded [])
          { w.state with
            target := target
            decoder := ⟨w.state.decoder.buffer ++ bytes⟩
            received := [] }) 0 rfl hbytes hlast hshorter
      refine ⟨v, target', hrun, ?_, hstage'.trans hstage, houtbox⟩
      rw [hstate, ← hreceived]
      rfl

theorem nextPacket_prompt {packet : Packet} {bound : Nat} (hpacket : packet.WellFormed)
    (hreceived : w.state.received = []) (hdecoder : w.state.decoder = {})
    (hbytes : peer.outbox w.state.target = packet.encode)
    (hbound : packet.encode.length ≤ bound) :
    ∃ v target, nextPacket bound w = (.ok packet, v) ∧
      v.state = { w.state with target := target } ∧
      peer.stage target = peer.stage w.state.target ∧ peer.outbox target = [] := by
  have hpending : peer.outbox w.state.target ≠ [] := by
    intro hnil
    have hlength := congrArg List.length (hbytes.symm.trans hnil)
    rw [Packet.length_encode] at hlength
    exact absurd hlength (by simp [headerLength])
  obtain ⟨v, target, hrun, hstate, hend⟩ := readPacket_prompt peer 0 hpacket hreceived
    (by rw [hdecoder, List.nil_append, hbytes]) hpending (show _ ≤ bound by rwa [hbytes])
  refine ⟨v, target, ?_, ?_, hend⟩
  · rw [nextPacket, bind_run_ok (popFront_nil hreceived)]
    exact hrun
  · rw [hstate, ← hdecoder]

/-- Taking the packet and the credit on it, as every receive loop does first. -/
theorem credited_prompt {channel : ChannelId} {answer : Packet} {state : ChannelState}
    {credit : UInt16} {bound : Nat} (awaited : Option ChannelId) (hanswer : answer.WellFormed)
    (hroute : answer.channel = channel) (hreceived : w.state.received = [])
    (hdecoder : w.state.decoder = {}) (hbytes : peer.outbox w.state.target = answer.encode)
    (hlookup : w.state.channels channel = some state)
    (hsize : answer.header.length ≤ state.maxServiceSize)
    (hsum : state.credit.checkedAdd answer.header.credit.toUInt16 = some credit)
    (hbound : answer.encode.length ≤ bound) :
    ∃ v v' target, nextPacket bound (w.push (.polled awaited) w.state) = (.ok answer, v) ∧
      v.state = { w.state with target := target } ∧ applyCredit answer v = (.ok (), v') ∧
      v'.state = { w.state with target := target }.setChannel channel
        { state with credit := credit } ∧
      peer.stage target = peer.stage w.state.target ∧ peer.outbox target = [] := by
  obtain ⟨v, target, hnext, hstate, hend⟩ := nextPacket_prompt peer
    (w := w.push (.polled awaited) w.state) hanswer hreceived hdecoder hbytes hbound
  rw [Recorded.push_state] at hstate
  have happly := applyCredit_run (w := v) (by rw [hroute, hstate]; exact hlookup) hsize hsum
  refine ⟨v, _, target, hnext, hstate, happly, ?_, hend⟩
  rw [Recorded.push_state, hstate, hroute]

/-! ### Sending -/

/-- What is left of a credit. -/
def spent (consumeCredit : Bool) (credit : UInt16) : Option UInt16 :=
  if consumeCredit then credit.checkedSub 1 else some credit

/-- A packet that passes the checks of `send` is written, and its credit is spent. -/
theorem send_ready {channel : ChannelId} {payload : List UInt8} {consumeCredit : Bool}
    {packet : Packet} {state : ChannelState} {credit : UInt16} {target : T}
    (hmay : w.state.MaySend) (hlookup : w.state.channels channel = some state)
    (hopen : channel ≠ .transaction → state.isOpen = true)
    (hspent : spent consumeCredit state.credit = some credit)
    (hsize : headerLength + payload.length ≤ state.maxPacketSize.toNat)
    (hpacket : Packet.new channel.peerSocket channel.sourceSocket payload 1 0 = .ok packet)
    (hwrite : ByteTransport.writeAll packet.encode w.state.target = (.ok (), target)) :
    send channel payload consumeCredit w = (.ok (), w.push (.wrote packet)
      ({ w.state with target := target }.setChannel channel { state with credit := credit })) := by
  have hcredit : ¬ (consumeCredit = true ∧ state.credit = 0) := by
    rintro ⟨rfl, hzero⟩
    have hnone : UInt16.checkedSub 0 1 = none := by decide
    rw [spent, if_pos rfl, hzero, hnone] at hspent
    cases hspent
  have hwrite' : writeAll packet w.state = (.ok (), { w.state with target := target }) := by
    rw [writeAll, hwrite]
  have hblock : writeAndSpend packet channel consumeCredit w.state = (.ok (),
      { w.state with target := target }.setChannel channel { state with credit := credit }) := by
    rcases writeAndSpend_run hlookup (fun hconsume hzero ↦ hcredit ⟨hconsume, hzero⟩) hwrite' with
      ⟨rfl, hrun⟩ | ⟨rfl, credit', hdifference, hrun⟩
    · obtain rfl : state.credit = credit := Option.some.inj hspent
      have hlookup' :
          ({ w.state with target := target } : D4Link T).channels channel = some state := hlookup
      rw [hrun, setChannel_self hlookup']
    · rw [spent, if_pos rfl, hdifference] at hspent
      rw [hrun, Option.some.inj hspent]
  -- the checks are passed in the order of the source
  unfold send
  rw [bind_run_ok (Program.observe_run w), bind_run_ok (gate_of_maySend hmay), hlookup,
    Program.orThrow_some, Program.pure_bind, Program.rejectIf_neg fun h ↦ h.2 (hopen h.1),
    Program.pure_bind, Program.rejectIf_neg hcredit, Program.pure_bind,
    Program.rejectIf_neg (Nat.not_lt.2 hsize), Program.pure_bind, hpacket, Program.ofExcept_ok,
    Program.pure_bind, Program.atomic_run _ _ w hblock]
  rfl

/-- A message that can be encoded is sent as `send_ready` has it. -/
theorem sendTransaction_ready {message : TransactionMessage} {payload : List UInt8}
    {consumeCredit : Bool} {packet : Packet} {state : ChannelState} {credit : UInt16} {target : T}
    (hmay : w.state.MaySend) (hlookup : w.state.channels .transaction = some state)
    (hpacketSize : 64 ≤ state.maxPacketSize.toNat)
    (hencode : message.encode w.state.revision = .ok payload)
    (hspent : spent consumeCredit state.credit = some credit)
    (hpacket : Packet.new 0 0 payload 1 0 = .ok packet)
    (hwrite : ByteTransport.writeAll packet.encode w.state.target = (.ok (), target)) :
    sendTransaction message consumeCredit w = (.ok (), w.push (.wrote packet)
      ({ w.state with target := target }.setChannel .transaction
        { state with credit := credit })) := by
  have hshort : payload.length ≤ 58 := (TransactionMessage.encode_eq_ok.1 hencode).2
  have hsize := (TransactionMessage.length_of_encode hencode).trans hpacketSize
  rw [sendTransaction, bind_run_ok (Program.observe_run w), hencode, Program.ofExcept_ok,
    Program.pure_bind, Program.rejectIf_neg (Nat.not_lt.2 hshort), Program.pure_bind,
    send_ready hmay hlookup (fun h ↦ absurd rfl h) hspent hsize hpacket hwrite]

/-! ### A command and its reply -/

/-- The packet carries the reply to the command. -/
structure IsReply (revision : ProtocolRevision) (message reply : TransactionMessage)
    (packet : Packet) : Prop where
  wellFormed : packet.WellFormed
  channel : packet.channel = .transaction
  decode : TransactionMessage.decode packet.payload revision = .ok reply
  isCommand : reply.isCommand = false
  code : reply.code = message.replyCode

/-- The receive loop of a command takes the reply, and the credit on it. -/
theorem transactionLoop_prompt {message reply : TransactionMessage} {answer : Packet}
    {state : ChannelState} {credit : UInt16} {readBound : Nat} (bound : Nat)
    (hreply : IsReply w.state.revision message reply answer)
    (hreceived : w.state.received = []) (hdecoder : w.state.decoder = {})
    (hbytes : peer.outbox w.state.target = answer.encode)
    (hlookup : w.state.channels .transaction = some state)
    (hservice : answer.header.length ≤ state.maxServiceSize)
    (hsum : state.credit.checkedAdd answer.header.credit.toUInt16 = some credit)
    (hbound : answer.encode.length ≤ readBound) :
    ∃ v target, transactionLoop message.replyCode readBound (bound + 1) w = (.ok reply, v) ∧
      v.state = { w.state with target := target }.setChannel .transaction
        { state with credit := credit } ∧
      peer.stage target = peer.stage w.state.target ∧ peer.outbox target = [] := by
  obtain ⟨v, v', target, hnext, -, happly, hstate, hend⟩ := credited_prompt peer none
    hreply.wellFormed hreply.channel hreceived hdecoder hbytes hlookup hservice hsum hbound
  have hroute : answer.header.channelId = (0, 0) :=
    (Packet.channelId_eq_iff answer).2 hreply.channel
  have hdecode : TransactionMessage.decode answer.payload v'.state.revision = .ok reply := by
    rw [hstate]
    exact hreply.decode
  refine ⟨v'.push (.answered none answer) v'.state, target, ?_, hstate, hend⟩
  rw [transactionLoop, bind_run_ok (Program.mark_run _ w), bind_run_ok hnext,
    if_neg (not_not.2 hroute), bind_run_ok happly, bind_run_ok (Program.observe_run _), hdecode,
    Program.ofExcept_ok, Program.pure_bind, hreply.isCommand, if_neg Bool.false_ne_true,
    if_pos hreply.code, bind_run_ok (Program.mark_run _ _)]
  rfl

/-- **A command is answered.** A link at rest sends the command, and the peer's packet carries the
reply: the call gives it, the link is at rest again, and of its table only the credit of the
transaction channel has changed, by what the command cost and the reply carries. -/
theorem transaction_prompt {message reply : TransactionMessage} {consumeCredit : Bool}
    {payload : List UInt8} {packet answer : Packet} {state : ChannelState} {left credit : UInt16}
    {target : T} {bound : Nat} (hrest : AtRest peer w.state) (hmay : w.state.MaySend)
    (hlookup : w.state.channels .transaction = some state)
    (hpacketSize : 64 ≤ state.maxPacketSize.toNat)
    (hencode : message.encode w.state.revision = .ok payload)
    (hpacket : Packet.new 0 0 payload 1 0 = .ok packet)
    (hspent : spent consumeCredit state.credit = some left)
    (hwrite : ByteTransport.writeAll packet.encode w.state.target = (.ok (), target))
    (hanswer : peer.outbox target = answer.encode)
    (hreply : IsReply w.state.revision message reply answer)
    (hservice : answer.header.length ≤ state.maxServiceSize)
    (hsum : left.checkedAdd answer.header.credit.toUInt16 = some credit)
    (hbound : answer.encode.length < bound) :
    ∃ v target', transaction bound message consumeCredit w = (.ok reply, v) ∧
      v.state = { w.state with target := target' }.setChannel .transaction
        { state with credit := credit } ∧
      peer.stage target' = peer.stage target ∧ AtRest peer v.state := by
  obtain ⟨bound, rfl⟩ : ∃ n, bound = n + 1 := ⟨bound - 1, by omega⟩
  have hsent := sendTransaction_ready hmay hlookup hpacketSize hencode hspent hpacket hwrite
  set w₁ : LinkRun T := w.push (.wrote packet) ({ w.state with target := target }.setChannel
    .transaction { state with credit := left }) with hw₁
  obtain ⟨v, target', hloop, hstate, hstage, houtbox⟩ := transactionLoop_prompt peer
    (w := w₁.push (.awaiting none) w₁.state) bound hreply hrest.received hrest.decoder hanswer
    (setChannel_channels_self _ _ _) hservice hsum (Nat.le_of_lt hbound)
  refine ⟨v, target', ?_, ?_, hstage, ?_⟩
  · rw [transaction, bind_run_ok hsent, bind_run_ok (Program.mark_run _ w₁), hloop]
  · rw [hstate]
    simp [hw₁, setChannel]
  · rw [hstate]
    exact ⟨houtbox, hrest.received, hrest.decoder⟩

/-! ### A request and its answer -/

/-- The receive loop of a request takes the answer, and the credit on it. -/
theorem requestLoop_prompt {channel : ChannelId} {answer : Packet} {state : ChannelState}
    {credit : UInt16} {readBound : Nat} (bound : Nat) (hservice : channel ≠ .transaction)
    (hactive : w.state.conversation = .active) (hanswer : answer.WellFormed)
    (hroute : answer.channel = channel)
    (hreceived : w.state.received = []) (hdecoder : w.state.decoder = {})
    (hbytes : peer.outbox w.state.target = answer.encode)
    (hlookup : w.state.channels channel = some state)
    (hsize : answer.header.length ≤ state.maxServiceSize)
    (hsum : state.credit.checkedAdd answer.header.credit.toUInt16 = some credit)
    (hbound : answer.encode.length ≤ readBound) :
    ∃ v target, requestLoop channel readBound (bound + 1) w = (.ok answer.payload, v) ∧
      v.state = { w.state with target := target }.setChannel channel
        { state with credit := credit } ∧
      peer.stage target = peer.stage w.state.target ∧ peer.outbox target = [] := by
  obtain ⟨v, v', target, hnext, hstate, happly, hstate', hend⟩ := credited_prompt peer
    (some channel) hanswer hroute hreceived hdecoder hbytes hlookup hsize hsum hbound
  have hchannel : answer.header.channelId ≠ (0, 0) :=
    fun h ↦ hservice (hroute.symm.trans ((Packet.channelId_eq_iff answer).1 h))
  have hrunning : v.state.conversation ≠ .terminated := by
    rw [hstate]
    show w.state.conversation ≠ .terminated
    rw [hactive]
    decide
  refine ⟨v'.push (.answered (some channel) answer) v'.state, target, ?_, hstate', hend⟩
  rw [requestLoop, bind_run_ok (Program.mark_run _ w), bind_run_ok hnext, if_neg hchannel,
    bind_run_ok (Program.observe_run v), if_neg hrunning, bind_run_ok happly, if_pos hroute,
    bind_run_ok (Program.mark_run _ _)]
  rfl

/-- With credit at hand none is asked for. -/
theorem ensureChannelCredit_ready {channel : ChannelId} {state : ChannelState} {bound : Nat}
    (hlookup : w.state.channels channel = some state) (hcredit : state.credit > 0) :
    ensureChannelCredit bound channel w = (.ok (), w) := by
  rw [ensureChannelCredit, ensureCreditLoop, bind_run_ok (Program.observe_run w), hlookup,
    Program.orThrow_some, Program.pure_bind, if_pos hcredit]
  rfl

/-- Credit that is asked for and granted is added. -/
theorem ensureChannelCredit_granted {channel : ChannelId} {state : ChannelState}
    {addedCredit : UInt16} {bound : Nat} {v : LinkRun T}
    (hlookup : w.state.channels channel = some state) (hcredit : state.credit = 0)
    (hreply : transaction bound (.creditRequest channel.peerSocket channel.sourceSocket
      state.maxCredit) true w =
        (.ok (.creditRequestReply 0 channel.peerSocket channel.sourceSocket addedCredit), v))
    (hkept : v.state.channels channel = some state)
    (hsum : state.credit.checkedAdd addedCredit = some addedCredit) (hadded : addedCredit > 0) :
    ensureChannelCredit bound channel w =
      (.ok (), v.push (.granted channel addedCredit .host)
        (v.state.setChannel channel { state with credit := addedCredit })) := by
  have hgrant : grantCredit channel addedCredit v.state =
      (.ok (), v.state.setChannel channel { state with credit := addedCredit }) := by
    rw [grantCredit, updateChannel_some hkept, hsum]
    rfl
  rw [ensureChannelCredit, ensureCreditLoop, bind_run_ok (Program.observe_run w), hlookup,
    Program.orThrow_some, Program.pure_bind, if_neg (by simp [hcredit]), bind_run_ok hreply]
  dsimp only
  rw [Program.rejectIf_neg (by simp), Program.pure_bind,
    bind_run_ok (Program.atomic_run _ _ v hgrant), bind_run_ok (Program.observe_run _)]
  rw [if_pos (by simp [hadded])]
  rfl

/-- Once the credit is ensured, a request goes on as one that has it. -/
theorem request_of_ensured {channel : ChannelId} {payload : List UInt8} {state : ChannelState}
    {bound : Nat} {v : LinkRun T} (hactive : w.state.conversation = .active)
    (hensure : ensureChannelCredit bound channel w = (.ok (), v))
    (hactive' : v.state.conversation = .active)
    (hlookup : v.state.channels channel = some state) (hcredit : state.credit > 0) :
    request bound channel payload w = request bound channel payload v := by
  unfold request
  rw [bind_run_ok (requireActiveConversation_of_active hactive), bind_run_ok hensure,
    bind_run_ok (requireActiveConversation_of_active hactive'),
    bind_run_ok (ensureChannelCredit_ready hlookup hcredit)]

/-- **A request is answered.** A link at rest with credit on the channel sends the request, and the
peer's packet on the channel is the answer. -/
theorem request_prompt {channel : ChannelId} {payload : List UInt8} {packet answer : Packet}
    {state : ChannelState} {left credit : UInt16} {target : T} {bound : Nat}
    (hrest : AtRest peer w.state) (hactive : w.state.conversation = .active)
    (hservice : channel ≠ .transaction) (hlookup : w.state.channels channel = some state)
    (hopen : state.isOpen = true) (hspent : state.credit.checkedSub 1 = some left)
    (hsize : headerLength + payload.length ≤ state.maxPacketSize.toNat)
    (hpacket : Packet.new channel.peerSocket channel.sourceSocket payload 1 0 = .ok packet)
    (hwrite : ByteTransport.writeAll packet.encode w.state.target = (.ok (), target))
    (hanswer : peer.outbox target = answer.encode) (hwellFormed : answer.WellFormed)
    (hroute : answer.channel = channel) (hlimit : answer.header.length ≤ state.maxServiceSize)
    (hsum : left.checkedAdd answer.header.credit.toUInt16 = some credit)
    (hbound : answer.encode.length < bound) :
    ∃ v target', request bound channel payload w = (.ok answer.payload, v) ∧
      v.state = { w.state with target := target' }.setChannel channel
        { state with credit := credit } ∧
      peer.stage target' = peer.stage target ∧ AtRest peer v.state := by
  obtain ⟨bound, rfl⟩ : ∃ n, bound = n + 1 := ⟨bound - 1, by omega⟩
  have hcredit : state.credit > 0 := by
    have := UInt16.toNat_of_checkedSub_one hspent
    exact UInt16.lt_iff_toNat_lt.2 (by simp only [UInt16.reduceToNat]; omega)
  have hspent' : spent true state.credit = some left := hspent
  have hsend := send_ready (.inr hactive) hlookup (fun _ ↦ hopen) hspent'
    hsize hpacket hwrite
  set w₁ : LinkRun T := w.push (.wrote packet) ({ w.state with target := target }.setChannel
    channel { state with credit := left }) with hw₁
  obtain ⟨v, target', hloop, hstate, hstage, houtbox⟩ := requestLoop_prompt peer
    (w := w₁.push (.awaiting (some channel)) w₁.state) bound hservice hactive hwellFormed hroute
    hrest.received hrest.decoder hanswer (setChannel_channels_self _ _ _) hlimit hsum
    (Nat.le_of_lt hbound)
  refine ⟨v, target', ?_, ?_, hstage, ?_⟩
  · rw [request, bind_run_ok (requireActiveConversation_of_active hactive),
      bind_run_ok (ensureChannelCredit_ready hlookup hcredit), bind_run_ok hsend,
      bind_run_ok (Program.mark_run _ w₁), hloop]
  · rw [hstate]
    simp [hw₁, setChannel]
  · rw [hstate]
    exact ⟨houtbox, hrest.received, hrest.decoder⟩

end D4Link

end Reink
