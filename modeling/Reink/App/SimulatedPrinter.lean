import Reink.App.Dialogue
import Reink.Core.Request

/-!
# A simulated printer

A transport with a printer behind it that reads what is written with the decoders of the code and
answers by the dialogue. Its bytes come three at a time.
-/

namespace Reink

open Printer (Stage)

/-- A printer in a session, with its choices. -/
structure SimulatedPrinter (p : Printer) where
  stage : Stage
  /-- The bytes that are still to be read. -/
  outbox : List UInt8
  /-- The credit it grants when the channel is opened. -/
  granted : UInt16
  /-- The credit it returns with the reply to a request. -/
  piggyback : UInt8
  granted_le : granted ≤ 1
  piggyback_le : piggyback ≤ 1

namespace SimulatedPrinter

variable {p : Printer}

/-- The stage that a command leads to, and the reply to it. -/
def reply (s : SimulatedPrinter p) : TransactionMessage → Option (Stage × TransactionMessage)
  | .init offered =>
    if offered = p.revision then some (.active, .initReply 0 p.revision)
    else some (.entered, .initReply 2 p.revision)
  | .getSocketId _ => some (.active, .getSocketIdReply 0 p.socket "EPSON-CTRL")
  | .openChannel .. =>
    some (.serving (if p.revision = .v10 then 0 else s.granted), .openChannelReply 0 p.socket
      p.socket p.maxPacketSize p.maxServiceSize p.maxCredit s.granted)
  | .creditRequest .. => some (.serving 1, .creditRequestReply 0 p.socket p.socket 1)
  | .closeChannel .. => some (.active, .closeChannelReply 0 p.socket p.socket)
  | .exit => some (.ended, .exitReply 0)
  | _ => none

/-- The packet with the payload. -/
def packet (peerSocket sourceSocket credit : UInt8) (payload : List UInt8) : Packet :=
  ⟨⟨peerSocket, sourceSocket, UInt16.ofNat (headerLength + payload.length), credit, 0⟩, payload⟩

/-- What the payload on the transaction channel is answered by. -/
def replyPacket (s : SimulatedPrinter p) (payload : List UInt8) : Option (Stage × Packet) := do
  let message ← (TransactionMessage.decode payload p.revision).toOption
  let (stage, reply) ← s.reply message
  let answer ← (reply.encode p.revision).toOption
  return (stage, packet 0 0 1 answer)

/-- What the payload on the control channel is answered by. -/
def recordPacket (s : SimulatedPrinter p) (payload : List UInt8) : Option (Stage × Packet) := do
  let address ← decodeRead p.spec payload
  return (.serving s.piggyback.toUInt16, packet p.socket p.socket s.piggyback
    (record p.spec.readAddressWidth ⟨address, p.memory address⟩))

/-- Carry out what is written, as far as it makes sense. -/
def receive (data : List UInt8) (s : SimulatedPrinter p) : SimulatedPrinter p :=
  if data = epsonD4EntryCommand then { s with
    stage := .entered
    outbox := epsonD4EntryReply }
  else
    match (PacketDecoder.push {} data).1 with
    | .ok [request] =>
      let answered := if request.channel = p.channel then s.recordPacket request.payload
        else s.replyPacket request.payload
      match answered with
      | some (stage, answer) => { s with
        stage := stage
        outbox := answer.encode }
      | none => s
    | _ => s

instance : ByteTransport (SimulatedPrinter p) where
  writeAll data s := (.ok (), s.receive data)
  read size s :=
    (.ok (s.outbox.take (min size 3)), { s with outbox := s.outbox.drop (min size 3) })
  length_le_of_read := by
    intro size t t' bytes h
    cases h
    rw [List.length_take]
    omega

/-! ### It conforms -/

theorem packet_new {payload : List UInt8} (peerSocket sourceSocket credit : UInt8)
    (h : headerLength + payload.length < 65536) :
    Packet.new peerSocket sourceSocket payload credit 0 =
      .ok (packet peerSocket sourceSocket credit payload) := by
  rw [Packet.new, PacketHeader.new, if_neg (by decide), if_pos h]
  rfl

/-- A packet is not mistaken for the entry command, which has reserved bits where the control byte
of a packet is. -/
theorem receive_encode (s : SimulatedPrinter p) {request : Packet} (h : request.WellFormed)
    {stage : Stage} {answer : Packet}
    (hanswered : (if request.channel = p.channel then s.recordPacket request.payload
      else s.replyPacket request.payload) = some (stage, answer)) :
    s.receive request.encode = { s with
      stage := stage
      outbox := answer.encode } := by
  have hentry : request.encode ≠ epsonD4EntryCommand := by
    intro heq
    have hdecode := h.decode_encode []
    have hrejected : PacketHeader.decode epsonD4EntryCommand = .error (.reservedControlBits 0x40) :=
      rfl
    rw [List.append_nil, heq, hrejected] at hdecode
    cases hdecode
  have hpush : PacketDecoder.push {} request.encode = (.ok [request], {}) :=
    PacketDecoder.push_last h rfl
  rw [receive, if_neg hentry, hpush]
  dsimp only
  rw [hanswered]

/-- What the dialogue can answer is answered within it. -/
theorem reply_of_exchange (s : SimulatedPrinter p) {message : TransactionMessage} {stage : Stage}
    {sent : List UInt8} (h : p.Exchange s.stage (.transact message) stage sent) :
    ∃ stage' reply answer, s.reply (message.carried p.revision) = some (stage', reply) ∧
      reply.encode p.revision = .ok answer ∧
      p.Exchange s.stage (.transact message) stage' (packet 0 0 1 answer).encode := by
  generalize hstage : s.stage = stage₀ at h
  cases h with
  | decline hrevision =>
    have hreply : (TransactionMessage.initReply 2 p.revision).encode p.revision =
        .ok [0x80, 2, p.revision.asByte] := rfl
    refine ⟨_, _, _, if_neg (by rw [hrevision]; decide), hreply, ?_⟩
    exact .decline hrevision hreply (packet_new 0 0 1 (show _ < 65536 by simp [headerLength]))
  | answer hanswers =>
    obtain ⟨stage', reply, hreply, hanswers'⟩ : ∃ stage' reply,
        s.reply (message.carried p.revision) = some (stage', reply) ∧
          p.Answers stage₀ message stage' reply := by
      cases hanswers with
      | init => exact ⟨_, _, if_pos rfl, .init⟩
      | getSocketId => exact ⟨_, _, rfl, .getSocketId⟩
      | openChannel => exact ⟨_, _, rfl, .openChannel s.granted_le⟩
      | creditRequest => exact ⟨_, _, rfl, .creditRequest⟩
      | closeChannel => exact ⟨_, _, rfl, .closeChannel⟩
      | exit => exact ⟨_, _, rfl, .exit⟩
    obtain ⟨-, answer, hencode⟩ := hanswers'.encodes p.revision
    exact ⟨stage', reply, answer, hreply, hencode, .answer hanswers' hencode
      (packet_new 0 0 1
        (Nat.lt_of_le_of_lt (TransactionMessage.length_of_encode hencode) (by decide)))⟩

/-- The simulated printer is a conforming peer. -/
def peer (p : Printer) : ConformingPeer p (SimulatedPrinter p) where
  stage := stage
  outbox := outbox
  read := by
    intro size s hsize hne
    refine ⟨_, _, rfl, ?_, List.take_append_drop _ _, rfl⟩
    intro hnil
    have hlength := congrArg List.length hnil
    have hpos := List.length_pos_of_ne_nil hne
    rw [List.length_take, List.length_nil] at hlength
    omega
  answers := by
    intro s ask data stage' sent hquiet hasks hexchange
    refine ⟨s.receive data, rfl, ?_⟩
    cases hasks with
    | enter =>
      generalize hstage : s.stage = stage at hexchange
      cases hexchange
      rw [receive, if_pos rfl]
      exact .enter
    | @transact message payload request hencode hpacket =>
      obtain ⟨hwellFormed, hchannel, hpayload, -⟩ := Printer.packet_of_new hpacket
      obtain ⟨stage, reply, answer, hreply, hanswer, hexchange'⟩ := s.reply_of_exchange hexchange
      have hanswered : s.replyPacket request.payload = some (stage, packet 0 0 1 answer) := by
        simp [replyPacket, hpayload, TransactionMessage.decode_encode hencode, hreply, hanswer,
          Except.toOption]
      have hother : request.channel ≠ p.channel := by
        rw [hchannel]
        exact p.channel_ne.symm
      rw [s.receive_encode hwellFormed ((if_neg hother).trans hanswered)]
      exact hexchange'
    | @read address payload request hencode hpacket =>
      obtain ⟨hwellFormed, hchannel, hpayload, -⟩ := Printer.packet_of_new hpacket
      generalize hstage : s.stage = stage at hexchange ⊢
      cases hexchange
      have hanswered : s.recordPacket request.payload = some (.serving s.piggyback.toUInt16,
          packet p.socket p.socket s.piggyback
            (record p.spec.readAddressWidth ⟨address, p.memory address⟩)) := by
        simp [recordPacket, hpayload, decodeRead_eq_some.2 hencode]
      rw [s.receive_encode hwellFormed ((if_pos hchannel).trans hanswered)]
      obtain ⟨payload, haddress, -⟩ := encodeEepromRead_eq_ok.1 hencode
      have hlength := length_record p.spec.readAddressWidth ⟨address, p.memory address⟩
      have hnew := packet_new p.socket p.socket s.piggyback
        (show headerLength + (record p.spec.readAddressWidth _).length < 65536 by
          rw [hlength]; decide)
      refine .record s.piggyback_le (holdsRecord_record (le_of_encodeAddress haddress)) hnew ?_
      rw [UInt16.le_iff_toNat_le, (Printer.packet_of_new hnew).2.2.2.2.1, hlength]
      exact p.reply_fits
  entry := by
    intro s s' hidle hquiet hwrite
    cases hwrite
    rw [receive, if_pos rfl]
    refine .inr fun bytes t h ↦ ?_
    cases h
    refine .inr fun bytes t h ↦ ?_
    cases h
    refine .inr fun bytes t h ↦ ?_
    cases h
    exact .inl rfl

end SimulatedPrinter

end Reink
