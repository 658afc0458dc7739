import Mathlib.Data.List.Basic
import Reink.Library.Bytes
import Reink.Library.Text

/-!
# IEEE 1284.4 packets

The six-byte header, the packet, and the decoder that reassembles packets across reads.

`PacketDecoder.push` runs the loop of the source by recursion on the length of its buffer: every
packet it takes is at least a header long, so the loop ends before the bound does, and the bound
appears in no result. `drain_spec` says everything a push can do: the packets taken are well formed
and their bytes are exactly the bytes consumed, and it stops at a buffer that holds no complete
packet (`Incomplete`) or at a header that does not parse (`Malformed`).
-/

namespace Reink

/-- The length of the fixed packet header. -/
def headerLength : Nat := 6

/-- The control bits that are not reserved. -/
def controlMask : UInt8 := 0x03

/-- Invalid IEEE 1284.4 packet framing. -/
inductive PacketError where
  | truncatedHeader (actual : Nat)
  | invalidLength (length : UInt16)
  | reservedControlBits (control : UInt8)
  | payloadTooLarge (payloadLength : Nat)
deriving DecidableEq, Repr

/-- The displayed text of a framing error. -/
def PacketError.display : PacketError → String
  | truncatedHeader actual => "packet header requires 6 bytes, got " ++ toString actual
  | invalidLength length =>
    "packet length " ++ toString length.toNat ++ " is shorter than its header"
  | reservedControlBits control =>
    "reserved packet control bits are set: " ++ Text.hexadecimal 4 control.toNat
  | payloadTooLarge payloadLength =>
    "packet payload is too large: " ++ toString payloadLength ++ " bytes"

/-- The fixed six-byte IEEE 1284.4 packet header. -/
structure PacketHeader where
  peerSocket : UInt8
  sourceSocket : UInt8
  length : UInt16
  credit : UInt8
  control : UInt8
deriving DecidableEq, Repr

namespace PacketHeader

/-- A header for a payload of the given length. -/
def new (peerSocket sourceSocket : UInt8) (payloadLength : Nat) (credit control : UInt8) :
    Except PacketError PacketHeader :=
  if control &&& ~~~controlMask ≠ 0 then
    .error (.reservedControlBits control)
  else if headerLength + payloadLength < 65536 then
    .ok ⟨peerSocket, sourceSocket, UInt16.ofNat (headerLength + payloadLength), credit, control⟩
  else
    .error (.payloadTooLarge payloadLength)

/-- The number of payload bytes the header announces. -/
def payloadLength (header : PacketHeader) : Nat := header.length.toNat - headerLength

/-- The socket pair the packet belongs to. -/
def channelId (header : PacketHeader) : UInt8 × UInt8 := (header.peerSocket, header.sourceSocket)

/-- The six bytes of the header. -/
def encode (header : PacketHeader) : List UInt8 :=
  [header.peerSocket, header.sourceSocket] ++ header.length.toBeBytes ++
    [header.credit, header.control]

/-- Read a header from the front of the bytes. -/
def decode (bytes : List UInt8) : Except PacketError PacketHeader :=
  match bytes with
  | b₀ :: b₁ :: b₂ :: b₃ :: b₄ :: b₅ :: _ =>
    let length := UInt16.fromBeBytes b₂ b₃
    if length.toNat < headerLength then
      .error (.invalidLength length)
    else if b₅ &&& ~~~controlMask ≠ 0 then
      .error (.reservedControlBits b₅)
    else
      .ok ⟨b₀, b₁, length, b₄, b₅⟩
  | _ => .error (.truncatedHeader bytes.length)

end PacketHeader

/-- A complete IEEE 1284.4 packet. -/
structure Packet where
  header : PacketHeader
  payload : List UInt8
deriving DecidableEq, Repr

namespace Packet

/-- A packet around the payload. -/
def new (peerSocket sourceSocket : UInt8) (payload : List UInt8) (credit control : UInt8) :
    Except PacketError Packet :=
  match PacketHeader.new peerSocket sourceSocket payload.length credit control with
  | .ok header => .ok ⟨header, payload⟩
  | .error error => .error error

/-- The bytes of the packet on the wire. -/
def encode (packet : Packet) : List UInt8 := packet.header.encode ++ packet.payload

/-- The header is one the decoder accepts, and announces exactly the payload. -/
structure WellFormed (packet : Packet) : Prop where
  /-- No reserved control bit is set. -/
  control : packet.header.control &&& ~~~controlMask = 0
  /-- The announced length is the length of the packet. -/
  length : packet.header.length.toNat = headerLength + packet.payload.length

end Packet

/-- Incrementally reassembles packets across arbitrary transport reads. -/
structure PacketDecoder where
  buffer : List UInt8 := []
deriving DecidableEq, Repr

namespace PacketDecoder

/-- The loop of `push`: take packets off the front of the buffer while one is complete. -/
def drain : Nat → List UInt8 → List Packet → Except PacketError (List Packet) × List UInt8
  | 0, buffer, packets => (.ok packets, buffer)
  | bound + 1, buffer, packets =>
    if buffer.length < headerLength then (.ok packets, buffer)
    else
      match PacketHeader.decode (buffer.take headerLength) with
      | .error error => (.error error, buffer)
      | .ok header =>
        if buffer.length < header.length.toNat then (.ok packets, buffer)
        else
          let body := buffer.drop headerLength
          drain bound (body.drop header.payloadLength)
            (packets ++ [⟨header, body.take header.payloadLength⟩])

/-- Append the bytes and take every packet that is now complete. -/
def push (decoder : PacketDecoder) (bytes : List UInt8) :
    Except PacketError (List Packet) × PacketDecoder :=
  let buffer := decoder.buffer ++ bytes
  let drained := drain buffer.length buffer []
  (drained.1, ⟨drained.2⟩)

/-- The number of bytes waiting for the rest of their packet. -/
def bufferedLen (decoder : PacketDecoder) : Nat := decoder.buffer.length

end PacketDecoder

/-! ### Headers and packets on the wire -/

namespace PacketHeader

@[simp] theorem length_encode (header : PacketHeader) : header.encode.length = headerLength := by
  simp [encode, headerLength]

/-- A decoded header is at least as long as itself and has no reserved control bit. -/
theorem of_decode {bytes : List UInt8} {header : PacketHeader} (h : decode bytes = .ok header) :
    headerLength ≤ header.length.toNat ∧ header.control &&& ~~~controlMask = 0 ∧
      ∃ tail, bytes = header.encode ++ tail := by
  match bytes, h with
  | b₀ :: b₁ :: b₂ :: b₃ :: b₄ :: b₅ :: tail, h =>
    simp only [decode] at h
    split at h
    · cases h
    · rename_i hlength
      split at h
      · cases h
      · rename_i hcontrol
        cases h
        refine ⟨Nat.le_of_not_lt hlength, not_not.1 hcontrol, tail, ?_⟩
        simp [encode, UInt16.toBeBytes_fromBeBytes]

/-- A header with a sufficient length and no reserved control bit is read back. -/
theorem decode_encode_append {header : PacketHeader} (hlength : headerLength ≤ header.length.toNat)
    (hcontrol : header.control &&& ~~~controlMask = 0) (tail : List UInt8) :
    decode (header.encode ++ tail) = .ok header := by
  obtain ⟨peer, source, length, credit, control⟩ := header
  simp only [encode, UInt16.toBeBytes, List.cons_append, List.nil_append, decode]
  rw [UInt16.fromBeBytes_div_mod, if_neg (by simpa using hlength), if_neg (not_not.2 hcontrol)]

end PacketHeader

namespace Packet

/-- `Packet.new` builds well-formed packets with exactly the given fields. -/
theorem of_new {peerSocket sourceSocket : UInt8} {payload : List UInt8} {credit control : UInt8}
    {packet : Packet} (h : Packet.new peerSocket sourceSocket payload credit control = .ok packet) :
    packet.WellFormed ∧ packet.header.channelId = (peerSocket, sourceSocket) ∧
      packet.payload = payload ∧ packet.header.credit = credit := by
  unfold Packet.new PacketHeader.new at h
  split at h
  · rename_i header hheader
    split at hheader
    · cases hheader
    · rename_i hcontrol
      split at hheader
      · rename_i hlength
        cases hheader
        cases h
        refine ⟨⟨not_not.1 hcontrol, ?_⟩, rfl, rfl, rfl⟩
        show (UInt16.ofNat (headerLength + payload.length)).toNat = _
        rw [UInt16.toNat_ofNat', Nat.mod_eq_of_lt hlength]
      · cases hheader
  · cases h

/-- A payload that is not too long has a packet. -/
theorem exists_new (peerSocket sourceSocket credit : UInt8) {payload : List UInt8}
    (h : headerLength + payload.length < 65536) :
    ∃ packet, Packet.new peerSocket sourceSocket payload credit 0 = .ok packet := by
  refine ⟨⟨⟨peerSocket, sourceSocket, UInt16.ofNat (headerLength + payload.length), credit, 0⟩,
    payload⟩, ?_⟩
  rw [Packet.new, PacketHeader.new, if_neg (by decide), if_pos h]

@[simp] theorem length_encode (packet : Packet) :
    packet.encode.length = headerLength + packet.payload.length := by
  simp [encode]

namespace WellFormed

variable {packet packet' : Packet}

theorem headerLength_le (h : packet.WellFormed) : headerLength ≤ packet.header.length.toNat := by
  rw [h.length]
  omega

theorem payloadLength (h : packet.WellFormed) :
    packet.header.payloadLength = packet.payload.length := by
  rw [PacketHeader.payloadLength, h.length, Nat.add_sub_cancel_left]

/-- The header of a well-formed packet is read back from its bytes. -/
theorem decode_encode (h : packet.WellFormed) (tail : List UInt8) :
    PacketHeader.decode (packet.encode ++ tail) = .ok packet.header := by
  rw [Packet.encode, List.append_assoc]
  exact PacketHeader.decode_encode_append h.headerLength_le h.control _

/-- **Packets are self-delimiting.** Bytes that start with a well-formed packet start with only
one. -/
theorem encode_append_inj (h : packet.WellFormed) (h' : packet'.WellFormed)
    {tail tail' : List UInt8} (heq : packet.encode ++ tail = packet'.encode ++ tail') :
    packet = packet' ∧ tail = tail' := by
  have hheader : packet.header = packet'.header := by
    have hdecode := h.decode_encode tail
    rw [heq, h'.decode_encode tail'] at hdecode
    exact (Except.ok.inj hdecode).symm
  have hlength : packet.encode.length = packet'.encode.length := by
    rw [Packet.length_encode, Packet.length_encode, ← h.length, ← h'.length, hheader]
  obtain ⟨hencode, htail⟩ := List.append_inj heq hlength
  refine ⟨?_, htail⟩
  have hpayload : packet.payload = packet'.payload := by
    rw [Packet.encode, Packet.encode, hheader] at hencode
    exact List.append_cancel_left hencode
  obtain ⟨header, payload⟩ := packet
  obtain ⟨header', payload'⟩ := packet'
  cases hheader
  cases hpayload
  rfl

end WellFormed

end Packet

/-! ### What a push can do -/

namespace PacketDecoder

/-- The bytes are the beginning of a packet, not all of it. -/
def Incomplete (buffer : List UInt8) : Prop :=
  buffer.length < headerLength ∨
    ∃ header, PacketHeader.decode buffer = .ok header ∧ buffer.length < header.length.toNat

/-- The bytes start with a header that does not parse. -/
def Malformed (buffer : List UInt8) (error : PacketError) : Prop :=
  headerLength ≤ buffer.length ∧ PacketHeader.decode buffer = .error error

/-- Decoding a header looks at its six bytes only. -/
theorem decode_take {bytes : List UInt8} (h : headerLength ≤ bytes.length) :
    PacketHeader.decode (bytes.take headerLength) = PacketHeader.decode bytes := by
  match bytes, h with
  | _ :: _ :: _ :: _ :: _ :: _ :: _, _ => rfl

/-- A complete packet is neither incomplete nor malformed. -/
theorem not_incomplete_encode {packet : Packet} (h : packet.WellFormed) (tail : List UInt8) :
    ¬ Incomplete (packet.encode ++ tail) := by
  rintro (hshort | ⟨header, hdecode, hshort⟩)
  · rw [List.length_append, Packet.length_encode] at hshort
    omega
  · rw [h.decode_encode tail] at hdecode
    rw [← Except.ok.inj hdecode, List.length_append, Packet.length_encode, h.length] at hshort
    omega

theorem not_malformed_encode {packet : Packet} (h : packet.WellFormed) (tail : List UInt8)
    (error : PacketError) : ¬ Malformed (packet.encode ++ tail) error := by
  rintro ⟨-, hdecode⟩
  rw [h.decode_encode tail] at hdecode
  cases hdecode

/-- A buffer that holds all of the packet its header announces starts with that packet. -/
theorem take_packet {buffer : List UInt8} {header : PacketHeader}
    (hdecode : PacketHeader.decode buffer = .ok header)
    (hlength : header.length.toNat ≤ buffer.length) :
    let body := buffer.drop headerLength
    let packet : Packet := ⟨header, body.take header.payloadLength⟩
    packet.WellFormed ∧ buffer = packet.encode ++ body.drop header.payloadLength := by
  obtain ⟨hle, hcontrol, tail, htail⟩ := PacketHeader.of_decode hdecode
  have hbody : buffer.drop headerLength = tail := by
    rw [htail, List.drop_left' (PacketHeader.length_encode header)]
  have htotal : buffer.length = headerLength + tail.length := by
    rw [htail, List.length_append, PacketHeader.length_encode]
  refine ⟨⟨hcontrol, ?_⟩, ?_⟩
  · show header.length.toNat = headerLength + (List.take _ (buffer.drop headerLength)).length
    rw [hbody, List.length_take, PacketHeader.payloadLength]
    omega
  · show buffer = header.encode ++ _ ++ _
    rw [hbody, List.append_assoc, List.take_append_drop]
    exact htail

/-- **What a push can do.** From a sufficient bound the loop takes well-formed packets whose bytes
are exactly the bytes it consumes, and it stops where no complete packet is left or where the next
header does not parse. -/
theorem drain_spec (bound : Nat) (buffer : List UInt8) (packets : List Packet)
    (hbound : buffer.length ≤ bound) :
    ∃ taken : List Packet, (∀ packet ∈ taken, packet.WellFormed) ∧
      buffer = taken.flatMap Packet.encode ++ (drain bound buffer packets).2 ∧
      (((drain bound buffer packets).1 = .ok (packets ++ taken) ∧
          Incomplete (drain bound buffer packets).2) ∨
        ∃ error, (drain bound buffer packets).1 = .error error ∧
          Malformed (drain bound buffer packets).2 error) := by
  induction bound generalizing buffer packets with
  | zero =>
    refine ⟨[], by simp, by simp [drain], .inl ⟨by simp [drain], .inl ?_⟩⟩
    show buffer.length < headerLength
    rw [Nat.le_zero.1 hbound]
    decide
  | succ bound ih =>
    by_cases hshort : buffer.length < headerLength
    · simp only [drain, if_pos hshort]
      exact ⟨[], by simp, by simp, .inl ⟨by simp, .inl hshort⟩⟩
    have hfull : headerLength ≤ buffer.length := Nat.le_of_not_lt hshort
    simp only [drain, if_neg hshort, decode_take hfull]
    -- from here on the header decides: malformed, of a packet in part, or of a whole one
    rcases hdecode : PacketHeader.decode buffer with error | header
    · exact ⟨[], by simp, by simp, .inr ⟨error, rfl, hfull, hdecode⟩⟩
    by_cases hpart : buffer.length < header.length.toNat
    · simp only [if_pos hpart]
      exact ⟨[], by simp, by simp, .inl ⟨by simp, .inr ⟨header, hdecode, hpart⟩⟩⟩
    simp only [if_neg hpart]
    obtain ⟨hwf, hbuffer⟩ := take_packet hdecode (Nat.le_of_not_lt hpart)
    set body := buffer.drop headerLength with hbody
    set packet : Packet := ⟨header, body.take header.payloadLength⟩ with hpacket
    have hrest : (body.drop header.payloadLength).length ≤ bound := by
      have := congrArg List.length hbuffer
      rw [List.length_append, Packet.length_encode] at this
      have hpos : 0 < headerLength := by decide
      omega
    obtain ⟨taken, htaken, hbytes, hend⟩ :=
      ih (body.drop header.payloadLength) (packets ++ [packet]) hrest
    refine ⟨packet :: taken, ?_, ?_, ?_⟩
    · intro q hq
      rcases List.mem_cons.1 hq with rfl | hq
      · exact hwf
      · exact htaken q hq
    · rw [List.flatMap_cons, List.append_assoc, ← hbytes]
      exact hbuffer
    · rwa [List.append_assoc, List.singleton_append] at hend

/-- What a push does, at the decoder. -/
theorem push_spec (decoder : PacketDecoder) (bytes : List UInt8) :
    ∃ taken : List Packet, (∀ packet ∈ taken, packet.WellFormed) ∧
      decoder.buffer ++ bytes = taken.flatMap Packet.encode ++ (decoder.push bytes).2.buffer ∧
      (((decoder.push bytes).1 = .ok taken ∧ Incomplete (decoder.push bytes).2.buffer) ∨
        ∃ error, (decoder.push bytes).1 = .error error ∧
          Malformed (decoder.push bytes).2.buffer error) := by
  simpa [push] using drain_spec (decoder.buffer ++ bytes).length (decoder.buffer ++ bytes) [] le_rfl

/-- A beginning of a packet is neither malformed nor does it hold another one. -/
theorem taken_of_append {packet : Packet} {taken : List Packet} {buffer rest : List UInt8}
    (hpacket : packet.WellFormed) (htaken : ∀ q ∈ taken, q.WellFormed)
    (h : taken.flatMap Packet.encode ++ buffer ++ rest = packet.encode) :
    taken = [] ∨ taken = [packet] ∧ buffer = [] ∧ rest = [] := by
  rcases taken with _ | ⟨q, taken⟩
  · exact .inl rfl
  · rw [List.flatMap_cons, List.append_assoc, List.append_assoc,
      ← List.append_nil packet.encode] at h
    obtain ⟨rfl, hnil⟩ := (htaken q List.mem_cons_self).encode_append_inj hpacket h
    obtain ⟨hmore, hnil⟩ := List.append_eq_nil_iff.1 hnil
    obtain ⟨hbuffer, hrest⟩ := List.append_eq_nil_iff.1 hnil
    refine .inr ⟨?_, hbuffer, hrest⟩
    rcases taken with _ | ⟨q', taken⟩
    · rfl
    · have := congrArg List.length (List.append_eq_nil_iff.1 (List.flatMap_cons ▸ hmore)).1
      rw [Packet.length_encode] at this
      exact absurd this (by simp [headerLength])

/-- The bytes that a packet still lacks are waited for. -/
theorem push_part {packet : Packet} {decoder : PacketDecoder} {bytes rest : List UInt8}
    (hpacket : packet.WellFormed) (h : decoder.buffer ++ bytes ++ rest = packet.encode)
    (hrest : rest ≠ []) : decoder.push bytes = (.ok [], ⟨decoder.buffer ++ bytes⟩) := by
  obtain ⟨taken, htaken, hbytes, hend⟩ := push_spec decoder bytes
  rw [hbytes] at h
  rcases taken_of_append hpacket htaken h with rfl | ⟨-, -, hnil⟩
  case inr => exact absurd hnil hrest
  rw [List.flatMap_nil, List.nil_append] at hbytes h
  rcases hend with ⟨hok, -⟩ | ⟨error, -, hlength, hmalformed⟩
  · exact Prod.ext hok (congrArg PacketDecoder.mk hbytes.symm)
  · have hheader := hpacket.decode_encode []
    rw [List.append_nil, ← h, ← decode_take (by rw [List.length_append]; omega),
      List.take_append_of_le_length hlength, decode_take hlength, hmalformed] at hheader
    cases hheader

/-- The last bytes of a packet complete it. -/
theorem push_last {packet : Packet} {decoder : PacketDecoder} {bytes : List UInt8}
    (hpacket : packet.WellFormed) (h : decoder.buffer ++ bytes = packet.encode) :
    decoder.push bytes = (.ok [packet], {}) := by
  obtain ⟨taken, htaken, hbytes, hend⟩ := push_spec decoder bytes
  rw [h] at hbytes
  have hwhole : taken.flatMap Packet.encode ++ (decoder.push bytes).2.buffer ++ [] =
      packet.encode := by
    rw [List.append_nil, ← hbytes]
  rcases taken_of_append hpacket htaken hwhole with
    rfl | ⟨rfl, hbuffer, -⟩
  · rw [List.flatMap_nil, List.nil_append, ← List.append_nil packet.encode] at hbytes
    rw [← hbytes] at hend
    rcases hend with ⟨-, hincomplete⟩ | ⟨error, -, hmalformed⟩
    · exact absurd hincomplete (not_incomplete_encode hpacket [])
    · exact absurd hmalformed (not_malformed_encode hpacket [] error)
  · rcases hend with ⟨hok, -⟩ | ⟨error, -, hlength, -⟩
    · exact Prod.ext hok (congrArg PacketDecoder.mk hbuffer)
    · rw [hbuffer] at hlength
      exact absurd hlength (by decide)

end PacketDecoder

end Reink
