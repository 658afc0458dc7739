import Reink.App.Session
import Reink.D4.Framing

/-!
# The traffic trace

The decoder of the debug traffic trace reassembles one direction of a USB byte stream: first the
entry sequence, and behind it D4 packets, with a search for the next header where one does not
parse. It is written apart from `PacketDecoder`. On the stream of a conversation it takes the same
packets, however the stream is cut, and shows nothing as raw.
-/

namespace Reink

/-- The side that the bytes come from. -/
inductive DebugTrafficDirection where
  | tx
  | rx
deriving DecidableEq, Repr

/-- What a reassembled transfer is. -/
inductive ReassembledTransferKind where
  | emptyRead
  | raw
  | entryCommand
  | entryReply
  | d4Packet
deriving DecidableEq, Repr

/-- Bytes that belong together. -/
structure ReassembledTransfer where
  direction : DebugTrafficDirection
  bytes : List UInt8
  kind : ReassembledTransferKind
deriving DecidableEq, Repr

/-- Reassembles one unidirectional USB byte stream without assigning meaning to incomplete frames
until their protocol boundary is available. -/
structure DebugTrafficDecoder where
  bytes : List UInt8 := []
  d4Active : Bool := false
deriving DecidableEq, Repr

namespace DebugTrafficDirection

/-- The entry bytes of the direction. -/
def entry : DebugTrafficDirection → List UInt8
  | tx => epsonD4EntryCommand
  | rx => epsonD4EntryReply

/-- The kind of the entry bytes of the direction. -/
def entryKind : DebugTrafficDirection → ReassembledTransferKind
  | tx => .entryCommand
  | rx => .entryReply

/-- The kind of an empty transfer of the direction. -/
def emptyKind : DebugTrafficDirection → ReassembledTransferKind
  | tx => .raw
  | rx => .emptyRead

theorem length_entry_pos (direction : DebugTrafficDirection) : 0 < direction.entry.length := by
  cases direction <;> decide

end DebugTrafficDirection

/-- The bytes are the front of the whole. -/
def isPrefixOf (bytes whole : List UInt8) : Bool :=
  bytes.length ≤ whole.length ∧ (bytes.zip whole).all fun pair ↦ pair.1 = pair.2

namespace DebugTrafficDecoder

variable (direction : DebugTrafficDirection)

/-- The next offset at which a header parses. -/
def nextPacketStart (bytes : List UInt8) : Option Nat :=
  (List.range' 1 (bytes.length - (headerLength - 1) - 1)).find? fun start ↦
    (PacketHeader.decode ((bytes.drop start).take headerLength)).toBool

/-- The loop of `push`. -/
def reassemble : Nat → DebugTrafficDecoder → List ReassembledTransfer × DebugTrafficDecoder
  | 0, decoder => ([], decoder)
  | bound + 1, decoder =>
    if ¬ decoder.d4Active then
      if direction.entry <+: decoder.bytes then
        let rest := reassemble bound ⟨decoder.bytes.drop direction.entry.length, true⟩
        (⟨direction, decoder.bytes.take direction.entry.length, direction.entryKind⟩ :: rest.1,
          rest.2)
      else if isPrefixOf decoder.bytes direction.entry then ([], decoder)
      else ([⟨direction, decoder.bytes, .raw⟩], { decoder with bytes := [] })
    else if decoder.bytes.length < headerLength then ([], decoder)
    else
      match PacketHeader.decode (decoder.bytes.take headerLength) with
      | .error _ =>
        let splitAt := (nextPacketStart decoder.bytes).getD decoder.bytes.length
        let rest := reassemble bound { decoder with bytes := decoder.bytes.drop splitAt }
        (⟨direction, decoder.bytes.take splitAt, .raw⟩ :: rest.1, rest.2)
      | .ok header =>
        let totalLength := header.length.toNat
        if decoder.bytes.length < totalLength then ([], decoder)
        else
          let rest := reassemble bound { decoder with bytes := decoder.bytes.drop totalLength }
          (⟨direction, decoder.bytes.take totalLength, .d4Packet⟩ :: rest.1, rest.2)

/-- The end of `push`: add the bytes and take what is complete. -/
def extend (decoder : DebugTrafficDecoder) (bytes : List UInt8) :
    List ReassembledTransfer × DebugTrafficDecoder :=
  let bytes := decoder.bytes ++ bytes
  reassemble direction bytes.length { decoder with bytes := bytes }

/-- Take in the bytes of one transfer, and give the transfers they complete. -/
def push (decoder : DebugTrafficDecoder) (bytes : List UInt8) :
    List ReassembledTransfer × DebugTrafficDecoder :=
  if bytes = [] then ([⟨direction, [], direction.emptyKind⟩], decoder)
  else
    let candidate := decoder.bytes ++ bytes
    if ¬ decoder.d4Active ∧ decoder.bytes ≠ [] ∧ ¬ direction.entry <+: candidate ∧
        ¬ isPrefixOf candidate direction.entry then
      -- nothing is pending in the recursive call, which goes on to its end
      let pushed := extend direction { decoder with bytes := [] } bytes
      (⟨direction, decoder.bytes, .raw⟩ :: pushed.1, pushed.2)
    else extend direction decoder bytes

/-- Push the chunks one after another: the transfers, and the decoder after the last. -/
def feed (decoder : DebugTrafficDecoder) :
    List (List UInt8) → List ReassembledTransfer × DebugTrafficDecoder
  | [] => ([], decoder)
  | chunk :: chunks =>
    let pushed := push direction decoder chunk
    let rest := feed pushed.2 chunks
    (pushed.1 ++ rest.1, rest.2)

end DebugTrafficDecoder

/-- The transfer of a packet. -/
def Packet.transfer (direction : DebugTrafficDirection) (packet : Packet) : ReassembledTransfer :=
  ⟨direction, packet.encode, .d4Packet⟩

theorem isPrefixOf_iff {bytes whole : List UInt8} :
    isPrefixOf bytes whole = true ↔ bytes <+: whole := by
  rw [isPrefixOf, decide_eq_true_eq]
  induction bytes generalizing whole with
  | nil => simp
  | cons b bytes ih =>
    rcases whole with _ | ⟨c, whole⟩
    · simp
    · rw [List.cons_prefix_cons, ← ih, List.zip_cons_cons, List.all_cons, List.length_cons,
        List.length_cons, Nat.add_le_add_iff_right, Bool.and_eq_true, decide_eq_true_eq]
      exact and_left_comm

/-- The kinds of the two entry sequences. -/
def ReassembledTransferKind.isEntry (kind : ReassembledTransferKind) : Bool :=
  kind = .entryCommand ∨ kind = .entryReply

@[simp] theorem DebugTrafficDirection.isEntry_entryKind (direction : DebugTrafficDirection) :
    direction.entryKind.isEntry = true := by
  cases direction <;> rfl

theorem DebugTrafficDirection.entryKind_ne (direction : DebugTrafficDirection) :
    direction.entryKind ≠ .d4Packet := by
  cases direction <;> decide

/-- The transfer is what its kind names: one packet, or the entry sequence of the direction. -/
structure ReassembledTransfer.Genuine (direction : DebugTrafficDirection)
    (transfer : ReassembledTransfer) : Prop where
  packet : transfer.kind = .d4Packet →
    ∃ packet, Packet.WellFormed packet ∧ packet.transfer direction = transfer
  entry : transfer.kind.isEntry = true →
    transfer = ⟨direction, direction.entry, direction.entryKind⟩

namespace ReassembledTransfer

theorem genuine_of_kind {direction : DebugTrafficDirection} {transfer : ReassembledTransfer}
    (h : transfer.kind = .emptyRead ∨ transfer.kind = .raw) : transfer.Genuine direction := by
  constructor <;> intro hkind <;> rcases h with h | h <;> rw [h] at hkind <;> cases hkind

theorem genuine_entry (direction : DebugTrafficDirection) :
    Genuine direction ⟨direction, direction.entry, direction.entryKind⟩ :=
  ⟨fun hkind ↦ absurd hkind direction.entryKind_ne, fun _ ↦ rfl⟩

theorem genuine_packet {packet : Packet} (direction : DebugTrafficDirection)
    (h : packet.WellFormed) : (packet.transfer direction).Genuine direction :=
  ⟨fun _ ↦ ⟨packet, h, rfl⟩, fun hkind ↦ by cases hkind⟩

end ReassembledTransfer

namespace DebugTrafficDecoder

variable {direction : DebugTrafficDirection}

/-! ### One round -/

/-- There is no further round: the bytes wait for more. -/
def Waiting (direction : DebugTrafficDirection) (decoder : DebugTrafficDecoder) : Prop :=
  ∀ bound, reassemble direction bound decoder = ([], decoder)

/-- A round takes the transfer off the front of the bytes and goes on with the rest. -/
structure Takes (direction : DebugTrafficDirection) (decoder : DebugTrafficDecoder)
    (transfer : ReassembledTransfer) (next : DebugTrafficDecoder) : Prop where
  bytes : transfer.bytes ++ next.bytes = decoder.bytes
  nonempty : transfer.bytes ≠ []
  genuine : transfer.Genuine direction
  /-- The round of the entry sequence, and no other, makes the decoder active. -/
  entry : transfer.kind.isEntry.toNat + decoder.d4Active.toNat = next.d4Active.toNat
  run : ∀ bound, reassemble direction (bound + 1) decoder =
    (transfer :: (reassemble direction bound next).1, (reassemble direction bound next).2)

theorem nextPacketStart_pos {bytes : List UInt8} (h : bytes ≠ []) :
    0 < (nextPacketStart bytes).getD bytes.length := by
  rcases hstart : nextPacketStart bytes with _ | start
  · exact List.length_pos_iff.2 h
  · exact (List.mem_range'_1.1 (List.mem_of_find?_eq_some hstart)).1

/-- The bound of the loop allows any number of rounds in a waiting decoder. -/
theorem waiting_of_succ {decoder : DebugTrafficDecoder}
    (h : ∀ bound, reassemble direction (bound + 1) decoder = ([], decoder)) :
    Waiting direction decoder
  | 0 => rfl
  | bound + 1 => h bound

theorem waiting_nil (direction : DebugTrafficDirection) (active : Bool) :
    Waiting direction ⟨[], active⟩ := by
  refine waiting_of_succ fun bound ↦ ?_
  cases active with
  | true => rfl
  | false => cases direction <;> rfl

theorem takes_raw {decoder next : DebugTrafficDecoder} {bytes : List UInt8}
    (hbytes : bytes ++ next.bytes = decoder.bytes) (hnonempty : bytes ≠ [])
    (hactive : decoder.d4Active = next.d4Active)
    (hrun : ∀ bound, reassemble direction (bound + 1) decoder =
      (⟨direction, bytes, .raw⟩ :: (reassemble direction bound next).1,
        (reassemble direction bound next).2)) :
    Takes direction decoder ⟨direction, bytes, .raw⟩ next where
  bytes := hbytes
  nonempty := hnonempty
  genuine := ReassembledTransfer.genuine_of_kind (.inr rfl)
  entry := by rw [hactive]; exact Nat.zero_add _
  run := hrun

/-- In front of the entry sequence. -/
theorem round_inactive (direction : DebugTrafficDirection) (bytes : List UInt8) :
    Waiting direction ⟨bytes, false⟩ ∨
      ∃ transfer next, Takes direction ⟨bytes, false⟩ transfer next := by
  by_cases hstarts : direction.entry <+: bytes
  case pos =>
    refine .inr ⟨⟨direction, bytes.take direction.entry.length, direction.entryKind⟩,
      ⟨bytes.drop direction.entry.length, true⟩, ?_⟩
    rw [← List.prefix_iff_eq_take.1 hstarts]
    refine ⟨List.prefix_iff_eq_append.1 hstarts,
      List.ne_nil_of_length_pos direction.length_entry_pos,
      ReassembledTransfer.genuine_entry direction, ?_, fun bound ↦ ?_⟩
    · rw [direction.isEntry_entryKind]
      rfl
    · rw [reassemble, if_pos (by simp), if_pos hstarts, ← List.prefix_iff_eq_take.1 hstarts]
  by_cases hpart : isPrefixOf bytes direction.entry = true
  case pos =>
    refine .inl (waiting_of_succ fun bound ↦ ?_)
    rw [reassemble, if_pos (by simp), if_neg hstarts, if_pos hpart]
  refine .inr ⟨_, ⟨[], false⟩, takes_raw (List.append_nil bytes) ?_ rfl fun bound ↦ ?_⟩
  · rintro rfl
    exact hpart (isPrefixOf_iff.2 List.nil_prefix)
  · rw [reassemble, if_pos (by simp), if_neg hstarts, if_neg hpart,
      waiting_nil direction false bound]

/-- Behind the entry sequence. -/
theorem round_active (direction : DebugTrafficDirection) (bytes : List UInt8) :
    Waiting direction ⟨bytes, true⟩ ∨
      ∃ transfer next, Takes direction ⟨bytes, true⟩ transfer next := by
  by_cases hshort : bytes.length < headerLength
  case pos =>
    refine .inl (waiting_of_succ fun bound ↦ ?_)
    rw [reassemble, if_neg (by simp), if_pos hshort]
  have hnonempty : bytes ≠ [] := by
    rintro rfl
    exact hshort (by decide)
  have hrun (bound : Nat) := reassemble.eq_2 direction ⟨bytes, true⟩ bound
  simp only [not_true, if_false, if_neg hshort] at hrun
  rcases hdecode : PacketHeader.decode (bytes.take headerLength) with error | header
  case error =>
    set splitAt := (nextPacketStart bytes).getD bytes.length with hsplit
    have hsome : bytes.take splitAt ≠ [] := by
      have hpos := nextPacketStart_pos hnonempty
      have hlength := List.length_pos_iff.2 hnonempty
      refine List.ne_nil_of_length_pos ?_
      rw [List.length_take]
      omega
    refine .inr ⟨_, ⟨bytes.drop splitAt, true⟩,
      takes_raw (List.take_append_drop splitAt bytes) hsome rfl fun bound ↦ ?_⟩
    rw [hrun, hdecode]
  case ok =>
    by_cases hpart : bytes.length < header.length.toNat
    case pos =>
      refine .inl (waiting_of_succ fun bound ↦ ?_)
      rw [hrun, hdecode]
      exact if_pos hpart
    have hwhole := Nat.le_of_not_lt hpart
    obtain ⟨packet, hwellFormed, hpacket⟩ : ∃ packet : Packet,
        packet.WellFormed ∧ bytes.take header.length.toNat = packet.encode := by
      rw [PacketDecoder.decode_take (Nat.le_of_not_lt hshort)] at hdecode
      obtain ⟨hwellFormed, hbytes⟩ := PacketDecoder.take_packet hdecode hwhole
      refine ⟨_, hwellFormed, ?_⟩
      conv_lhs => rw [hbytes]
      exact List.take_left' ((Packet.length_encode _).trans hwellFormed.length.symm)
    refine .inr ⟨packet.transfer direction, ⟨bytes.drop header.length.toNat, true⟩, ?_,
      List.cons_ne_nil _ _, ReassembledTransfer.genuine_packet direction hwellFormed, rfl,
      fun bound ↦ ?_⟩
    · rw [Packet.transfer, ← hpacket]
      exact List.take_append_drop header.length.toNat bytes
    · rw [hrun, hdecode, Packet.transfer, ← hpacket]
      exact if_neg hpart

/-- **One round** either waits or takes a transfer. -/
theorem round (direction : DebugTrafficDirection) :
    ∀ decoder, Waiting direction decoder ∨
      ∃ transfer next, Takes direction decoder transfer next
  | ⟨bytes, false⟩ => round_inactive direction bytes
  | ⟨bytes, true⟩ => round_active direction bytes

namespace Takes

variable {decoder next : DebugTrafficDecoder} {transfer : ReassembledTransfer}

theorem length_lt (h : Takes direction decoder transfer next) :
    next.bytes.length < decoder.bytes.length := by
  have hpos := List.length_pos_iff.2 h.nonempty
  rw [← h.bytes, List.length_append]
  omega

end Takes

/-! ### The loop ends -/

/-- From the length of the buffer on, the bound of the loop appears in no result: every round that
goes on takes a byte. -/
theorem reassemble_eq_of_le {bound bound' : Nat} {decoder : DebugTrafficDecoder}
    (hbound : decoder.bytes.length ≤ bound) (hbound' : decoder.bytes.length ≤ bound') :
    reassemble direction bound decoder = reassemble direction bound' decoder := by
  induction bound generalizing decoder bound' with
  | zero =>
    obtain ⟨bytes, active⟩ := decoder
    obtain rfl := List.length_eq_zero_iff.1 (Nat.le_zero.1 hbound)
    rw [waiting_nil direction active 0, waiting_nil direction active bound']
  | succ bound ih =>
    rcases round direction decoder with hwaiting | ⟨transfer, next, htakes⟩
    · rw [hwaiting, hwaiting]
    · have hlength := htakes.length_lt
      obtain ⟨bound', rfl⟩ : ∃ bound, bound' = bound + 1 :=
        Nat.exists_eq_add_one_of_ne_zero (by omega)
      have hnext : next.bytes.length ≤ bound' := by omega
      rw [htakes.run, htakes.run, ih (by omega) hnext]

/-- The loop goes on until there is no further round. -/
theorem waiting_reassemble {bound : Nat} {decoder : DebugTrafficDecoder}
    (hbound : decoder.bytes.length ≤ bound) :
    Waiting direction (reassemble direction bound decoder).2 := by
  induction bound generalizing decoder with
  | zero =>
    obtain ⟨bytes, active⟩ := decoder
    obtain rfl := List.length_eq_zero_iff.1 (Nat.le_zero.1 hbound)
    exact waiting_nil direction active
  | succ bound ih =>
    rcases round direction decoder with hwaiting | ⟨transfer, next, htakes⟩
    · rw [hwaiting]
      exact hwaiting
    · have hlength := htakes.length_lt
      rw [htakes.run]
      exact ih (by omega)

/-! ### Packets -/

/-- **The two loops take the same packets.** Where the loop of `PacketDecoder` gives packets, this
one gives their transfers and keeps the same bytes. -/
theorem reassemble_of_drain (direction : DebugTrafficDirection) {bound : Nat}
    {buffer rest : List UInt8} {packets packets' : List Packet}
    (h : PacketDecoder.drain bound buffer packets = (.ok packets', rest)) :
    ∃ taken, packets' = packets ++ taken ∧ reassemble direction bound ⟨buffer, true⟩ =
      (taken.map (Packet.transfer direction), ⟨rest, true⟩) := by
  induction bound generalizing buffer packets with
  | zero =>
    cases h
    exact ⟨[], (List.append_nil _).symm, rfl⟩
  | succ bound ih =>
    rw [PacketDecoder.drain] at h
    rw [reassemble, if_neg (by simp)]
    by_cases hshort : buffer.length < headerLength
    case pos =>
      rw [if_pos hshort] at h
      cases h
      exact ⟨[], (List.append_nil _).symm, by rw [if_pos hshort]; rfl⟩
    rw [if_neg hshort] at h
    rw [if_neg hshort]
    dsimp only
    rcases hdecode : PacketHeader.decode (buffer.take headerLength) with error | header
    case error =>
      rw [hdecode] at h
      cases h
    rw [hdecode] at h
    dsimp only at h ⊢
    by_cases hpart : buffer.length < header.length.toNat
    case pos =>
      rw [if_pos hpart] at h
      cases h
      exact ⟨[], (List.append_nil _).symm, by rw [if_pos hpart]; rfl⟩
    rw [if_neg hpart] at h
    rw [if_neg hpart]
    rw [PacketDecoder.decode_take (Nat.le_of_not_lt hshort)] at hdecode
    obtain ⟨hwellFormed, hbuffer⟩ := PacketDecoder.take_packet hdecode (Nat.le_of_not_lt hpart)
    obtain ⟨taken, rfl, hrun⟩ := ih h
    set packet : Packet := ⟨header, (buffer.drop headerLength).take header.payloadLength⟩
    have hlength : packet.encode.length = header.length.toNat := by
      rw [Packet.length_encode, ← hwellFormed.length]
    have htake : buffer.take header.length.toNat = packet.encode := by
      rw [hbuffer, ← hlength, List.take_left]
    have hdrop : buffer.drop header.length.toNat =
        (buffer.drop headerLength).drop header.payloadLength := by
      conv_lhs => rw [hbuffer, ← hlength, List.drop_left]
    rw [htake, hdrop, hrun]
    exact ⟨packet :: taken, by rw [List.append_assoc, List.singleton_append], rfl⟩

/-- A round over the bytes of packets takes the first of them and keeps a part of the rest. -/
theorem reassemble_packets (direction : DebugTrafficDirection) {bound : Nat}
    {packets : List Packet} {buffer behind : List UInt8}
    (hpackets : ∀ packet ∈ packets, packet.WellFormed) (hbound : buffer.length ≤ bound)
    (h : buffer ++ behind = packets.flatMap Packet.encode) :
    ∃ taken left rest, packets = taken ++ left ∧
      reassemble direction bound ⟨buffer, true⟩ =
        (taken.map (Packet.transfer direction), ⟨rest, true⟩) ∧
      PacketDecoder.Incomplete rest ∧ rest ++ behind = left.flatMap Packet.encode := by
  obtain ⟨taken, htaken, hbytes, hend⟩ := PacketDecoder.drain_spec bound buffer [] hbound
  rw [hbytes] at h
  obtain ⟨left, rfl, hleft⟩ := PacketDecoder.taken_of_flatMap hpackets htaken h
  have hleftWell : ∀ packet ∈ left, packet.WellFormed :=
    fun packet hmem ↦ hpackets packet (List.mem_append_right taken hmem)
  rcases hend with ⟨hok, hincomplete⟩ | ⟨error, -, hmalformed⟩
  · obtain ⟨taken', htaken', hrun⟩ := reassemble_of_drain direction (Prod.ext hok rfl)
    rw [List.nil_append, List.nil_append] at htaken'
    rw [← htaken'] at hrun
    exact ⟨taken, left, _, rfl, hrun, hincomplete, hleft⟩
  · exact absurd hmalformed (PacketDecoder.not_malformed_of_append hleftWell hleft)

/-! ### The stream of a conversation -/

/-- The transfers that are not records of empty ones. -/
def nonempty (transfers : List ReassembledTransfer) : List ReassembledTransfer :=
  transfers.filter fun transfer ↦ transfer.bytes ≠ []

theorem nonempty_append (transfers transfers' : List ReassembledTransfer) :
    nonempty (transfers ++ transfers') = nonempty transfers ++ nonempty transfers' :=
  List.filter_append ..

theorem nonempty_cons {transfer : ReassembledTransfer} {transfers : List ReassembledTransfer}
    (h : transfer.bytes ≠ []) :
    nonempty (transfer :: transfers) = transfer :: nonempty transfers :=
  List.filter_cons_of_pos (decide_eq_true h)

theorem nonempty_transfers (packets : List Packet) :
    nonempty (packets.map (Packet.transfer direction)) =
      packets.map (Packet.transfer direction) := by
  refine List.filter_eq_self.2 fun transfer hmem ↦ ?_
  obtain ⟨packet, -, rfl⟩ := List.mem_map.1 hmem
  exact decide_eq_true (List.cons_ne_nil _ _)

/-- Behind the entry sequence: by induction on the chunks, where the buffer and the chunks to come
are the packets not yet taken. -/
theorem feed_active (direction : DebugTrafficDirection) {packets : List Packet}
    {chunks : List (List UInt8)} {buffer : List UInt8}
    (hpackets : ∀ packet ∈ packets, packet.WellFormed)
    (hbuffer : PacketDecoder.Incomplete buffer)
    (h : buffer ++ chunks.flatten = packets.flatMap Packet.encode) :
    nonempty (feed direction ⟨buffer, true⟩ chunks).1 =
        packets.map (Packet.transfer direction) ∧
      (feed direction ⟨buffer, true⟩ chunks).2 = ⟨[], true⟩ := by
  induction chunks generalizing packets buffer with
  | nil =>
    rw [List.flatten_nil, List.append_nil] at h
    rcases packets with _ | ⟨packet, packets⟩
    · rw [h]
      exact ⟨rfl, rfl⟩
    · rw [h, List.flatMap_cons] at hbuffer
      exact absurd hbuffer
        (PacketDecoder.not_incomplete_encode (hpackets packet List.mem_cons_self) _)
  | cons chunk chunks ih =>
    rw [List.flatten_cons, ← List.append_assoc] at h
    rw [feed]
    by_cases hempty : chunk = []
    case pos =>
      rw [hempty, List.append_nil] at h
      obtain ⟨htransfers, hend⟩ := ih hpackets hbuffer h
      rw [push, if_pos hempty]
      exact ⟨htransfers, hend⟩
    case neg =>
      obtain ⟨taken, left, rest, rfl, hrun, hincomplete, hleft⟩ :=
        reassemble_packets direction hpackets le_rfl h
      obtain ⟨htransfers, hend⟩ := ih
        (fun packet hmem ↦ hpackets packet (List.mem_append_right taken hmem)) hincomplete hleft
      have hpush : push direction ⟨buffer, true⟩ chunk =
          (taken.map (Packet.transfer direction), ⟨rest, true⟩) := by
        rw [push, if_neg hempty]
        exact (if_neg fun hinactive ↦ absurd rfl hinactive.1).trans hrun
      rw [hpush]
      refine ⟨?_, hend⟩
      dsimp only
      rw [nonempty_append, nonempty_transfers, htransfers, List.map_append]

/-- A push in front of the end of the entry sequence waits, and the one that completes it takes the
sequence and goes on with what follows. -/
theorem push_inactive {buffer chunk behind : List UInt8} {packets : List Packet}
    (hpackets : ∀ packet ∈ packets, packet.WellFormed) (hchunk : chunk ≠ [])
    (h : buffer ++ chunk ++ behind = direction.entry ++ packets.flatMap Packet.encode) :
    ((buffer ++ chunk).length < direction.entry.length ∧
      push direction ⟨buffer, false⟩ chunk = ([], ⟨buffer ++ chunk, false⟩)) ∨
    ∃ taken left rest, packets = taken ++ left ∧
      push direction ⟨buffer, false⟩ chunk =
        (⟨direction, direction.entry, direction.entryKind⟩ ::
          taken.map (Packet.transfer direction), ⟨rest, true⟩) ∧
      PacketDecoder.Incomplete rest ∧ rest ++ behind = left.flatMap Packet.encode := by
  obtain ⟨bound, hbound⟩ : ∃ bound, (buffer ++ chunk).length = bound + 1 := by
    refine Nat.exists_eq_add_one.2 (List.length_pos_iff.2 fun hnil ↦ hchunk ?_)
    exact (List.append_eq_nil_iff.1 hnil).2
  have hcandidate : buffer ++ chunk <+: direction.entry ++ packets.flatMap Packet.encode :=
    ⟨behind, h⟩
  have hentry : direction.entry <+: direction.entry ++ packets.flatMap Packet.encode :=
    List.prefix_append _ _
  rcases Nat.lt_or_ge (buffer ++ chunk).length direction.entry.length with hshort | hlong
  case inl =>
    left
    have hinitial := isPrefixOf_iff.2
      (List.prefix_of_prefix_length_le hcandidate hentry hshort.le)
    refine ⟨hshort, ?_⟩
    rw [push, if_neg hchunk]
    refine (if_neg fun hraw ↦ hraw.2.2.2 hinitial).trans ?_
    rw [extend, hbound, reassemble, if_pos (by simp),
      if_neg fun hstarts ↦ Nat.not_le.2 hshort hstarts.length_le, if_pos hinitial]
  case inr =>
    right
    have hstarts := List.prefix_of_prefix_length_le hentry hcandidate hlong
    obtain ⟨more, hmore⟩ := id hstarts
    rw [← hmore, List.append_assoc, List.append_cancel_left_eq] at h
    have hlength : more.length ≤ bound := by
      have hpos := direction.length_entry_pos
      rw [← hmore, List.length_append] at hbound
      omega
    obtain ⟨taken, left, rest, rfl, hrun, hincomplete, hleft⟩ :=
      reassemble_packets direction hpackets hlength h
    refine ⟨taken, left, rest, rfl, ?_, hincomplete, hleft⟩
    rw [push, if_neg hchunk]
    refine (if_neg fun hraw ↦ hraw.2.2.1 hstarts).trans ?_
    rw [extend, hbound, reassemble, if_pos (by simp), if_pos hstarts]
    dsimp only
    rw [← hmore, List.take_left, List.drop_left, hrun]

/-- In front of the end of the entry sequence: by induction on the chunks. -/
theorem feed_inactive {packets : List Packet} {chunks : List (List UInt8)} {buffer : List UInt8}
    (hpackets : ∀ packet ∈ packets, packet.WellFormed)
    (hbuffer : buffer.length < direction.entry.length)
    (h : buffer ++ chunks.flatten = direction.entry ++ packets.flatMap Packet.encode) :
    nonempty (feed direction ⟨buffer, false⟩ chunks).1 =
        ⟨direction, direction.entry, direction.entryKind⟩ ::
          packets.map (Packet.transfer direction) ∧
      (feed direction ⟨buffer, false⟩ chunks).2 = ⟨[], true⟩ := by
  induction chunks generalizing buffer with
  | nil =>
    have hlength := congrArg List.length h
    rw [List.flatten_nil, List.append_nil, List.length_append] at hlength
    omega
  | cons chunk chunks ih =>
    rw [List.flatten_cons, ← List.append_assoc] at h
    rw [feed]
    by_cases hempty : chunk = []
    case pos =>
      rw [hempty, List.append_nil] at h
      rw [push, if_pos hempty]
      exact ih hbuffer h
    rcases push_inactive hpackets hempty h with
      ⟨hshort, hpush⟩ | ⟨taken, left, rest, rfl, hpush, hincomplete, hleft⟩
    · rw [hpush]
      exact ih hshort h
    · obtain ⟨htransfers, hend⟩ := feed_active direction
        (fun packet hmem ↦ hpackets packet (List.mem_append_right taken hmem)) hincomplete hleft
      rw [hpush]
      refine ⟨?_, hend⟩
      dsimp only
      have hsome := List.ne_nil_of_length_pos direction.length_entry_pos
      rw [nonempty_append, htransfers, nonempty_cons hsome, nonempty_transfers, List.map_append]
      rfl

/-! ### Nothing is lost -/

/-- From the decoder on and with the bytes pushed, the result holds every byte, and its transfers
are what their kinds name. -/
structure Keeps (direction : DebugTrafficDirection) (decoder : DebugTrafficDecoder)
    (bytes : List UInt8) (result : List ReassembledTransfer × DebugTrafficDecoder) : Prop where
  bytes : result.1.flatMap ReassembledTransfer.bytes ++ result.2.bytes = decoder.bytes ++ bytes
  genuine : ∀ transfer ∈ result.1, transfer.Genuine direction
  entry : result.1.countP (fun transfer ↦ transfer.kind.isEntry) + decoder.d4Active.toNat =
    result.2.d4Active.toNat

namespace Keeps

variable {decoder : DebugTrafficDecoder}

theorem refl (direction : DebugTrafficDirection) (decoder : DebugTrafficDecoder) :
    Keeps direction decoder [] ([], decoder) :=
  ⟨(List.append_nil _).symm, List.forall_mem_nil _, Nat.zero_add _⟩

theorem single {transfer : ReassembledTransfer} {next : DebugTrafficDecoder}
    (hbytes : transfer.bytes ++ next.bytes = decoder.bytes)
    (hgenuine : transfer.Genuine direction)
    (hentry : transfer.kind.isEntry.toNat + decoder.d4Active.toNat = next.d4Active.toNat) :
    Keeps direction decoder [] ([transfer], next) where
  bytes := by rw [List.flatMap_singleton, hbytes, List.append_nil]
  genuine := List.forall_mem_singleton.2 hgenuine
  entry := by
    rw [← hentry, List.countP_singleton]
    cases transfer.kind.isEntry <;> rfl

theorem append {bytes bytes' : List UInt8}
    {result result' : List ReassembledTransfer × DebugTrafficDecoder}
    (h : Keeps direction decoder bytes result) (h' : Keeps direction result.2 bytes' result') :
    Keeps direction decoder (bytes ++ bytes') (result.1 ++ result'.1, result'.2) where
  bytes := by
    rw [List.flatMap_append, List.append_assoc, h'.bytes, ← List.append_assoc, h.bytes,
      List.append_assoc]
  genuine := List.forall_mem_append.2 ⟨h.genuine, h'.genuine⟩
  entry := by
    rw [List.countP_append, Nat.add_right_comm, h.entry, Nat.add_comm, h'.entry]

end Keeps

theorem reassemble_keeps (direction : DebugTrafficDirection) (bound : Nat)
    (decoder : DebugTrafficDecoder) :
    Keeps direction decoder [] (reassemble direction bound decoder) := by
  induction bound generalizing decoder with
  | zero => exact .refl direction decoder
  | succ bound ih =>
    rcases round direction decoder with hwaiting | ⟨transfer, next, htakes⟩
    · rw [hwaiting]
      exact .refl direction decoder
    · rw [htakes.run]
      exact (Keeps.single htakes.bytes htakes.genuine htakes.entry).append (ih next)

theorem extend_keeps (direction : DebugTrafficDirection) (decoder : DebugTrafficDecoder)
    (bytes : List UInt8) : Keeps direction decoder bytes (extend direction decoder bytes) := by
  have hkeeps := reassemble_keeps direction (decoder.bytes ++ bytes).length
    { decoder with bytes := decoder.bytes ++ bytes }
  exact ⟨hkeeps.bytes.trans (List.append_nil _), hkeeps.genuine, hkeeps.entry⟩

theorem push_keeps (direction : DebugTrafficDirection) (decoder : DebugTrafficDecoder)
    (bytes : List UInt8) : Keeps direction decoder bytes (push direction decoder bytes) := by
  rw [push]
  dsimp only
  split_ifs with hempty
  · have hkind : direction.emptyKind = .emptyRead ∨ direction.emptyKind = .raw := by
      cases direction <;> decide
    have hentry : direction.emptyKind.isEntry = false := by
      cases direction <;> rfl
    rw [hempty]
    refine .single rfl (ReassembledTransfer.genuine_of_kind hkind) ?_
    rw [hentry]
    exact Nat.zero_add _
  · have hpending : Keeps direction decoder []
        ([⟨direction, decoder.bytes, .raw⟩], { decoder with bytes := [] }) :=
      .single (List.append_nil _) (ReassembledTransfer.genuine_of_kind (.inr rfl))
        (Nat.zero_add _)
    exact hpending.append (extend_keeps direction { decoder with bytes := [] } bytes)
  · exact extend_keeps direction decoder bytes

/-- By induction on the chunks. -/
theorem feed_keeps (direction : DebugTrafficDirection) (decoder : DebugTrafficDecoder)
    (chunks : List (List UInt8)) :
    Keeps direction decoder chunks.flatten (feed direction decoder chunks) := by
  induction chunks generalizing decoder with
  | nil => exact .refl direction decoder
  | cons chunk chunks ih => exact (push_keeps direction decoder chunk).append (ih _)

end DebugTrafficDecoder

/-- **The two reassemblers agree.** Whatever the cutting, a new trace decoder shows the entry
sequence and then one transfer for each packet, with the packet's bytes, and apart from records of
empty transfers nothing else. They are the packets that `PacketDecoder` takes from the same bytes
behind the entry sequence, whatever the cutting is there. -/
theorem reassemblers_agree {packets : List Packet} {direction : DebugTrafficDirection}
    {chunks : List (List UInt8)}
    (hpackets : ∀ packet ∈ packets, ∃ peerSocket sourceSocket payload credit control,
      Packet.new peerSocket sourceSocket payload credit control = .ok packet)
    (hchunks : chunks.flatten = direction.entry ++ packets.flatMap Packet.encode) :
    DebugTrafficDecoder.nonempty (DebugTrafficDecoder.feed direction {} chunks).1 =
        ⟨direction, direction.entry, direction.entryKind⟩ ::
          packets.map (Packet.transfer direction) ∧
      (DebugTrafficDecoder.feed direction {} chunks).2 = ⟨[], true⟩ ∧
      ∀ pushes : List (List UInt8), pushes.flatten = packets.flatMap Packet.encode →
        (∀ result ∈ (PacketDecoder.feed {} pushes).1, ∃ taken, result = .ok taken) ∧
        PacketDecoder.handed (PacketDecoder.feed {} pushes).1 = packets := by
  have hwellFormed : ∀ packet ∈ packets, packet.WellFormed := by
    intro packet hmem
    obtain ⟨peerSocket, sourceSocket, payload, credit, control, hnew⟩ := hpackets packet hmem
    exact (Packet.of_new hnew).1
  have hempty : ([] : List UInt8).length < direction.entry.length := direction.length_entry_pos
  obtain ⟨htransfers, hend⟩ := DebugTrafficDecoder.feed_inactive hwellFormed hempty hchunks
  refine ⟨htransfers, hend, fun pushes hpushes ↦ ?_⟩
  have hincomplete : PacketDecoder.Incomplete ({} : PacketDecoder).buffer := .inl (by decide)
  obtain ⟨hok, hhanded, -⟩ := PacketDecoder.feed_packets hwellFormed hincomplete hpushes
  exact ⟨hok, hhanded⟩

/-- An entry reply cut in two, the second part of which comes with the start of a packet. -/
theorem reassemblers_agree_on_entry_reply :
    DebugTrafficDecoder.nonempty (DebugTrafficDecoder.feed .rx {}
        [[0, 0, 0, 8], [], [1, 0, 0xc5, 0, 2, 2, 0], [7, 1, 0, 0x41]]).1 =
      [⟨.rx, epsonD4EntryReply, .entryReply⟩, ⟨.rx, [2, 2, 0, 7, 1, 0, 0x41], .d4Packet⟩] := by
  have hpackets : ∀ packet ∈ ([⟨⟨2, 2, 7, 1, 0⟩, [0x41]⟩] : List Packet),
      ∃ peerSocket sourceSocket payload credit control,
        Packet.new peerSocket sourceSocket payload credit control = .ok packet :=
    List.forall_mem_singleton.2 ⟨2, 2, [0x41], 1, 0, rfl⟩
  have hchunks : [[0, 0, 0, 8], [], [1, 0, 0xc5, 0, 2, 2, 0], [7, 1, 0, 0x41]].flatten =
      DebugTrafficDirection.rx.entry ++
        ([⟨⟨2, 2, 7, 1, 0⟩, [0x41]⟩] : List Packet).flatMap Packet.encode := by
    decide
  exact (reassemblers_agree hpackets hchunks).1

/-- **The trace loses nothing.** Whatever the chunks, a new trace decoder hands out or keeps every
byte of them, in order. A transfer of a packet is the whole of one packet, an entry transfer is the
entry sequence of the direction, and there is at most one of these. The loop of every push comes to
its end: from some bound on the bound no longer matters, and no round is left. -/
theorem feed_loses_nothing (direction : DebugTrafficDirection) (chunks : List (List UInt8)) :
    let fed := DebugTrafficDecoder.feed direction {} chunks
    fed.1.flatMap ReassembledTransfer.bytes ++ fed.2.bytes = chunks.flatten ∧
      (∀ transfer ∈ fed.1, transfer.kind = .d4Packet →
        ∃ header, PacketHeader.decode transfer.bytes = .ok header ∧
          header.length.toNat = transfer.bytes.length) ∧
      (∀ transfer ∈ fed.1, transfer.kind = .entryCommand ∨ transfer.kind = .entryReply →
        transfer.kind = direction.entryKind ∧ transfer.bytes = direction.entry) ∧
      fed.1.countP (fun transfer ↦
        transfer.kind = .entryCommand ∨ transfer.kind = .entryReply) ≤ 1 ∧
      ∀ decoder bound, decoder.bytes.length ≤ bound →
        let ended := DebugTrafficDecoder.reassemble direction bound decoder
        ended = DebugTrafficDecoder.reassemble direction decoder.bytes.length decoder ∧
          ∀ more, DebugTrafficDecoder.reassemble direction more ended.2 = ([], ended.2) := by
  have hkeeps := DebugTrafficDecoder.feed_keeps direction {} chunks
  refine ⟨hkeeps.bytes, fun transfer hmem hkind ↦ ?_, fun transfer hmem hkind ↦ ?_, ?_,
    fun decoder bound hbound ↦ ⟨DebugTrafficDecoder.reassemble_eq_of_le hbound le_rfl,
      DebugTrafficDecoder.waiting_reassemble hbound⟩⟩
  · obtain ⟨packet, hwellFormed, rfl⟩ := (hkeeps.genuine transfer hmem).packet hkind
    refine ⟨packet.header, ?_, ?_⟩
    · rw [Packet.transfer, ← List.append_nil packet.encode, hwellFormed.decode_encode]
    · rw [Packet.transfer, Packet.length_encode, hwellFormed.length]
  · rw [(hkeeps.genuine transfer hmem).entry (decide_eq_true hkind)]
    exact ⟨rfl, rfl⟩
  · have hcount := hkeeps.entry
    have hactive := Bool.toNat_le (DebugTrafficDecoder.feed direction {} chunks).2.d4Active
    exact (Nat.le_add_right _ _).trans (hcount.le.trans hactive)

end Reink
