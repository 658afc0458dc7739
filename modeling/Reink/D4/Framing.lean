import Reink.D4.Packet

/-!
# The decoder over a sequence of pushes

What a sequence of pushes comes to, whatever the chunks are. A byte string is in one way only a
list of whole packets and a remainder that holds no further one (`flatMap_encode_inj`), so the
pushes have no choice: they take the packets in front of the remainder.

A push that meets a header that does not parse gives its error and nothing else. The packets it has
taken in front of that header are out of the buffer then, and nobody has them: the bytes are kept
exactly as long as no push has a complete packet in front of such a header.
-/

namespace Reink

namespace PacketDecoder

/-- Push the chunks one after another: what each push gives, and the decoder after the last. -/
def feed (decoder : PacketDecoder) :
    List (List UInt8) → List (Except PacketError (List Packet)) × PacketDecoder
  | [] => ([], decoder)
  | chunk :: chunks =>
    let pushed := decoder.push chunk
    let rest := feed pushed.2 chunks
    (pushed.1 :: rest.1, rest.2)

/-- The packets that the caller has been given. -/
def handed (results : List (Except PacketError (List Packet))) : List Packet :=
  results.flatMap fun result ↦ result.toOption.getD []

@[simp] theorem handed_nil : handed [] = [] := rfl

@[simp] theorem handed_ok (packets : List Packet)
    (results : List (Except PacketError (List Packet))) :
    handed (.ok packets :: results) = packets ++ handed results := rfl

@[simp] theorem handed_error (error : PacketError)
    (results : List (Except PacketError (List Packet))) :
    handed (.error error :: results) = handed results := rfl

/-! ### The packets of a byte string -/

/-- No packet can be taken off the front of the bytes. -/
def Stopped (buffer : List UInt8) : Prop :=
  Incomplete buffer ∨ ∃ error, Malformed buffer error

theorem not_stopped_encode {packet : Packet} (h : packet.WellFormed) (tail : List UInt8) :
    ¬ Stopped (packet.encode ++ tail) := by
  rintro (hincomplete | ⟨error, hmalformed⟩)
  · exact not_incomplete_encode h tail hincomplete
  · exact not_malformed_encode h tail error hmalformed

/-- **There is one way to take packets off a byte string** until none can be taken. -/
theorem flatMap_encode_inj {taken taken' : List Packet} {rest rest' : List UInt8}
    (htaken : ∀ packet ∈ taken, packet.WellFormed) (htaken' : ∀ packet ∈ taken', packet.WellFormed)
    (hrest : Stopped rest) (hrest' : Stopped rest')
    (h : taken.flatMap Packet.encode ++ rest = taken'.flatMap Packet.encode ++ rest') :
    taken = taken' ∧ rest = rest' := by
  induction taken generalizing taken' with
  | nil =>
    rcases taken' with _ | ⟨packet', taken'⟩
    · exact ⟨rfl, h⟩
    · rw [List.flatMap_nil, List.nil_append, List.flatMap_cons, List.append_assoc] at h
      exact absurd (h ▸ hrest) (not_stopped_encode (htaken' packet' List.mem_cons_self) _)
  | cons packet taken ih =>
    have hpacket := htaken packet List.mem_cons_self
    rw [List.flatMap_cons, List.append_assoc] at h
    rcases taken' with _ | ⟨packet', taken'⟩
    · rw [List.flatMap_nil, List.nil_append] at h
      exact absurd (h ▸ hrest') (not_stopped_encode hpacket _)
    · rw [List.flatMap_cons, List.append_assoc] at h
      obtain ⟨rfl, htail⟩ :=
        hpacket.encode_append_inj (htaken' packet' List.mem_cons_self) h
      obtain ⟨rfl, hend⟩ := ih (fun q hq ↦ htaken q (List.mem_cons_of_mem packet hq))
        (fun q hq ↦ htaken' q (List.mem_cons_of_mem packet hq)) htail
      exact ⟨rfl, hend⟩

/-- Bytes that go on to a list of packets hold the first of these packets and a part of the rest. -/
theorem taken_of_flatMap {packets taken : List Packet} {buffer rest : List UInt8}
    (hpackets : ∀ packet ∈ packets, packet.WellFormed)
    (htaken : ∀ packet ∈ taken, packet.WellFormed)
    (h : taken.flatMap Packet.encode ++ buffer ++ rest = packets.flatMap Packet.encode) :
    ∃ left, packets = taken ++ left ∧ buffer ++ rest = left.flatMap Packet.encode := by
  have hempty : Stopped [] := .inl (.inl (by decide))
  induction taken generalizing packets with
  | nil => exact ⟨packets, rfl, h⟩
  | cons packet taken ih =>
    have hpacket := htaken packet List.mem_cons_self
    rw [List.flatMap_cons, List.append_assoc, List.append_assoc] at h
    rcases packets with _ | ⟨packet', packets⟩
    · rw [List.flatMap_nil] at h
      exact absurd (h ▸ hempty) (not_stopped_encode hpacket _)
    · rw [List.flatMap_cons] at h
      obtain ⟨rfl, htail⟩ := hpacket.encode_append_inj (hpackets packet' List.mem_cons_self) h
      rw [← List.append_assoc] at htail
      obtain ⟨left, rfl, hleft⟩ := ih (fun q hq ↦ hpackets q (List.mem_cons_of_mem packet hq))
        (fun q hq ↦ htaken q (List.mem_cons_of_mem packet hq)) htail
      exact ⟨left, rfl, hleft⟩

theorem not_malformed_of_incomplete {buffer : List UInt8} {error : PacketError}
    (h : Incomplete buffer) : ¬ Malformed buffer error := by
  rintro ⟨hlength, hdecode⟩
  rcases h with hshort | ⟨header, hheader, -⟩
  · omega
  · rw [hdecode] at hheader
    cases hheader

/-- A part of a list of packets has no header that does not parse. -/
theorem not_malformed_of_append {packets : List Packet} {buffer rest : List UInt8}
    {error : PacketError} (hpackets : ∀ packet ∈ packets, packet.WellFormed)
    (h : buffer ++ rest = packets.flatMap Packet.encode) : ¬ Malformed buffer error := by
  rintro ⟨hlength, hdecode⟩
  rcases packets with _ | ⟨packet, packets⟩
  · obtain ⟨rfl, -⟩ := List.append_eq_nil_iff.1 h
    exact absurd hlength (by decide)
  · have hheader := (hpackets packet List.mem_cons_self).decode_encode
      (packets.flatMap Packet.encode)
    rw [← List.flatMap_cons, ← h, ← decode_take (by rw [List.length_append]; omega),
      List.take_append_of_le_length hlength, decode_take hlength, hdecode] at hheader
    cases hheader

/-! ### Packets in any cutting -/

/-- What the pushes do with the bytes of packets, from a buffer that holds no complete one. By
induction on the chunks: the buffer and the chunks to come are the packets not yet taken. -/
theorem feed_packets {packets : List Packet} {chunks : List (List UInt8)} {decoder : PacketDecoder}
    (hpackets : ∀ packet ∈ packets, packet.WellFormed) (hdecoder : Incomplete decoder.buffer)
    (h : decoder.buffer ++ chunks.flatten = packets.flatMap Packet.encode) :
    (∀ result ∈ (decoder.feed chunks).1, ∃ taken, result = .ok taken) ∧
      handed (decoder.feed chunks).1 = packets ∧ (decoder.feed chunks).2 = {} := by
  induction chunks generalizing packets decoder with
  | nil =>
    rw [List.flatten_nil, List.append_nil] at h
    rcases packets with _ | ⟨packet, packets⟩
    · exact ⟨by simp [feed], rfl, congrArg PacketDecoder.mk h⟩
    · rw [h, List.flatMap_cons] at hdecoder
      exact absurd hdecoder (not_incomplete_encode (hpackets packet List.mem_cons_self) _)
  | cons chunk chunks ih =>
    obtain ⟨taken, htaken, hbytes, hend⟩ := push_spec decoder chunk
    rw [List.flatten_cons, ← List.append_assoc, hbytes] at h
    obtain ⟨left, rfl, hleft⟩ := taken_of_flatMap hpackets htaken h
    have hleftWell : ∀ packet ∈ left, packet.WellFormed :=
      fun packet hmem ↦ hpackets packet (List.mem_append_right taken hmem)
    rcases hend with ⟨hok, hincomplete⟩ | ⟨error, -, hmalformed⟩
    · obtain ⟨hresults, hhanded, hempty⟩ := ih hleftWell hincomplete hleft
      refine ⟨?_, ?_, hempty⟩
      · rintro result (_ | ⟨_, hmem⟩)
        · exact ⟨taken, hok⟩
        · exact hresults result hmem
      · rw [feed, hok, handed_ok, hhanded]
    · exact absurd hmalformed (not_malformed_of_append hleftWell hleft)

/-- A push that gives no error leaves less than a packet in the buffer. -/
theorem incomplete_feed {chunks : List (List UInt8)} {decoder : PacketDecoder}
    (hdecoder : Incomplete decoder.buffer)
    (hok : ∀ result ∈ (decoder.feed chunks).1, ∃ taken, result = .ok taken) :
    Incomplete (decoder.feed chunks).2.buffer := by
  induction chunks generalizing decoder with
  | nil => exact hdecoder
  | cons chunk chunks ih =>
    obtain ⟨taken, -, -, hend⟩ := push_spec decoder chunk
    obtain ⟨taken', htaken'⟩ := hok _ List.mem_cons_self
    rcases hend with ⟨-, hincomplete⟩ | ⟨error, herror, -⟩
    · exact ih hincomplete fun result hmem ↦ hok result (List.mem_cons_of_mem _ hmem)
    · rw [herror] at htaken'
      cases htaken'

theorem feed_append (decoder : PacketDecoder) (chunks chunks' : List (List UInt8)) :
    decoder.feed (chunks ++ chunks') =
      ((decoder.feed chunks).1 ++ ((decoder.feed chunks).2.feed chunks').1,
        ((decoder.feed chunks).2.feed chunks').2) := by
  induction chunks generalizing decoder with
  | nil => rfl
  | cons chunk chunks ih =>
    rw [List.cons_append, feed, ih]
    rfl

/-- **Packets are reassembled from any cutting of their bytes.** No push gives an error, together
they give the packets in their order, the buffer is empty at the end, and before that it never holds
a complete packet. -/
theorem feed_reassembles {packets : List Packet} {chunks : List (List UInt8)}
    (hpackets : ∀ packet ∈ packets, ∃ peerSocket sourceSocket payload credit control,
      Packet.new peerSocket sourceSocket payload credit control = .ok packet)
    (hchunks : chunks.flatten = packets.flatMap Packet.encode) :
    (∀ result ∈ (feed {} chunks).1, ∃ taken, result = .ok taken) ∧
      handed (feed {} chunks).1 = packets ∧ (feed {} chunks).2.buffer = [] ∧
      ∀ before after, chunks = before ++ after →
        Incomplete (feed {} before).2.buffer ∧
        ∀ packet : Packet, packet.WellFormed → ¬ packet.encode <+: (feed {} before).2.buffer := by
  have hwellFormed : ∀ packet ∈ packets, packet.WellFormed := by
    intro packet hmem
    obtain ⟨peerSocket, sourceSocket, payload, credit, control, hnew⟩ := hpackets packet hmem
    exact (Packet.of_new hnew).1
  have hempty : Incomplete ({} : PacketDecoder).buffer := .inl (by decide)
  obtain ⟨hok, hhanded, hend⟩ := feed_packets hwellFormed hempty hchunks
  refine ⟨hok, hhanded, by rw [hend], ?_⟩
  rintro before after rfl
  rw [feed_append] at hok
  have hincomplete := incomplete_feed hempty fun result hmem ↦
    hok result (List.mem_append_left _ hmem)
  refine ⟨hincomplete, ?_⟩
  rintro packet hpacket ⟨tail, htail⟩
  rw [← htail] at hincomplete
  exact not_incomplete_encode hpacket tail hincomplete

/-- Two packets in four chunks, cut inside the length field of the first. -/
theorem feed_reassembles_four_chunks :
    let fed := feed {} [[2, 2, 0], [], [7, 0, 0, 0x41, 2], [2, 0, 6, 1, 0]]
    handed fed.1 = [⟨⟨2, 2, 7, 0, 0⟩, [0x41]⟩, ⟨⟨2, 2, 6, 1, 0⟩, []⟩] ∧ fed.2.buffer = [] := by
  have hpackets : ∀ packet ∈ ([⟨⟨2, 2, 7, 0, 0⟩, [0x41]⟩, ⟨⟨2, 2, 6, 1, 0⟩, []⟩] : List Packet),
      ∃ peerSocket sourceSocket payload credit control,
        Packet.new peerSocket sourceSocket payload credit control = .ok packet :=
    List.forall_mem_cons.2 ⟨⟨2, 2, [0x41], 0, 0, rfl⟩, List.forall_mem_singleton.2
      ⟨2, 2, [], 1, 0, rfl⟩⟩
  have hchunks : [[2, 2, 0], [], [7, 0, 0, 0x41, 2], [2, 0, 6, 1, 0]].flatten =
      ([⟨⟨2, 2, 7, 0, 0⟩, [0x41]⟩, ⟨⟨2, 2, 6, 1, 0⟩, []⟩] : List Packet).flatMap Packet.encode := by
    decide
  obtain ⟨-, hhanded, hempty, -⟩ := feed_reassembles hpackets hchunks
  exact ⟨hhanded, hempty⟩

/-! ### The bytes of a sequence of pushes -/

/-- The bytes start with complete packets, at least one, and then a header that does not parse. -/
def HoldsBeforeMalformed (bytes : List UInt8) : Prop :=
  ∃ (taken : List Packet) (rest : List UInt8) (error : PacketError), taken ≠ [] ∧
    (∀ packet ∈ taken, packet.WellFormed) ∧ bytes = taken.flatMap Packet.encode ++ rest ∧
    Malformed rest error

/-- A push keeps its bytes when it does not find packets before a header that does not parse. -/
theorem push_conserves {decoder : PacketDecoder} {chunk : List UInt8}
    (h : ¬ HoldsBeforeMalformed (decoder.buffer ++ chunk)) :
    (handed [(decoder.push chunk).1]).flatMap Packet.encode ++ (decoder.push chunk).2.buffer =
      decoder.buffer ++ chunk := by
  obtain ⟨taken, htaken, hbytes, hend⟩ := push_spec decoder chunk
  rcases hend with ⟨hok, -⟩ | ⟨error, herror, hmalformed⟩
  · rw [hok, handed_ok, handed_nil, List.append_nil, hbytes]
  · have hnone : taken = [] := by
      by_contra hsome
      exact h ⟨taken, _, error, hsome, htaken, hbytes, hmalformed⟩
    rw [hbytes, hnone, herror]
    rfl

/-- A push that does find them gives the error and keeps only what stands behind them. -/
theorem push_loses {decoder : PacketDecoder} {chunk : List UInt8}
    (h : HoldsBeforeMalformed (decoder.buffer ++ chunk)) :
    handed [(decoder.push chunk).1] = [] ∧
      (decoder.push chunk).2.buffer.length < (decoder.buffer ++ chunk).length := by
  obtain ⟨taken, rest, error, hsome, htaken, hbytes, hmalformed⟩ := h
  obtain ⟨taken', htaken', hbytes', hend⟩ := push_spec decoder chunk
  have hstopped : Stopped (decoder.push chunk).2.buffer :=
    hend.imp And.right fun ⟨error, _, h⟩ ↦ ⟨error, h⟩
  obtain ⟨rfl, hrest⟩ := flatMap_encode_inj htaken htaken' (.inr ⟨error, hmalformed⟩) hstopped
    (hbytes.symm.trans hbytes')
  rw [← hrest] at hend
  rcases hend with ⟨-, hincomplete⟩ | ⟨error', herror, -⟩
  · exact absurd hmalformed (not_malformed_of_incomplete hincomplete)
  · obtain ⟨packet, packets, rfl⟩ := List.exists_cons_of_ne_nil hsome
    refine ⟨by rw [herror]; rfl, ?_⟩
    rw [← hrest, hbytes, List.flatMap_cons]
    simp only [List.length_append, Packet.length_encode, headerLength]
    omega

/-- The number of bytes that are with the caller or in the buffer. -/
def kept (fed : List (Except PacketError (List Packet)) × PacketDecoder) : Nat :=
  ((handed fed.1).flatMap Packet.encode).length + fed.2.buffer.length

theorem kept_push_le (decoder : PacketDecoder) (chunk : List UInt8) :
    kept ([(decoder.push chunk).1], (decoder.push chunk).2) ≤ (decoder.buffer ++ chunk).length := by
  by_cases h : HoldsBeforeMalformed (decoder.buffer ++ chunk)
  · obtain ⟨hnone, hlength⟩ := push_loses h
    rw [kept, hnone]
    simpa using hlength.le
  · rw [← push_conserves h, List.length_append, kept]

theorem kept_feed_cons (decoder : PacketDecoder) (chunk : List UInt8)
    (chunks : List (List UInt8)) :
    kept (decoder.feed (chunk :: chunks)) + (decoder.push chunk).2.buffer.length =
      kept ([(decoder.push chunk).1], (decoder.push chunk).2) +
        kept ((decoder.push chunk).2.feed chunks) := by
  simp only [kept, feed, handed, List.flatMap_cons, List.flatMap_nil, List.append_nil,
    List.flatMap_append, List.length_append]
  omega

/-- No byte is made up. -/
theorem kept_feed_le (decoder : PacketDecoder) (chunks : List (List UInt8)) :
    kept (decoder.feed chunks) ≤ (decoder.buffer ++ chunks.flatten).length := by
  induction chunks generalizing decoder with
  | nil => simp [feed, kept]
  | cons chunk chunks ih =>
    have hcons := kept_feed_cons decoder chunk chunks
    have hpush := kept_push_le decoder chunk
    have hrest := ih (decoder.push chunk).2
    simp only [List.length_append, List.flatten_cons] at hpush hrest ⊢
    omega

/-- What a push has lost does not come back. -/
theorem kept_feed_lt {decoder : PacketDecoder} {before after : List (List UInt8)}
    {chunk : List UInt8}
    (h : HoldsBeforeMalformed ((decoder.feed before).2.buffer ++ chunk)) :
    kept (decoder.feed (before ++ chunk :: after)) <
      (decoder.buffer ++ (before ++ chunk :: after).flatten).length := by
  induction before generalizing decoder with
  | nil =>
    obtain ⟨hnone, hlength⟩ : handed [(decoder.push chunk).1] = [] ∧
      (decoder.push chunk).2.buffer.length < (decoder.buffer ++ chunk).length := push_loses h
    have hcons := kept_feed_cons decoder chunk after
    have hpush : kept ([(decoder.push chunk).1], (decoder.push chunk).2) =
        (decoder.push chunk).2.buffer.length := by
      rw [kept, hnone, List.flatMap_nil, List.length_nil, Nat.zero_add]
    have hrest := kept_feed_le (decoder.push chunk).2 after
    simp only [List.nil_append, List.length_append, List.flatten_cons] at hrest hlength ⊢
    omega
  | cons first before ih =>
    have hcons := kept_feed_cons decoder first (before ++ chunk :: after)
    have hpush := kept_push_le decoder first
    have hrest := ih h
    simp only [List.cons_append, List.length_append, List.flatten_cons] at hcons hpush hrest ⊢
    omega

/-- Pushes that all keep their bytes keep all bytes, in their order. -/
theorem feed_conserves {decoder : PacketDecoder} {chunks : List (List UInt8)}
    (h : ∀ before chunk after, chunks = before ++ chunk :: after →
      ¬ HoldsBeforeMalformed ((decoder.feed before).2.buffer ++ chunk)) :
    (handed (decoder.feed chunks).1).flatMap Packet.encode ++ (decoder.feed chunks).2.buffer =
      decoder.buffer ++ chunks.flatten := by
  induction chunks generalizing decoder with
  | nil => simp [feed]
  | cons chunk chunks ih =>
    have hpush : (handed [(decoder.push chunk).1]).flatMap Packet.encode ++
        (decoder.push chunk).2.buffer = decoder.buffer ++ chunk :=
      push_conserves (h [] chunk chunks rfl)
    have hrest := ih fun before chunk' after heq ↦
      h (chunk :: before) chunk' after (congrArg (chunk :: ·) heq)
    rw [List.flatten_cons, ← List.append_assoc, ← hpush, List.append_assoc, ← hrest,
      ← List.append_assoc, ← List.flatMap_append]
    simp only [feed, handed, List.flatMap_cons, List.flatMap_nil, List.append_nil]

/-- **The bytes are kept exactly as long as no push finds packets before a header that does not
parse.** With the caller or in the buffer, in the order in which they were pushed. -/
theorem feed_conserves_iff (chunks : List (List UInt8)) :
    (handed (feed {} chunks).1).flatMap Packet.encode ++ (feed {} chunks).2.buffer =
        chunks.flatten ↔
      ∀ before chunk after, chunks = before ++ chunk :: after →
        ¬ HoldsBeforeMalformed ((feed {} before).2.buffer ++ chunk) := by
  refine ⟨?_, feed_conserves⟩
  rintro hkept before chunk after rfl hloses
  have hlength := congrArg List.length hkept
  rw [List.length_append] at hlength
  exact absurd hlength (kept_feed_lt hloses).ne

/-- A good packet and a header that announces less than itself, in one push: the packet is gone. -/
theorem push_loses_packet :
    PacketDecoder.push {} [2, 2, 0, 6, 0, 0, 2, 2, 0, 5, 0, 0] =
      (.error (.invalidLength 5), ⟨[2, 2, 0, 5, 0, 0]⟩) ∧
    ¬ ∀ chunks, (handed (feed {} chunks).1).flatMap Packet.encode ++ (feed {} chunks).2.buffer =
      chunks.flatten := by
  refine ⟨by decide, fun h ↦ ?_⟩
  exact absurd (h [[2, 2, 0, 6, 0, 0, 2, 2, 0, 5, 0, 0]]) (by decide)

end PacketDecoder

end Reink
