import Reink.App.WritablePrinter

/-!
# A simulated printer that is written to

The simulated printer with a memory of its own. It looks at what it gets on the control channel
first, and leaves to the printer inside whatever is no write and does not ask for the identity.
-/

namespace Reink

open Printer (Stage)

/-- A printer with the reply that it tells its identity by. -/
structure IdentifiedPrinter extends Printer where
  identity : PrinterIdentity
  identityReply : List UInt8
  identifies : identityOfReply identityReply = .ok identity
  identity_fits : headerLength + identityReply.length ≤ maxServiceSize.toNat
  /-- A write request fits the packets that the printer takes. -/
  write_fits : ∀ writeKey ∈ spec.writeKey,
    headerLength + (10 + spec.writeAddressWidth.byteLen + writeKey.length) ≤ maxPacketSize.toNat

/-- A printer in a session, with what its memory holds. -/
structure WritablePrinter (q : IdentifiedPrinter) where
  memory : UInt16 → UInt8
  printer : SimulatedPrinter (q.withMemory memory)

/-- How long a write request is. -/
theorem length_of_encodeEepromWrite {spec : EpsonSpec} {address : UInt16} {value : UInt8}
    {request : List UInt8} (h : encodeEepromWrite spec address value = .ok request) :
    ∃ writeKey ∈ spec.writeKey,
      request.length = 10 + spec.writeAddressWidth.byteLen + writeKey.length := by
  obtain ⟨writeKey, payload, hkey, haddress, hfactory⟩ := encodeEepromWrite_eq_ok.1 h
  have hpayload : payload.length = spec.writeAddressWidth.byteLen := by
    unfold encodeAddress at haddress
    split at haddress
    · split at haddress <;> cases haddress
      rw [‹spec.writeAddressWidth = _›]
      rfl
    · cases haddress
      rw [‹spec.writeAddressWidth = _›]
      exact UInt16.length_toLeBytes _
  refine ⟨writeKey, hkey, ?_⟩
  unfold encodeFactoryCommand encodeCommand at hfactory
  split at hfactory <;> cases hfactory
  have hletters : (Text.ascii "||").length = 2 := rfl
  simp only [List.length_append, List.length_cons, List.length_nil, UInt16.length_toLeBytes,
    hpayload, hletters]
  omega

namespace WritablePrinter

variable {q : IdentifiedPrinter}

/-- What the memory is after the request, and the reply to it. -/
def served (s : WritablePrinter q) (payload : List UInt8) :
    Option ((UInt16 → UInt8) × List UInt8) :=
  match decodeWrite q.spec payload with
  | some (address, value) => some (Function.update s.memory address value, Text.ascii ":OK;")
  | none =>
    if encodeCommand (Text.ascii "di") [1] = .ok payload then some (s.memory, q.identityReply)
    else none

/-- The same for what is written, if that is a packet on the control channel. -/
def asked (s : WritablePrinter q) (data : List UInt8) :
    Option ((UInt16 → UInt8) × List UInt8) :=
  match (PacketDecoder.push {} data).1 with
  | .ok [request] =>
    if request.channel = q.channel then s.served (data.drop headerLength) else none
  | _ => none

/-- The printer takes the bytes of one write: a factory write is stored and answered. -/
def receive (data : List UInt8) (s : WritablePrinter q) : WritablePrinter q :=
  match s.asked data with
  | some (memory, response) =>
    let answer := SimulatedPrinter.packet q.socket q.socket s.printer.piggyback response
    ⟨memory, .serving s.printer.piggyback.toUInt16, answer.encode, s.printer.granted,
      s.printer.piggyback, s.printer.granted_le, s.printer.piggyback_le⟩
  | none => { s with printer := s.printer.receive data }

instance : ByteTransport (WritablePrinter q) where
  writeAll data s := (.ok (), s.receive data)
  read size s :=
    ((ByteTransport.read size s.printer).1,
      { s with printer := (ByteTransport.read size s.printer).2 })
  length_le_of_read := by
    intro size s s' bytes h
    exact ByteTransport.length_le_of_read (Prod.ext (Prod.mk.inj h).1 rfl)

/-- Closing it takes nothing. -/
instance : UsbTransport (WritablePrinter q) where
  close s := (.ok (), s)

/-! ### It conforms -/

/-- What carries no write changes no memory. -/
theorem memory_of_asked {s : WritablePrinter q} {data response : List UInt8}
    {memory : UInt16 → UInt8} (hother : WritesWithin q.spec [] (data.drop headerLength))
    (h : s.asked data = some (memory, response)) : memory = s.memory := by
  unfold asked at h
  split at h
  · split at h
    · unfold served at h
      split at h
      case h_1 hwrite =>
        exact absurd (hother _ _ (decodeWrite_eq_some.1 hwrite)) List.not_mem_nil
      case h_2 =>
        split at h <;> cases h
        rfl
    · cases h
  · cases h

/-- A packet on the control channel. -/
theorem asked_encode {s : WritablePrinter q} {request : Packet} (h : request.WellFormed)
    (hchannel : request.channel = q.channel) :
    s.asked request.encode = s.served request.payload := by
  have hpush : PacketDecoder.push {} request.encode = (.ok [request], {}) :=
    PacketDecoder.push_last h rfl
  rw [asked, hpush]
  dsimp only
  rw [if_pos hchannel, drop_encode]

/-- What the dialogue can ask is left to the printer inside. -/
theorem asked_of_asks {s : WritablePrinter q} {ask : Printer.Ask} {data : List UInt8}
    (h : (q.withMemory s.memory).Asks ask data) : s.asked data = none := by
  cases h with
  | enter => rfl
  | @transact message payload packet hencode hpacket =>
    obtain ⟨hwellFormed, hchannel, -⟩ := Printer.packet_of_new hpacket
    have hpush : PacketDecoder.push {} packet.encode = (.ok [packet], {}) :=
      PacketDecoder.push_last hwellFormed rfl
    have hother : packet.channel ≠ q.channel := by
      rw [hchannel]
      exact q.channel_ne.symm
    rw [asked, hpush]
    exact if_neg hother
  | @read address payload packet hencode hpacket =>
    obtain ⟨hwellFormed, hchannel, hpayload, -⟩ := Printer.packet_of_new hpacket
    have hnone : decodeWrite q.spec payload = none :=
      Option.eq_none_iff_forall_not_mem.2 fun u hu ↦
        encodeEepromWrite_ne_of_read hencode (decodeWrite_eq_some.1 hu)
    have hother : encodeCommand (Text.ascii "di") [1] ≠ .ok payload := by
      intro hidentity
      obtain ⟨encoded, -, hfactory⟩ := encodeEepromRead_eq_ok.1 hencode
      have hcommand := (drop_encodeFactoryCommand hfactory).1
      cases hidentity
      cases hcommand
    rw [asked_encode hwellFormed hchannel, hpayload, served, hnone]
    exact if_neg hother

/-- Its bytes come as those of the printer inside. -/
def prompt (q : IdentifiedPrinter) : PromptPeer (WritablePrinter q) Stage where
  stage s := s.printer.stage
  outbox s := s.printer.outbox
  read := by
    intro size s hsize hne
    obtain ⟨bytes, printer, hread, hbytes, hrest, hstage⟩ :=
      (SimulatedPrinter.peer (q.withMemory s.memory)).read (t := s.printer) hsize hne
    refine ⟨bytes, { s with printer := printer }, ?_, hbytes, hrest, hstage⟩
    show ((ByteTransport.read size s.printer).1, _) = _
    rw [hread]

/-- A request that is served is replied to on the control channel. -/
theorem receive_served {s : WritablePrinter q} {request : Packet} {payload response : List UInt8}
    {memory : UInt16 → UInt8} {P : List UInt8 → Prop}
    (hpacket : Packet.new q.socket q.socket payload 1 0 = .ok request)
    (hserved : s.served payload = some (memory, response)) (hresponse : P response)
    (hfits : headerLength + response.length ≤ q.maxServiceSize.toNat) :
    (prompt q).HasReplied q.toPrinter P (s.receive request.encode) ∧
      (s.receive request.encode).memory = memory := by
  obtain ⟨hwellFormed, hchannel, hpayload, -⟩ := Printer.packet_of_new hpacket
  have hasked : s.asked request.encode = some (memory, response) := by
    rw [asked_encode hwellFormed hchannel, hpayload, hserved]
  have hnew := SimulatedPrinter.packet_new q.socket q.socket s.printer.piggyback
    (Nat.lt_of_le_of_lt hfits q.maxServiceSize.toNat_lt)
  rw [receive, hasked]
  refine ⟨⟨response, _, s.printer.piggyback, 0, hresponse, s.printer.piggyback_le, hnew, ?_, rfl,
    rfl⟩, rfl⟩
  rw [UInt16.le_iff_toNat_le, (Printer.packet_of_new hnew).2.2.2.2.1]
  exact hfits

/-- **The simulated printer is one that is written to.** -/
def peer (q : IdentifiedPrinter) : WritablePeer q.toPrinter (WritablePrinter q) where
  toPromptPeer := prompt q
  memory := memory
  identity := q.identity
  write_fits := by
    intro address value request hencode
    obtain ⟨writeKey, hkey, hlength⟩ := length_of_encodeEepromWrite hencode
    rw [hlength]
    exact q.write_fits writeKey hkey
  memory_of_read _ _ := rfl
  memory_of_other := by
    intro data hother s
    show (s.receive data).memory = s.memory
    unfold receive
    split
    case h_1 memory response hasked => exact memory_of_asked hother hasked
    case h_2 => rfl
  answers := by
    intro s ask data stage' sent hquiet hasks hexchange
    obtain ⟨printer, hwrite, hexchange'⟩ := (SimulatedPrinter.peer (q.withMemory s.memory)).answers
      (t := s.printer) hquiet hasks hexchange
    cases hwrite
    have hreceive : s.receive data = { s with printer := s.printer.receive data } := by
      rw [receive, asked_of_asks hasks]
    refine ⟨s.receive data, rfl, ?_⟩
    rw [hreceive]
    exact hexchange'
  identifies := by
    intro s request packet hquiet hstage hencode hpacket
    have hother : WritesWithin q.spec [] request :=
      writesWithin_of_encodeCommand (by decide) (by decide) hencode
    have hnone : decodeWrite q.spec request = none :=
      Option.eq_none_iff_forall_not_mem.2 fun u hu ↦
        absurd (hother u.1 u.2 (decodeWrite_eq_some.1 hu)) List.not_mem_nil
    have hserved : s.served request = some (s.memory, q.identityReply) := by
      rw [served, hnone]
      exact if_pos hencode
    exact ⟨_, rfl, (receive_served hpacket hserved q.identifies q.identity_fits).1⟩
  stores := by
    intro s address value request packet hquiet hstage hencode hpacket
    have hserved : s.served request =
        some (Function.update s.memory address value, Text.ascii ":OK;") := by
      rw [served, decodeWrite_eq_some.2 hencode]
    have hfits : headerLength + (Text.ascii ":OK;").length ≤ q.maxServiceSize.toNat :=
      Nat.le_trans (by decide) q.reply_fits
    exact ⟨_, rfl, receive_served hpacket hserved (by decide) hfits⟩
  entry := by
    intro s s' hidle hquiet hwrite
    cases hwrite
    refine .inr fun bytes t h ↦ ?_
    cases h
    refine .inr fun bytes t h ↦ ?_
    cases h
    refine .inr fun bytes t h ↦ ?_
    cases h
    exact .inl rfl

/-- A printer that nobody has spoken to yet. -/
def idle (q : IdentifiedPrinter) (memory : UInt16 → UInt8) : WritablePrinter q :=
  ⟨memory, .idle, [], 0, 0, by decide, by decide⟩

end WritablePrinter

/-- A C90 of which two cells are in range. -/
def IdentifiedPrinter.c90 : IdentifiedPrinter where
  spec := { EpsonSpec.c90 with memoryLow := 0x0c, memoryHigh := 0x0d }
  memory _ := 0
  revision := .v20
  socket := 3
  maxPacketSize := 0x200
  maxServiceSize := 0x200
  maxCredit := 0
  socket_ne_zero := by decide
  request_fits := by decide
  reply_fits := by decide
  identity := ⟨(∅ : Std.ExtTreeMap String String).insert "MFG" "EPSON" |>.insert "MDL" "C90", []⟩
  identityReply := Text.ascii "@EJL ID MFG:EPSON;MDL:C90;"
  identifies := rfl
  identity_fits := by decide
  write_fits := by
    rintro writeKey ⟨⟩
    decide

/-- Its cells can be read and written. -/
theorem IdentifiedPrinter.writable_c90 : c90.spec.Writable where
  range := by decide
  read address hcontains _ := UInt16.le_trans hcontains.2 (by decide)
  write address hcontains :=
    EpsonSpec.canWrite_of_key rfl (by decide) fun _ ↦ UInt16.le_trans hcontains.2 (by decide)

end Reink
