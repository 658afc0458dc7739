import Reink.Cli.Offline
import Reink.Core.Database

/-!
# What the offline analysis makes of encoded requests

The encoder and the analyzer are written independently of each other. The header of an encoded
request overlaps no header before it, so the analyzer always comes to it; but it reads every address
as two bytes, so that it recognizes the requests of a model exactly if the model's addresses have
two.
-/

namespace Reink

open Offline

/-! ### The bytes of a request -/

/-- The request is a factory command with the payload, which is so short that the high byte of the
declared length is zero. -/
structure IsCommand (readKey : UInt16) (command : UInt8) (payload request : List UInt8) : Prop where
  known : command = 0x41 ∨ command = 0x42
  bytes : ∃ low key key', (UInt16.fromLeBytes low 0).toNat = payload.length + 5 ∧
    UInt16.fromLeBytes key key' = readKey ∧
    request = [0x7c, 0x7c, low, 0, key, key', command, ~~~command, checkByte command] ++ payload

theorem isCommand_of_encode {readKey : UInt16} {command : UInt8} {payload request : List UInt8}
    (h : encodeFactoryCommand readKey command payload = .ok request)
    (hknown : command = 0x41 ∨ command = 0x42) (hshort : payload.length ≤ 250) :
    IsCommand readKey command payload request := by
  refine ⟨hknown, UInt8.ofNat (payload.length + 5), _, _, ?_, readKey.fromBeBytes_div_mod, ?_⟩
  · rw [UInt16.fromLeBytes, UInt16.toNat_fromBeBytes, UInt8.toNat_ofNat',
      Nat.mod_eq_of_lt (by omega)]
    exact Nat.zero_add _
  · unfold encodeFactoryCommand encodeCommand at h
    have hlength : (readKey.toLeBytes ++ [command, ~~~command, checkByte command] ++
        payload).length = payload.length + 5 := by
      simp only [List.length_append, List.length_cons, List.length_nil, UInt16.length_toLeBytes]
      omega
    have hle : (UInt16.ofNat (payload.length + 5)).toLeBytes =
        [UInt8.ofNat (payload.length + 5), 0] := by
      rw [UInt16.toLeBytes, UInt16.toNat_ofNat', Nat.mod_eq_of_lt (by omega),
        Nat.mod_eq_of_lt (by omega), Nat.div_eq_of_lt (by omega)]
      rfl
    rw [hlength, if_pos (by omega), hle] at h
    cases h
    rfl

/-! ### Overlaps -/

section Overlap

variable {bytes before after payload request : List UInt8} {offset : Nat} {readKey : UInt16}
  {command : UInt8}

/-- A byte behind the key of a header is that of one of the two commands. -/
theorem Offline.HeaderAt.command_byte (h : HeaderAt bytes offset) {i : Nat} {b : UInt8}
    (hi : i < 3) (hb : bytes[offset + (6 + i)]? = some b) :
    readCommand[i]? = some b ∨ writeCommand[i]? = some b := by
  have hbyte : (((bytes.drop offset).take 9).drop 6)[i]? = some b := by
    rw [List.getElem?_drop, List.getElem?_take_of_lt (by omega), List.getElem?_drop, hb]
  rcases h.2.2 with hkind | hkind
  · rw [hkind] at hbyte
    exact .inl hbyte
  · rw [hkind] at hbyte
    exact .inr hbyte

/-- The header of a request overlaps no header before it: every byte of it that a command byte of
the other would fall on is another. -/
theorem IsCommand.isolated (h : IsCommand readKey command payload request)
    (hheader : HeaderAt (before ++ request ++ after) offset) (hlt : offset < before.length) :
    offset + 9 ≤ before.length := by
  obtain ⟨hknown, low, key, key', -, -, hrequest⟩ := h
  have hbyte : ∀ i j b, i = before.length + j → request[j]? = some b →
      (before ++ request ++ after)[i]? = some b := by
    rintro i j b rfl hj
    obtain ⟨hinside, -⟩ := List.getElem?_eq_some_iff.1 hj
    rw [List.append_assoc, List.getElem?_append_right (Nat.le_add_right _ _),
      Nat.add_sub_cancel_left, List.getElem?_append_left hinside, hj]
  have hbars : request[0]? = some 0x7c ∧ request[1]? = some 0x7c := by
    rw [hrequest]
    exact ⟨rfl, rfl⟩
  have hhigh : request[3]? = some 0 := by rw [hrequest]; rfl
  have hcommand : request[6]? = some command ∧ request[7]? = some (~~~command) := by
    rw [hrequest]
    exact ⟨rfl, rfl⟩
  -- the byte of the request where the other header has a byte of its command
  have hfalls : ∀ i j b, i < 3 → offset + (6 + i) = before.length + j → request[j]? = some b →
      readCommand[i]? = some b ∨ writeCommand[i]? = some b :=
    fun i j b hi hposition hb ↦ hheader.command_byte hi (hbyte _ j b hposition hb)
  by_contra hoverlap
  have hdistance : before.length = offset + 1 ∨ before.length = offset + 2 ∨
      before.length = offset + 3 ∨ before.length = offset + 4 ∨ before.length = offset + 5 ∨
      before.length = offset + 6 ∨ before.length = offset + 7 ∨ before.length = offset + 8 := by
    omega
  rcases hdistance with h | h | h | h | h | h | h | h
  · have hbad := hfalls 2 7 _ (by decide) (by omega) hcommand.2
    rcases hknown with rfl | rfl <;> exact absurd hbad (by decide)
  · have hbad := hfalls 2 6 _ (by decide) (by omega) hcommand.1
    rcases hknown with rfl | rfl <;> exact absurd hbad (by decide)
  · exact absurd (hfalls 0 3 _ (by decide) (by omega) hhigh) (by decide)
  · exact absurd (hfalls 1 3 _ (by decide) (by omega) hhigh) (by decide)
  · exact absurd (hfalls 0 1 _ (by decide) (by omega) hbars.2) (by decide)
  · exact absurd (hfalls 1 1 _ (by decide) (by omega) hbars.2) (by decide)
  · exact absurd (hfalls 2 1 _ (by decide) (by omega) hbars.2) (by decide)
  · exact absurd (hfalls 2 0 _ (by decide) (by omega) hbars.1) (by decide)

/-- A payload is taken back from the bytes it stands in front of. -/
theorem Offline.bodyOf_append {offset : Nat} {readKey : UInt16} {isRead : Bool}
    {payload after : List UInt8} :
    bodyOf offset readKey isRead payload.length (payload ++ after) =
      payloadOf offset readKey isRead payload := by
  rw [bodyOf, if_neg (by rw [List.length_append]; omega), List.take_left]

/-- The header of a request, and what is said of it and of the bytes behind it. -/
theorem IsCommand.requestIn_eq (h : IsCommand readKey command payload request)
    (before after : List UInt8) :
    HeaderAt (before ++ request ++ after) before.length ∧
      requestIn (before ++ request ++ after) before.length =
        some (bodyOf before.length readKey (command = 0x41) payload.length (payload ++ after)) := by
  obtain ⟨hknown, low, key, key', hlength, rfl, hrequest⟩ := h
  have hbehind : (before ++ request ++ after).drop before.length =
      [0x7c, 0x7c, low, 0, key, key', command, ~~~command, checkByte command] ++
        (payload ++ after) := by
    rw [List.append_assoc, List.drop_left, hrequest, List.append_assoc]
  have hheader : IsHeader [0x7c, 0x7c, low, 0, key, key', command, ~~~command,
      checkByte command] := by
    refine ⟨rfl, ?_⟩
    rcases hknown with rfl | rfl
    · exact .inl rfl
    · exact .inr rfl
  have hread : decide ([command, ~~~command, checkByte command] = readCommand) =
      decide (command = 0x41) := by
    rcases hknown with rfl | rfl <;> rfl
  constructor
  · refine ⟨?_, by rw [hbehind]; exact hheader⟩
    rw [hrequest]
    simp only [List.length_append, List.length_cons]
    omega
  · have htake : ((before ++ request ++ after).drop before.length).take 9 = [0x7c, 0x7c, low, 0,
        key, key', command, ~~~command, checkByte command] := by
      rw [hbehind]
      rfl
    rw [requestIn, htake, ← List.drop_drop, hbehind]
    change (if IsHeader _ then _ else _) = _
    rw [if_pos hheader, if_neg (by omega), hlength, Nat.add_sub_cancel, ← hread]
    rfl

/-- A request is found exactly as what is said of it. -/
theorem IsCommand.mem_findings_iff {bytes : Slice UInt8} {bound : Nat} {includeAscii : Bool}
    (h : IsCommand readKey command payload request)
    (hbytes : bytes.toList = before ++ request ++ after) (hbound : bytes.toList.length < bound)
    (finding : BinaryFinding) (hrequest : finding.IsRequest)
    (hoffset : finding.offset = before.length) :
    (∃ findings, analyzeBinaryBytes bound bytes includeAscii = .ok findings ∧
        finding ∈ findings) ↔
      finding = payloadOf before.length readKey (command = 0x41) payload := by
  obtain ⟨hheader, hbody⟩ := h.requestIn_eq before after
  rw [Offline.bodyOf_append] at hbody
  obtain ⟨requests, runs, hrun, hleftmost, hall, -⟩ :=
    analyzeBinaryBytes_eq bytes includeAscii hbound
  rw [← hbytes] at hheader hbody
  rw [hrun]
  constructor
  · rintro ⟨findings, hfindings, hmem⟩
    obtain rfl := Outcome.ok.inj hfindings
    rcases List.mem_append.1 hmem with hmem | htext
    · have hsaid := (hall finding hmem).2
      rw [hoffset, hbody] at hsaid
      exact (Option.some.inj hsaid).symm
    · split at htext
      · obtain ⟨run, -, rfl⟩ := List.mem_map.1 htext
        exact absurd hrequest id
      · cases htext
  · intro hfinding
    have hfound := hleftmost.mem_of_isolated (Nat.zero_le _) hheader fun other hother hlt ↦
      h.isolated (hbytes ▸ hother) hlt
    obtain ⟨found, hmem, hposition⟩ := List.mem_map.1 hfound
    have hsaid := (hall found hmem).2
    rw [hposition, hbody] at hsaid
    refine ⟨_, rfl, List.mem_append_left _ ?_⟩
    rw [hfinding, Option.some.inj hsaid]
    exact hmem

end Overlap

/-! ### Recognition -/

section Recognition

variable {spec : EpsonSpec} {address : UInt16} {value : UInt8} {request before after : List UInt8}
  {bytes : Slice UInt8} {bound : Nat}

theorem AddressWidth.byteLen_le_two (width : AddressWidth) : width.byteLen ≤ 2 := by
  cases width <;> decide

theorem length_of_encodeAddress {width : AddressWidth} {payload : List UInt8}
    (h : encodeAddress width address = .ok payload) : payload.length = width.byteLen := by
  unfold encodeAddress at h
  split at h
  · split at h
    · cases h
    · cases h
      rfl
  · cases h
    rfl

/-- A read request is recognized exactly if its address has two bytes. -/
theorem finds_read_iff (h : encodeEepromRead spec address = .ok request)
    (hbytes : bytes.toList = before ++ request ++ after) (hbound : bytes.toList.length < bound)
    (includeAscii : Bool) :
    (∃ findings, analyzeBinaryBytes bound bytes includeAscii = .ok findings ∧
        .eepromRead before.length spec.readKey address ∈ findings) ↔
      spec.readAddressWidth = .two := by
  obtain ⟨payload, haddress, hencode⟩ := encodeEepromRead_eq_ok.1 h
  have hlength := length_of_encodeAddress haddress
  have hshort := spec.readAddressWidth.byteLen_le_two
  have hcommand : IsCommand spec.readKey 0x41 payload request :=
    isCommand_of_encode hencode (.inl rfl) (by omega)
  rw [hcommand.mem_findings_iff hbytes hbound (.eepromRead _ _ _) trivial rfl]
  rcases hwidth : spec.readAddressWidth with _ | _
  case one =>
    rw [hwidth] at hlength
    obtain ⟨b, rfl⟩ := List.length_eq_one_iff.1 hlength
    exact ⟨nofun, nofun⟩
  case two =>
    rw [hwidth] at haddress
    cases haddress
    refine ⟨fun _ ↦ rfl, fun _ ↦ ?_⟩
    change _ = BinaryFinding.eepromRead _ _ (UInt16.fromLeBytes _ _)
    rw [UInt16.fromLeBytes, UInt16.fromBeBytes_div_mod]

/-- A write request is recognized exactly if its address has two bytes. With one byte the value is
taken for the other, and the first byte of the key for the value. -/
theorem finds_write_iff (h : encodeEepromWrite spec address value = .ok request)
    {writeKey : List UInt8} (hkey : spec.writeKey = some writeKey)
    (hkeyLength : writeKey.length = 8)
    (hbytes : bytes.toList = before ++ request ++ after) (hbound : bytes.toList.length < bound)
    (includeAscii : Bool) :
    (∃ findings, analyzeBinaryBytes bound bytes includeAscii = .ok findings ∧
        .eepromWrite before.length spec.readKey address value writeKey ∈ findings) ↔
      spec.writeAddressWidth = .two := by
  obtain ⟨writeKey', payload, hkey', haddress, hencode⟩ := encodeEepromWrite_eq_ok.1 h
  cases hkey.symm.trans hkey'
  have hlength := length_of_encodeAddress haddress
  have hshort := spec.writeAddressWidth.byteLen_le_two
  have hcommand : IsCommand spec.readKey 0x42 (payload ++ [value] ++ writeKey) request := by
    refine isCommand_of_encode hencode (.inr rfl) ?_
    rw [List.length_append, List.length_append, List.length_singleton]
    omega
  rw [hcommand.mem_findings_iff hbytes hbound (.eepromWrite _ _ _ _ _) trivial rfl]
  rcases hwidth : spec.writeAddressWidth with _ | _
  case one =>
    rw [hwidth] at hlength
    obtain ⟨b, rfl⟩ := List.length_eq_one_iff.1 hlength
    obtain ⟨k, rest, rfl⟩ := List.exists_cons_of_length_eq_add_one hkeyLength
    refine ⟨fun hsame ↦ ?_, nofun⟩
    injection hsame with _ _ _ _ hrest
    exact absurd hrest (List.cons_ne_self k rest)
  case two =>
    rw [hwidth] at haddress
    cases haddress
    refine ⟨fun _ ↦ rfl, fun _ ↦ ?_⟩
    change _ = BinaryFinding.eepromWrite _ _ (UInt16.fromLeBytes _ _) _ _
    rw [UInt16.fromLeBytes, UInt16.fromBeBytes_div_mod]
    rfl

end Recognition

/-- **When the analysis recognizes a request.** For every model of a database, whatever surrounds
the request: a read request exactly if the model's read addresses have two bytes, and a write
request exactly if its write addresses have. -/
theorem analyzeBinaryBytes_recognizes_iff {ε : Type} {fromStr : String → Except ε RawDatabase}
    {input : String} {database : ModelDatabase}
    (h : ModelDatabase.fromToml fromStr input = .ok database) {model : String} {spec : EpsonSpec}
    (hget : database.get model = some spec) {bytes : Slice UInt8}
    {before request after : List UInt8} (hbytes : bytes.toList = before ++ request ++ after)
    {bound : Nat} (hbound : bytes.toList.length < bound) (includeAscii : Bool) :
    (∀ address, encodeEepromRead spec address = .ok request →
      ((∃ findings, analyzeBinaryBytes bound bytes includeAscii = .ok findings ∧
          .eepromRead before.length spec.readKey address ∈ findings) ↔
        spec.readAddressWidth = .two)) ∧
    ∀ address value, encodeEepromWrite spec address value = .ok request →
      ∃ writeKey, spec.writeKey = some writeKey ∧
        ((∃ findings, analyzeBinaryBytes bound bytes includeAscii = .ok findings ∧
            .eepromWrite before.length spec.readKey address value writeKey ∈ findings) ↔
          spec.writeAddressWidth = .two) := by
  refine ⟨fun address hencode ↦ finds_read_iff hencode hbytes hbound includeAscii,
    fun address value hencode ↦ ?_⟩
  obtain ⟨writeKey, _, hkey, -⟩ := encodeEepromWrite_eq_ok.1 hencode
  have hlength := (ModelDatabase.valid_of_get h hget).writeKey writeKey hkey
  exact ⟨writeKey, hkey, finds_write_iff hencode hkey hlength hbytes hbound includeAscii⟩

/-- A request of the first model behind two bars, which could be the start of another. -/
def barredRequest : Slice UInt8 :=
  ⟨Text.ascii "||" ++ (Text.ascii "||" ++ [7, 0, 0, 0, 0x41, 0xbe, 0xa0, 0x0c, 0]) ++ [0x7c], by
    decide⟩

theorem analyzeBinaryBytes_recognizes_barred_request :
    let parse : String → Except Unit RawDatabase := fun input ↦
      if input = ModelDatabase.twoGroups then .ok ModelDatabase.twoGroupsRaw else .error ()
    ∃ database spec, ModelDatabase.fromToml parse ModelDatabase.twoGroups = .ok database ∧
      database.get "L1300" = some spec ∧ ∃ findings,
        analyzeBinaryBytes 20 barredRequest false = .ok findings ∧
          .eepromRead 2 spec.readKey 0x0c ∈ findings := by
  intro parse
  have hmodel : (ModelDatabase.fromToml parse ModelDatabase.twoGroups).toOption.bind
      (fun database ↦ (database.get "L1300").map fun spec ↦
        (spec.readAddressWidth, (encodeEepromRead spec 0x0c).toOption)) =
      some (.two, some (Text.ascii "||" ++ [7, 0, 0, 0, 0x41, 0xbe, 0xa0, 0x0c, 0])) := by
    decide +kernel
  rcases h : ModelDatabase.fromToml parse ModelDatabase.twoGroups with error | database
  · rw [h] at hmodel
    cases hmodel
  rw [h] at hmodel
  obtain ⟨spec, hget, hspec⟩ := Option.map_eq_some_iff.1 hmodel
  obtain ⟨hwidth, hencode⟩ := Prod.mk.inj hspec
  refine ⟨database, spec, rfl, hget, ?_⟩
  have hrequest : encodeEepromRead spec 0x0c =
      .ok (Text.ascii "||" ++ [7, 0, 0, 0, 0x41, 0xbe, 0xa0, 0x0c, 0]) := by
    rcases hresult : encodeEepromRead spec 0x0c with error | request
    · rw [hresult] at hencode
      cases hencode
    · rw [hresult] at hencode
      rw [Option.some.inj hencode]
  have hsplit : barredRequest.toList = Text.ascii "||" ++
      (Text.ascii "||" ++ [7, 0, 0, 0, 0x41, 0xbe, 0xa0, 0x0c, 0]) ++ [0x7c] := rfl
  have hbound : barredRequest.toList.length < 20 := by decide
  exact ((analyzeBinaryBytes_recognizes_iff h hget hsplit hbound false).1 0x0c hrequest).2 hwidth

/-- A model whose addresses are read with one byte. -/
def oneByteAddresses : String := "[[EPSON]]\nmodels = [\"C90\"]\nrkey = 6\nrlen = 1\n"

/-- A read request of the model is reported as invalid. -/
theorem one_byte_request_not_recognized :
    let parse : String → Except Unit RawDatabase := fun input ↦
      if input = oneByteAddresses then
        .ok ⟨[{ rkey := 6, readLength := 1, models := ["C90"] }]⟩
      else .error ()
    let request := Text.ascii "||" ++ [6, 0, 6, 0, 0x41, 0xbe, 0xa0, 0x0c]
    ((ModelDatabase.fromToml parse oneByteAddresses).toOption.bind (·.get "C90")).map
        (fun spec ↦ (encodeEepromRead spec 0x0c).toOption) = some (some request) ∧
      analyzeBinaryBytes 11 ⟨request, by decide⟩ false =
        .ok [.invalidFactoryRequest 0 "EEPROM read request has fewer than two address bytes"] := by
  decide +kernel

end Reink
