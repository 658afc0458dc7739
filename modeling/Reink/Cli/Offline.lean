import Reink.Core.Request
import Reink.Library.Scanning

/-!
# Offline analysis of binaries

The scan for factory requests in bytes that were captured before, and the scan for printable texts.
The request scan trusts a length that the bytes declare, and indexes into them without checked
access; behind its comparisons every index is inside.
-/

namespace Reink

/-- What a scan of a binary file has found, and where. -/
inductive BinaryFinding where
  | eepromRead (offset : Nat) (readKey address : UInt16)
  | eepromWrite (offset : Nat) (readKey address : UInt16) (value : UInt8) (writeKey : List UInt8)
  | invalidFactoryRequest (offset : Nat) (reason : String)
  | printableAscii (offset : Nat) (value : String)
deriving DecidableEq, Repr

namespace Offline

/-- `bytes[offset]`. -/
def index (bytes : List UInt8) (offset : Nat) : Outcome Empty UInt8 :=
  Outcome.orPanic bytes[offset]? "index out of bounds"

/-- `bytes[start..stop]`. -/
def range (bytes : List UInt8) (start stop : Nat) : Outcome Empty (List UInt8) :=
  Outcome.orPanic (bytes.slice? start stop) "range out of range for slice"

/-- The three bytes behind the read key: the command, its complement and its check byte. -/
def readCommand : List UInt8 := [0x41, ~~~0x41, 0xa0]

/-- The three bytes of a write in a factory request. -/
def writeCommand : List UInt8 := [0x42, ~~~0x42, 0x21]

/-- What is found at the offset of a command with a payload of the declared length. -/
def requestBody (bytes : List UInt8) (offset : Nat) (isRead isWrite : Bool) (payloadLength : Nat) :
    Outcome Empty BinaryFinding := do
  let payloadStart := offset + 9
  match payloadStart.checkedAdd payloadLength with
  | none => return .invalidFactoryRequest offset "declared factory payload length overflows"
  | some payloadEnd =>
    if payloadEnd > bytes.length then
      return .invalidFactoryRequest offset "factory request payload is truncated"
    else if isRead ∧ payloadLength < 2 then
      return .invalidFactoryRequest offset "EEPROM read request has fewer than two address bytes"
    else if isWrite ∧ payloadLength < 3 then
      return .invalidFactoryRequest offset
        "EEPROM write request has fewer than address and value bytes"
    else
      let readKey := UInt16.fromLeBytes (← index bytes (offset + 4)) (← index bytes (offset + 5))
      let address :=
        UInt16.fromLeBytes (← index bytes payloadStart) (← index bytes (payloadStart + 1))
      if isRead then return .eepromRead offset readKey address
      else
        let value ← index bytes (payloadStart + 2)
        let writeKey ← range bytes (payloadStart + 3) payloadEnd
        return .eepromWrite offset readKey address value writeKey

/-- What is found at the offset: the body of the first loop. -/
def requestAt (bytes : List UInt8) (offset : Nat) : Outcome Empty (Option BinaryFinding) := do
  let tail ← range bytes offset bytes.length
  if Text.ascii "||" <+: tail then
    let command ← range bytes (offset + 6) (offset + 9)
    let isRead : Bool := command = readCommand
    let isWrite : Bool := command = writeCommand
    if isRead ∨ isWrite then
      let declaredLength :=
        (UInt16.fromLeBytes (← index bytes (offset + 2)) (← index bytes (offset + 3))).toNat
      match declaredLength.checkedSub 5 with
      | none => return some (.invalidFactoryRequest offset
          "declared factory payload is shorter than its five-byte header")
      | some payloadLength =>
        return some (← requestBody bytes offset isRead isWrite payloadLength)
    else return none
  else return none

/-- The iterations of the first loop. -/
def requestLoop (bytes : List UInt8) : Nat → Nat → Outcome Empty (List BinaryFinding)
  | 0, _ => .running
  | bound + 1, offset =>
    if offset.saturatingAdd 9 ≤ bytes.length then do
      match ← requestAt bytes offset with
      | some finding => return finding :: (← requestLoop bytes bound (offset + 9))
      | none => requestLoop bytes bound (offset + 1)
    else return []

/-- The byte is a printable ASCII character. -/
def isPrintable (byte : UInt8) : Bool := 0x20 ≤ byte ∧ byte ≤ 0x7e

/-- The iterations of the inner loop: the end of the run that the offset is in. -/
def runEnd (bytes : List UInt8) : Nat → Nat → Outcome Empty Nat
  | 0, _ => .running
  | bound + 1, offset =>
    if offset < bytes.length then do
      if isPrintable (← index bytes offset) then runEnd bytes bound (offset + 1)
      else return offset
    else return offset

/-- The text of a run, if it is long enough to be reported. -/
def textAt (bytes : List UInt8) (start offset : Nat) : Outcome Empty (List BinaryFinding) := do
  if offset - start ≥ 8 then
    let run ← range bytes start offset
    let value ← Outcome.orPanic (String.fromUTF8? run.toByteArray)
      "ASCII byte range is valid UTF-8"
    return [.printableAscii start value]
  else return []

/-- The iterations of the second loop. -/
def textLoop (bytes : List UInt8) : Nat → Nat → Outcome Empty (List BinaryFinding)
  | 0, _ => .running
  | bound + 1, offset =>
    if offset < bytes.length then do
      if ¬ isPrintable (← index bytes offset) then textLoop bytes bound (offset + 1)
      else
        let stop ← runEnd bytes (bound + 1) offset
        let text ← textAt bytes offset stop
        return text ++ (← textLoop bytes bound stop)
    else return []

end Offline

open Offline in
/-- Recognizes factory requests in already captured bytes. Every loop makes at most so many
iterations. -/
def analyzeBinaryBytes (bound : Nat) (bytes : Slice UInt8) (includeAscii : Bool) :
    Outcome Empty (List BinaryFinding) := do
  let findings ← requestLoop bytes.toList bound 0
  if includeAscii then return findings ++ (← textLoop bytes.toList bound 0)
  else return findings

namespace Offline

/-! ### One position -/

/-- What a payload says that is there in full. -/
def payloadOf (offset : Nat) (readKey : UInt16) : Bool → List UInt8 → BinaryFinding
  | true, low :: high :: _ => .eepromRead offset readKey (UInt16.fromLeBytes low high)
  | true, _ =>
    .invalidFactoryRequest offset "EEPROM read request has fewer than two address bytes"
  | false, low :: high :: value :: writeKey =>
    .eepromWrite offset readKey (UInt16.fromLeBytes low high) value writeKey
  | false, _ =>
    .invalidFactoryRequest offset "EEPROM write request has fewer than address and value bytes"

theorem payloadOf_of_short_read {offset : Nat} {readKey : UInt16} {payload : List UInt8}
    (h : payload.length < 2) : payloadOf offset readKey true payload =
      .invalidFactoryRequest offset "EEPROM read request has fewer than two address bytes" := by
  rcases payload with _ | ⟨_, _ | ⟨_, _⟩⟩
  · rfl
  · rfl
  · simp only [List.length_cons] at h
    omega

theorem payloadOf_of_short_write {offset : Nat} {readKey : UInt16} {payload : List UInt8}
    (h : payload.length < 3) : payloadOf offset readKey false payload =
      .invalidFactoryRequest offset
        "EEPROM write request has fewer than address and value bytes" := by
  rcases payload with _ | ⟨_, _ | ⟨_, _ | ⟨_, _⟩⟩⟩
  · rfl
  · rfl
  · rfl
  · simp only [List.length_cons] at h
    omega

/-- What the bytes behind the header of a command say. -/
def bodyOf (offset : Nat) (readKey : UInt16) (isRead : Bool) (payloadLength : Nat)
    (rest : List UInt8) : BinaryFinding :=
  if rest.length < payloadLength then
    .invalidFactoryRequest offset "factory request payload is truncated"
  else payloadOf offset readKey isRead (rest.take payloadLength)

/-- The nine bytes start a factory command: the two letters, and the command behind the length and
the read key. -/
def IsHeader (header : List UInt8) : Prop :=
  header.take 2 = Text.ascii "||" ∧ (header.drop 6 = readCommand ∨ header.drop 6 = writeCommand)

instance (header : List UInt8) : Decidable (IsHeader header) := inferInstanceAs (Decidable (_ ∧ _))

/-- What the header and the bytes behind it say. -/
def requestOf (offset : Nat) (header rest : List UInt8) : Option BinaryFinding :=
  match header with
  | [_, _, low, high, key, key', _, _, _] =>
    if IsHeader header then
      if (UInt16.fromLeBytes low high).toNat < 5 then
        some (.invalidFactoryRequest offset
          "declared factory payload is shorter than its five-byte header")
      else
        some (bodyOf offset (UInt16.fromLeBytes key key') (header.drop 6 = readCommand)
          ((UInt16.fromLeBytes low high).toNat - 5) rest)
    else none
  | _ => none

section Position

variable {before window rest : List UInt8}

theorem index_append (offset : Nat) :
    index (before ++ window) (before.length + offset) = index window offset := by
  rw [index, List.getElem?_append_right (Nat.le_add_right _ _), Nat.add_sub_cancel_left]
  rfl

theorem range_append (start stop : Nat) :
    range (before ++ window) (before.length + start) (before.length + stop) =
      range window start stop := by
  have hdrop : (before ++ window).drop (before.length + start) = window.drop start := by
    rw [List.drop_append, Nat.add_sub_cancel_left, List.drop_of_length_le (Nat.le_add_right _ _),
      List.nil_append]
  simp only [range, List.slice?, List.length_append, Nat.add_le_add_iff_left, hdrop,
    Nat.add_sub_add_left]

variable {b₀ b₁ low high key key' c₀ c₁ c₂ : UInt8}

theorem requestBody_append (isRead : Bool) {n : Nat} (hn : n < 65536)
    (hwindow : window = [b₀, b₁, low, high, key, key', c₀, c₁, c₂] ++ rest)
    (hfits : (before ++ window).length < 2 ^ 63) :
    requestBody (before ++ window) before.length isRead (!isRead) n =
      .ok (bodyOf before.length (UInt16.fromLeBytes key key') isRead n rest) := by
  have hlength : window.length = 9 + rest.length := by
    rw [hwindow, List.length_append]
    rfl
  have hend : (before.length + 9).checkedAdd n = some (before.length + 9 + n) := by
    rw [List.length_append] at hfits
    exact Nat.checkedAdd_eq_some_iff.2 ⟨by omega, rfl⟩
  rw [requestBody]
  simp only [hend]
  by_cases htruncated : rest.length < n
  case pos =>
    rw [bodyOf, if_pos htruncated, if_pos (by rw [List.length_append]; omega)]
    rfl
  rw [bodyOf, if_neg htruncated, if_neg (by rw [List.length_append]; omega)]
  have htake : (rest.take n).length = n := List.length_take_of_le (Nat.le_of_not_lt htruncated)
  cases isRead with
  | true =>
    by_cases hshort : n < 2
    case pos =>
      rw [if_pos ⟨rfl, hshort⟩, payloadOf_of_short_read (htake.trans_lt hshort)]
      rfl
    case neg =>
      obtain ⟨n, rfl⟩ := Nat.exists_eq_add_of_le' (Nat.le_of_not_lt hshort)
      rcases rest with _ | ⟨first, _ | ⟨second, rest⟩⟩
      · simp at htruncated
      · simp at htruncated
      rw [if_neg (by omega), if_neg (by simp)]
      simp only [Nat.add_assoc, index_append, hwindow]
      rfl
  | false =>
    by_cases hshort : n < 3
    case pos =>
      rw [if_neg (by simp), if_pos ⟨rfl, hshort⟩,
        payloadOf_of_short_write (htake.trans_lt hshort)]
      rfl
    case neg =>
      obtain ⟨n, rfl⟩ := Nat.exists_eq_add_of_le' (Nat.le_of_not_lt hshort)
      rcases rest with _ | ⟨first, _ | ⟨second, _ | ⟨third, rest⟩⟩⟩
      · simp at htruncated
      · simp at htruncated
      · simp at htruncated
      have hkey : range window 12 (9 + (n + 3)) = .ok (rest.take n) := by
        have hdrop : window.drop 12 = rest := by rw [hwindow]; rfl
        rw [range, List.slice?_eq_some_iff.2 ⟨⟨by omega, by omega⟩, rfl⟩, hdrop,
          show 9 + (n + 3) - 12 = n by omega]
        rfl
      rw [if_neg (by simp), if_neg (by omega)]
      simp only [Nat.add_assoc, index_append, range_append, hkey]
      rw [hwindow]
      rfl

/-- Behind the comparisons of the source no index is outside the bytes, and what is read is what the
header and the bytes behind it say. -/
theorem requestAt_append (before : List UInt8) {header : List UInt8} (rest : List UInt8)
    (hheader : header.length = 9)
    (hfits : (before ++ (header ++ rest)).length < 2 ^ 63) :
    requestAt (before ++ (header ++ rest)) before.length =
      .ok (requestOf before.length header rest) := by
  have htail : range (before ++ (header ++ rest)) before.length
      (before ++ (header ++ rest)).length = .ok (header ++ rest) := by
    rw [range, List.slice?_eq_some_iff.2
      ⟨⟨by rw [List.length_append]; omega, le_rfl⟩, rfl⟩, List.drop_left, List.length_append,
      Nat.add_sub_cancel_left, List.take_length]
    rfl
  obtain ⟨b₀, b₁, low, high, _, rfl, hbehind⟩ := List.exists_of_length_add_four hheader
  obtain ⟨key, key', c₀, c₁, _, rfl, hlast⟩ := List.exists_of_length_add_four hbehind
  obtain ⟨c₂, rfl⟩ := List.length_eq_one_iff.1 hlast
  have hletters : Text.ascii "||" <+: [b₀, b₁, low, high, key, key', c₀, c₁, c₂] ++ rest ↔
      [b₀, b₁] = Text.ascii "||" := by
    constructor
    · intro h
      exact (List.prefix_of_prefix_length_le h (List.prefix_append [b₀, b₁] _) le_rfl).eq_of_length
        rfl |>.symm
    · intro h
      rw [← h]
      exact List.prefix_append [b₀, b₁] _
  have hcommand : range ([b₀, b₁, low, high, key, key', c₀, c₁, c₂] ++ rest) 6 9 =
      .ok [c₀, c₁, c₂] := by
    rw [range, List.slice?_eq_some_iff.2 ⟨⟨by omega, by simp⟩, rfl⟩]
    rfl
  unfold requestAt requestOf
  simp only [htail, Outcome.ok_bind, hletters, range_append, hcommand, index_append]
  by_cases hsome : IsHeader [b₀, b₁, low, high, key, key', c₀, c₁, c₂]
  case neg =>
    rw [if_neg hsome]
    by_cases hstart : [b₀, b₁] = Text.ascii "||"
    · rw [if_pos hstart, if_neg]
      · rfl
      · rw [decide_eq_true_eq, decide_eq_true_eq]
        exact fun h ↦ hsome ⟨hstart, h⟩
    · rw [if_neg hstart]
      rfl
  rw [if_pos hsome]
  obtain ⟨hstart, hkind⟩ : [b₀, b₁] = Text.ascii "||" ∧
    ([c₀, c₁, c₂] = readCommand ∨ [c₀, c₁, c₂] = writeCommand) := hsome
  rw [if_pos hstart, if_pos (by simpa using hkind)]
  have hwrite : decide ([c₀, c₁, c₂] = writeCommand) = !decide ([c₀, c₁, c₂] = readCommand) := by
    rcases hkind with h | h <;> rw [h] <;> rfl
  have hlow : index ([b₀, b₁, low, high, key, key', c₀, c₁, c₂] ++ rest) 2 = .ok low := rfl
  have hhigh : index ([b₀, b₁, low, high, key, key', c₀, c₁, c₂] ++ rest) 3 = .ok high := rfl
  rw [hlow, hhigh, Outcome.ok_bind, Outcome.ok_bind]
  by_cases hshort : (UInt16.fromLeBytes low high).toNat < 5
  · rw [if_pos hshort, Nat.checkedSub, if_neg (by omega)]
    rfl
  · rw [if_neg hshort, Nat.checkedSub, if_pos (by omega)]
    dsimp only
    rw [hwrite, requestBody_append _ _ rfl hfits]
    · rfl
    · have hlt := (UInt16.fromLeBytes low high).toNat_lt
      omega

end Position

/-! ### The scan for requests -/

/-- A request header stands at the offset. -/
def HeaderAt (bytes : List UInt8) (offset : Nat) : Prop :=
  offset + 9 ≤ bytes.length ∧ IsHeader ((bytes.drop offset).take 9)

/-- What the bytes from the offset on say. -/
def requestIn (bytes : List UInt8) (offset : Nat) : Option BinaryFinding :=
  requestOf offset ((bytes.drop offset).take 9) (bytes.drop (offset + 9))

end Offline

namespace BinaryFinding

/-- Where in the file the finding is. -/
def offset : BinaryFinding → Nat
  | eepromRead offset _ _ | eepromWrite offset _ _ _ _ | invalidFactoryRequest offset _
  | printableAscii offset _ => offset

/-- The finding is one of the request scan. -/
def IsRequest : BinaryFinding → Prop
  | printableAscii _ _ => False
  | _ => True

end BinaryFinding

namespace Offline

section Requests

variable {bytes : List UInt8} {offset : Nat}

theorem requestAt_eq (hfits : bytes.length < 2 ^ 63) (hlength : offset + 9 ≤ bytes.length) :
    requestAt bytes offset = .ok (requestIn bytes offset) := by
  have hsplit : bytes = bytes.take offset ++
      ((bytes.drop offset).take 9 ++ bytes.drop (offset + 9)) := by
    rw [← List.drop_drop, List.take_append_drop, List.take_append_drop]
  have hbefore : (bytes.take offset).length = offset := by
    rw [List.length_take]
    omega
  have hheader : ((bytes.drop offset).take 9).length = 9 := by
    rw [List.length_take, List.length_drop]
    omega
  have happend := requestAt_append (bytes.take offset) (bytes.drop (offset + 9)) hheader
    (by rwa [← hsplit])
  rwa [← hsplit, hbefore] at happend

theorem bodyOf_offset {readKey : UInt16} {isRead : Bool} {n : Nat} {rest : List UInt8} :
    (bodyOf offset readKey isRead n rest).offset = offset ∧
      (bodyOf offset readKey isRead n rest).IsRequest := by
  unfold bodyOf
  split
  · exact ⟨rfl, trivial⟩
  · unfold payloadOf
    split <;> exact ⟨rfl, trivial⟩

/-- There is a finding exactly where a header stands, and it is one of a request there. -/
theorem requestOf_spec (offset : Nat) {header : List UInt8} (rest : List UInt8)
    (hheader : header.length = 9) :
    (IsHeader header ↔ ∃ finding, requestOf offset header rest = some finding) ∧
      ∀ finding, requestOf offset header rest = some finding →
        finding.offset = offset ∧ finding.IsRequest := by
  obtain ⟨b₀, b₁, low, high, _, rfl, hbehind⟩ := List.exists_of_length_add_four hheader
  obtain ⟨key, key', c₀, c₁, _, rfl, hlast⟩ := List.exists_of_length_add_four hbehind
  obtain ⟨c₂, rfl⟩ := List.length_eq_one_iff.1 hlast
  unfold requestOf
  by_cases hsome : IsHeader [b₀, b₁, low, high, key, key', c₀, c₁, c₂]
  case neg =>
    dsimp only
    rw [if_neg hsome]
    exact ⟨⟨fun h ↦ absurd h hsome, fun ⟨_, h⟩ ↦ (nomatch h)⟩, nofun⟩
  case pos =>
    dsimp only
    rw [if_pos hsome]
    split
    · exact ⟨⟨fun _ ↦ ⟨_, rfl⟩, fun _ ↦ hsome⟩, fun _ h ↦ by cases h; exact ⟨rfl, trivial⟩⟩
    · exact ⟨⟨fun _ ↦ ⟨_, rfl⟩, fun _ ↦ hsome⟩, fun _ h ↦ by cases h; exact bodyOf_offset⟩

/-- **The request scan**, by induction on its iterations: it ends, it finds the headers from the
left, and what it says of each is what the bytes there say. -/
theorem requestLoop_eq (hfits : bytes.length < 2 ^ 63) {bound : Nat}
    (hoffset : offset ≤ bytes.length) (hbound : bytes.length < bound + offset) :
    ∃ findings, requestLoop bytes bound offset = .ok findings ∧
      Leftmost (HeaderAt bytes) 9 offset (findings.map BinaryFinding.offset) ∧
      ∀ finding ∈ findings, finding.IsRequest ∧
        requestIn bytes finding.offset = some finding := by
  induction bound generalizing offset with
  | zero => omega
  | succ bound ih =>
    have hsaturating : offset.saturatingAdd 9 = offset + 9 := by
      unfold Nat.saturatingAdd
      omega
    rw [requestLoop, hsaturating]
    by_cases hlength : offset + 9 ≤ bytes.length
    case neg =>
      rw [if_neg hlength]
      refine ⟨[], rfl, .done fun position hle hheader ↦ ?_, fun _ h ↦ absurd h List.not_mem_nil⟩
      have hinside := hheader.1
      omega
    rw [if_pos hlength, requestAt_eq hfits hlength, Outcome.ok_bind]
    have hheader : ((bytes.drop offset).take 9).length = 9 := by
      rw [List.length_take, List.length_drop]
      omega
    obtain ⟨hsome, hspec⟩ := requestOf_spec offset (bytes.drop (offset + 9)) hheader
    rcases hfinding : requestIn bytes offset with _ | finding
    case none =>
      have hnext : offset + 1 ≤ bytes.length := by omega
      obtain ⟨findings, hrun, hleftmost, hall⟩ := ih hnext (by omega)
      refine ⟨findings, hrun, .skip (fun h ↦ ?_) hleftmost, hall⟩
      obtain ⟨finding, hrequest⟩ := hsome.1 h.2
      cases hfinding.symm.trans hrequest
    case some =>
      obtain ⟨findings, hrun, hleftmost, hall⟩ := ih hlength (by omega)
      obtain ⟨hposition, hrequest⟩ := hspec finding hfinding
      refine ⟨finding :: findings, by dsimp only; rw [hrun]; rfl, ?_, ?_⟩
      · rw [List.map_cons, hposition]
        exact .take ⟨hlength, hsome.2 ⟨finding, hfinding⟩⟩ (by decide) hleftmost
      · rw [List.forall_mem_cons, hposition]
        exact ⟨⟨hrequest, hfinding⟩, hall⟩

end Requests

/-! ### The scan for texts -/

section Texts

variable {bytes : List UInt8} {offset start stop : Nat}

/-- A printable byte stands at the offset. -/
def PrintableAt (bytes : List UInt8) (offset : Nat) : Prop :=
  bytes[offset]?.any isPrintable = true

theorem not_printableAt_of_le (h : bytes.length ≤ offset) : ¬ PrintableAt bytes offset := by
  rw [PrintableAt, List.getElem?_eq_none h]
  exact Bool.false_ne_true

theorem index_eq (h : offset < bytes.length) :
    ∃ b, index bytes offset = .ok b ∧ (PrintableAt bytes offset ↔ isPrintable b = true) := by
  rw [index, PrintableAt, List.getElem?_eq_getElem h]
  exact ⟨_, rfl, Iff.rfl⟩

/-- The inner loop stops at the end of the run. -/
theorem runEnd_eq {bound : Nat} (hoffset : offset ≤ bytes.length)
    (hbound : bytes.length < bound + offset) :
    ∃ stop, runEnd bytes bound offset = .ok stop ∧ offset ≤ stop ∧ stop ≤ bytes.length ∧
      (∀ position, offset ≤ position → position < stop → PrintableAt bytes position) ∧
      ¬ PrintableAt bytes stop := by
  induction bound generalizing offset with
  | zero => omega
  | succ bound ih =>
    rw [runEnd]
    by_cases hinside : offset < bytes.length
    case neg =>
      rw [if_neg hinside]
      exact ⟨offset, rfl, le_rfl, hoffset, fun _ hle hlt ↦ absurd hle (Nat.not_le.2 hlt),
        not_printableAt_of_le (Nat.le_of_not_lt hinside)⟩
    obtain ⟨b, hindex, hprintable⟩ := index_eq hinside
    rw [if_pos hinside, hindex, Outcome.ok_bind]
    by_cases hb : isPrintable b = true
    case neg =>
      rw [if_neg hb]
      exact ⟨offset, rfl, le_rfl, hoffset, fun _ hle hlt ↦ absurd hle (Nat.not_le.2 hlt),
        mt hprintable.1 hb⟩
    obtain ⟨stop, hrun, hle, hstop, hall, hend⟩ := ih hinside (by omega)
    refine ⟨stop, by rw [if_pos hb, hrun], by omega, hstop, fun position hle' hlt ↦ ?_, hend⟩
    rcases Nat.eq_or_lt_of_le hle' with rfl | hbehind
    · exact hprintable.2 hb
    · exact hall position hbehind hlt

/-- The text of a run. -/
def textOf (bytes : List UInt8) (run : Nat × Nat) : BinaryFinding :=
  .printableAscii run.1 (Text.ofBytes ((bytes.drop run.1).take (run.2 - run.1)))

theorem isAscii_of_printableAt
    (hall : ∀ position, start ≤ position → position < stop → PrintableAt bytes position) :
    Text.IsAscii ((bytes.drop start).take (stop - start)) := by
  intro b hb
  obtain ⟨i, hi, hget⟩ := List.mem_iff_getElem.1 hb
  have hlt : i < stop - start := by
    rw [List.length_take] at hi
    omega
  have hprintable := hall (start + i) (by omega) (by omega)
  have hbyte : bytes[start + i]? = some b := by
    rw [← hget, ← List.getElem?_drop, ← List.getElem?_take_of_lt hlt, List.getElem?_eq_getElem hi]
  rw [PrintableAt, hbyte] at hprintable
  have hle : 0x20 ≤ b ∧ b ≤ 0x7e := by simpa [isPrintable] using hprintable
  exact UInt8.lt_of_le_of_lt hle.2 (by decide)

/-- The text of a run is reported if it is long enough. Its bytes are ASCII, so they are a text. -/
theorem textAt_eq (hlt : start < stop) (hstop : stop ≤ bytes.length)
    (hall : ∀ position, start ≤ position → position < stop → PrintableAt bytes position) :
    textAt bytes start stop =
      .ok (([(start, stop)].filter fun run ↦ run.1 + 8 ≤ run.2).map (textOf bytes)) := by
  unfold textAt
  by_cases hlong : stop - start ≥ 8
  case neg =>
    rw [if_neg hlong, List.filter_cons_of_neg (by rw [decide_eq_true_eq]; omega)]
    rfl
  have hutf8 : ((bytes.drop start).take (stop - start)).toByteArray.IsValidUTF8 :=
    (isAscii_of_printableAt hall).isUtf8
  have hrun : range bytes start stop = .ok ((bytes.drop start).take (stop - start)) := by
    rw [range, List.slice?_eq_some_iff.2 ⟨⟨hlt.le, hstop⟩, rfl⟩]
    rfl
  have hvalue : String.fromUTF8? ((bytes.drop start).take (stop - start)).toByteArray =
      some (Text.ofBytes ((bytes.drop start).take (stop - start))) := by
    rw [Text.ofBytes, String.fromUTF8?, dif_pos hutf8]
    rfl
  rw [if_pos hlong, List.filter_cons_of_pos (by rw [decide_eq_true_eq]; omega), hrun,
    Outcome.ok_bind, hvalue]
  rfl

/-- **The text scan**, by induction on its iterations. No run goes across the offset. -/
theorem textLoop_eq {bound : Nat} (hoffset : offset ≤ bytes.length)
    (hbound : bytes.length < bound + offset)
    (hclear : PrintableAt bytes offset →
      ∀ position, position + 1 = offset → ¬ PrintableAt bytes position) :
    ∃ runs, ListsRuns (PrintableAt bytes) offset runs ∧ textLoop bytes bound offset =
      .ok ((runs.filter fun run ↦ run.1 + 8 ≤ run.2).map (textOf bytes)) := by
  induction bound generalizing offset with
  | zero => omega
  | succ bound ih =>
    rw [textLoop]
    by_cases hinside : offset < bytes.length
    case neg =>
      rw [if_neg hinside]
      exact ⟨[], .done fun position hle ↦ not_printableAt_of_le (by omega), rfl⟩
    obtain ⟨b, hindex, hprintable⟩ := index_eq hinside
    rw [if_pos hinside, hindex, Outcome.ok_bind]
    by_cases hb : isPrintable b = true
    case neg =>
      rw [if_pos hb]
      obtain ⟨runs, hruns, hrun⟩ := ih hinside (by omega) fun _ position hposition ↦ by
        rw [Nat.add_right_cancel hposition]
        exact mt hprintable.1 hb
      exact ⟨runs, .skip (mt hprintable.1 hb) hruns, hrun⟩
    rw [if_neg (not_not.2 hb)]
    have hstart := hprintable.2 hb
    obtain ⟨stop, hend, hle, hstop, hall, hnot⟩ := runEnd_eq hoffset hbound
    have hlt : offset < stop := by
      refine Nat.lt_of_le_of_ne hle ?_
      rintro rfl
      exact hnot hstart
    obtain ⟨runs, hruns, hrun⟩ := ih hstop (by omega) fun h ↦ absurd h hnot
    refine ⟨(offset, stop) :: runs, .take ⟨hlt, hall, hclear hstart, hnot⟩ hruns, ?_⟩
    rw [hend, Outcome.ok_bind, textAt_eq hlt hstop hall, Outcome.ok_bind, hrun, Outcome.ok_bind,
      ← List.map_append, ← List.filter_append]
    rfl

end Texts

end Offline

open Offline

/-- The analysis ends, with the findings of the request scan and then the texts of the runs. -/
theorem analyzeBinaryBytes_eq (bytes : Slice UInt8) (includeAscii : Bool) {bound : Nat}
    (hbound : bytes.toList.length < bound) :
    ∃ requests runs, analyzeBinaryBytes bound bytes includeAscii =
        .ok (requests ++ if includeAscii then
          (runs.filter fun run ↦ run.1 + 8 ≤ run.2).map (textOf bytes.toList) else []) ∧
      Leftmost (HeaderAt bytes.toList) 9 0 (requests.map BinaryFinding.offset) ∧
      (∀ finding ∈ requests, finding.IsRequest ∧
        requestIn bytes.toList finding.offset = some finding) ∧
      ListsRuns (PrintableAt bytes.toList) 0 runs := by
  obtain ⟨requests, hrequests, hleftmost, hall⟩ :=
    requestLoop_eq bytes.length_lt (Nat.zero_le _) hbound
  obtain ⟨runs, hruns, htexts⟩ := textLoop_eq (Nat.zero_le _) hbound fun _ position h ↦ by omega
  refine ⟨requests, runs, ?_, hleftmost, hall, hruns⟩
  rw [analyzeBinaryBytes, hrequests, Outcome.ok_bind]
  cases includeAscii with
  | true =>
    rw [if_pos rfl, if_pos rfl, htexts]
    rfl
  | false =>
    rw [if_neg Bool.false_ne_true, if_neg Bool.false_ne_true, List.append_nil]
    rfl

/-- **What the analysis reports.** It ends without reading outside the bytes. There is one finding
of a request for every header from the left, where a header is left out exactly if it starts inside
the one reported before; and behind them one for every maximal run of at least eight printable
bytes, if they are asked for. -/
theorem analyzeBinaryBytes_reports (bytes : Slice UInt8) (includeAscii : Bool) {bound : Nat}
    (hbound : bytes.toList.length < bound) :
    ∃ requests runs, analyzeBinaryBytes bound bytes includeAscii =
        .ok (requests ++ if includeAscii then
          (runs.filter fun run ↦ run.1 + 8 ≤ run.2).map (textOf bytes.toList) else []) ∧
      (∀ finding ∈ requests, finding.IsRequest) ∧
      Leftmost (HeaderAt bytes.toList) 9 0 (requests.map BinaryFinding.offset) ∧
      ListsRuns (PrintableAt bytes.toList) 0 runs := by
  obtain ⟨requests, runs, hrun, hleftmost, hall, hruns⟩ :=
    analyzeBinaryBytes_eq bytes includeAscii hbound
  exact ⟨requests, runs, hrun, fun finding hfinding ↦ (hall finding hfinding).1, hleftmost, hruns⟩

/-- A truncated request between two texts, the second of which is too short. -/
def capture : Slice UInt8 :=
  ⟨Text.ascii "@EJL 128" ++ [0, 0x7c, 0x7c, 10, 0, 6, 0, 0x41, 0xbe, 0xa0, 0x0c] ++
    Text.ascii "PM1", by decide⟩

theorem analyzeBinaryBytes_reports_capture : ∃ requests runs,
    analyzeBinaryBytes 23 capture true =
      .ok (requests ++ (runs.filter fun run ↦ run.1 + 8 ≤ run.2).map (textOf capture.toList)) ∧
    Leftmost (HeaderAt capture.toList) 9 0 (requests.map BinaryFinding.offset) ∧
    ListsRuns (PrintableAt capture.toList) 0 runs := by
  obtain ⟨requests, runs, hrun, -, hleftmost, hruns⟩ :=
    analyzeBinaryBytes_reports capture true (show capture.toList.length < 23 by decide)
  exact ⟨requests, runs, hrun, hleftmost, hruns⟩

example : analyzeBinaryBytes 23 capture true =
    .ok [.invalidFactoryRequest 9 "factory request payload is truncated",
      .printableAscii 0 "@EJL 128"] := by
  decide +kernel

end Reink
