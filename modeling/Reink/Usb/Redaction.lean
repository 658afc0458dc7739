import Reink.Library.Bytes
import Reink.Library.Masking
import Reink.Library.Text

/-!
# Redacting serial numbers

A buffer with identity fields is shown or reported only with its serial numbers overwritten. The
redaction scans the buffer for a marker, fills the value behind it in place and goes on behind its
semicolon, once for each of two markers. A slice outside of the buffer would be a panic, which is
`none` here.
-/

namespace Reink

/-- Fields end at a semicolon, markers may be in any case, and values are filled with `X`. -/
def serialSyntax : ValueSyntax UInt8 where
  fold := UInt8.toAsciiLower
  separator := 0x3b
  filler := 0x58
  filler_ne := by decide

/-- The markers in front of a serial number. -/
def serialMarkers : List serialSyntax.Marker :=
  [⟨Text.ascii "SN:", by decide +kernel, by decide +kernel⟩,
    ⟨Text.ascii "SERIALNUMBER:", by decide +kernel, by decide +kernel⟩]

/-- Where the value behind the next marker from the offset on starts and ends. -/
def nextSerialValue (marker bytes : List UInt8) (offset : Nat) : Option (Option (Nat × Nat)) := do
  let rest ← bytes.slice? offset bytes.length
  match Text.findIgnoreAsciiCase marker rest with
  | none => return none
  | some relative =>
    let valueStart := offset + relative + marker.length
    let behind ← bytes.slice? valueStart bytes.length
    let valueEnd := (behind.findIdx? (· == 0x3b)).elim bytes.length (valueStart + ·)
    return some (valueStart, valueEnd)

/-- The bytes with the slice filled. -/
def fillSlice (bytes : List UInt8) (start stop : Nat) : Option (List UInt8) := do
  let slice ← bytes.slice? start stop
  return bytes.take start ++ List.replicate slice.length 0x58 ++ bytes.drop stop

/-! ### Slices of a buffer -/

section Slices

variable {bytes bytes' marker : List UInt8} {offset start stop : Nat}

theorem slice?_length (h : offset ≤ bytes.length) :
    bytes.slice? offset bytes.length = some (bytes.drop offset) := by
  refine List.slice?_eq_some_iff.2 ⟨⟨h, Nat.le_refl _⟩, List.take_of_length_le ?_⟩
  rw [List.length_drop]

theorem masked_of_fillSlice (h : fillSlice bytes start stop = some bytes') :
    Masked 0x58 (fun i ↦ start ≤ i ∧ i < stop) bytes bytes' := by
  obtain ⟨slice, hslice, heq⟩ := Option.bind_eq_some_iff.1 h
  obtain ⟨⟨hle, hstop⟩, htake⟩ := List.slice?_eq_some_iff.1 hslice
  obtain rfl := Option.some.inj heq
  have hsplit : bytes = bytes.take start ++ slice ++ bytes.drop stop := by
    rw [← htake, ← List.take_add, Nat.add_sub_cancel' hle, List.take_append_drop]
  have hstart : (bytes.take start).length = start :=
    List.length_take_of_le (Nat.le_trans hle hstop)
  have hlength : slice.length = stop - start := by
    rw [← htake, List.length_take, List.length_drop]
    omega
  have hfill := Masked.fill 0x58 (bytes.take start) slice (bytes.drop stop)
  rw [← hsplit, hstart, hlength, Nat.add_sub_cancel' hle, ← hlength] at hfill
  exact hfill

theorem exists_fillSlice (hle : start ≤ stop) (hstop : stop ≤ bytes.length) :
    ∃ bytes', fillSlice bytes start stop = some bytes' := by
  have hslice : bytes.slice? start stop = some ((bytes.drop start).take (stop - start)) :=
    List.slice?_eq_some_iff.2 ⟨⟨hle, hstop⟩, rfl⟩
  exact ⟨_, by rw [fillSlice, hslice]; rfl⟩

/-- A value starts behind the offset. -/
theorem lt_of_nextSerialValue
    (h : nextSerialValue marker bytes offset = some (some (start, stop))) :
    offset + marker.length ≤ start ∧ start ≤ stop := by
  obtain ⟨rest, hrest, heq⟩ := Option.bind_eq_some_iff.1 h
  rcases hfind : Text.findIgnoreAsciiCase marker rest with - | relative
  · rw [hfind] at heq
    cases heq
  rw [hfind] at heq
  obtain ⟨behind, hbehind, hvalue⟩ := Option.bind_eq_some_iff.1 heq
  obtain ⟨⟨hle, -⟩, -⟩ := List.slice?_eq_some_iff.1 hbehind
  obtain ⟨rfl, rfl⟩ := Prod.mk.inj (Option.some.inj (Option.some.inj hvalue))
  refine ⟨by omega, ?_⟩
  rcases behind.findIdx? (· == 0x3b) with - | relativeEnd
  · exact hle
  · exact Nat.le_add_right _ _

end Slices

/-! ### The redaction -/

/-- The pass for one marker, from the offset on. A buffer is shorter than the largest size, so that
the step behind the semicolon does not saturate. -/
def redactMarker (marker bytes : List UInt8) (offset : Nat) : Option (List UInt8) :=
  match _hvalue : nextSerialValue marker bytes offset with
  | none => none
  | some none => some bytes
  | some (some (valueStart, valueEnd)) =>
    match hfill : fillSlice bytes valueStart valueEnd with
    | none => none
    | some bytes' =>
      if bytes'.length ≤ valueEnd + 1 then some bytes'
      else redactMarker marker bytes' (valueEnd + 1)
termination_by bytes.length - offset
decreasing_by
  have hlength := (masked_of_fillSlice hfill).length_eq
  have hlt := lt_of_nextSerialValue _hvalue
  omega

/-- Mask the serial numbers in the response, marker by marker. -/
def redactIdentitySerialFields (bytes : List UInt8) : Option (List UInt8) :=
  serialMarkers.foldlM (fun bytes marker ↦ redactMarker marker.text bytes 0) bytes

/-! ### What is redacted -/

/-- The index is behind a marker and before the semicolon that ends the value, if there is one. -/
def InSerialValue (bytes : List UInt8) (i : Nat) : Prop :=
  serialSyntax.Covered serialMarkers bytes i

section Passes

variable {bytes current rest : List UInt8} {marker : serialSyntax.Marker} {offset p i : Nat}

theorem occurs_iff_eqIgnoreAsciiCase : serialSyntax.Occurs marker bytes p ↔
    Text.eqIgnoreAsciiCase ((bytes.drop p).take marker.text.length) marker.text = true :=
  beq_iff_eq.symm

theorem occurs_drop_iff :
    serialSyntax.Occurs marker (bytes.drop offset) p ↔
      serialSyntax.Occurs marker bytes (offset + p) := by
  rw [ValueSyntax.Occurs, ValueSyntax.Occurs, List.drop_drop]

theorem le_length_of_occurs (hne : marker.text ≠ []) (h : serialSyntax.Occurs marker bytes p) :
    p + marker.text.length ≤ bytes.length := by
  have hpos := List.length_pos_iff.2 hne
  obtain ⟨c, -, d, hd, -⟩ :=
    h.exists_mem (j := p + (marker.text.length - 1)) (by omega) (by omega)
  have hlt := (List.getElem?_eq_some_iff.1 hd).1
  omega

theorem findIgnoreAsciiCase_eq_none (hne : marker.text ≠ [])
    (h : Text.findIgnoreAsciiCase marker.text bytes = none) :
    ¬ serialSyntax.Occurs marker bytes p := by
  intro hoccurs
  have hle := le_length_of_occurs hne hoccurs
  have hwindow := List.find?_range_eq_none.1 h p (by omega)
  rw [occurs_iff_eqIgnoreAsciiCase.1 hoccurs] at hwindow
  cases hwindow

theorem findIgnoreAsciiCase_eq_some
    (h : Text.findIgnoreAsciiCase marker.text bytes = some p) :
    serialSyntax.Occurs marker bytes p ∧ ∀ q < p, ¬ serialSyntax.Occurs marker bytes q := by
  obtain ⟨hwindow, -, hbefore⟩ := List.find?_range_eq_some.1 h
  refine ⟨occurs_iff_eqIgnoreAsciiCase.2 hwindow, fun q hlt hoccurs ↦ ?_⟩
  have hnot := hbefore q hlt
  rw [occurs_iff_eqIgnoreAsciiCase.1 hoccurs] at hnot
  cases hnot

/-- A value ends at the first semicolon behind its start. -/
theorem serialValueEnd_spec {start stop : Nat} (hle : start ≤ bytes.length)
    (h : ((bytes.drop start).findIdx? (· == 0x3b)).elim bytes.length (start + ·) = stop) :
    (start ≤ stop ∧ stop ≤ bytes.length) ∧
      (∀ j, start ≤ j → j < stop → bytes[j]? ≠ some 0x3b) ∧
      (stop < bytes.length → bytes[stop]? = some 0x3b) := by
  rcases hfind : (bytes.drop start).findIdx? (· == 0x3b) with - | relativeEnd
  · rw [hfind] at h
    obtain rfl := h
    refine ⟨⟨hle, Nat.le_refl _⟩, fun j hj hlt hsep ↦ ?_, fun hlt ↦ absurd hlt (Nat.lt_irrefl _)⟩
    have hmem : (0x3b : UInt8) ∈ bytes.drop start := by
      refine List.mem_of_getElem? (i := j - start) ?_
      rw [List.getElem?_drop, Nat.add_sub_cancel' hj, hsep]
    cases List.findIdx?_eq_none_iff.1 hfind _ hmem
  · rw [hfind] at h
    obtain rfl := h
    obtain ⟨hlt, hsep, hbefore⟩ := List.findIdx?_eq_some_iff_getElem.1 hfind
    rw [List.getElem_drop, beq_iff_eq] at hsep
    rw [List.length_drop] at hlt
    refine ⟨⟨Nat.le_add_right _ _, by simp only [Option.elim]; omega⟩, fun j hj hjlt hsep' ↦ ?_,
      fun hstop ↦ ?_⟩
    · simp only [Option.elim] at hjlt
      have hnot := hbefore (j - start) (by omega)
      simp only [List.getElem_drop, Nat.add_sub_cancel' hj, beq_iff_eq] at hnot
      exact hnot (List.getElem?_eq_some_iff.1 hsep').2
    · exact List.getElem?_eq_some_iff.2 ⟨hstop, hsep⟩

/-- The scan finds no marker from the offset on, or the first one and the value behind it. -/
theorem nextSerialValue_spec (hne : marker.text ≠ []) (hle : offset ≤ bytes.length) :
    (nextSerialValue marker.text bytes offset = some none ∧
      ∀ p, offset ≤ p → ¬ serialSyntax.Occurs marker bytes p) ∨
    ∃ p stop, nextSerialValue marker.text bytes offset =
        some (some (p + marker.text.length, stop)) ∧
      offset ≤ p ∧ serialSyntax.Occurs marker bytes p ∧
      (∀ q, offset ≤ q → q < p → ¬ serialSyntax.Occurs marker bytes q) ∧
      (p + marker.text.length ≤ stop ∧ stop ≤ bytes.length) ∧
      (∀ j, p + marker.text.length ≤ j → j < stop → bytes[j]? ≠ some 0x3b) ∧
      (stop < bytes.length → bytes[stop]? = some 0x3b) := by
  rcases hfind : Text.findIgnoreAsciiCase marker.text (bytes.drop offset) with - | relative
  · refine .inl ⟨?_, fun p hp hoccurs ↦ findIgnoreAsciiCase_eq_none (p := p - offset) hne hfind ?_⟩
    · rw [nextSerialValue, slice?_length hle, Option.bind_eq_bind, Option.bind_some, hfind]
      rfl
    · rwa [occurs_drop_iff, Nat.add_sub_cancel' hp]
  · obtain ⟨hoccurs, hbefore⟩ := findIgnoreAsciiCase_eq_some hfind
    rw [occurs_drop_iff] at hoccurs
    have hstart := le_length_of_occurs hne hoccurs
    obtain ⟨hstop, hclear, hend⟩ := serialValueEnd_spec hstart rfl
    refine .inr ⟨offset + relative, _, ?_, Nat.le_add_right _ _, hoccurs, fun q hq hlt hq' ↦ ?_,
      hstop, hclear, hend⟩
    · rw [nextSerialValue, slice?_length hle, Option.bind_eq_bind, Option.bind_some, hfind]
      simp only [slice?_length hstart, Option.bind_some]
      rfl
    · refine hbefore (q - offset) (by omega) ?_
      rwa [occurs_drop_iff, Nat.add_sub_cancel' hq]

/-- The scan stays inside the buffer. -/
theorem nextSerialValue_ne_none (hne : marker.text ≠ []) (hle : offset ≤ bytes.length) :
    nextSerialValue marker.text bytes offset ≠ none := by
  rcases nextSerialValue_spec hne hle with ⟨hnone, -⟩ | ⟨p, stop, hsome, -⟩
  · simp [hnone]
  · simp [hsome]

theorem not_occurs_of_nextSerialValue (hne : marker.text ≠ []) (hle : offset ≤ bytes.length)
    (h : nextSerialValue marker.text bytes offset = some none) (hp : offset ≤ p) :
    ¬ serialSyntax.Occurs marker bytes p := by
  rcases nextSerialValue_spec hne hle with ⟨-, hnone⟩ | ⟨p', stop, hsome, -⟩
  · exact hnone p hp
  · simp [h] at hsome

/-- Filling the value that the scan finds is one step of a pass. -/
theorem passed_of_nextSerialValue {start stop : Nat} (hne : marker.text ≠ [])
    (hle : offset ≤ current.length) (h : serialSyntax.Passed marker bytes current offset)
    (hvalue : nextSerialValue marker.text current offset = some (some (start, stop))) :
    (start ≤ stop ∧ stop ≤ current.length) ∧
      ∀ next, Masked 0x58 (fun i ↦ start ≤ i ∧ i < stop) current next →
        serialSyntax.Passed marker bytes next (stop + 1) := by
  rcases nextSerialValue_spec hne hle with ⟨hnone, -⟩ | ⟨p, stop', hsome, hfound⟩
  · simp [hvalue] at hnone
  obtain ⟨rfl, rfl⟩ : start = p + marker.text.length ∧ stop = stop' := by
    simpa [hvalue] using hsome
  obtain ⟨hp, hoccurs, hfirst, hstop, hclear, hend⟩ := hfound
  exact ⟨hstop, fun next hnext ↦ h.step hp hoccurs hfirst rfl hstop.1 hclear hend hnext⟩

/-- A pass masks the values of its marker. -/
theorem redactMarker_passed (hne : marker.text ≠ [])
    (h : serialSyntax.Passed marker bytes current offset) (hle : offset ≤ current.length) :
    ∃ out, redactMarker marker.text current offset = some out ∧
      Masked 0x58 (serialSyntax.Covered [marker] bytes) bytes out := by
  fun_induction redactMarker marker.text current offset with
  | case1 current offset hvalue => exact absurd hvalue (nextSerialValue_ne_none hne hle)
  | case2 current offset hvalue =>
    exact ⟨current, rfl, h.done fun p ↦ not_occurs_of_nextSerialValue hne hle hvalue⟩
  | case3 current offset start stop hvalue hfill =>
    obtain ⟨⟨hstart, hstop⟩, -⟩ := passed_of_nextSerialValue hne hle h hvalue
    obtain ⟨next, hnext⟩ := exists_fillSlice hstart hstop
    rw [hfill] at hnext
    cases hnext
  | case4 current offset start stop hvalue next hfill hlast =>
    have hnext := masked_of_fillSlice hfill
    have hpassed := (passed_of_nextSerialValue hne hle h hvalue).2 next hnext
    refine ⟨next, rfl, hpassed.finish ?_⟩
    rwa [← h.masked.length_eq, ← hnext.length_eq]
  | case5 current offset start stop hvalue next hfill hmore ih =>
    have hnext := masked_of_fillSlice hfill
    exact ih ((passed_of_nextSerialValue hne hle h hvalue).2 next hnext) (by omega)

end Passes

/-! ### The result -/

section Result

variable {bytes out : List UInt8}

theorem serialMarkers_ne_nil : ∀ marker ∈ serialMarkers, marker.text ≠ [] := by decide

theorem not_covered_nil {i : Nat} : ¬ serialSyntax.Covered [] bytes i := by
  rintro ⟨marker, hmem, -⟩
  exact List.not_mem_nil hmem

/-- The redaction ends without a panic, and fills the serial values. -/
theorem redactIdentitySerialFields_masked (bytes : List UInt8) :
    ∃ out, redactIdentitySerialFields bytes = some out ∧
      Masked 0x58 (InSerialValue bytes) bytes out := by
  have hpass : ∀ marker ∈ serialMarkers, ∀ bytes, True → ∃ next,
      redactMarker marker.text bytes 0 = some next ∧ True ∧
        Masked serialSyntax.filler (serialSyntax.Covered [marker] bytes) bytes next := by
    intro marker hmem bytes _
    obtain ⟨next, hnext, hmasked⟩ := redactMarker_passed (serialMarkers_ne_nil marker hmem)
      (.zero marker bytes) (Nat.zero_le _)
    exact ⟨next, hnext, trivial, hmasked⟩
  have hstart : Masked serialSyntax.filler (serialSyntax.Covered [] bytes) bytes bytes :=
    .of_forall_not fun _ ↦ not_covered_nil
  obtain ⟨out, hrun, -, hmasked⟩ := ValueSyntax.foldlM_masked id _
    (fun bytes marker ↦ redactMarker marker.text bytes 0) hpass trivial hstart
  exact ⟨out, hrun, hmasked⟩

theorem masked_of_redact (h : redactIdentitySerialFields bytes = some out) :
    Masked 0x58 (InSerialValue bytes) bytes out := by
  obtain ⟨out', hrun, hmasked⟩ := redactIdentitySerialFields_masked bytes
  rw [h] at hrun
  cases hrun
  exact hmasked

/-- **Redaction is exact.** It ends for every buffer and writes `X` over the bytes that are behind a
marker and before the next semicolon, and over no other. So the redacted buffer does not tell two
serial numbers of one length apart, and redacting it again changes nothing. -/
theorem redactIdentitySerialFields_exact :
    (∀ bytes, ∃ out, redactIdentitySerialFields bytes = some out ∧ out.length = bytes.length ∧
      (∀ i, i < bytes.length → InSerialValue bytes i → out[i]? = some 0x58) ∧
      (∀ i, ¬ InSerialValue bytes i → out[i]? = bytes[i]?)) ∧
    (∀ marker ∈ serialMarkers, ∀ before spelled value value' after,
      Text.eqIgnoreAsciiCase spelled marker.text = true → value.length = value'.length →
      0x3b ∉ value → 0x3b ∉ value' →
        redactIdentitySerialFields (before ++ spelled ++ value ++ after) =
          redactIdentitySerialFields (before ++ spelled ++ value' ++ after)) ∧
    ∀ bytes out, redactIdentitySerialFields bytes = some out →
      redactIdentitySerialFields out = some out := by
  refine ⟨fun bytes ↦ ?_, ?_, fun bytes out h ↦ ?_⟩
  · obtain ⟨out, hrun, hmasked⟩ := redactIdentitySerialFields_masked bytes
    exact ⟨out, hrun, hmasked.length_eq, hmasked.filled, hmasked.kept⟩
  · intro marker hmem before spelled value value' after hspelled hlength hvalue hvalue'
    obtain ⟨out, hrun, hmasked⟩ :=
      redactIdentitySerialFields_masked (before ++ spelled ++ value ++ after)
    obtain ⟨out', hrun', hmasked'⟩ :=
      redactIdentitySerialFields_masked (before ++ spelled ++ value' ++ after)
    obtain ⟨blank, -, hblank⟩ := redactIdentitySerialFields_masked
      (before ++ spelled ++ List.replicate value.length 0x58 ++ after)
    rw [hrun, hrun', ValueSyntax.masked_value_irrel (s := serialSyntax) hmem
      (beq_iff_eq.1 hspelled) hlength hvalue hvalue' hmasked hmasked' hblank]
  · obtain ⟨out', hrun, hmasked⟩ := redactIdentitySerialFields_masked out
    rw [hrun, ValueSyntax.masked_idem (s := serialSyntax) (masked_of_redact h) hmasked]

example : redactIdentitySerialFields (Text.ascii "MFG:EPSON;SN:PRIVATE;MDL:C90;") =
    some (Text.ascii "MFG:EPSON;SN:XXXXXXX;MDL:C90;") := by decide +kernel

end Result

end Reink
