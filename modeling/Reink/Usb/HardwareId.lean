import Mathlib.Data.List.DropRight
import Reink.Library.Bytes
import Reink.Library.Radix

/-!
# Hardware identifiers

The vendor, the product and the interface that a USB hardware identifier names in its components.
The parser compares lengths in bytes, takes slices of the text only with checked accesses, and lets
a later component override an earlier one of its kind, also with what it cannot read.
-/

namespace Reink

/-- The numbers in a hardware ID. -/
structure ParsedUsbHardwareId where
  vendorId : UInt16
  productId : UInt16
  interfaceNumber : Option UInt8
deriving DecidableEq, Repr

/-- The characters with the White_Space property. -/
def isWhitespace (c : Char) : Bool :=
  (9 ≤ c.toNat && c.toNat ≤ 13) || (0x2000 ≤ c.toNat && c.toNat ≤ 0x200a) ||
    [0x20, 0x85, 0xa0, 0x1680, 0x2028, 0x2029, 0x202f, 0x205f, 0x3000].contains c.toNat

/-- The text without white space at its ends. -/
def trim (text : List Char) : List Char :=
  (text.dropWhile isWhitespace).rdropWhile isWhitespace

/-- The bytes of the trimmed components between backslashes and ampersands. -/
def hardwareIdComponents (value : String) : List (List UInt8) :=
  (value.toList.splitOnP fun c ↦ c == '\\' || c == '&').map fun component ↦
    (trim component).flatMap String.utf8EncodeChar

/-- What the components so far have set. -/
structure HardwareIdFields where
  vendorId : Option UInt16
  productId : Option UInt16
  interfaceNumber : Option UInt8
deriving DecidableEq, Repr

/-- Read one component; a later one of a kind replaces an earlier one. -/
def readHardwareIdComponent (fields : HardwareIdFields) (component : List UInt8) :
    HardwareIdFields :=
  match component.slice? 0 (min component.length 4) with
  | none => fields
  | some start =>
    if component.length = 8 ∧ Text.eqIgnoreAsciiCase start (Text.ascii "VID_") then
      { fields with
        vendorId := (Text.get component 4 component.length).bind (Text.u16FromStrRadix · 16) }
    else if component.length = 8 ∧ Text.eqIgnoreAsciiCase start (Text.ascii "PID_") then
      { fields with
        productId := (Text.get component 4 component.length).bind (Text.u16FromStrRadix · 16) }
    else if component.length = 5 ∧
        (component.slice? 0 3).any (Text.eqIgnoreAsciiCase · (Text.ascii "MI_")) then
      { fields with
        interfaceNumber :=
          (Text.get component 3 component.length).bind (Text.u8FromStrRadix · 16) }
    else fields

/-- The numbers in the hardware ID; those of the vendor and the product must be there. -/
def parseUsbHardwareIdInner (value : String) : Option ParsedUsbHardwareId := do
  let fields := (hardwareIdComponents value).foldl readHardwareIdComponent ⟨none, none, none⟩
  return ⟨← fields.vendorId, ← fields.productId, fields.interfaceNumber⟩

/-- The same as a tuple. -/
def parseUsbHardwareId (value : String) : Option (UInt16 × UInt16 × Option UInt8) := do
  let parsed ← parseUsbHardwareIdInner value
  return (parsed.vendorId, parsed.productId, parsed.interfaceNumber)

example : parseUsbHardwareId "USB\\VID_04B8&PID_1234&MI_02" = some (0x04b8, 0x1234, some 2) := by
  decide +kernel

/-! ### The last component of a kind -/

/-- The component starts with the marker, in any case, and has that many bytes behind it. -/
def isOfKind (marker : List UInt8) (digits : Nat) (component : List UInt8) : Bool :=
  component.length = marker.length + digits &&
    Text.eqIgnoreAsciiCase (component.take marker.length) marker

/-- The last component of the kind. -/
def lastOfKind (marker : List UInt8) (digits : Nat) (value : String) : Option (List UInt8) :=
  ((hardwareIdComponents value).filter (isOfKind marker digits)).getLast?

/-- The last component of the kind has the digits of the number. -/
def NamesNumber (marker : List UInt8) (digits : Nat) (value : String) (n : Nat) : Prop :=
  ∃ component, lastOfKind marker digits value = some component ∧
    Text.denoted 16 (component.drop marker.length) = some n

/-- The last component of the kind has a plus sign and then the digits of the number. -/
def NamesSigned (marker : List UInt8) (digits : Nat) (value : String) (n : Nat) : Prop :=
  ∃ component rest, lastOfKind marker digits value = some component ∧
    component.drop marker.length = 43 :: rest ∧ rest ≠ [] ∧ Text.denoted 16 rest = some n

section Fields

variable {marker component : List UInt8} {digits bound start n : Nat} {value : String}

/-- What is not a boundary is no digit and no sign, so that the check of the slice decides
nothing. -/
theorem get_bind_fromStrRadix {β : Type} (ofNat : Nat → β) (hle : start ≤ component.length)
    (hroom : 16 ^ (component.length - start) ≤ bound) :
    ((Text.get component start component.length).bind fun text ↦
        (Text.fromStrRadix bound text 16).map ofNat) =
      (Text.fromStrRadix bound (component.drop start) 16).map ofNat := by
  have hend : Text.isCharBoundary component component.length = true := by
    rw [Text.isCharBoundary, List.getElem?_eq_none (Nat.le_refl _)]
    exact decide_eq_true rfl
  by_cases hstart : Text.isCharBoundary component start = true
  case pos =>
    rw [Text.get, if_pos ⟨hle, hstart, hend⟩, Option.bind_some,
      List.take_of_length_le (by rw [List.length_drop])]
  case neg =>
    rw [Text.get, if_neg fun h ↦ hstart h.2.1, Option.bind_none]
    refine (Option.map_eq_none_iff.2 (Option.eq_none_iff_forall_ne_some.2 fun n hn ↦
      hstart ?_)).symm
    have hroom' : 16 ^ (component.drop start).length ≤ bound := by rwa [List.length_drop]
    have hdigit : ∀ b rest, component.drop start = b :: rest → b < 0x80 →
        Text.isCharBoundary component start = true := by
      intro b rest hdrop hb
      have hget : component[start]? = some b := by
        rw [← List.head?_drop, hdrop]
        rfl
      exact Text.isCharBoundary_of_ascii hget hb
    rcases (Text.fromStrRadix_eq_some_iff hroom' (by decide)).1 hn with
      ⟨hne, hdenoted⟩ | ⟨rest, hdrop, -⟩
    · obtain ⟨b, rest, hdrop⟩ := List.exists_cons_of_ne_nil hne
      rw [hdrop] at hdenoted
      obtain ⟨d, hd, -⟩ := Option.bind_eq_some_iff.1 hdenoted
      obtain ⟨d', hd', -⟩ := Option.map_eq_some_iff.1 hd
      exact hdigit b rest hdrop (Text.lt_of_digitValue hd').1
    · exact hdigit 43 rest hdrop (by decide)

/-- The value that a fold sets for some elements is that of the last of them. -/
theorem foldl_getLast? {α σ β : Type} {step : σ → α → σ} (view : σ → β) {kind : α → Bool}
    {read : α → β}
    (hstep : ∀ state a, view (step state a) = if kind a then read a else view state)
    (state : σ) (as : List α) :
    view (as.foldl step state) = ((as.filter kind).getLast?).elim (view state) read := by
  induction as using List.reverseRecOn with
  | nil => rfl
  | append_singleton as a ih =>
    rw [List.foldl_append, List.foldl_cons, List.foldl_nil, hstep, List.filter_append]
    rcases hkind : kind a with - | -
    · simp [hkind, ih]
    · simp [hkind]

theorem isOfKind_iff : isOfKind marker digits component = true ↔
    component.length = marker.length + digits ∧
      Text.eqIgnoreAsciiCase (component.take marker.length) marker = true := by
  rw [isOfKind, Bool.and_eq_true, decide_eq_true_eq]

/-- What a component sets goes by its kind alone. -/
theorem readHardwareIdComponent_eq (fields : HardwareIdFields) (component : List UInt8) :
    readHardwareIdComponent fields component =
      if isOfKind (Text.ascii "VID_") 4 component then
        { fields with vendorId := Text.u16FromStrRadix (component.drop 4) 16 }
      else if isOfKind (Text.ascii "PID_") 4 component then
        { fields with productId := Text.u16FromStrRadix (component.drop 4) 16 }
      else if isOfKind (Text.ascii "MI_") 2 component then
        { fields with interfaceNumber := Text.u8FromStrRadix (component.drop 3) 16 }
      else fields := by
  have hslice : ∀ stop, stop ≤ component.length →
      component.slice? 0 stop = some (component.take stop) :=
    fun stop hle ↦ List.slice?_eq_some_iff.2 ⟨⟨Nat.zero_le _, hle⟩, rfl⟩
  have hstart : component.slice? 0 (min component.length 4) = some (component.take 4) := by
    rw [hslice _ (Nat.min_le_left _ _), Nat.min_comm, ← List.take_eq_take_min]
  have hkind : ∀ marker : List UInt8, marker.length = 4 →
      ((component.length = 8 ∧ Text.eqIgnoreAsciiCase (component.take 4) marker = true) ↔
        isOfKind marker 4 component = true) := by
    intro marker hmarker
    rw [isOfKind_iff, hmarker]
  have hinterface : (component.length = 5 ∧
      (component.slice? 0 3).any (Text.eqIgnoreAsciiCase · (Text.ascii "MI_")) = true) ↔
        isOfKind (Text.ascii "MI_") 2 component = true := by
    rw [isOfKind_iff]
    refine and_congr_right fun hlength ↦ ?_
    rw [hslice 3 (by omega)]
    rfl
  have hread : component.length = 8 →
      (Text.get component 4 component.length).bind (Text.u16FromStrRadix · 16) =
        Text.u16FromStrRadix (component.drop 4) 16 :=
    fun hlength ↦ get_bind_fromStrRadix UInt16.ofNat (by omega) (by rw [hlength]; decide)
  simp only [readHardwareIdComponent, hstart, hkind _ (by decide : (Text.ascii "VID_").length = 4),
    hkind _ (by decide : (Text.ascii "PID_").length = 4), hinterface]
  split_ifs with hvendor hproduct hnumber
  · rw [hread (isOfKind_iff.1 hvendor).1]
  · rw [hread (isOfKind_iff.1 hproduct).1]
  · have hlength : component.length = 5 := (isOfKind_iff.1 hnumber).1
    have hread : (Text.get component 3 component.length).bind (Text.u8FromStrRadix · 16) =
        Text.u8FromStrRadix (component.drop 3) 16 :=
      get_bind_fromStrRadix UInt8.ofNat (by omega) (by rw [hlength]; decide)
    rw [hread]
  · rfl

/-- A component is not of two kinds. -/
theorem isOfKind_eq_false {marker' : List UInt8} {digits' : Nat}
    (h : isOfKind marker digits component = true)
    (hne : marker.length + digits ≠ marker'.length + digits' ∨
      marker.length = marker'.length ∧ Text.eqIgnoreAsciiCase marker marker' = false) :
    isOfKind marker' digits' component = false := by
  by_contra htrue
  obtain ⟨hlength, hstart⟩ := isOfKind_iff.1 h
  obtain ⟨hlength', hstart'⟩ := isOfKind_iff.1 (Bool.not_eq_false _ ▸ htrue)
  rcases hne with hne | ⟨hsame, hne⟩
  · exact hne (hlength.symm.trans hlength')
  · rw [hsame] at hstart
    have hmarkers : Text.eqIgnoreAsciiCase marker marker' = true :=
      beq_iff_eq.2 ((beq_iff_eq.1 hstart).symm.trans (beq_iff_eq.1 hstart'))
    rw [hne] at hmarkers
    cases hmarkers

/-- The number that the last component of the kind is read as, with or without a sign. -/
def readNumber (marker : List UInt8) (digits : Nat) (value : String) : Option Nat :=
  (lastOfKind marker digits value).bind fun component ↦
    Text.fromStrRadix (16 ^ digits) (component.drop marker.length) 16

/-- A field is what the last component of its kind is read as. -/
theorem field_eq {β : Type} (marker : List UInt8) (digits : Nat) (value : String)
    (view : HardwareIdFields → Option β) (ofNat : Nat → β)
    (hnone : view ⟨none, none, none⟩ = none)
    (hstep : ∀ fields component, view (readHardwareIdComponent fields component) =
      if isOfKind marker digits component then
        (Text.fromStrRadix (16 ^ digits) (component.drop marker.length) 16).map ofNat
      else view fields) :
    view ((hardwareIdComponents value).foldl readHardwareIdComponent ⟨none, none, none⟩) =
      (readNumber marker digits value).map ofNat := by
  rw [foldl_getLast? view hstep, hnone, readNumber, lastOfKind]
  rcases ((hardwareIdComponents value).filter (isOfKind marker digits)).getLast? with
    - | component
  · rfl
  · rfl

/-- The parser returns what the last components of the three kinds are read as. -/
theorem parseUsbHardwareId_eq (value : String) : parseUsbHardwareId value =
    (readNumber (Text.ascii "VID_") 4 value).bind fun vendor ↦
      (readNumber (Text.ascii "PID_") 4 value).map fun product ↦
        (UInt16.ofNat vendor, UInt16.ofNat product,
          (readNumber (Text.ascii "MI_") 2 value).map UInt8.ofNat) := by
  have hvendor := field_eq (Text.ascii "VID_") 4 value HardwareIdFields.vendorId UInt16.ofNat rfl
    fun fields component ↦ by
      rw [readHardwareIdComponent_eq]
      split_ifs <;> rfl
  have hproduct := field_eq (Text.ascii "PID_") 4 value HardwareIdFields.productId UInt16.ofNat rfl
    fun fields component ↦ by
      rw [readHardwareIdComponent_eq]
      split_ifs with hvid hpid hmi
      · have hnot : isOfKind (Text.ascii "PID_") 4 component = false :=
          isOfKind_eq_false hvid (.inr ⟨rfl, by decide⟩)
        exact absurd hpid (hnot ▸ Bool.false_ne_true)
      all_goals rfl
  have hinterface := field_eq (Text.ascii "MI_") 2 value HardwareIdFields.interfaceNumber
    UInt8.ofNat rfl fun fields component ↦ by
      rw [readHardwareIdComponent_eq]
      split_ifs with hvid hmi hpid hmi hmi
      · have hnot : isOfKind (Text.ascii "MI_") 2 component = false :=
          isOfKind_eq_false hvid (.inl (by decide))
        exact absurd hmi (hnot ▸ Bool.false_ne_true)
      · rfl
      · have hnot : isOfKind (Text.ascii "MI_") 2 component = false :=
          isOfKind_eq_false hpid (.inl (by decide))
        exact absurd hmi (hnot ▸ Bool.false_ne_true)
      · rfl
      · rfl
      · rfl
  unfold parseUsbHardwareId parseUsbHardwareIdInner
  simp only [hvendor, hproduct, hinterface]
  rcases readNumber (Text.ascii "VID_") 4 value with - | vendor
  · rfl
  rcases readNumber (Text.ascii "PID_") 4 value with - | product
  · rfl
  · rfl

end Fields

/-! ### The result -/

section Result

variable {marker : List UInt8} {digits n : Nat} {value : String}

theorem length_drop_of_lastOfKind {component : List UInt8}
    (h : lastOfKind marker digits value = some component) :
    (component.drop marker.length).length = digits := by
  have hmem := List.mem_of_getLast? h
  have hlength := (isOfKind_iff.1 (List.mem_filter.1 hmem).2).1
  rw [List.length_drop, hlength, Nat.add_sub_cancel_left]

/-- A last component is read as its digits, or as those behind its plus sign. -/
theorem readNumber_eq_some_iff (hdigits : 0 < digits) : readNumber marker digits value = some n ↔
    NamesNumber marker digits value n ∨ NamesSigned marker digits value n := by
  have hread : ∀ {component}, lastOfKind marker digits value = some component →
      (Text.fromStrRadix (16 ^ digits) (component.drop marker.length) 16 = some n ↔
        Text.denoted 16 (component.drop marker.length) = some n ∨
        ∃ rest, component.drop marker.length = 43 :: rest ∧ rest ≠ [] ∧
          Text.denoted 16 rest = some n) := by
    intro component h
    have hlength := length_drop_of_lastOfKind h
    have hne : component.drop marker.length ≠ [] :=
      List.ne_nil_of_length_pos (hlength ▸ hdigits)
    have hroom : 16 ^ (component.drop marker.length).length ≤ 16 ^ digits := by rw [hlength]
    rw [Text.fromStrRadix_eq_some_iff hroom (by decide)]
    simp [hne]
  constructor
  · intro h
    obtain ⟨component, hcomponent, hn⟩ := Option.bind_eq_some_iff.1 h
    rcases (hread hcomponent).1 hn with hn | ⟨rest, hrest⟩
    · exact .inl ⟨component, hcomponent, hn⟩
    · exact .inr ⟨component, rest, hcomponent, hrest⟩
  · rintro (⟨component, hcomponent, hn⟩ | ⟨component, rest, hcomponent, hrest⟩)
    · exact Option.bind_eq_some_iff.2 ⟨component, hcomponent, (hread hcomponent).2 (.inl hn)⟩
    · exact Option.bind_eq_some_iff.2
        ⟨component, hcomponent, (hread hcomponent).2 (.inr ⟨rest, hrest⟩)⟩

/-- A plus sign is no digit. -/
theorem NamesNumber.not_namesSigned {m : Nat} (h : NamesNumber marker digits value n) :
    ¬ NamesSigned marker digits value m := by
  rintro ⟨component', rest, hcomponent', hdrop, -⟩
  obtain ⟨component, hcomponent, hn⟩ := h
  obtain rfl := Option.some.inj (hcomponent.symm.trans hcomponent')
  rw [hdrop, Text.denoted_cons_eq_none (Text.digitValue_of_le (by decide))] at hn
  cases hn

theorem lt_of_readNumber (hdigits : 0 < digits) (h : readNumber marker digits value = some n) :
    n < 16 ^ digits := by
  rcases (readNumber_eq_some_iff hdigits).1 h with
    ⟨component, hlast, hn⟩ | ⟨component, rest, hlast, hdrop, -, hn⟩
  · rw [← length_drop_of_lastOfKind hlast]
    exact Text.lt_of_denoted hn
  · refine Nat.lt_of_lt_of_le (Text.lt_of_denoted hn) (Nat.pow_le_pow_right (by decide) ?_)
    rw [← length_drop_of_lastOfKind hlast, hdrop]
    exact Nat.le_succ _

/-- What the last component of the kind is read as is what its digits denote, if it has no sign. -/
theorem namesNumber_iff_of_readNumber (hdigits : 0 < digits)
    (h : readNumber marker digits value = some n) :
    NamesNumber marker digits value n ↔ ∀ m, ¬ NamesSigned marker digits value m := by
  constructor
  · exact fun hnames m ↦ hnames.not_namesSigned
  · intro hno
    exact ((readNumber_eq_some_iff hdigits).1 h).resolve_right (hno n)

end Result

/-- What the parser returns is what the digits of the last components denote, and it returns
something if the last components of both required kinds have digits. -/
def ReadsHardwareId (value : String) : Prop :=
  (∀ vendor product interface, parseUsbHardwareId value = some (vendor, product, interface) →
    NamesNumber (Text.ascii "VID_") 4 value vendor.toNat ∧
    NamesNumber (Text.ascii "PID_") 4 value product.toNat ∧
    ∀ number, interface = some number → NamesNumber (Text.ascii "MI_") 2 value number.toNat) ∧
  ((∃ vendor, NamesNumber (Text.ascii "VID_") 4 value vendor) →
    (∃ product, NamesNumber (Text.ascii "PID_") 4 value product) →
      (parseUsbHardwareId value).isSome = true)

/-- The last component of the kind has its digits, or a plus sign for the first of them. -/
def ReadableLast (marker : List UInt8) (digits : Nat) (value : String) : Prop :=
  ∃ n, NamesNumber marker digits value n ∨ NamesSigned marker digits value n

/-- The last component of the kind has a plus sign for the first of its digits. -/
def SignedLast (marker : List UInt8) (digits : Nat) (value : String) : Prop :=
  ∃ n, NamesSigned marker digits value n

theorem readableLast_iff {marker : List UInt8} {digits : Nat} {value : String}
    (hdigits : 0 < digits) :
    ReadableLast marker digits value ↔ ∃ n, readNumber marker digits value = some n :=
  exists_congr fun _ ↦ (readNumber_eq_some_iff hdigits).symm

theorem not_signedLast_iff {marker : List UInt8} {digits n : Nat} {value : String}
    (hdigits : 0 < digits) (h : readNumber marker digits value = some n) :
    NamesNumber marker digits value n ↔ ¬ SignedLast marker digits value := by
  rw [SignedLast, not_exists]
  exact namesNumber_iff_of_readNumber hdigits h

/-- The returned interface is that of the digits unless there is a sign. -/
theorem interface_reads_iff (value : String) :
    (∀ number, (readNumber (Text.ascii "MI_") 2 value).map UInt8.ofNat = some number →
      NamesNumber (Text.ascii "MI_") 2 value number.toNat) ↔
      ¬ SignedLast (Text.ascii "MI_") 2 value := by
  rcases hread : readNumber (Text.ascii "MI_") 2 value with - | n
  · refine iff_of_true (fun number h ↦ absurd h.symm (Option.some_ne_none _)) ?_
    rintro ⟨n, hsigned⟩
    rw [(readNumber_eq_some_iff (by decide)).2 (.inr hsigned)] at hread
    cases hread
  · have hlt : n < 2 ^ 8 := lt_of_readNumber (by decide) hread
    rw [← not_signedLast_iff (by decide) hread]
    constructor
    · intro h
      simpa [UInt8.toNat_ofNat_of_lt' hlt] using h _ rfl
    · rintro h number hnumber
      obtain rfl := Option.some.inj hnumber
      rwa [UInt8.toNat_ofNat_of_lt' hlt]

/-- **What the parser returns is what digits denote, unless there is a sign.** It goes wrong exactly
if both required components can be read, and one of the last components has a plus sign. -/
theorem parseUsbHardwareId_reads_iff (value : String) : ReadsHardwareId value ↔
    ¬ (ReadableLast (Text.ascii "VID_") 4 value ∧ ReadableLast (Text.ascii "PID_") 4 value ∧
      (SignedLast (Text.ascii "VID_") 4 value ∨ SignedLast (Text.ascii "PID_") 4 value ∨
        SignedLast (Text.ascii "MI_") 2 value)) := by
  have hnames : ∀ {marker : List UInt8}, ∀ {n}, NamesNumber marker 4 value n →
      readNumber marker 4 value = some n :=
    fun h ↦ (readNumber_eq_some_iff (by decide)).2 (.inl h)
  rw [readableLast_iff (by decide), readableLast_iff (by decide), ReadsHardwareId,
    parseUsbHardwareId_eq]
  rcases hvendor : readNumber (Text.ascii "VID_") 4 value with - | vendor
  · refine iff_of_true ⟨fun _ _ _ h ↦ absurd h.symm (Option.some_ne_none _), ?_⟩ ?_
    · rintro ⟨vendor, h⟩
      rw [hnames h] at hvendor
      cases hvendor
    · rintro ⟨⟨n, hn⟩, -⟩
      cases hn
  rcases hproduct : readNumber (Text.ascii "PID_") 4 value with - | product
  · refine iff_of_true ⟨fun _ _ _ h ↦ absurd h.symm (Option.some_ne_none _), ?_⟩ ?_
    · rintro - ⟨product, h⟩
      rw [hnames h] at hproduct
      cases hproduct
    · rintro ⟨-, ⟨n, hn⟩, -⟩
      cases hn
  have hvendor' : vendor < 2 ^ 16 := lt_of_readNumber (by decide) hvendor
  have hproduct' : product < 2 ^ 16 := lt_of_readNumber (by decide) hproduct
  constructor
  · rintro ⟨hreads, -⟩ ⟨-, -, hsigned⟩
    obtain ⟨hv, hp, hi⟩ := hreads _ _ _ rfl
    rw [UInt16.toNat_ofNat_of_lt' hvendor'] at hv
    rw [UInt16.toNat_ofNat_of_lt' hproduct'] at hp
    rcases hsigned with hsigned | hsigned | hsigned
    · exact (not_signedLast_iff (by decide) hvendor).1 hv hsigned
    · exact (not_signedLast_iff (by decide) hproduct).1 hp hsigned
    · exact (interface_reads_iff value).1 hi hsigned
  · intro hno
    have hfree : ∀ {signed : Prop}, (signed → SignedLast (Text.ascii "VID_") 4 value ∨
        SignedLast (Text.ascii "PID_") 4 value ∨ SignedLast (Text.ascii "MI_") 2 value) →
          ¬ signed :=
      fun h hsigned ↦ hno ⟨⟨vendor, rfl⟩, ⟨product, rfl⟩, h hsigned⟩
    refine ⟨fun v p i h ↦ ?_, fun _ _ ↦ rfl⟩
    obtain ⟨rfl, hrest⟩ := Prod.mk.inj (Option.some.inj h)
    obtain ⟨rfl, rfl⟩ := Prod.mk.inj hrest
    rw [UInt16.toNat_ofNat_of_lt' hvendor', UInt16.toNat_ofNat_of_lt' hproduct']
    exact ⟨(not_signedLast_iff (by decide) hvendor).2 (hfree .inl),
      (not_signedLast_iff (by decide) hproduct).2 (hfree (.inr ∘ .inl)),
      (interface_reads_iff value).2 (hfree (.inr ∘ .inr))⟩

/-- A plus sign is read as if it were a digit. -/
theorem parseUsbHardwareId_reads_sign :
    parseUsbHardwareId "USB\\VID_+4B8&PID_1234" = some (0x04b8, 0x1234, none) ∧
      ¬ ReadsHardwareId "USB\\VID_+4B8&PID_1234" := by
  have hparse : parseUsbHardwareId "USB\\VID_+4B8&PID_1234" = some (0x04b8, 0x1234, none) := by
    decide +kernel
  refine ⟨hparse, fun h ↦ ?_⟩
  obtain ⟨⟨component, hlast, hdenoted⟩, -⟩ := h.1 _ _ _ hparse
  have hcomponent : lastOfKind (Text.ascii "VID_") 4 "USB\\VID_+4B8&PID_1234" =
      some (Text.ascii "VID_+4B8") := by decide +kernel
  obtain rfl := Option.some.inj (hlast.symm.trans hcomponent)
  revert hdenoted
  decide +kernel

end Reink
