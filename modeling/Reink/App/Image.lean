import Reink.App.Session

/-!
# EEPROM images and write plans

The complete image of a model's EEPROM range, the updates that a restore expands it into, and the
check of a list of updates against the range. Three bounds are written independently in the source:
the range check of an update, the length of a complete image, and the offset of a lookup in it.
-/

namespace Reink

open EpsonError (showAddress)

/-- A complete, read-only EEPROM image for one resolved model range. -/
structure EepromImage where
  model : String
  startAddress : UInt16
  bytes : List UInt8
deriving DecidableEq, Repr

/-- A model-bounded EEPROM write prepared from a complete read-only backup. -/
structure EepromWritePlan where
  backup : EepromImage
  updates : List (UInt16 × UInt8)
deriving DecidableEq, Repr

/-- The byte of the image at the address, if the image has it. -/
def EepromImage.valueAt (image : EepromImage) (address : UInt16) : Option UInt8 := do
  let offset ← address.checkedSub image.startAddress
  image.bytes[offset.toNat]?

namespace EpsonSpec

variable (spec : EpsonSpec)

/-- The length of a complete image, by saturating subtraction. -/
def imageLength : Nat := spec.memoryHigh.toNat - spec.memoryLow.toNat + 1

/-- The addresses of the model's range in their order. -/
def addresses : List UInt16 :=
  (List.range' spec.memoryLow.toNat (spec.memoryHigh.toNat + 1 - spec.memoryLow.toNat)).map
    UInt16.ofNat

/-- The address lies in the model's range. -/
def Contains (address : UInt16) : Prop := spec.memoryLow ≤ address ∧ address ≤ spec.memoryHigh

instance (address : UInt16) : Decidable (spec.Contains address) :=
  inferInstanceAs (Decidable (_ ∧ _))

end EpsonSpec

/-- The updates of a restore image from the given offset on. -/
def restoreFrom (spec : EpsonSpec) (offset : Nat) :
    List UInt8 → Outcome String (List (UInt16 × UInt8))
  | [] => return []
  | value :: bytes => do
    let address ← Outcome.orPanic (spec.memoryLow.checkedAdd (UInt16.ofNat offset))
      "attempt to add with overflow"
    let updates ← restoreFrom spec (offset + 1) bytes
    return (address, value) :: updates

/-- Expands a complete restore image into model-bounded EEPROM updates. -/
def restoreEepromUpdates (spec : EpsonSpec) (bytes : List UInt8) :
    Outcome String (List (UInt16 × UInt8)) :=
  if bytes.length ≠ spec.imageLength then
    .err ("EEPROM restore image has " ++ toString bytes.length ++ " bytes; model " ++ spec.model ++
      " requires exactly " ++ toString spec.imageLength ++ " bytes for " ++
      showAddress spec.memoryLow ++ "..=" ++ showAddress spec.memoryHigh)
  else restoreFrom spec 0 bytes

/-- The check of the updates that are left, after the addresses seen so far. -/
def validateUpdates (spec : EpsonSpec) (addresses : List UInt16) :
    List (UInt16 × UInt8) → Except ApplicationError Unit
  | [] => .ok ()
  | (address, _) :: updates =>
    if address < spec.memoryLow ∨ address > spec.memoryHigh then
      .error (.writePlan ("EEPROM update address " ++ showAddress address ++
        " is outside model range " ++ showAddress spec.memoryLow ++ "..=" ++
        showAddress spec.memoryHigh))
    else if address ∈ addresses then
      .error (.writePlan ("EEPROM update address " ++ showAddress address ++ " is duplicated"))
    else validateUpdates spec (address :: addresses) updates

/-- The check of a list of updates, which must not be empty. -/
def validateEepromUpdates (spec : EpsonSpec) (updates : List (UInt16 × UInt8)) :
    Except ApplicationError Unit :=
  if updates = [] then .error (.writePlan "at least one EEPROM update is required")
  else validateUpdates spec [] updates

/-! ### The range -/

namespace EpsonSpec

variable {spec : EpsonSpec} {address : UInt16}

theorem contains_iff : spec.Contains address ↔
    spec.memoryLow.toNat ≤ address.toNat ∧ address.toNat ≤ spec.memoryHigh.toNat := by
  simp only [Contains, UInt16.le_iff_toNat_le]

theorem not_contains_iff :
    ¬ spec.Contains address ↔ address < spec.memoryLow ∨ address > spec.memoryHigh := by
  simp only [Contains, not_and_or, UInt16.not_le, gt_iff_lt]

/-- A model whose range holds an address has a range. -/
theorem Contains.low_le_high (h : spec.Contains address) : spec.memoryLow ≤ spec.memoryHigh :=
  UInt16.le_trans h.1 h.2

theorem length_addresses (h : spec.memoryLow ≤ spec.memoryHigh) :
    spec.addresses.length = spec.imageLength := by
  have hle := UInt16.le_iff_toNat_le.1 h
  rw [addresses, List.length_map, List.length_range', imageLength]
  omega

theorem mem_addresses : address ∈ spec.addresses ↔ spec.Contains address := by
  rw [addresses, List.mem_map, contains_iff]
  constructor
  · rintro ⟨n, hn, rfl⟩
    obtain ⟨hlow, hhigh⟩ := List.mem_range'_1.1 hn
    have hfits := spec.memoryHigh.toNat_lt
    rw [UInt16.toNat_ofNat', Nat.mod_eq_of_lt (by omega)]
    omega
  · rintro ⟨hlow, hhigh⟩
    exact ⟨address.toNat, List.mem_range'_1.2 (by omega), UInt16.ofNat_toNat⟩

/-- The addresses ascend, so that each occurs once. -/
theorem pairwise_addresses : spec.addresses.Pairwise (· < ·) := by
  have hfits := spec.memoryHigh.toNat_lt
  rw [addresses, List.pairwise_map]
  refine (List.pairwise_lt_range' 1).imp_of_mem fun {m n} hm hn hlt ↦ ?_
  obtain ⟨hlow, hhigh⟩ := List.mem_range'_1.1 hm
  obtain ⟨hlow', hhigh'⟩ := List.mem_range'_1.1 hn
  rw [UInt16.lt_iff_toNat_lt, UInt16.toNat_ofNat', UInt16.toNat_ofNat',
    Nat.mod_eq_of_lt (by omega), Nat.mod_eq_of_lt (by omega)]
  exact hlt

end EpsonSpec

/-! ### Lookup -/

namespace EepromImage

variable {image : EepromImage} {spec : EpsonSpec} {address : UInt16}

/-- Below its start an image has nothing, and from there on what its bytes hold. -/
theorem valueAt_eq : image.valueAt address =
    if image.startAddress ≤ address then
      image.bytes[address.toNat - image.startAddress.toNat]?
    else none := by
  unfold valueAt UInt16.checkedSub
  by_cases hle : image.startAddress ≤ address
  · rw [if_pos hle, if_pos hle, ← UInt16.toNat_sub_of_le _ _ hle]
    rfl
  · rw [if_neg hle, if_neg hle]
    rfl

/-- **The three bounds agree**: a complete image has a value exactly at the addresses in range. -/
theorem isSome_valueAt (hstart : image.startAddress = spec.memoryLow)
    (hlength : image.bytes.length = spec.imageLength) (hrange : spec.memoryLow ≤ spec.memoryHigh) :
    (image.valueAt address).isSome ↔ spec.Contains address := by
  have hle := UInt16.le_iff_toNat_le.1 hrange
  rw [valueAt_eq, hstart, EpsonSpec.contains_iff]
  by_cases hlow : spec.memoryLow ≤ address
  · have hlow' := UInt16.le_iff_toNat_le.1 hlow
    rw [if_pos hlow, isSome_getElem?, hlength, EpsonSpec.imageLength]
    omega
  · have hlow' := mt UInt16.le_iff_toNat_le.2 hlow
    simp [hlow, hlow']

end EepromImage

/-! ### The check of a list of updates -/

variable {spec : EpsonSpec} {updates : List (UInt16 × UInt8)}

/-- By induction on the updates, whose addresses join those seen. -/
theorem validateUpdates_eq_ok {addresses : List UInt16} :
    validateUpdates spec addresses updates = .ok () ↔
      (∀ update ∈ updates, spec.Contains update.1 ∧ update.1 ∉ addresses) ∧
        (updates.map Prod.fst).Nodup := by
  induction updates generalizing addresses with
  | nil => simp [validateUpdates]
  | cons update updates ih =>
    obtain ⟨address, value⟩ := update
    rw [validateUpdates]
    by_cases hrange : spec.Contains address
    case neg =>
      rw [if_pos (EpsonSpec.not_contains_iff.1 hrange)]
      simp [hrange]
    rw [if_neg (mt EpsonSpec.not_contains_iff.2 (not_not.2 hrange))]
    by_cases hseen : address ∈ addresses
    · rw [if_pos hseen]
      simp [hseen]
    rw [if_neg hseen, ih, List.map_cons, List.nodup_cons, List.forall_mem_cons]
    constructor
    · rintro ⟨hall, hnodup⟩
      refine ⟨⟨⟨hrange, hseen⟩, fun update hmem ↦ ⟨(hall update hmem).1, ?_⟩⟩, ?_, hnodup⟩
      · exact fun hold ↦ (hall update hmem).2 (List.mem_cons_of_mem address hold)
      · intro hmem
        obtain ⟨update, hupdate, hsame⟩ := List.mem_map.1 hmem
        exact (hall update hupdate).2 (hsame ▸ List.mem_cons_self)
    · rintro ⟨⟨-, hall⟩, hfresh, hnodup⟩
      refine ⟨fun update hmem ↦ ⟨(hall update hmem).1, fun hold ↦ ?_⟩, hnodup⟩
      rcases List.mem_cons.1 hold with hsame | hold
      · exact hfresh (hsame ▸ List.mem_map.2 ⟨update, hmem, rfl⟩)
      · exact (hall update hmem).2 hold

/-- The updates are some, in the model's range, with pairwise distinct addresses. -/
structure ValidUpdates (spec : EpsonSpec) (updates : List (UInt16 × UInt8)) : Prop where
  ne_nil : updates ≠ []
  nodup : (updates.map Prod.fst).Nodup
  contains : ∀ update ∈ updates, spec.Contains update.1

/-- **What the check accepts.** -/
theorem validateEepromUpdates_eq_ok :
    validateEepromUpdates spec updates = .ok () ↔ ValidUpdates spec updates := by
  unfold validateEepromUpdates
  by_cases hnil : updates = []
  · rw [if_pos hnil]
    exact ⟨nofun, fun h ↦ absurd hnil h.ne_nil⟩
  · rw [if_neg hnil, validateUpdates_eq_ok]
    constructor
    · exact fun ⟨hall, hnodup⟩ ↦ ⟨hnil, hnodup, fun update hmem ↦ (hall update hmem).1⟩
    · exact fun h ↦ ⟨fun update hmem ↦ ⟨h.contains update hmem, List.not_mem_nil⟩, h.nodup⟩

/-- The check fails with the error of a write plan. -/
theorem validateUpdates_error {addresses : List UInt16} {e : ApplicationError}
    (h : validateUpdates spec addresses updates = .error e) :
    ∃ message, e = .writePlan message := by
  induction updates generalizing addresses with
  | nil => cases h
  | cons update updates ih =>
    rw [validateUpdates] at h
    split at h
    · cases h
      exact ⟨_, rfl⟩
    split at h
    · cases h
      exact ⟨_, rfl⟩
    · exact ih h

theorem validateEepromUpdates_error {e : ApplicationError}
    (h : validateEepromUpdates spec updates = .error e) : ∃ message, e = .writePlan message := by
  unfold validateEepromUpdates at h
  split at h
  · cases h
    exact ⟨_, rfl⟩
  · exact validateUpdates_error h

end Reink
