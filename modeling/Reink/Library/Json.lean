import Mathlib.Data.List.Nodup
import Mathlib.Data.List.Perm.Subperm
import Mathlib.Data.List.Sort
import Mathlib.Data.String.Basic
import Mathlib.Data.UInt

/-!
# JSON values

Values whose objects are maps: the fields of an object stand in the order of their keys, each key
once. Such an object is known from how many fields it has and from what its keys are looked up to,
in whatever order they are written down.
-/

/-! ### Maps as ordered lists -/

section OrderedEntries

variable {κ β : Type} [LinearOrder κ] {map entries : List (κ × β)} {key : κ} {value : β}

/-- The keys increase, so that each occurs once. -/
def KeysIncrease (map : List (κ × β)) : Prop := map.Pairwise fun entry later ↦ entry.1 < later.1

/-- The map with the value under the key. -/
def insertOrdered (key : κ) (value : β) : List (κ × β) → List (κ × β)
  | [] => [(key, value)]
  | entry :: rest =>
    match compare key entry.1 with
    | .lt => (key, value) :: entry :: rest
    | .eq => (key, value) :: rest
    | .gt => entry :: insertOrdered key value rest

/-- The map of the entries, inserted in order. -/
def ofEntries (entries : List (κ × β)) : List (κ × β) :=
  entries.foldl (fun map entry ↦ insertOrdered entry.1 entry.2 map) []

theorem mem_of_mem_insertOrdered {entry : κ × β} (h : entry ∈ insertOrdered key value map) :
    entry = (key, value) ∨ entry ∈ map := by
  induction map with
  | nil => exact .inl (List.mem_singleton.1 h)
  | cons first rest ih =>
    rw [insertOrdered] at h
    split at h
    case h_1 => exact List.mem_cons.1 h
    case h_2 => exact (List.mem_cons.1 h).imp_right (List.mem_cons_of_mem first)
    case h_3 =>
      rcases List.mem_cons.1 h with rfl | h
      · exact .inr List.mem_cons_self
      · exact (ih h).imp_right (List.mem_cons_of_mem first)

/-- **Inserting keeps the order.** -/
theorem keysIncrease_insertOrdered (h : KeysIncrease map) :
    KeysIncrease (insertOrdered key value map) := by
  induction map with
  | nil => exact List.pairwise_singleton _ _
  | cons first rest ih =>
    obtain ⟨hfirst, hrest⟩ := List.pairwise_cons.1 h
    rw [insertOrdered]
    split
    case h_1 hlt =>
      have hlt : key < first.1 := compare_lt_iff_lt.1 hlt
      refine List.pairwise_cons.2 ⟨fun entry hentry ↦ ?_, h⟩
      rcases List.mem_cons.1 hentry with rfl | hentry
      · exact hlt
      · exact hlt.trans (hfirst entry hentry)
    case h_2 heq =>
      have heq : key = first.1 := compare_eq_iff_eq.1 heq
      exact List.pairwise_cons.2 ⟨fun entry hentry ↦ heq ▸ hfirst entry hentry, hrest⟩
    case h_3 hgt =>
      have hgt : first.1 < key := compare_gt_iff_gt.1 hgt
      refine List.pairwise_cons.2 ⟨fun entry hentry ↦ ?_, ih hrest⟩
      rcases mem_of_mem_insertOrdered hentry with rfl | hentry
      · exact hgt
      · exact hfirst entry hentry

/-- Under a new key an entry is added. -/
theorem perm_insertOrdered (h : key ∉ map.map Prod.fst) :
    (insertOrdered key value map).Perm ((key, value) :: map) := by
  induction map with
  | nil => exact .refl _
  | cons first rest ih =>
    rw [insertOrdered]
    split
    case h_1 => exact .refl _
    case h_2 heq => exact absurd (compare_eq_iff_eq.1 heq) (List.ne_of_not_mem_cons h)
    case h_3 => exact ((ih (List.not_mem_of_not_mem_cons h)).cons first).trans (.swap _ _ _)

theorem keysIncrease_ofEntries : KeysIncrease (ofEntries entries) := by
  have hrun (map : List (κ × β)) (h : KeysIncrease map) : KeysIncrease
      (entries.foldl (fun map entry ↦ insertOrdered entry.1 entry.2 map) map) := by
    induction entries generalizing map with
    | nil => exact h
    | cons entry entries ih => exact ih _ (keysIncrease_insertOrdered h)
  exact hrun [] .nil

/-- Entries with different keys are the entries of their map. -/
theorem perm_ofEntries (h : (entries.map Prod.fst).Nodup) : (ofEntries entries).Perm entries := by
  have hrun (entries map : List (κ × β)) (h : ((entries ++ map).map Prod.fst).Nodup) :
      (entries.foldl (fun map entry ↦ insertOrdered entry.1 entry.2 map) map).Perm
        (entries ++ map) := by
    induction entries generalizing map with
    | nil => exact .refl _
    | cons entry entries ih =>
      have hnew : entry.1 ∉ map.map Prod.fst := by
        rw [List.map_append, List.map_cons, List.cons_append, List.nodup_cons] at h
        exact fun hmem ↦ h.1 (List.mem_append_right _ hmem)
      have hinserted : (entries ++ insertOrdered entry.1 entry.2 map).Perm
          (entry :: (entries ++ map)) :=
        ((perm_insertOrdered hnew).append_left entries).trans List.perm_middle
      exact (ih _ ((hinserted.map Prod.fst).nodup_iff.2 h)).trans hinserted
  have hall := hrun entries [] (by rwa [List.append_nil])
  rwa [List.append_nil] at hall

/-- What is in a map is what its key is looked up to. -/
theorem KeysIncrease.lookup_eq_some_iff (h : KeysIncrease map) :
    map.lookup key = some value ↔ (key, value) ∈ map := by
  induction map with
  | nil => exact iff_of_false (fun h ↦ nomatch h) List.not_mem_nil
  | cons first rest ih =>
    obtain ⟨hfirst, hrest⟩ := List.pairwise_cons.1 h
    obtain ⟨firstKey, firstValue⟩ := first
    rw [List.lookup_cons, List.mem_cons]
    split
    case h_1 heq =>
      obtain rfl := eq_of_beq heq
      constructor
      · intro hvalue
        cases hvalue
        exact .inl rfl
      · rintro (heq | hmem)
        · cases heq
          rfl
        · exact absurd (hfirst _ hmem) (lt_irrefl _)
    case h_2 hne =>
      rw [ih hrest]
      refine (or_iff_right fun heq ↦ ?_).symm
      cases heq
      exact absurd (beq_self_eq_true key) (by rw [hne]; decide)

/-- **A map is known by its size and by what its keys are looked up to.** -/
theorem eq_ofEntries_iff (hmap : KeysIncrease map) (hkeys : (entries.map Prod.fst).Nodup) :
    map = ofEntries entries ↔
      map.length = entries.length ∧ ∀ entry ∈ entries, map.lookup entry.1 = some entry.2 := by
  have hperm := perm_ofEntries hkeys
  constructor
  · rintro rfl
    exact ⟨hperm.length_eq, fun entry hentry ↦
      hmap.lookup_eq_some_iff.2 (hperm.mem_iff.2 hentry)⟩
  · rintro ⟨hlength, hlookup⟩
    have hsub : entries ⊆ map := fun entry hentry ↦
      hmap.lookup_eq_some_iff.1 (hlookup entry hentry)
    have hsame : entries.Perm map :=
      (List.subperm_of_subset (.of_map Prod.fst hkeys) hsub).perm_of_length_le hlength.le
    refine (hsame.symm.trans hperm.symm).eq_of_pairwise ?_ hmap keysIncrease_ofEntries
    exact fun entry later _ _ hlt hgt ↦ absurd hgt (lt_asymm hlt)

end OrderedEntries

/-! ### Values -/

/-- A number as it was written: without a sign, with a minus sign, or as the bits of a float. -/
inductive JsonNumber where
  | posInt (n : UInt64)
  | negInt (n : Int64)
  | float (bits : UInt64)
deriving DecidableEq, Repr

/-- A JSON value. -/
inductive Json where
  | null
  | bool (b : Bool)
  | number (n : JsonNumber)
  | string (text : String)
  | array (items : List Json)
  | object (fields : List (String × Json))

namespace Json

/-- Every object is a map. -/
inductive WellFormed : Json → Prop
  | null : WellFormed .null
  | bool (b : Bool) : WellFormed (.bool b)
  | number (n : JsonNumber) : WellFormed (.number n)
  | string (text : String) : WellFormed (.string text)
  | array {items : List Json} (h : ∀ item ∈ items, WellFormed item) : WellFormed (.array items)
  | object {fields : List (String × Json)} (hkeys : KeysIncrease fields)
      (h : ∀ entry ∈ fields, WellFormed entry.2) : WellFormed (.object fields)

/-- The fields of an object. -/
def asObject : Json → Option (List (String × Json))
  | object fields => some fields
  | _ => none

/-- The items of an array. -/
def asArray : Json → Option (List Json)
  | array items => some items
  | _ => none

/-- The text of a string. -/
def asStr : Json → Option String
  | string text => some text
  | _ => none

/-- A number that is a `UInt64`. -/
def asU64 : Json → Option UInt64
  | number (.posInt n) => some n
  | _ => none

/-- The object that is written with the fields. -/
def ofFields (fields : List (String × Json)) : Json := object (ofEntries fields)

variable {json : Json} {fields : List (String × Json)} {items : List Json} {text : String}
  {n : UInt64}

theorem asObject_eq_some_iff : json.asObject = some fields ↔ json = object fields := by
  cases json <;> simp [asObject]

theorem asArray_eq_some_iff : json.asArray = some items ↔ json = array items := by
  cases json <;> simp [asArray]

theorem asStr_eq_some_iff : json.asStr = some text ↔ json = string text := by
  cases json <;> simp [asStr]

theorem asU64_eq_some_iff : json.asU64 = some n ↔ json = number (.posInt n) := by
  constructor
  · intro h
    unfold asU64 at h
    split at h
    case h_1 =>
      cases h
      rfl
    case h_2 => cases h
  · rintro rfl
    rfl

/-- An optional value of the form that is read. -/
theorem bind_eq_some_iff {α : Type} {read : Json → Option α} {write : α → Json}
    {value : Option Json} {a : α} (h : ∀ {json a}, read json = some a ↔ json = write a) :
    value.bind read = some a ↔ value = some (write a) := by
  simp only [Option.bind_eq_some_iff, h, exists_eq_right]

theorem wellFormed_ofFields (h : ∀ entry ∈ fields, WellFormed entry.2)
    (hkeys : (fields.map Prod.fst).Nodup) : (ofFields fields).WellFormed :=
  .object keysIncrease_ofEntries fun entry hentry ↦
    h entry ((perm_ofEntries hkeys).mem_iff.1 hentry)

/-- An object is known by its size and by what its keys are looked up to. -/
theorem eq_ofFields_iff (h : json.WellFormed) (hkeys : (fields.map Prod.fst).Nodup) :
    json = ofFields fields ↔ ∃ map, json.asObject = some map ∧ map.length = fields.length ∧
      ∀ entry ∈ fields, map.lookup entry.1 = some entry.2 := by
  constructor
  · intro heq
    refine ⟨ofEntries fields, asObject_eq_some_iff.2 heq, ?_⟩
    exact (eq_ofEntries_iff keysIncrease_ofEntries hkeys).1 rfl
  · rintro ⟨map, hobject, hmap⟩
    obtain rfl := asObject_eq_some_iff.1 hobject
    cases h with
    | object hincrease => rw [ofFields, (eq_ofEntries_iff hincrease hkeys).2 hmap]

end Json

/-- A value as a parser gives it. -/
@[ext]
structure JsonValue where
  json : Json
  wellFormed : json.WellFormed
