import Mathlib.Data.List.Induction
import Mathlib.Data.List.Nodup

/-!
# Dictionaries that keep the order of insertion

A dictionary is the list of its entries, with one entry for each key. Inserting under a key that is
there replaces its value in place, and any other key goes to the end. So a dictionary made from a
list of pairs has the keys in the order in which they first occur, each with the value of its last
pair.
-/

/-- A dictionary: its entries, in the order in which their keys were inserted. -/
structure Dictionary (κ β : Type) where
  entries : List (κ × β)
  /-- No key has two entries. -/
  nodup : (entries.map Prod.fst).Nodup

namespace Dictionary

variable {κ β : Type}

/-- The keys, in their order. -/
def keys (d : Dictionary κ β) : List κ := d.entries.map Prod.fst

/-- The values, in the order of the keys. -/
def values (d : Dictionary κ β) : List β := d.entries.map Prod.snd

/-- The dictionary without an entry. -/
def empty : Dictionary κ β := ⟨[], List.nodup_nil⟩

@[simp] theorem keys_empty : (empty : Dictionary κ β).keys = [] := rfl

@[simp] theorem values_empty : (empty : Dictionary κ β).values = [] := rfl

theorem length_values (d : Dictionary κ β) : d.values.length = d.keys.length := by
  rw [values, keys, List.length_map, List.length_map]

theorem zip_keys_values (d : Dictionary κ β) : d.keys.zip d.values = d.entries :=
  (List.zip_of_prod rfl rfl).symm

variable [DecidableEq κ]

/-- The entry with the value of its key replaced, and any other as it is. -/
def replace (key : κ) (value : β) (entry : κ × β) : κ × β :=
  if entry.1 = key then (key, value) else entry

theorem replace_fst (key : κ) (value : β) (entry : κ × β) :
    (replace key value entry).1 = entry.1 := by
  unfold replace
  split
  · rename_i h
    exact h.symm
  · rfl

theorem map_replace_fst (key : κ) (value : β) (entries : List (κ × β)) :
    (entries.map (replace key value)).map Prod.fst = entries.map Prod.fst := by
  rw [List.map_map]
  exact List.map_congr_left fun entry _ ↦ replace_fst key value entry

/-- Replacing the value of a key is setting the value at its position. -/
theorem map_replace_snd {key : κ} {value : β} {entries : List (κ × β)}
    (hnodup : (entries.map Prod.fst).Nodup) :
    (entries.map (replace key value)).map Prod.snd =
      (entries.map Prod.snd).set ((entries.map Prod.fst).idxOf key) value := by
  induction entries with
  | nil => rfl
  | cons entry entries ih =>
    rw [List.map_cons, List.nodup_cons] at hnodup
    by_cases hkey : entry.1 = key
    · -- the key does not occur again
      have hrest : entries.map (replace key value) = entries := by
        refine (List.map_congr_left fun other hother ↦ ?_).trans (List.map_id entries)
        refine if_neg fun h ↦ hnodup.1 ?_
        rw [hkey, ← h]
        exact List.mem_map_of_mem hother
      rw [List.map_cons, hrest, List.map_cons, List.map_cons, List.map_cons, hkey,
        List.idxOf_cons_self, List.set_cons_zero, replace, if_pos hkey]
    · rw [List.map_cons, List.map_cons, List.map_cons, List.map_cons, List.idxOf_cons_ne _ hkey,
        List.set_cons_succ, ih hnodup.2, replace, if_neg hkey]

/-- Insert the value under the key. -/
def insert (d : Dictionary κ β) (key : κ) (value : β) : Dictionary κ β :=
  if h : key ∈ d.keys then
    ⟨d.entries.map (replace key value), by rw [map_replace_fst]; exact d.nodup⟩
  else
    ⟨d.entries ++ [(key, value)], by
      rw [List.map_append]
      exact List.Nodup.append d.nodup (List.nodup_singleton key)
        (List.disjoint_singleton.2 h)⟩

variable {d : Dictionary κ β} {key : κ} {value : β}

theorem keys_insert_of_mem (h : key ∈ d.keys) : (d.insert key value).keys = d.keys := by
  rw [insert, dif_pos h]
  exact map_replace_fst key value d.entries

theorem keys_insert_of_notMem (h : key ∉ d.keys) :
    (d.insert key value).keys = d.keys ++ [key] := by
  rw [insert, dif_neg h]
  exact List.map_append

theorem values_insert_of_mem (h : key ∈ d.keys) :
    (d.insert key value).values = d.values.set (d.keys.idxOf key) value := by
  rw [insert, dif_pos h]
  exact map_replace_snd d.nodup

theorem values_insert_of_notMem (h : key ∉ d.keys) :
    (d.insert key value).values = d.values ++ [value] := by
  rw [insert, dif_neg h]
  exact List.map_append

theorem mem_entries_insert {key' : κ} {value' : β} :
    (key', value') ∈ (d.insert key value).entries ↔
      key' = key ∧ value' = value ∨ key' ≠ key ∧ (key', value') ∈ d.entries := by
  by_cases h : key ∈ d.keys
  · rw [insert, dif_pos h, List.mem_map]
    constructor
    · rintro ⟨entry, hentry, heq⟩
      unfold replace at heq
      split at heq
      · cases heq
        exact .inl ⟨rfl, rfl⟩
      · subst heq
        exact .inr ⟨by assumption, hentry⟩
    · rintro (⟨rfl, rfl⟩ | ⟨hne, hentry⟩)
      · obtain ⟨entry, hentry, hkey⟩ := List.mem_map.1 h
        exact ⟨entry, hentry, if_pos hkey⟩
      · exact ⟨_, hentry, if_neg hne⟩
  · rw [insert, dif_neg h, List.mem_append, List.mem_singleton, Prod.mk.injEq]
    constructor
    · rintro (hentry | hnew)
      · refine .inr ⟨?_, hentry⟩
        rintro rfl
        exact h (List.mem_map_of_mem hentry)
      · exact .inl hnew
    · rintro (hnew | ⟨-, hentry⟩)
      · exact .inr hnew
      · exact .inl hentry

/-! ### The dictionary of a list of pairs -/

/-- The dictionary after inserting the pairs one after the other. -/
def ofPairs (pairs : List (κ × β)) : Dictionary κ β :=
  pairs.foldl (fun d pair ↦ d.insert pair.1 pair.2) empty

variable {pairs : List (κ × β)}

theorem ofPairs_append_singleton (pair : κ × β) :
    ofPairs (pairs ++ [pair]) = (ofPairs pairs).insert pair.1 pair.2 := by
  rw [ofPairs, List.foldl_append]
  rfl

/-- The pair is the last with its key. -/
def IsLast (pairs : List (κ × β)) (key : κ) (value : β) : Prop :=
  ∃ before after, pairs = before ++ (key, value) :: after ∧ key ∉ after.map Prod.fst

omit [DecidableEq κ] in
theorem isLast_append_singleton {pair : κ × β} :
    IsLast (pairs ++ [pair]) key value ↔
      key = pair.1 ∧ value = pair.2 ∨ key ≠ pair.1 ∧ IsLast pairs key value := by
  constructor
  · rintro ⟨before, after, h, hafter⟩
    rcases after.eq_nil_or_concat with rfl | ⟨after, last, rfl⟩
    · obtain ⟨rfl, hlast⟩ := List.append_inj' h rfl
      obtain rfl := List.singleton_inj.1 hlast
      exact .inl ⟨rfl, rfl⟩
    · rw [List.concat_eq_append, ← List.cons_append, ← List.append_assoc] at h
      obtain ⟨rfl, hlast⟩ := List.append_inj' h rfl
      obtain rfl := List.singleton_inj.1 hlast
      rw [List.concat_eq_append, List.map_append, List.mem_append, not_or] at hafter
      exact .inr ⟨fun heq ↦ hafter.2 (by simp [heq]), before, after, rfl, hafter.1⟩
  · rintro (⟨rfl, rfl⟩ | ⟨hne, before, after, rfl, hafter⟩)
    · exact ⟨pairs, [], rfl, by simp⟩
    · refine ⟨before, after ++ [pair], by simp, ?_⟩
      rw [List.map_append, List.mem_append, not_or]
      exact ⟨hafter, by simpa using hne⟩

/-- **Every key has the value of its last pair.** By induction on the pairs, from the end. -/
theorem mem_entries_ofPairs : (key, value) ∈ (ofPairs pairs).entries ↔ IsLast pairs key value := by
  induction pairs using List.reverseRecOn with
  | nil => exact ⟨fun h ↦ absurd h List.not_mem_nil, fun ⟨_, _, h, _⟩ ↦ by simp at h⟩
  | append_singleton pairs pair ih =>
    rw [ofPairs_append_singleton, mem_entries_insert, isLast_append_singleton, ih]

/-- **The keys are those of the pairs**, in the order of their first occurrence. -/
theorem keys_ofPairs :
    (∀ key, key ∈ (ofPairs pairs).keys ↔ key ∈ pairs.map Prod.fst) ∧
      (ofPairs pairs).keys.Pairwise fun key key' ↦
        (pairs.map Prod.fst).idxOf key < (pairs.map Prod.fst).idxOf key' := by
  induction pairs using List.reverseRecOn with
  | nil => exact ⟨fun _ ↦ Iff.rfl, List.Pairwise.nil⟩
  | append_singleton pairs pair ih =>
    obtain ⟨hmem, horder⟩ := ih
    rw [ofPairs_append_singleton, List.map_append, List.map_singleton]
    -- the old keys keep their places
    have hkept : (ofPairs pairs).keys.Pairwise fun key key' ↦
        (pairs.map Prod.fst ++ [pair.1]).idxOf key <
          (pairs.map Prod.fst ++ [pair.1]).idxOf key' := by
      refine horder.imp_of_mem fun hkey hkey' hlt ↦ ?_
      rwa [List.idxOf_append_of_mem ((hmem _).1 hkey),
        List.idxOf_append_of_mem ((hmem _).1 hkey')]
    by_cases hpair : pair.1 ∈ (ofPairs pairs).keys
    · rw [keys_insert_of_mem hpair]
      refine ⟨fun key ↦ ?_, hkept⟩
      rw [hmem, List.mem_append, List.mem_singleton, iff_self_or]
      rintro rfl
      exact (hmem _).1 hpair
    · rw [keys_insert_of_notMem hpair]
      refine ⟨fun key ↦ by rw [List.mem_append, List.mem_append, hmem],
        List.pairwise_append.2 ⟨hkept, List.pairwise_singleton _ _, fun key hkey new hnew ↦ ?_⟩⟩
      obtain rfl := List.mem_singleton.1 hnew
      rw [List.idxOf_append_of_mem ((hmem _).1 hkey),
        List.idxOf_append_of_notMem fun h ↦ hpair ((hmem _).2 h)]
      exact Nat.lt_of_lt_of_le (List.idxOf_lt_length_of_mem ((hmem _).1 hkey))
        (Nat.le_add_right _ _)

theorem ofPairs_eq_empty_iff : (ofPairs pairs).keys = [] ↔ pairs = [] := by
  rw [List.eq_nil_iff_forall_not_mem, List.eq_nil_iff_forall_not_mem]
  constructor
  · exact fun h pair hpair ↦ h pair.1 ((keys_ofPairs.1 _).2 (List.mem_map_of_mem hpair))
  · intro h key hkey
    obtain ⟨pair, hpair, -⟩ := List.mem_map.1 ((keys_ofPairs.1 _).1 hkey)
    exact h pair hpair

end Dictionary
