import Mathlib.Data.List.Forall2
import Mathlib.Data.String.Basic

/-!
# Delimited entries

Texts that list entries: each is ended by one delimiter, and its key is separated from its value by
another. Read into a map, a list of entries gives every key the value of its last entry, and the
entries of a map, written one after the other, are read back as that map.
-/

/-- Each element has a counterpart when the whole list has. -/
theorem exists_forall₂_iff {α β : Type} {R : α → β → Prop} {l : List α} :
    (∃ l', List.Forall₂ R l l') ↔ ∀ a ∈ l, ∃ b, R a b := by
  induction l with
  | nil => exact iff_of_true ⟨[], .nil⟩ fun _ h ↦ absurd h List.not_mem_nil
  | cons a l ih =>
    rw [List.forall_mem_cons, ← ih]
    constructor
    · rintro ⟨_, hl⟩
      obtain ⟨b, rest, hb, hrest, -⟩ := List.forall₂_cons_left_iff.1 hl
      exact ⟨⟨b, hb⟩, rest, hrest⟩
    · rintro ⟨⟨b, hb⟩, rest, hrest⟩
      exact ⟨b :: rest, .cons hb hrest⟩

/-- What stands in the second list is the counterpart of something in the first. -/
theorem exists_of_mem_right {α β : Type} {R : α → β → Prop} {l : List α} {l' : List β} {b : β}
    (h : List.Forall₂ R l l') (hb : b ∈ l') : ∃ a ∈ l, R a b := by
  induction h with
  | nil => exact absurd hb List.not_mem_nil
  | @cons a b' l l' hab _ ih =>
    rcases List.mem_cons.1 hb with rfl | hmem
    · exact ⟨a, List.mem_cons_self, hab⟩
    · obtain ⟨a', ha', hR⟩ := ih hmem
      exact ⟨a', List.mem_cons_of_mem a ha', hR⟩

section Splitting

variable {α : Type} [DecidableEq α] {separator : α} {text before after part : List α}

/-- The texts in front of and behind the first separator. -/
def splitOnce (separator : α) : List α → Option (List α × List α)
  | [] => none
  | c :: rest =>
    if c = separator then some ([], rest)
    else (splitOnce separator rest).map fun parts ↦ (c :: parts.1, parts.2)

/-- **The first separator** is the one in front of which there is none. -/
theorem splitOnce_eq_some_iff : splitOnce separator text = some (before, after) ↔
    text = before ++ separator :: after ∧ separator ∉ before := by
  induction text generalizing before with
  | nil =>
    refine iff_of_false (fun h ↦ nomatch h) fun h ↦ ?_
    exact List.append_ne_nil_of_right_ne_nil before (List.cons_ne_nil _ _) h.1.symm
  | cons c rest ih =>
    rw [splitOnce]
    split
    case isTrue hc =>
      constructor
      · intro h
        cases h
        exact ⟨by rw [hc, List.nil_append], List.not_mem_nil⟩
      · rintro ⟨htext, hfirst⟩
        rcases before with _ | ⟨b, before⟩
        · cases htext
          rfl
        · cases htext
          exact absurd hc (List.ne_of_not_mem_cons hfirst).symm
    case isFalse hc =>
      rw [Option.map_eq_some_iff]
      constructor
      · rintro ⟨⟨before', after'⟩, hrest, h⟩
        cases h
        obtain ⟨rfl, hfirst⟩ := ih.1 hrest
        exact ⟨rfl, List.not_mem_cons_of_ne_of_not_mem (Ne.symm hc) hfirst⟩
      · rintro ⟨htext, hfirst⟩
        rcases before with _ | ⟨b, before⟩
        · cases htext
          exact absurd rfl hc
        · cases htext
          exact ⟨(before, after), ih.2 ⟨rfl, List.not_mem_of_not_mem_cons hfirst⟩, rfl⟩

/-- The parts of a split text are without separator, and made of what is in the text. -/
theorem of_mem_splitOn (h : part ∈ text.splitOn separator) :
    separator ∉ part ∧ ∀ c ∈ part, c ∈ text := by
  induction text generalizing part with
  | nil =>
    rw [List.splitOn_nil, List.mem_singleton] at h
    rw [h]
    exact ⟨List.not_mem_nil, fun _ hc ↦ hc⟩
  | cons c rest ih =>
    rw [List.splitOn_cons_eq_if_modifyHead] at h
    have hlater {part : List α} (hpart : part ∈ rest.splitOn separator) :
        separator ∉ part ∧ ∀ d ∈ part, d ∈ c :: rest :=
      ⟨(ih hpart).1, fun d hd ↦ List.mem_cons_of_mem c ((ih hpart).2 d hd)⟩
    split at h
    case isTrue =>
      rcases List.mem_cons.1 h with rfl | hmem
      · exact ⟨List.not_mem_nil, fun _ hc ↦ absurd hc List.not_mem_nil⟩
      · exact hlater hmem
    case isFalse hc =>
      obtain ⟨head, tail, hsplit⟩ := List.exists_cons_of_ne_nil (List.splitOn_ne_nil separator rest)
      rw [hsplit] at hlater
      rw [hsplit, List.modifyHead_cons] at h
      rcases List.mem_cons.1 h with rfl | hmem
      · obtain ⟨hfree, hfrom⟩ := hlater List.mem_cons_self
        refine ⟨List.not_mem_cons_of_ne_of_not_mem
          (fun heq ↦ hc (beq_iff_eq.2 heq.symm)) hfree, ?_⟩
        exact List.forall_mem_cons.2 ⟨List.mem_cons_self, hfrom⟩
      · exact hlater (List.mem_cons_of_mem head hmem)

/-- Parts that are each ended by the separator are the parts of the text; an empty one follows. -/
theorem splitOn_flatMap {parts : List (List α)} (h : ∀ part ∈ parts, separator ∉ part) :
    (parts.flatMap (· ++ [separator])).splitOn separator = parts ++ [[]] := by
  induction parts with
  | nil => exact List.splitOn_nil separator
  | cons part parts ih =>
    obtain ⟨hpart, hparts⟩ := List.forall_mem_cons.1 h
    rw [List.flatMap_cons, List.append_assoc, List.singleton_append,
      List.splitOn_append_cons_self_of_not_mem hpart, ih hparts, List.cons_append]

end Splitting

/-! ### Maps of entries -/

section Maps

open Std (ExtTreeMap)

variable {κ β : Type} [Ord κ] [Std.TransOrd κ] [Std.LawfulEqOrd κ] [BEq κ] [LawfulBEq κ]

/-- The map after inserting the entries in order. -/
def insertAll (map : ExtTreeMap κ β) (entries : List (κ × β)) : ExtTreeMap κ β :=
  entries.foldl (fun map entry ↦ map.insert entry.1 entry.2) map

/-- **The last entry of a key counts.** -/
theorem getElem?_insertAll (map : ExtTreeMap κ β) (entries : List (κ × β)) (key : κ) :
    (insertAll map entries)[key]? = (entries.reverse.lookup key).or map[key]? := by
  induction entries generalizing map with
  | nil => rfl
  | cons entry entries ih =>
    obtain ⟨key', value⟩ := entry
    show (insertAll (map.insert key' value) entries)[key]? = _
    rw [ih, List.reverse_cons, List.lookup_append, Option.or_assoc, ExtTreeMap.getElem?_insert,
      List.lookup_cons, List.lookup_nil]
    congr 1
    by_cases hkey : key = key'
    · rw [hkey, if_pos Std.ReflCmp.compare_self, beq_self_eq_true key']
      rfl
    · rw [if_neg fun h ↦ hkey (Std.LawfulEqCmp.eq_of_compare h).symm, beq_false_of_ne hkey]
      rfl

/-- A key has one entry in the list of a map, so that the first is the last. -/
theorem lookup_reverse_toList (map : ExtTreeMap κ β) (key : κ) :
    map.toList.reverse.lookup key = map[key]? := by
  rcases hlookup : map.toList.reverse.lookup key with _ | value
  · refine (Option.eq_none_iff_forall_ne_some.2 fun value hvalue ↦ ?_).symm
    have hmem := List.mem_reverse.2 (ExtTreeMap.mem_toList_iff_getElem?_eq_some.2 hvalue)
    simpa using List.lookup_eq_none_iff.1 hlookup _ hmem
  · obtain ⟨before, after, hlist, -⟩ := List.lookup_eq_some_iff.1 hlookup
    refine (ExtTreeMap.mem_toList_iff_getElem?_eq_some.1 (List.mem_reverse.1 ?_)).symm
    rw [hlist]
    exact List.mem_append_right before List.mem_cons_self

/-- The entries of a map are read back as the map. -/
theorem insertAll_toList (map : ExtTreeMap κ β) : insertAll ∅ map.toList = map := by
  refine ExtTreeMap.ext_getElem? fun key ↦ ?_
  rw [getElem?_insertAll, lookup_reverse_toList, ExtTreeMap.getElem?_empty, Option.or_none]

end Maps
