import Mathlib.Data.List.Forall2
import Reink.Library.Checked
import Reink.Library.Entries
import Reink.Library.Text

/-!
# Printer identities

The IEEE 1284 device identifier and the model check that stands in front of every write. An
identifier lists fields by key; three long keys name the same field as a short one, and their value
replaces the short one's, wherever in the identifier either stands. The fields of a parsed identity,
written as an identifier, are parsed to the same identity.
-/

namespace Reink

open Std (ExtTreeMap)

/-- An IEEE 1284 printer device identifier. -/
structure PrinterIdentity where
  fields : ExtTreeMap String String
  commandSet : List String

/-- A malformed printer device identifier. -/
inductive IdentityParseError where
  | nonAscii
  | malformedField (field : String)
deriving DecidableEq, Repr

/-- The displayed text of an identity parse error. It does not show the field. -/
def IdentityParseError.display : IdentityParseError → String
  | nonAscii => "IEEE 1284 device ID is not ASCII"
  | malformedField _ => "malformed IEEE 1284 device ID field"

namespace PrinterIdentity

/-- The non-empty entries of an identifier. -/
def entries (identifier : String) : List (List Char) :=
  (identifier.toList.splitOn ';').filter (· ≠ [])

/-- The fields with one more entry. -/
def insertEntry (fields : ExtTreeMap String String) (entry : List Char) :
    Except IdentityParseError (ExtTreeMap String String) :=
  match splitOnce ':' entry with
  | none => .error (.malformedField (String.ofList entry))
  | some (key, value) =>
    if key = [] then .error (.malformedField (String.ofList entry))
    else .ok (fields.insert (String.ofList key) (String.ofList value))

/-- The long keys with the short ones that take their values. -/
def aliases : List (String × String) :=
  [("MANUFACTURER", "MFG"), ("MODEL", "MDL"), ("COMMAND SET", "CMD")]

/-- The fields with the value of the long key under the short one. -/
def applyAlias (fields : ExtTreeMap String String) (names : String × String) :
    ExtTreeMap String String :=
  match fields[names.1]? with
  | some value => fields.insert names.2 value
  | none => fields

/-- The commands that the fields list. -/
def commands (fields : ExtTreeMap String String) : List String :=
  ((fields["CMD"]?).map fun commands ↦ (commands.toList.splitOn ',').map String.ofList).getD []

/-- Parses the semicolon-delimited IEEE 1284 identifier returned by a printer. -/
def parse (identifier : String) : Except IdentityParseError PrinterIdentity :=
  if ¬ identifier.toList.all (·.toNat < 128) then .error .nonAscii
  else do
    let fields ← (entries identifier).foldlM insertEntry ∅
    let fields := aliases.foldl applyAlias fields
    return ⟨fields, commands fields⟩

/-- The value of the field. -/
def field (identity : PrinterIdentity) (name : String) : Option String := identity.fields[name]?

/-- The manufacturer, as the device tells it. -/
def manufacturer (identity : PrinterIdentity) : Option String := identity.field "MFG"

/-- The model, as the device tells it. -/
def model (identity : PrinterIdentity) : Option String := identity.field "MDL"

/-- The Epson database model candidate: the model without ` Series` at its end. -/
def detectedModel (identity : PrinterIdentity) : Option String :=
  identity.model.map fun model ↦
    if " Series".toList <:+ model.toList then
      String.ofList (model.toList.take (model.length - " Series".length))
    else model

/-- The serial number, as the device tells it. -/
def serialNumber (identity : PrinterIdentity) : Option String := identity.field "SN"

/-- The fields as an identifier, in the order of their keys. -/
def render (fields : ExtTreeMap String String) : String :=
  String.ofList (fields.toList.flatMap fun entry ↦
    entry.1.toList ++ ':' :: entry.2.toList ++ [';'])

end PrinterIdentity

/-- Verifies that a connected printer's normalized model exactly matches the model selected before a
session was opened. -/
def verifyExactModel [CharTables] (identity : PrinterIdentity) (expectedModel : String) :
    Except String Unit :=
  match identity.detectedModel with
  | some model =>
    if model = expectedModel then .ok ()
    else .error ("printer identity model " ++ Text.debug model ++
      " does not match selected model " ++ Text.debug expectedModel)
  | none => .error ("printer identity does not contain a model; selected model is " ++
      Text.debug expectedModel)

/-- **The gate opens for the selected model only.** -/
theorem verifyExactModel_eq_ok_iff [CharTables] {identity : PrinterIdentity}
    {expectedModel : String} : verifyExactModel identity expectedModel = .ok () ↔
      identity.detectedModel = some expectedModel := by
  unfold verifyExactModel
  split
  case h_1 model hmodel =>
    rw [hmodel, Option.some_inj]
    split
    case isTrue heq => exact iff_of_true rfl heq
    case isFalse hne => exact iff_of_false (fun h ↦ nomatch h) hne
  case h_2 hnone => exact iff_of_false (fun h ↦ nomatch h) fun h ↦ nomatch hnone.symm.trans h

namespace PrinterIdentity

variable {identifier : String} {identity : PrinterIdentity} {entry : List Char}
  {fields fields' : ExtTreeMap String String}

/-! ### What an entry names -/

/-- The entry has the key, which is not empty, in front of the first colon. -/
structure Names (entry : List Char) (pair : String × String) : Prop where
  entry_eq : entry = pair.1.toList ++ ':' :: pair.2.toList
  first : ':' ∉ pair.1.toList
  key_ne : pair.1 ≠ ""

theorem ofList_eq_empty_iff {key : List Char} : String.ofList key = "" ↔ key = [] := by
  rw [← String.toList_inj, String.toList_ofList]
  rfl

/-- The key and the value of an entry, for an entry that has them. -/
theorem exists_names_iff : (∃ pair, Names entry pair) ↔
    ∃ key value, entry = key ++ ':' :: value ∧ ':' ∉ key ∧ key ≠ [] := by
  constructor
  · rintro ⟨⟨key, value⟩, hentry, hfirst, hkey⟩
    refine ⟨key.toList, value.toList, hentry, hfirst, fun h ↦ hkey ?_⟩
    exact String.toList_inj.1 h
  · rintro ⟨key, value, rfl, hfirst, hkey⟩
    refine ⟨(String.ofList key, String.ofList value), ?_, ?_, ?_⟩
    · rw [String.toList_ofList, String.toList_ofList]
    · rwa [String.toList_ofList]
    · exact fun h ↦ hkey (ofList_eq_empty_iff.1 h)

/-- **One entry**: it is taken when it names a field, which then has its value. -/
theorem insertEntry_eq_ok_iff : insertEntry fields entry = .ok fields' ↔
    ∃ pair, Names entry pair ∧ fields' = fields.insert pair.1 pair.2 := by
  unfold insertEntry
  split
  case h_1 hnone =>
    refine iff_of_false (fun h ↦ nomatch h) ?_
    rintro ⟨pair, hnames, -⟩
    have hsplit := splitOnce_eq_some_iff.2 ⟨hnames.entry_eq, hnames.first⟩
    cases hnone.symm.trans hsplit
  case h_2 key value hsplit =>
    obtain ⟨hentry, hfirst⟩ := splitOnce_eq_some_iff.1 hsplit
    rw [Except.ite_eq_ok, Except.ok.injEq]
    constructor
    · rintro ⟨hkey, rfl⟩
      refine ⟨(String.ofList key, String.ofList value), ⟨?_, ?_, ?_⟩, rfl⟩
      · rwa [String.toList_ofList, String.toList_ofList]
      · rwa [String.toList_ofList]
      · exact fun h ↦ hkey (ofList_eq_empty_iff.1 h)
    · rintro ⟨⟨key', value'⟩, hnames, rfl⟩
      have hsplit' := splitOnce_eq_some_iff.2 ⟨hnames.entry_eq, hnames.first⟩
      obtain ⟨rfl, rfl⟩ := Prod.mk.inj (Option.some.inj (hsplit.symm.trans hsplit'))
      refine ⟨fun h ↦ hnames.key_ne (String.toList_inj.1 h), ?_⟩
      rw [String.ofList_toList, String.ofList_toList]

/-- **The loop over the entries**: each names a field, and they are inserted in order. -/
theorem foldlM_insertEntry_eq_ok_iff {entries : List (List Char)} :
    entries.foldlM insertEntry fields = .ok fields' ↔
      ∃ pairs, List.Forall₂ Names entries pairs ∧ fields' = insertAll fields pairs := by
  induction entries generalizing fields with
  | nil =>
    rw [List.foldlM_nil]
    constructor
    · intro h
      cases h
      exact ⟨[], .nil, rfl⟩
    · rintro ⟨pairs, hpairs, rfl⟩
      cases hpairs
      rfl
  | cons entry entries ih =>
    rw [List.foldlM_cons, Except.bind_eq_ok]
    constructor
    · rintro ⟨next, hnext, hrest⟩
      obtain ⟨pair, hnames, rfl⟩ := insertEntry_eq_ok_iff.1 hnext
      obtain ⟨pairs, hpairs, rfl⟩ := ih.1 hrest
      exact ⟨pair :: pairs, .cons hnames hpairs, rfl⟩
    · rintro ⟨pairs, hpairs, rfl⟩
      cases hpairs with
      | cons hnames hpairs =>
        exact ⟨_, insertEntry_eq_ok_iff.2 ⟨_, hnames, rfl⟩, ih.2 ⟨_, hpairs, rfl⟩⟩

/-! ### The short keys -/

/-- The long key whose value a short key takes. -/
def longName : String → Option String
  | "MFG" => some "MANUFACTURER"
  | "MDL" => some "MODEL"
  | "CMD" => some "COMMAND SET"
  | _ => none

theorem getElem?_applyAlias (names : String × String) (name : String) :
    (applyAlias fields names)[name]? =
      if names.2 = name then (fields[names.1]?).or fields[name]? else fields[name]? := by
  unfold applyAlias
  split
  case h_1 value hvalue =>
    rw [ExtTreeMap.getElem?_insert, hvalue, Option.some_or]
    simp only [Std.compare_eq_iff_eq]
  case h_2 hnone => rw [hnone, Option.none_or, ite_self]

/-- **A short key has the value of its long key**, and its own where that has none. -/
theorem getElem?_foldl_applyAlias (name : String) :
    (aliases.foldl applyAlias fields)[name]? =
      ((longName name).bind (fields[·]?)).or fields[name]? := by
  simp only [aliases, List.foldl_cons, List.foldl_nil, getElem?_applyAlias]
  rcases eq_or_ne name "MFG" with rfl | hmfg
  · simp [longName]
  rcases eq_or_ne name "MDL" with rfl | hmdl
  · simp [longName]
  rcases eq_or_ne name "CMD" with rfl | hcmd
  · simp [longName]
  simp [longName, Ne.symm hmfg, Ne.symm hmdl, Ne.symm hcmd]

/-- A long key is no short key. -/
theorem longName_longName {name long : String} (h : longName name = some long) :
    longName long = none := by
  unfold longName at h
  split at h
  all_goals cases h
  all_goals rfl

/-- The short keys take their values once. -/
theorem foldl_applyAlias_idem : aliases.foldl applyAlias (aliases.foldl applyAlias fields) =
    aliases.foldl applyAlias fields := by
  refine ExtTreeMap.ext_getElem? fun name ↦ ?_
  rw [getElem?_foldl_applyAlias]
  rcases hlong : longName name with _ | long
  · rw [Option.bind_none, Option.none_or]
  · rw [Option.bind_some, getElem?_foldl_applyAlias name, getElem?_foldl_applyAlias long,
      longName_longName hlong, hlong, Option.bind_none, Option.none_or, Option.bind_some,
      ← Option.or_assoc, Option.or_self]

/-! ### What parsing accepts and what it gives -/

/-- **What is parsed**: the fields in the order of their entries, and then the short keys. -/
theorem parse_eq_ok_iff : parse identifier = .ok identity ↔
    (∀ c ∈ identifier.toList, c.toNat < 128) ∧
      ∃ pairs, List.Forall₂ Names (entries identifier) pairs ∧
        identity.fields = aliases.foldl applyAlias (insertAll ∅ pairs) ∧
        identity.commandSet = commands identity.fields := by
  have hascii : identifier.toList.all (·.toNat < 128) = true ↔
      ∀ c ∈ identifier.toList, c.toNat < 128 := by
    simp only [List.all_eq_true, decide_eq_true_eq]
  rw [parse, Except.ite_eq_ok, not_not, hascii, Except.bind_eq_ok]
  refine and_congr_right fun _ ↦ ⟨?_, ?_⟩
  · rintro ⟨fields, hfold, h⟩
    obtain ⟨pairs, hpairs, rfl⟩ := foldlM_insertEntry_eq_ok_iff.1 hfold
    cases h
    exact ⟨pairs, hpairs, rfl, rfl⟩
  · rintro ⟨pairs, hpairs, hfields, hcommands⟩
    refine ⟨_, foldlM_insertEntry_eq_ok_iff.2 ⟨pairs, hpairs, rfl⟩, ?_⟩
    obtain ⟨fields, commandSet⟩ := identity
    have hcommands : commandSet = commands fields := hcommands
    obtain rfl : fields = _ := hfields
    rw [hcommands]
    rfl

/-- Parsing succeeds when every entry names a field. -/
theorem exists_parse_eq_ok_iff : (∃ identity, parse identifier = .ok identity) ↔
    (∀ c ∈ identifier.toList, c.toNat < 128) ∧
      ∀ entry ∈ entries identifier, ∃ pair, Names entry pair := by
  simp only [parse_eq_ok_iff, exists_and_left, ← exists_forall₂_iff]
  refine and_congr_right fun _ ↦ ⟨?_, ?_⟩
  · rintro ⟨_, pairs, hpairs, -⟩
    exact ⟨pairs, hpairs⟩
  · rintro ⟨pairs, hpairs⟩
    let fields := aliases.foldl applyAlias (insertAll ∅ pairs)
    exact ⟨⟨fields, commands fields⟩, pairs, hpairs, rfl, rfl⟩

/-! ### Writing and parsing again -/

/-- A text that may stand inside an entry. -/
def Plain (text : String) : Prop := ∀ c ∈ text.toList, c.toNat < 128 ∧ c ≠ ';'

/-- A text that may stand in front of the colon. -/
structure IsKey (text : String) : Prop where
  ne : text ≠ ""
  first : ':' ∉ text.toList
  plain : Plain text

/-- Every key can stand in front of a colon, and every value behind it. -/
def WellFormed (fields : ExtTreeMap String String) : Prop :=
  ∀ key value, fields[key]? = some value → IsKey key ∧ Plain value

theorem WellFormed.insert {key value : String} (h : WellFormed fields) (hkey : IsKey key)
    (hvalue : Plain value) : WellFormed (fields.insert key value) := by
  intro key' value' hget
  rw [ExtTreeMap.getElem?_insert] at hget
  split at hget
  case isTrue heq =>
    cases hget
    exact Std.LawfulEqCmp.eq_of_compare heq ▸ ⟨hkey, hvalue⟩
  case isFalse => exact h key' value' hget

theorem wellFormed_insertAll {pairs : List (String × String)} (h : WellFormed fields)
    (hpairs : ∀ pair ∈ pairs, IsKey pair.1 ∧ Plain pair.2) :
    WellFormed (insertAll fields pairs) := by
  induction pairs generalizing fields with
  | nil => exact h
  | cons pair pairs ih =>
    obtain ⟨⟨hkey, hvalue⟩, hpairs⟩ := List.forall_mem_cons.1 hpairs
    exact ih (h.insert hkey hvalue) hpairs

theorem wellFormed_applyAlias {names : String × String} (h : WellFormed fields)
    (hname : IsKey names.2) : WellFormed (applyAlias fields names) := by
  unfold applyAlias
  split
  case h_1 value hvalue => exact h.insert hname (h _ _ hvalue).2
  case h_2 => exact h

theorem wellFormed_foldl_applyAlias {aliases : List (String × String)} (h : WellFormed fields)
    (hnames : ∀ names ∈ aliases, IsKey names.2) : WellFormed (aliases.foldl applyAlias fields) := by
  induction aliases generalizing fields with
  | nil => exact h
  | cons names aliases ih =>
    obtain ⟨hname, hnames⟩ := List.forall_mem_cons.1 hnames
    exact ih (wellFormed_applyAlias h hname) hnames

/-- An identity whose fields are those of an identifier. -/
structure Canonical (identity : PrinterIdentity) : Prop where
  wellFormed : WellFormed identity.fields
  aliased : aliases.foldl applyAlias identity.fields = identity.fields
  commandSet_eq : identity.commandSet = commands identity.fields

/-- The key and the value of an entry hold what the identifier does. -/
theorem Names.isKey {pair : String × String} (hascii : ∀ c ∈ identifier.toList, c.toNat < 128)
    (hentry : entry ∈ entries identifier) (h : Names entry pair) : IsKey pair.1 ∧ Plain pair.2 := by
  obtain ⟨hfree, hfrom⟩ := of_mem_splitOn (List.mem_filter.1 hentry).1
  have hplain : ∀ c ∈ entry, c.toNat < 128 ∧ c ≠ ';' := fun c hc ↦
    ⟨hascii c (hfrom c hc), fun heq ↦ hfree (heq ▸ hc)⟩
  rw [h.entry_eq] at hplain
  refine ⟨⟨h.key_ne, h.first, fun c hc ↦ hplain c (List.mem_append_left _ hc)⟩, fun c hc ↦ ?_⟩
  exact hplain c (List.mem_append_right _ (List.mem_cons_of_mem _ hc))

theorem plain_of_all {text : String} (h : text.toList.all fun c ↦ c.toNat < 128 && c != ';') :
    Plain text := by
  intro c hc
  have hplain := List.all_eq_true.1 h c hc
  simpa only [Bool.and_eq_true, decide_eq_true_eq, bne_iff_ne] using hplain

/-- Every short name can stand in front of a colon. -/
theorem isKey_of_mem_aliases {names : String × String} (h : names ∈ aliases) : IsKey names.2 := by
  simp only [aliases, List.mem_cons, List.not_mem_nil, or_false] at h
  rcases h with rfl | rfl | rfl
  all_goals exact ⟨by decide, by decide, plain_of_all (by decide)⟩

/-- **A parsed identity is canonical.** -/
theorem canonical_of_parse (h : parse identifier = .ok identity) : identity.Canonical := by
  obtain ⟨hascii, pairs, hpairs, hfields, hcommands⟩ := parse_eq_ok_iff.1 h
  have hempty : WellFormed ∅ := by
    intro key value hget
    rw [ExtTreeMap.getElem?_empty] at hget
    cases hget
  have hinserted : WellFormed (insertAll ∅ pairs) := by
    refine wellFormed_insertAll hempty fun pair hpair ↦ ?_
    obtain ⟨entry, hentry, hnames⟩ := exists_of_mem_right hpairs hpair
    exact hnames.isKey hascii hentry
  refine ⟨?_, ?_, hcommands⟩
  · rw [hfields]
    exact wellFormed_foldl_applyAlias hinserted fun _ ↦ isKey_of_mem_aliases
  · rw [hfields, foldl_applyAlias_idem]

/-- The entries of written fields. -/
theorem entries_render (h : WellFormed fields) : entries (render fields) =
    fields.toList.map fun entry ↦ entry.1.toList ++ ':' :: entry.2.toList := by
  have hfree : ∀ part ∈ fields.toList.map (fun entry ↦ entry.1.toList ++ ':' :: entry.2.toList),
      ';' ∉ part := by
    intro part hpart hmem
    obtain ⟨⟨key, value⟩, hentry, rfl⟩ := List.mem_map.1 hpart
    obtain ⟨hkey, hvalue⟩ := h key value (ExtTreeMap.mem_toList_iff_getElem?_eq_some.1 hentry)
    rcases List.mem_append.1 hmem with hmem | hmem
    · exact (hkey.plain _ hmem).2 rfl
    · exact (hvalue _ (List.mem_of_ne_of_mem (by decide) hmem)).2 rfl
  have hwritten : (render fields).toList = (fields.toList.map fun entry ↦
      entry.1.toList ++ ':' :: entry.2.toList).flatMap (· ++ [';']) := by
    rw [render, String.toList_ofList, List.flatMap_map]
  have hnonempty : ∀ part ∈ fields.toList.map fun entry ↦ entry.1.toList ++ ':' :: entry.2.toList,
      decide (part ≠ []) = true := by
    intro part hpart
    obtain ⟨entry, -, rfl⟩ := List.mem_map.1 hpart
    exact decide_eq_true (List.append_ne_nil_of_right_ne_nil _ (List.cons_ne_nil _ _))
  rw [entries, hwritten, splitOn_flatMap hfree, List.filter_append,
    List.filter_eq_self.2 hnonempty]
  exact List.append_nil _

/-- **The fields of a canonical identity are parsed back to it.** -/
theorem Canonical.parse_render (h : identity.Canonical) :
    parse (render identity.fields) = .ok identity := by
  rw [parse_eq_ok_iff]
  refine ⟨?_, identity.fields.toList, ?_, ?_, h.commandSet_eq⟩
  · intro c hc
    rw [render, String.toList_ofList] at hc
    obtain ⟨⟨key, value⟩, hentry, hc⟩ := List.mem_flatMap.1 hc
    obtain ⟨hkey, hvalue⟩ :=
      h.wellFormed key value (ExtTreeMap.mem_toList_iff_getElem?_eq_some.1 hentry)
    simp only [List.mem_append, List.mem_cons, List.not_mem_nil, or_false] at hc
    rcases hc with (hc | rfl | hc) | rfl
    · exact (hkey.plain c hc).1
    · decide
    · exact (hvalue c hc).1
    · decide
  · rw [entries_render h.wellFormed, List.forall₂_map_left_iff, List.forall₂_same]
    rintro ⟨key, value⟩ hentry
    obtain ⟨hkey, -⟩ := h.wellFormed key value (ExtTreeMap.mem_toList_iff_getElem?_eq_some.1 hentry)
    exact ⟨rfl, hkey.first, hkey.ne⟩
  · rw [insertAll_toList, h.aliased]

/-- The value of the last pair with the key. -/
def lastValue (pairs : List (String × String)) (key : String) : Option String :=
  pairs.reverse.lookup key

/-- **Parsing takes the last entry of each key, and the long keys' values for the short ones.** It
succeeds when the identifier is ASCII and every entry has a key; what it gives, written as an
identifier, is parsed to the same identity. -/
theorem parse_takes_last_entries (identifier : String) :
    ((∃ identity, parse identifier = .ok identity) ↔
      (∀ c ∈ identifier.toList, c.toNat < 128) ∧
        ∀ entry ∈ identifier.toList.splitOn ';', entry ≠ [] →
          ∃ key value, entry = key ++ ':' :: value ∧ ':' ∉ key ∧ key ≠ []) ∧
    ∀ identity, parse identifier = .ok identity →
      (∃ pairs, List.Forall₂ Names (entries identifier) pairs ∧ ∀ name, identity.field name =
        ((longName name).bind (lastValue pairs)).or (lastValue pairs name)) ∧
      parse (render identity.fields) = .ok identity := by
  refine ⟨?_, fun identity h ↦ ⟨?_, (canonical_of_parse h).parse_render⟩⟩
  · rw [exists_parse_eq_ok_iff]
    refine and_congr_right fun _ ↦ ?_
    simp only [entries, List.mem_filter, decide_eq_true_eq, and_imp, exists_names_iff]
  · obtain ⟨-, pairs, hpairs, hfields, -⟩ := parse_eq_ok_iff.1 h
    refine ⟨pairs, hpairs, fun name ↦ ?_⟩
    have hlast (key : String) : (insertAll ∅ pairs)[key]? = lastValue pairs key := by
      rw [getElem?_insertAll, ExtTreeMap.getElem?_empty, Option.or_none]
      rfl
    rw [field, hfields, getElem?_foldl_applyAlias, hlast]
    simp only [hlast]

example : ((parse "MFG:A;MANUFACTURER:B;SN:1;SN:2;").toOption.map fun identity ↦
    (identity.manufacturer, identity.serialNumber)) = some (some "B", some "2") := by
  decide +kernel

end PrinterIdentity

end Reink
