import Mathlib.Data.List.Basic
import Mathlib.Data.Nat.Find

/-!
# Masking the values of a text

The fields of a text end at a separator, and a marker in a field says that what stands behind it
is a value. Masking writes a filler over the values of some markers, in place.

What is masked is a set of positions, `Covered`, and it depends on the text alone. That masking can
be done marker after marker, and again, without a change of this set rests on one fact,
`covered_iff_of_masked`: a covered position is covered by an occurrence that is itself not covered,
so that masking destroys no occurrence that matters, and no marker can be spelled with fillers.
-/

/-- How values are marked: markers are found up to `fold`, and a value ends at a separator. -/
structure ValueSyntax (α : Type) where
  fold : α → α
  separator : α
  filler : α
  filler_ne : filler ≠ separator

/-- A marker has in no spelling a separator or a filler. -/
structure ValueSyntax.Marker {α : Type} (s : ValueSyntax α) where
  text : List α
  separator_ne : ∀ c ∈ text, s.fold c ≠ s.fold s.separator
  filler_ne : ∀ c ∈ text, s.fold c ≠ s.fold s.filler

/-! ### Masked texts -/

/-- The filler stands at the positions of the set, and all else is as it was. -/
structure Masked {α : Type} (filler : α) (P : Nat → Prop) (text out : List α) : Prop where
  length_eq : out.length = text.length
  filled : ∀ i, i < text.length → P i → out[i]? = some filler
  kept : ∀ i, ¬ P i → out[i]? = text[i]?

namespace Masked

variable {α : Type} {filler : α} {P Q : Nat → Prop} {text text' out out' : List α}

theorem of_forall_not (h : ∀ i, ¬ P i) : Masked filler P text text :=
  ⟨rfl, fun i _ hi ↦ absurd hi (h i), fun _ _ ↦ rfl⟩

/-- Only the positions inside the text matter. -/
theorem congr (h : Masked filler P text out) (hiff : ∀ i, i < text.length → (P i ↔ Q i)) :
    Masked filler Q text out := by
  refine ⟨h.length_eq, fun i hlt hi ↦ h.filled i hlt ((hiff i hlt).2 hi), fun i hi ↦ ?_⟩
  rcases Nat.lt_or_ge i text.length with hlt | hge
  · exact h.kept i fun hP ↦ hi ((hiff i hlt).1 hP)
  · rw [List.getElem?_eq_none hge, List.getElem?_eq_none (h.length_eq ▸ hge)]

/-- The set determines the masked text. -/
theorem unique (h : Masked filler P text out) (h' : Masked filler P text out') : out = out' := by
  refine List.ext_getElem? fun i ↦ ?_
  by_cases hi : P i
  case neg => rw [h.kept i hi, h'.kept i hi]
  rcases Nat.lt_or_ge i text.length with hlt | hge
  · rw [h.filled i hlt hi, h'.filled i hlt hi]
  · rw [List.getElem?_eq_none (h.length_eq ▸ hge), List.getElem?_eq_none (h'.length_eq ▸ hge)]

/-- Masking a masked text masks both sets. -/
theorem trans (h : Masked filler P text text') (h' : Masked filler Q text' out) :
    Masked filler (fun i ↦ P i ∨ Q i) text out := by
  refine ⟨h'.length_eq.trans h.length_eq, fun i hlt hi ↦ ?_, fun i hi ↦ ?_⟩
  · by_cases hQ : Q i
    · exact h'.filled i (h.length_eq ▸ hlt) hQ
    · rw [h'.kept i hQ, h.filled i hlt (hi.resolve_right hQ)]
  · rw [h'.kept i fun hQ ↦ hi (.inr hQ), h.kept i fun hP ↦ hi (.inl hP)]

/-- Masking nothing new changes nothing. -/
theorem eq_of_subset (h : Masked filler P text text') (h' : Masked filler Q text' out)
    (hsub : ∀ i, Q i → P i) : out = text' := by
  refine (h.trans h').unique (h.congr fun i _ ↦ ?_)
  exact ⟨Or.inl, fun hi ↦ hi.elim id (hsub i)⟩

/-- What is not the filler has been kept. -/
theorem kept_of_ne (h : Masked filler P text out) {i : Nat} {c : α} (hget : out[i]? = some c)
    (hne : c ≠ filler) : text[i]? = some c := by
  by_cases hi : P i
  case neg => rw [← h.kept i hi, hget]
  have hlt : i < text.length := by
    rw [← h.length_eq]
    exact (List.getElem?_eq_some_iff.1 hget).1
  rw [h.filled i hlt hi] at hget
  exact absurd (Option.some.inj hget).symm hne

/-- An interval of positions is masked by writing the filler over it. -/
theorem fill (filler : α) (before value after : List α) :
    Masked filler (fun i ↦ before.length ≤ i ∧ i < before.length + value.length)
      (before ++ value ++ after)
      (before ++ List.replicate value.length filler ++ after) := by
  refine ⟨by simp, fun i _ hi ↦ ?_, fun i hi ↦ ?_⟩
  · rw [List.append_assoc, List.getElem?_append_right hi.1, List.getElem?_append_left (by
      rw [List.length_replicate]
      omega), List.getElem?_replicate, if_pos (by omega)]
  · rcases Nat.lt_or_ge i before.length with hlt | hge
    · rw [List.append_assoc, List.append_assoc, List.getElem?_append_left hlt,
        List.getElem?_append_left hlt]
    · have hle : before.length + value.length ≤ i := by omega
      rw [List.getElem?_append_right (by simpa using hle),
        List.getElem?_append_right (by simpa using hle)]
      simp

end Masked

/-! ### What is covered -/

namespace ValueSyntax

variable {α : Type} (s : ValueSyntax α)

/-- The marker stands at the position. -/
def Occurs (marker : s.Marker) (text : List α) (p : Nat) : Prop :=
  ((text.drop p).take marker.text.length).map s.fold = marker.text.map s.fold

/-- The marker at the position is in front of the value that the index is in. -/
structure Covers (marker : s.Marker) (text : List α) (p i : Nat) : Prop where
  occurs : s.Occurs marker text p
  le : p + marker.text.length ≤ i
  clear : ∀ j, p + marker.text.length ≤ j → j ≤ i → text[j]? ≠ some s.separator

/-- The index is in a value of one of the markers. -/
def Covered (markers : List s.Marker) (text : List α) (i : Nat) : Prop :=
  ∃ marker ∈ markers, ∃ p, s.Covers marker text p i

variable {s} {marker : s.Marker} {markers : List s.Marker} {text text' out out' : List α}
variable {P : Nat → Prop} {p i : Nat}

theorem occurs_iff : s.Occurs marker text p ↔
    ∀ k c, marker.text[k]? = some c → text[p + k]?.map s.fold = some (s.fold c) := by
  constructor
  · intro h k c hget
    have hk := (List.getElem?_eq_some_iff.1 hget).1
    have heq := congrArg (·[k]?) h
    simpa [List.getElem?_take_of_lt hk, hget] using heq
  · refine fun h ↦ List.ext_getElem? fun k ↦ ?_
    rw [List.getElem?_map, List.getElem?_map, List.getElem?_take, List.getElem?_drop]
    rcases hget : marker.text[k]? with - | c
    · rw [if_neg (Nat.not_lt.2 (List.getElem?_eq_none_iff.1 hget))]
    · rw [if_pos (List.getElem?_eq_some_iff.1 hget).1, h k c hget]
      rfl

/-- A marker occurs where it occurred, in a text that is the same there. -/
theorem Occurs.congr (h : s.Occurs marker text p)
    (hsame : ∀ j, p ≤ j → j < p + marker.text.length → text'[j]? = text[j]?) :
    s.Occurs marker text' p := by
  refine occurs_iff.2 fun k c hget ↦ ?_
  have hk := (List.getElem?_eq_some_iff.1 hget).1
  rw [hsame (p + k) (Nat.le_add_right p k) (by omega)]
  exact occurs_iff.1 h k c hget

/-- A symbol of an occurrence is one of the marker. -/
theorem Occurs.exists_mem (h : s.Occurs marker text p) {j : Nat} (hle : p ≤ j)
    (hlt : j < p + marker.text.length) :
    ∃ c ∈ marker.text, ∃ d, text[j]? = some d ∧ s.fold d = s.fold c := by
  have hk : j - p < marker.text.length := by omega
  have hget := occurs_iff.1 h (j - p) _ (List.getElem?_eq_getElem hk)
  rw [Nat.add_sub_cancel' hle] at hget
  obtain ⟨d, hd, hfold⟩ := Option.map_eq_some_iff.1 hget
  exact ⟨_, List.getElem_mem hk, d, hd, hfold⟩

theorem Occurs.ne_separator (h : s.Occurs marker text p) {j : Nat} (hle : p ≤ j)
    (hlt : j < p + marker.text.length) : text[j]? ≠ some s.separator := by
  obtain ⟨c, hmem, d, hd, hfold⟩ := h.exists_mem hle hlt
  rw [hd]
  rintro ⟨⟩
  exact marker.separator_ne c hmem hfold.symm

theorem Occurs.ne_filler (h : s.Occurs marker text p) {j : Nat} (hle : p ≤ j)
    (hlt : j < p + marker.text.length) : ∃ d, text[j]? = some d ∧ d ≠ s.filler := by
  obtain ⟨c, hmem, d, hd, hfold⟩ := h.exists_mem hle hlt
  refine ⟨d, hd, ?_⟩
  rintro rfl
  exact marker.filler_ne c hmem hfold.symm

theorem Covered.ne_separator (h : s.Covered markers text i) : text[i]? ≠ some s.separator := by
  obtain ⟨_, -, _, hcovers⟩ := h
  exact hcovers.clear i hcovers.le (Nat.le_refl i)

theorem covered_append {rest : List s.Marker} :
    s.Covered (markers ++ rest) text i ↔ s.Covered markers text i ∨ s.Covered rest text i := by
  simp only [Covered, List.mem_append, or_and_right, exists_or]

/-- Of the occurrences that cover an index the one that ends first is itself not covered. -/
theorem Covered.exists_uncovered (h : s.Covered markers text i) :
    ∃ marker ∈ markers, ∃ p, s.Covers marker text p i ∧
      ∀ j, p ≤ j → j < p + marker.text.length → ¬ s.Covered markers text j := by
  classical
  have hend : ∃ stop, ∃ marker ∈ markers, ∃ p,
      s.Covers marker text p i ∧ p + marker.text.length = stop := by
    obtain ⟨marker, hmem, p, hcovers⟩ := h
    exact ⟨_, marker, hmem, p, hcovers, rfl⟩
  obtain ⟨marker, hmem, p, hcovers, hstop⟩ := Nat.find_spec hend
  refine ⟨marker, hmem, p, hcovers, fun j hle hlt ↦ ?_⟩
  rintro ⟨marker', hmem', p', hcovers'⟩
  -- what covers the occurrence covers the index as well, and ends before it
  have hle' := hcovers'.le
  refine Nat.find_min hend (m := p' + marker'.text.length) (by omega)
    ⟨marker', hmem', p', ⟨hcovers'.occurs, ?_, fun k hk hki ↦ ?_⟩, rfl⟩
  · have := hcovers.le
    omega
  rcases Nat.lt_or_ge j k with hjk | hkj
  · rcases Nat.lt_or_ge k (p + marker.text.length) with hin | hbehind
    · exact hcovers.occurs.ne_separator (by omega) hin
    · exact hcovers.clear k hbehind hki
  · exact hcovers'.clear k hk hkj

/-- **Masking values changes nothing about what is covered.** -/
theorem covered_iff_of_masked (h : Masked s.filler P text out)
    (hP : ∀ i, P i → s.Covered markers text i) :
    s.Covered markers out i ↔ s.Covered markers text i := by
  constructor
  · rintro ⟨marker, hmem, p, hcovers⟩
    refine ⟨marker, hmem, p, ⟨hcovers.occurs.congr fun j hle hlt ↦ ?_, hcovers.le, ?_⟩⟩
    · obtain ⟨d, hd, hne⟩ := hcovers.occurs.ne_filler hle hlt
      rw [hd, h.kept_of_ne hd hne]
    · intro j hle hji hsep
      refine hcovers.clear j hle hji ?_
      rw [h.kept j fun hj ↦ (hP j hj).ne_separator hsep, hsep]
  · intro hcovered
    obtain ⟨marker, hmem, p, hcovers, hfree⟩ := hcovered.exists_uncovered
    refine ⟨marker, hmem, p, ⟨hcovers.occurs.congr fun j hle hlt ↦ ?_, hcovers.le, ?_⟩⟩
    · exact h.kept j fun hj ↦ hfree j hle hlt (hP j hj)
    · exact fun j hle hji hsep ↦ hcovers.clear j hle hji (h.kept_of_ne hsep s.filler_ne.symm)

/-! ### Masking all values -/

/-- The markers can be masked one after the other. -/
theorem masked_append {rest : List s.Marker}
    (h : Masked s.filler (s.Covered markers text) text text')
    (h' : Masked s.filler (s.Covered rest text') text' out) :
    Masked s.filler (s.Covered (markers ++ rest) text) text out := by
  refine (h.trans h').congr fun i _ ↦ ?_
  have hsame : s.Covered markers text' i ↔ s.Covered markers text i :=
    covered_iff_of_masked h fun _ hi ↦ hi
  rw [← hsame, ← covered_append]
  exact covered_iff_of_masked h fun i hi ↦ covered_append.2 (.inl hi)

/-- A program that masks the values of one marker after the other in a part of its state masks
those of all of them. -/
theorem foldlM_masked {σ : Type} (view : σ → List α) (Inv : σ → Prop)
    (pass : σ → s.Marker → Option σ)
    (hpass : ∀ marker ∈ markers, ∀ state, Inv state → ∃ next, pass state marker = some next ∧
      Inv next ∧ Masked s.filler (s.Covered [marker] (view state)) (view state) (view next))
    {done : List s.Marker} {state : σ} (hinv : Inv state)
    (h : Masked s.filler (s.Covered done text) text (view state)) :
    ∃ final, markers.foldlM pass state = some final ∧ Inv final ∧
      Masked s.filler (s.Covered (done ++ markers) text) text (view final) := by
  induction markers generalizing done state with
  | nil =>
    rw [List.append_nil]
    exact ⟨state, rfl, hinv, h⟩
  | cons marker rest ih =>
    obtain ⟨hmarker, hrest⟩ := List.forall_mem_cons.1 hpass
    obtain ⟨next, hrun, hnext, hmasked⟩ := hmarker state hinv
    obtain ⟨final, hfinal, hinv', hall⟩ := ih hrest hnext (masked_append h hmasked)
    rw [List.append_assoc] at hall
    exact ⟨final, by rw [List.foldlM_cons, hrun]; exact hfinal, hinv', hall⟩

/-- Masking a second time changes nothing. -/
theorem masked_idem (h : Masked s.filler (s.Covered markers text) text text')
    (h' : Masked s.filler (s.Covered markers text') text' out) : out = text' :=
  h.eq_of_subset h' fun _ hi ↦ (covered_iff_of_masked h fun _ hj ↦ hj).1 hi

/-- A part of what is covered can be masked before. -/
theorem masked_eq_of_subset (hsub : ∀ i, P i → s.Covered markers text i)
    (hpart : Masked s.filler P text text')
    (h : Masked s.filler (s.Covered markers text) text out)
    (h' : Masked s.filler (s.Covered markers text') text' out') : out = out' := by
  refine h.unique ((hpart.trans h').congr fun i _ ↦ ?_)
  rw [covered_iff_of_masked hpart hsub]
  exact ⟨fun hi ↦ hi.elim (hsub i) id, Or.inr⟩

/-- A value behind a marker is covered. -/
theorem covered_of_value {before spelled value after : List α} (hmem : marker ∈ markers)
    (hspelled : spelled.map s.fold = marker.text.map s.fold) (hvalue : s.separator ∉ value)
    (hle : (before ++ spelled).length ≤ i) (hlt : i < (before ++ spelled).length + value.length) :
    s.Covered markers (before ++ spelled ++ value ++ after) i := by
  have hlength : spelled.length = marker.text.length := by simpa using congrArg List.length hspelled
  rw [List.length_append, hlength] at hle hlt
  refine ⟨marker, hmem, before.length, ⟨?_, hle, fun j hj hji hsep ↦ hvalue ?_⟩⟩
  · unfold Occurs
    rw [List.append_assoc, List.append_assoc, List.drop_left, List.take_left' hlength, hspelled]
  · rw [List.append_assoc (before ++ spelled), List.getElem?_append_right (by
      rw [List.length_append]
      omega), List.getElem?_append_left (by
      rw [List.length_append]
      omega)] at hsep
    exact List.mem_of_getElem? hsep

/-- **The masked text does not depend on a value**, as long as its length stays. -/
theorem masked_value_irrel {before spelled value value' after : List α} (hmem : marker ∈ markers)
    (hspelled : spelled.map s.fold = marker.text.map s.fold)
    (hlength : value.length = value'.length)
    (hvalue : s.separator ∉ value) (hvalue' : s.separator ∉ value')
    (h : Masked s.filler (s.Covered markers (before ++ spelled ++ value ++ after))
      (before ++ spelled ++ value ++ after) out)
    (h' : Masked s.filler (s.Covered markers (before ++ spelled ++ value' ++ after))
      (before ++ spelled ++ value' ++ after) out')
    {blank : List α}
    (hblank : Masked s.filler (s.Covered markers
        (before ++ spelled ++ List.replicate value.length s.filler ++ after))
      (before ++ spelled ++ List.replicate value.length s.filler ++ after) blank) :
    out = out' := by
  have hcovered : ∀ {v : List α}, s.separator ∉ v → ∀ i,
      (before ++ spelled).length ≤ i ∧ i < (before ++ spelled).length + v.length →
        s.Covered markers (before ++ spelled ++ v ++ after) i :=
    fun hv i hi ↦ covered_of_value hmem hspelled hv hi.1 hi.2
  have hout : out = blank := masked_eq_of_subset (hcovered hvalue) (.fill _ _ _ _) h hblank
  rw [hlength] at hblank
  have hout' : out' = blank := masked_eq_of_subset (hcovered hvalue') (.fill _ _ _ _) h' hblank
  rw [hout, hout']

/-! ### A pass over the text -/

variable (s) in
/-- A pass for one marker has come to the offset: the values before it are masked, and none of them
reaches behind it. -/
structure Passed (marker : s.Marker) (text current : List α) (offset : Nat) : Prop where
  masked : Masked s.filler (fun i ↦ i < offset ∧ s.Covered [marker] text i) text current
  closed : ∀ p i, s.Covers marker text p i → offset ≤ i → i < text.length → offset ≤ p

namespace Passed

variable {current next : List α} {offset start stop : Nat}

theorem zero (marker : s.Marker) (text : List α) : s.Passed marker text text 0 :=
  ⟨.of_forall_not fun i hi ↦ absurd hi.1 (Nat.not_lt_zero i), fun p _ _ _ _ ↦ Nat.zero_le p⟩

theorem same (h : s.Passed marker text current offset) {i : Nat} (hle : offset ≤ i) :
    current[i]? = text[i]? :=
  h.masked.kept i fun hi ↦ absurd hi.1 (Nat.not_lt.2 hle)

/-- Behind the offset the pass finds what the text has. -/
theorem occurs (h : s.Passed marker text current offset) (hle : offset ≤ p) :
    s.Occurs marker current p ↔ s.Occurs marker text p :=
  ⟨fun hoccurs ↦ hoccurs.congr fun _ hj _ ↦ (h.same (Nat.le_trans hle hj)).symm,
    fun hoccurs ↦ hoccurs.congr fun _ hj _ ↦ h.same (Nat.le_trans hle hj)⟩

/-- The pass ends when there is no marker from the offset on. -/
theorem done (h : s.Passed marker text current offset)
    (hnone : ∀ p, offset ≤ p → ¬ s.Occurs marker current p) :
    Masked s.filler (s.Covered [marker] text) text current := by
  refine h.masked.congr fun i hlt ↦ ⟨And.right, fun hcovered ↦ ⟨?_, hcovered⟩⟩
  obtain ⟨marker', hmem, p, hcovers⟩ := hcovered
  obtain rfl := List.mem_singleton.1 hmem
  by_contra hge
  have hle := h.closed p i hcovers (Nat.not_lt.1 hge) hlt
  exact hnone p hle ((h.occurs hle).2 hcovers.occurs)

/-- The pass ends at the end of the text. -/
theorem finish (h : s.Passed marker text current offset) (hle : text.length ≤ offset) :
    Masked s.filler (s.Covered [marker] text) text current :=
  h.masked.congr fun _ hlt ↦ ⟨And.right, fun hi ↦ ⟨Nat.lt_of_lt_of_le hlt hle, hi⟩⟩

/-- One step masks the value behind the next marker and goes on behind its separator. -/
theorem step (h : s.Passed marker text current offset) (hle : offset ≤ p)
    (hoccurs : s.Occurs marker current p)
    (hfirst : ∀ q, offset ≤ q → q < p → ¬ s.Occurs marker current q)
    (hstart : p + marker.text.length = start) (hstop : start ≤ stop)
    (hclear : ∀ j, start ≤ j → j < stop → current[j]? ≠ some s.separator)
    (hend : stop < current.length → current[stop]? = some s.separator)
    (hnext : Masked s.filler (fun i ↦ start ≤ i ∧ i < stop) current next) :
    s.Passed marker text next (stop + 1) := by
  have hfirst' : ∀ q, offset ≤ q → s.Occurs marker text q → p ≤ q := by
    intro q hq hoccurs'
    by_contra hlt
    exact hfirst q hq (Nat.not_le.1 hlt) ((h.occurs hq).2 hoccurs')
  have hend' : stop < text.length → text[stop]? = some s.separator := by
    rw [← h.masked.length_eq, ← h.same (by omega)]
    exact hend
  have hcovers : ∀ i, start ≤ i → i < stop → s.Covers marker text p i := by
    refine fun i hi hlt ↦ ⟨(h.occurs hle).1 hoccurs, by omega, fun j hj hji ↦ ?_⟩
    rw [← h.same (by omega)]
    exact hclear j (by omega) (by omega)
  refine ⟨(h.masked.trans hnext).congr fun i hlt ↦ ?_, fun q i hq hi hlt ↦ ?_⟩
  · constructor
    · rintro (⟨hlt', hcovered⟩ | ⟨hge, hlt'⟩)
      · exact ⟨by omega, hcovered⟩
      · exact ⟨by omega, marker, List.mem_singleton_self marker, p, hcovers i hge hlt'⟩
    · rintro ⟨hlt', marker', hmem, q, hq⟩
      obtain rfl := List.mem_singleton.1 hmem
      rcases Nat.lt_or_ge i offset with hbefore | hbehind
      · exact .inl ⟨hbefore, marker', hmem, q, hq⟩
      have hpq := hfirst' q (h.closed q i hq hbehind hlt) hq.occurs
      have hqi := hq.le
      refine .inr ⟨by omega, Nat.lt_of_le_of_ne (by omega) ?_⟩
      rintro rfl
      exact hq.clear i hqi (Nat.le_refl i) (hend' hlt)
  · have hpq := hfirst' q (h.closed q i hq (by omega) hlt) hq.occurs
    by_contra hlt'
    have hsep := hend' (by omega)
    rcases Nat.lt_or_ge stop (q + marker.text.length) with hin | hbehind
    · exact hq.occurs.ne_separator (by omega) hin hsep
    · exact hq.clear stop hbehind (by omega) hsep

end Passed

end ValueSyntax
