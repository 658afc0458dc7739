import Mathlib.Data.List.Infix

/-!
# Reading until a pattern has come

A source is read in chunks, and whoever reads it stops with the chunk that completes a pattern.
Which chunks the source gives is a relation, `Supplies`; which of them are read is `upTo`. It
depends on the chunks alone, and is the shortest beginning of them that holds the pattern.
-/

/-- The source gives the chunks, one read after the other. -/
inductive Supplies {σ ε α : Type} (read : σ → Except ε (List α) × σ) : List (List α) → σ → σ → Prop
  | nil {s : σ} : Supplies read [] s s
  | cons {s s' s'' : σ} {chunk : List α} {chunks : List (List α)} (head : read s = (.ok chunk, s'))
      (tail : Supplies read chunks s' s'') : Supplies read (chunk :: chunks) s s''

namespace Supplies

variable {σ ε α : Type} {read : σ → Except ε (List α) × σ} {chunks chunks' : List (List α)}
  {s s' s'' : σ}

/-- What is read first does not depend on how long one goes on. -/
theorem isPrefix (h : Supplies read (chunks ++ chunks') s s'') :
    ∃ s', Supplies read chunks s s' := by
  induction chunks generalizing s with
  | nil => exact ⟨s, .nil⟩
  | cons chunk chunks ih =>
    cases h with
    | cons head tail =>
      obtain ⟨s', htail⟩ := ih tail
      exact ⟨s', .cons head htail⟩

/-- Of two readings from one state the shorter is the beginning of the longer. -/
theorem comparable (h : Supplies read chunks s s') (h' : Supplies read chunks' s s'') :
    chunks <+: chunks' ∨ chunks' <+: chunks := by
  induction h generalizing chunks' with
  | nil => exact .inl List.nil_prefix
  | @cons s _ _ chunk chunks head tail ih =>
    cases h' with
    | nil => exact .inr List.nil_prefix
    | cons head' tail' =>
      obtain ⟨hchunk, rfl⟩ := Prod.mk.inj (head.symm.trans head')
      obtain rfl := Except.ok.inj hchunk
      exact (ih tail').imp (List.prefix_cons_inj chunk).2 (List.prefix_cons_inj chunk).2

end Supplies

/-! ### Up to the pattern -/

section UpTo

variable {α : Type} [DecidableEq α]

/-- The chunks up to the one that completes the pattern, behind what has been seen; all of them if
none does. -/
def upTo (pattern : List α) : List α → List (List α) → List (List α)
  | _, [] => []
  | seen, chunk :: chunks =>
    chunk :: if pattern <:+: seen ++ chunk then [] else upTo pattern (seen ++ chunk) chunks

variable {pattern seen : List α} {chunk : List α} {chunks used : List (List α)}

theorem upTo_cons_of_occurs (h : pattern <:+: seen ++ chunk) :
    upTo pattern seen (chunk :: chunks) = [chunk] := by
  rw [upTo, if_pos h]

theorem upTo_cons_of_not (h : ¬ pattern <:+: seen ++ chunk) :
    upTo pattern seen (chunk :: chunks) = chunk :: upTo pattern (seen ++ chunk) chunks := by
  rw [upTo, if_neg h]

theorem upTo_isPrefix (pattern seen : List α) (chunks : List (List α)) :
    upTo pattern seen chunks <+: chunks := by
  induction chunks generalizing seen with
  | nil => exact List.prefix_rfl
  | cons chunk chunks ih =>
    by_cases h : pattern <:+: seen ++ chunk
    · rw [upTo_cons_of_occurs h]
      exact (List.prefix_cons_inj chunk).2 List.nil_prefix
    · rw [upTo_cons_of_not h]
      exact (List.prefix_cons_inj chunk).2 (ih _)

/-- The chunks read hold the pattern if all of them do. -/
theorem infix_upTo_iff (hseen : ¬ pattern <:+: seen) :
    pattern <:+: seen ++ (upTo pattern seen chunks).flatten ↔
      pattern <:+: seen ++ chunks.flatten := by
  induction chunks generalizing seen with
  | nil => rfl
  | cons chunk chunks ih =>
    by_cases h : pattern <:+: seen ++ chunk
    · rw [upTo_cons_of_occurs h, List.flatten_cons, List.flatten_cons, List.flatten_nil,
        List.append_nil, ← List.append_assoc]
      exact iff_of_true h (h.trans (List.prefix_append _ _).isInfix)
    · rw [upTo_cons_of_not h, List.flatten_cons, List.flatten_cons, ← List.append_assoc,
        ← List.append_assoc]
      exact ih h

/-- **Reading stops as soon as it can**: no shorter beginning of the chunks holds the pattern. -/
theorem upTo_isPrefix_of_infix (hseen : ¬ pattern <:+: seen) (hused : used <+: chunks)
    (h : pattern <:+: seen ++ used.flatten) : upTo pattern seen chunks <+: used := by
  induction used generalizing seen chunks with
  | nil =>
    rw [List.flatten_nil, List.append_nil] at h
    exact absurd h hseen
  | cons chunk used ih =>
    obtain ⟨chunks, rfl⟩ := hused
    rw [List.cons_append]
    by_cases hchunk : pattern <:+: seen ++ chunk
    · rw [upTo_cons_of_occurs hchunk]
      exact (List.prefix_cons_inj chunk).2 List.nil_prefix
    · rw [List.flatten_cons, ← List.append_assoc] at h
      rw [upTo_cons_of_not hchunk]
      exact (List.prefix_cons_inj chunk).2 (ih hchunk (List.prefix_append _ _) h)

end UpTo
