import Reink.Core.Device

/-!
# A write of several values is all or nothing

The run of `writeEepromWithOriginals` against any device that obeys the laws of `EepromDevice`, with
every value read back. The write loop keeps one invariant: the memory differs from the one before
the call at most at the attempted addresses, whatever their writes did. The rollback takes these
addresses off one by one, so that the memory is the old one when none of its restores has failed.
-/

namespace Reink

namespace EepromDevice

variable {spec : EpsonSpec} {C : Type} [ControlChannel C] [CharTables]
  (device : EepromDevice spec C) {originals : List (UInt16 × UInt8)}
  {initial : UInt16 → UInt8} {c c' : C}

open EpsonController
open Program (bind_eq_ok bind_eq_err attempt_eq_ok attempt_eq_error attempt_ne_err)

/-! ### The rollback -/

omit device in
/-- The rollback reports its failures and has none itself. -/
theorem rollback_ne_err {verifyReadBack : Bool} {attempted : List UInt16} {e : EpsonError} :
    rollback spec originals verifyReadBack attempted c ≠ (.err e, c') := by
  induction attempted generalizing c c' with
  | nil => exact nofun
  | cons address attempted ih =>
    intro h
    rcases hfind : originalOf originals address with _ | original
    · rw [rollback, hfind] at h
      exact ih h
    · rw [rollback, hfind] at h
      rcases bind_eq_err.1 h with hwrite | ⟨restored, c₁, -, hrest⟩
      · exact attempt_ne_err hwrite
      · rcases bind_eq_err.1 hrest with hrollback | ⟨errors, c₂, -, hlast⟩
        · exact ih hrollback
        · cases restored <;> cases hlast

/-- **A rollback without failures restores the memory.** By induction on the addresses still to be
restored, at which alone the memory may differ from the initial one. -/
theorem memory_of_rollback {attempted : List UInt16}
    (hoff : EqOff attempted (device.memory c) initial)
    (horiginals : ∀ a ∈ attempted, originalOf originals a = some (initial a))
    (h : rollback spec originals true attempted c = (.ok [], c')) :
    device.memory c' = initial := by
  induction attempted generalizing c with
  | nil =>
    cases h
    exact hoff.eq_of_nil
  | cons address attempted ih =>
    rw [rollback, horiginals address List.mem_cons_self] at h
    obtain ⟨restored, c₁, hwrite, hrest⟩ := bind_eq_ok.1 h
    obtain ⟨errors, c₂, hrollback, hlast⟩ := bind_eq_ok.1 hrest
    rcases restored with e | ⟨⟩
    · cases hlast -- it would be in the report
    · cases hlast
      have hmemory := device.writeEepromAddress_ok (attempt_eq_ok.1 hwrite)
      refine ih ?_ (fun a ha ↦ horiginals a (List.mem_cons_of_mem address ha)) hrollback
      rw [hmemory]
      exact hoff.restore

/-! ### The write loop -/

/-- **The write loop to its end** leaves the memory with every update stored. By induction on the
updates, each of which was read back. -/
theorem memory_of_writeUpdates {attempted : List UInt16} {updates : List (UInt16 × UInt8)}
    (h : writeUpdates spec (some originals) true attempted updates c = (.ok (), c')) :
    device.memory c' = overwrite (device.memory c) updates := by
  induction updates generalizing attempted c with
  | nil =>
    cases h
    rfl
  | cons update updates ih =>
    obtain ⟨address, value⟩ := update
    obtain ⟨written, c₁, hwrite, hrest⟩ := bind_eq_ok.1 h
    rcases written with e | ⟨⟩
    · -- behind a failed attempt the loop ends in an error, rolled back or not
      obtain ⟨errors, c₂, -, hthrow⟩ := bind_eq_ok.1 hrest
      cases hthrow
    · rw [ih hrest, device.writeEepromAddress_ok (attempt_eq_ok.1 hwrite), overwrite_cons]

/-- **The write loop with a failure that is rolled back** leaves the initial memory. The invariant
of the loop is that the memory differs from it at most at the attempted addresses, also after a
write that stored its value and then failed. -/
theorem memory_of_writeUpdates_failed {attempted : List UInt16} {updates : List (UInt16 × UInt8)}
    {address : UInt16} {reason : String} (hoff : EqOff attempted (device.memory c) initial)
    (horiginals : ∀ a ∈ attempted ++ updates.map Prod.fst,
      originalOf originals a = some (initial a))
    (h : writeUpdates spec (some originals) true attempted updates c =
      (.err (.atomicWriteFailed address reason []), c')) :
    device.memory c' = initial := by
  induction updates generalizing attempted c with
  | nil => cases h
  | cons update updates ih =>
    obtain ⟨a, value⟩ := update
    rw [List.map_cons, List.append_cons] at horiginals
    rcases bind_eq_err.1 h with hwrite | ⟨written, c₁, hwrite, hrest⟩
    · exact absurd hwrite attempt_ne_err
    -- the attempt may have stored the value, or lost it, whatever its result
    have hoff₁ (o : Outcome EpsonError Unit)
        (hrun : writeEepromAddress spec a value true c = (o, c₁)) :
        EqOff (attempted ++ [a]) (device.memory c₁) initial :=
      ((device.eqOff_of_writeEepromAddress hrun).trans hoff).of_subset (by simp)
    rcases written with e | ⟨⟩
    · rcases bind_eq_err.1 hrest with hrollback | ⟨errors, c₂, hrollback, hthrow⟩
      · exact absurd hrollback rollback_ne_err
      cases hthrow
      refine device.memory_of_rollback
        ((hoff₁ _ (attempt_eq_error.1 hwrite)).of_subset (by simp)) ?_ hrollback
      intro x hx
      exact horiginals x (List.mem_append_left _ (List.mem_reverse.1 hx))
    · exact ih (hoff₁ _ (attempt_eq_ok.1 hwrite)) horiginals hrest

/-! ### The whole call -/

omit device in
/-- With originals the call either misses one and sends nothing, or is its write loop. -/
theorem writeEepromWithOriginals_cases {updates : List (UInt16 × UInt8)}
    {options : EepromWriteOptions} {o : Outcome EpsonError Unit}
    (h : writeEepromWithOriginals spec updates (some originals) options c = (o, c')) :
    (∃ address, o = .err (.missingAtomicOriginal address) ∧ c' = c) ∨
    (∀ update ∈ updates, ∃ value, originalOf originals update.1 = some value) ∧
      writeUpdates spec (some originals) options.verifyReadBack [] updates c = (o, c') := by
  rcases hmissing : updates.find? fun update ↦
    !originals.any fun original ↦ original.1 = update.1 with _ | ⟨address, value⟩
  · simp only [writeEepromWithOriginals, hmissing] at h
    refine .inr ⟨fun update hmem ↦ ?_, h⟩
    have hany := List.find?_eq_none.1 hmissing update hmem
    simp only [Bool.not_eq_true, Bool.not_eq_false', List.any_eq_true, decide_eq_true_eq] at hany
    obtain ⟨original, horiginal, heq⟩ := hany
    rcases hfind : originals.find? (fun original ↦ original.1 = update.1) with _ | found
    · exact absurd heq (by simpa using List.find?_eq_none.1 hfind original horiginal)
    · exact ⟨found.2, by rw [originalOf, hfind]; rfl⟩
  · simp only [writeEepromWithOriginals, hmissing] at h
    cases h
    exact .inl ⟨address, rfl, rfl⟩

/-- **A write of several values is all or nothing.** The originals are true of the memory before the
call, each value is read back, and the device obeys its laws: it may refuse, lose or misreport any
write and fail at any request. Then a call that succeeds has stored every update, the last one for
each address, and nothing else; and one that fails with a complete rollback has changed nothing. -/
theorem writeEepromWithOriginals_allOrNothing (updates : List (UInt16 × UInt8)) (atomic : Bool)
    (htrue : ∀ update ∈ updates, ∀ value,
      originalOf originals update.1 = some value → value = device.memory c update.1) :
    (writeEepromWithOriginals spec updates (some originals) ⟨true, atomic⟩ c = (.ok (), c') →
      device.memory c' = overwrite (device.memory c) updates) ∧
    (∀ address reason,
      writeEepromWithOriginals spec updates (some originals) ⟨true, atomic⟩ c =
        (.err (.atomicWriteFailed address reason []), c') →
      device.memory c' = device.memory c) := by
  constructor
  · intro h
    rcases writeEepromWithOriginals_cases h with ⟨_, hmissing, -⟩ | ⟨-, hloop⟩
    · cases hmissing
    · exact device.memory_of_writeUpdates hloop
  · intro address reason h
    rcases writeEepromWithOriginals_cases h with ⟨_, hmissing, -⟩ | ⟨hsome, hloop⟩
    · cases hmissing
    · refine device.memory_of_writeUpdates_failed (.refl [] _) ?_ hloop
      intro a ha
      obtain ⟨update, hmem, rfl⟩ := List.mem_map.1 ha
      obtain ⟨value, hvalue⟩ := hsome update hmem
      rw [hvalue, htrue update hmem value hvalue]

end EepromDevice

/-- A locked cell behind one that takes its value: the first write is undone. -/
theorem SimulatedEeprom.allOrNothing_of_locked :
    letI := CharTables.ascii
    let before : SimulatedEeprom .c90 := ⟨fun _ ↦ 0x10, fun a ↦ a = 0x0d⟩
    let run := EpsonController.writeEepromWithOriginals .c90 [(0x0c, 0x42), (0x0d, 0x43)]
      (some [(0x0c, 0x10), (0x0d, 0x10)]) ⟨true, true⟩ before
    run.1 = .err (.atomicWriteFailed 0x0d
      "EEPROM verification failed at 0x000d: expected 0x43, got 0x10" []) ∧
    run.2.cells = before.cells := by
  let _ := CharTables.ascii
  intro before run
  have hfail : run.1 = .err (.atomicWriteFailed 0x0d
      "EEPROM verification failed at 0x000d: expected 0x43, got 0x10" []) := by decide +kernel
  have htrue : ∀ update ∈ [((0x0c : UInt16), (0x42 : UInt8)), (0x0d, 0x43)], ∀ value,
      EpsonController.originalOf [(0x0c, 0x10), (0x0d, 0x10)] update.1 = some value →
        value = before.cells update.1 := by
    simp [EpsonController.originalOf, before]
  have hrestored (after : SimulatedEeprom .c90) (reason : String)
      (h : run = (.err (.atomicWriteFailed 0x0d reason []), after)) : after.cells = before.cells :=
    (EepromDevice.writeEepromWithOriginals_allOrNothing (SimulatedEeprom.device .c90) _
      true htrue).2 0x0d reason h
  clear_value run
  obtain ⟨o, after⟩ := run
  obtain rfl : o = _ := hfail
  exact ⟨rfl, hrestored after _ rfl⟩

end Reink
