import Reink.Core.AtomicWrite
import Reink.Core.Log

/-!
# What the report of a failed write says

`AtomicWriteFailed` carries the failures of the rollback, and without any it is displayed as
`rollback completed for all attempted bytes`. `Truthful` is what that should mean: the writes up to
the failing one, then a write of the original value for each of them in reverse order, were all that
was tried, and the failures among the latter are the ones reported.

With originals at hand the report is true, whatever the channel does. Without them the same error is
returned and nothing has been restored: `rollback_report_truthful_iff`.
-/

namespace Reink

open EpsonController
open Program (bind_eq_ok bind_eq_err bind_run_ok attempt_eq_ok attempt_eq_error attempt_ne_err
  rejectIf_neg rejectIf_pos)

/-- A write that was tried, and what came of it. -/
structure Attempt where
  address : UInt16
  value : UInt8
  result : Except EpsonError Unit

namespace Attempt

/-- The failure of an attempt, as a rollback reports it. -/
def failure (attempt : Attempt) : Option (UInt16 × String) :=
  match attempt.result with
  | .ok () => none
  | .error error => some (attempt.address, error.display)

/-- The attempt at an update that succeeded. -/
def written (update : UInt16 × UInt8) : Attempt := ⟨update.1, update.2, .ok ()⟩

end Attempt

section Channel

variable {C : Type} [ControlChannel C] [CharTables]

/-- The channel comes from `c` to `c'` by these attempts, one after the other. -/
inductive Attempts (spec : EpsonSpec) (verifyReadBack : Bool) : List Attempt → C → C → Prop
  | nil (c : C) : Attempts spec verifyReadBack [] c c
  | cons {attempt : Attempt} {attempts : List Attempt} {c c₁ c₂ : C}
      (first : writeEepromAddress spec attempt.address attempt.value verifyReadBack c =
        (.ofExcept attempt.result, c₁))
      (rest : Attempts spec verifyReadBack attempts c₁ c₂) :
      Attempts spec verifyReadBack (attempt :: attempts) c c₂

/-- The value may pass for the original one of the address: if originals were given, it is theirs.
-/
def IsOriginal (originals : Option (List (UInt16 × UInt8))) (address : UInt16) (value : UInt8) :
    Prop :=
  ∀ given, originals = some given → originalOf given address = some value

/-- **The report of a failed write is true.** The updates before the failing one were written, it
failed for the given reason, and then the original value of each attempted address was written back,
the last one first; the reported errors are exactly those of these restores that failed. -/
def Truthful (spec : EpsonSpec) (verifyReadBack : Bool) (updates : List (UInt16 × UInt8))
    (originals : Option (List (UInt16 × UInt8))) (c c' : C) (address : UInt16) (reason : String)
    (rollbackErrors : List (UInt16 × String)) : Prop :=
  ∃ (done rest : List (UInt16 × UInt8)) (value : UInt8) (error : EpsonError)
    (restored : List Attempt) (c₁ : C),
    updates = done ++ (address, value) :: rest ∧
    reason = error.display ∧
    Attempts spec verifyReadBack (done.map .written ++ [⟨address, value, .error error⟩]) c c₁ ∧
    restored.map Attempt.address = (done.map Prod.fst ++ [address]).reverse ∧
    (∀ attempt ∈ restored, IsOriginal originals attempt.address attempt.value) ∧
    Attempts spec verifyReadBack restored c₁ c' ∧
    rollbackErrors = restored.filterMap Attempt.failure

variable {spec : EpsonSpec} {verifyReadBack : Bool} {updates : List (UInt16 × UInt8)}
  {originals : Option (List (UInt16 × UInt8))} {c c' : C}

/-! ### The attempts of a run -/

/-- The attempts of a rollback that has an original for every address. -/
theorem attempts_of_rollback {given : List (UInt16 × UInt8)} {attempted : List UInt16}
    {errors : List (UInt16 × String)}
    (hsome : ∀ address ∈ attempted, ∃ value, originalOf given address = some value)
    (h : rollback spec given verifyReadBack attempted c = (.ok errors, c')) :
    ∃ restored : List Attempt, restored.map Attempt.address = attempted ∧
      (∀ attempt ∈ restored, originalOf given attempt.address = some attempt.value) ∧
      Attempts spec verifyReadBack restored c c' ∧
      errors = restored.filterMap Attempt.failure := by
  induction attempted generalizing c c' errors with
  | nil =>
    cases h
    exact ⟨[], rfl, by simp, .nil _, rfl⟩
  | cons address attempted ih =>
    obtain ⟨value, hvalue⟩ := hsome address List.mem_cons_self
    rw [rollback, hvalue] at h
    obtain ⟨result, c₁, hwrite, hrest⟩ := bind_eq_ok.1 h
    obtain ⟨errors', c₂, hrollback, hlast⟩ := bind_eq_ok.1 hrest
    obtain ⟨restored, haddresses, hvalues, hattempts, rfl⟩ :=
      ih (fun a ha ↦ hsome a (List.mem_cons_of_mem address ha)) hrollback
    refine ⟨⟨address, value, result⟩ :: restored, by simp [haddresses],
      List.forall_mem_cons.2 ⟨hvalue, hvalues⟩, ?_⟩
    rcases result with error | ⟨⟩
    · cases hlast
      exact ⟨.cons (attempt_eq_error.1 hwrite) hattempts, rfl⟩
    · cases hlast
      exact ⟨.cons (attempt_eq_ok.1 hwrite) hattempts, rfl⟩

/-- The attempts of a write loop that fails, and what is done after the failure. -/
theorem attempts_of_writeUpdates {attempted : List UInt16} {e : EpsonError}
    (h : writeUpdates spec originals verifyReadBack attempted updates c = (.err e, c')) :
    ∃ (done rest : List (UInt16 × UInt8)) (address : UInt16) (value : UInt8) (error : EpsonError)
      (errors : List (UInt16 × String)) (c₁ : C),
      updates = done ++ (address, value) :: rest ∧
      e = .atomicWriteFailed address error.display errors ∧
      Attempts spec verifyReadBack (done.map .written ++ [⟨address, value, .error error⟩]) c c₁ ∧
      (originals = none → errors = [] ∧ c' = c₁) ∧
      ∀ given, originals = some given →
        rollback spec given verifyReadBack (attempted ++ (done.map Prod.fst ++ [address])).reverse
          c₁ = (.ok errors, c') := by
  induction updates generalizing attempted c with
  | nil => cases h
  | cons update updates ih =>
    obtain ⟨address, value⟩ := update
    rcases bind_eq_err.1 h with hwrite | ⟨result, c₁, hwrite, hrest⟩
    · exact absurd hwrite attempt_ne_err
    rcases result with error | ⟨⟩
    · -- this is the attempt that fails; it is rolled back if there are originals
      have hattempts : Attempts spec verifyReadBack [⟨address, value, .error error⟩] c c₁ :=
        .cons (attempt_eq_error.1 hwrite) (.nil c₁)
      rcases originals with _ | given
      · cases hrest
        exact ⟨[], updates, address, value, error, [], _, rfl, rfl, hattempts, by simp, by simp⟩
      · rcases bind_eq_err.1 hrest with hrollback | ⟨errors, c₂, hrollback, hthrow⟩
        · exact absurd hrollback EepromDevice.rollback_ne_err
        cases hthrow
        refine ⟨[], updates, address, value, error, errors, c₁, rfl, rfl, hattempts, by simp, ?_⟩
        rintro _ ⟨⟩
        exact hrollback
    · -- a later one fails
      obtain ⟨done, rest, a, v, error, errors, c₂, rfl, rfl, hattempts, hnone, hsome⟩ := ih hrest
      refine ⟨(address, value) :: done, rest, a, v, error, errors, c₂, rfl, rfl,
        .cons (attempt_eq_ok.1 hwrite) hattempts, hnone, fun given hgiven ↦ ?_⟩
      rw [← hsome given hgiven]
      simp

/-- Without originals, the loop ends where the failing attempt has left the channel. -/
theorem writeUpdates_of_attempts {done rest : List (UInt16 × UInt8)} {attempted : List UInt16}
    {address : UInt16} {value : UInt8} {error : EpsonError}
    (h : Attempts spec verifyReadBack (done.map .written ++ [⟨address, value, .error error⟩])
      c c') :
    writeUpdates spec none verifyReadBack attempted (done ++ (address, value) :: rest) c =
      (.err (.atomicWriteFailed address error.display []), c') := by
  induction done generalizing attempted c with
  | nil =>
    obtain _ | ⟨hfirst, hrest⟩ := h
    cases hrest
    rw [List.nil_append, writeUpdates, bind_run_ok (attempt_eq_error.2 hfirst)]
    rfl
  | cons update done ih =>
    obtain ⟨a, v⟩ := update
    obtain _ | ⟨hfirst, hrest⟩ := h
    have hwrite : writeEepromAddress spec a v verifyReadBack c = (.ok (), _) := hfirst
    rw [List.cons_append, writeUpdates, bind_run_ok (attempt_eq_ok.2 hwrite)]
    exact ih hrest

/-- Attempts that all succeed have each made a request. -/
theorem length_sent_of_attempts {restored : List Attempt} {c c' : Logged C}
    (h : Attempts spec verifyReadBack restored c c')
    (hok : restored.filterMap Attempt.failure = []) :
    c.sent.length + restored.length ≤ c'.sent.length := by
  induction h with
  | nil => exact le_rfl
  | @cons attempt attempts c c₁ c₂ first rest ih =>
    obtain ⟨address, value, _ | ⟨⟩⟩ := attempt
    · cases hok
    · have hwrite := length_sent_of_writeEepromAddress first
      have hrest := ih hok
      rw [List.length_cons]
      omega

/-! ### The report -/

variable {options : EepromWriteOptions} {address : UInt16} {reason : String}
  {errors : List (UInt16 × String)}

/-- **With originals the report is true**, over any channel. -/
theorem truthful_of_originals {given : List (UInt16 × UInt8)}
    (h : writeEepromWithOriginals spec updates (some given) options c =
      (.err (.atomicWriteFailed address reason errors), c')) :
    Truthful spec options.verifyReadBack updates (some given) c c' address reason errors := by
  rcases EepromDevice.writeEepromWithOriginals_cases h with ⟨_, hmissing, -⟩ | ⟨hsome, hloop⟩
  · cases hmissing
  obtain ⟨done, rest, a, value, error, errors', c₁, rfl, he, hattempts, -, hrollback⟩ :=
    attempts_of_writeUpdates hloop
  cases he
  have hgiven : ∀ x ∈ (done.map Prod.fst ++ [address]).reverse,
      ∃ value, originalOf given x = some value := by
    intro x hx
    have hmem : x ∈ (done ++ (address, value) :: rest).map Prod.fst := by
      rw [List.map_append, List.map_cons, List.append_cons]
      exact List.mem_append_left _ (List.mem_reverse.1 hx)
    obtain ⟨update, hupdate, rfl⟩ := List.mem_map.1 hmem
    exact hsome update hupdate
  obtain ⟨restored, haddresses, hvalues, hrestored, rfl⟩ :=
    attempts_of_rollback hgiven (hrollback given rfl)
  refine ⟨done, rest, value, error, restored, c₁, rfl, rfl, hattempts, haddresses, ?_, hrestored,
    rfl⟩
  rintro attempt hmem _ ⟨⟩
  exact hvalues attempt hmem

/-- Without originals a failing call is its write loop. -/
theorem writeUpdates_of_no_originals
    (h : writeEepromWithOriginals spec updates none options c =
      (.err (.atomicWriteFailed address reason errors), c')) :
    writeUpdates spec none options.verifyReadBack [] updates c =
      (.err (.atomicWriteFailed address reason errors), c') := by
  by_cases hatomic : options.atomic
  · rw [writeEepromWithOriginals, rejectIf_pos hatomic] at h
    cases h
  · rwa [writeEepromWithOriginals, rejectIf_neg hatomic] at h

/-- **Without originals the report is false**: it lists no failure, and nothing was restored. -/
theorem not_truthful_of_no_originals {c c' : Logged C}
    (h : writeEepromWithOriginals spec updates none options c =
      (.err (.atomicWriteFailed address reason errors), c')) :
    ¬ Truthful spec options.verifyReadBack updates none c c' address reason errors := by
  have hloop := writeUpdates_of_no_originals h
  rintro ⟨done, rest, value, error, restored, c₁, rfl, rfl, hattempts, haddresses, -, hrestored,
    hfailures⟩
  -- The writes determine the run, so that the channel after them is the one after the call.
  have hrun := hloop.symm.trans (writeUpdates_of_attempts hattempts)
  cases hrun
  have hnone : restored ≠ [] := by
    rintro rfl
    simp at haddresses
  have hsent := length_sent_of_attempts hrestored hfailures.symm
  have hlength := List.length_pos_iff.2 hnone
  omega

/-- The originals that `writeEeprom` works with: the values it reads first, if it is asked to. -/
def Captured (spec : EpsonSpec) (updates : List (UInt16 × UInt8)) (atomic : Bool) (c : C)
    (originals : Option (List (UInt16 × UInt8))) (c₀ : C) : Prop :=
  if atomic then
    ∃ replies, readEeprom spec (updates.map Prod.fst) c = (.ok replies, c₀) ∧
      originals = some (replies.map fun reply ↦ (reply.address, reply.value))
  else originals = none ∧ c₀ = c

/-- A read fails with an error of its own. -/
theorem readEepromAddress_ne_atomicWriteFailed {x : UInt16} :
    readEepromAddress spec x c ≠ (.err (.atomicWriteFailed address reason errors), c') := by
  unfold readEepromAddress
  intro h
  rcases bind_eq_err.1 h with hencode | ⟨request, c₀, -, hrest⟩
  · rcases he : encodeEepromRead spec x with _ | _ <;> rw [he] at hencode <;> cases hencode
  rcases bind_eq_err.1 hrest with hrequest | ⟨response, c₁, -, hrest₁⟩
  · rcases hr : (ControlChannel.request request c₀ : Outcome ControlError (List UInt8) × C)
      with ⟨_ | _ | _ | _, c₁⟩ <;>
      rw [Program.mapErr, hr] at hrequest <;> cases hrequest
  rcases bind_eq_err.1 hrest₁ with hparse | ⟨reply, c₂, -, hcheck⟩
  · rcases hp : parseEepromReadReply response spec.readAddressWidth with _ | _ | _ | _ <;>
      rw [Program.ofOutcome, hp] at hparse <;> cases hparse
  rcases bind_eq_err.1 hcheck with hmismatch | ⟨_, c₃, -, hlast⟩
  · by_cases hx : reply.address ≠ x
    · rw [rejectIf_pos hx] at hmismatch
      cases hmismatch
    · rw [rejectIf_neg hx] at hmismatch
      cases hmismatch
  · cases hlast

theorem readEeprom_ne_atomicWriteFailed {addresses : List UInt16} :
    readEeprom spec addresses c ≠ (.err (.atomicWriteFailed address reason errors), c') := by
  induction addresses generalizing c c' with
  | nil => exact nofun
  | cons x addresses ih =>
    intro h
    rcases bind_eq_err.1 h with hread | ⟨reply, c₁, -, hrest⟩
    · exact readEepromAddress_ne_atomicWriteFailed hread
    rcases bind_eq_err.1 hrest with hreads | ⟨replies, c₂, -, hlast⟩
    · exact ih hreads
    · cases hlast

/-- A failing `writeEeprom` is a failing write with the originals it has captured. -/
theorem captured_of_writeEeprom
    (h : writeEeprom spec updates options c =
      (.err (.atomicWriteFailed address reason errors), c')) :
    ∃ originals c₀, Captured spec updates options.atomic c originals c₀ ∧
      writeEepromWithOriginals spec updates originals options c₀ =
        (.err (.atomicWriteFailed address reason errors), c') := by
  by_cases hatomic : options.atomic = true
  · rw [writeEeprom, if_pos hatomic] at h
    rcases bind_eq_err.1 h with hread | ⟨replies, c₀, hread, hwrite⟩
    · exact absurd hread readEeprom_ne_atomicWriteFailed
    · rw [Program.pure_bind] at hwrite
      refine ⟨_, c₀, ?_, hwrite⟩
      rw [Captured, if_pos hatomic]
      exact ⟨replies, hread, rfl⟩
  · rw [writeEeprom, if_neg hatomic] at h
    refine ⟨none, c, ?_, h⟩
    rw [Captured, if_neg hatomic]
    exact ⟨rfl, rfl⟩

/-- What is captured is there exactly when the write is atomic. -/
theorem Captured.isSome {atomic : Bool} {c₀ : C} (h : Captured spec updates atomic c originals c₀) :
    originals.isSome = atomic := by
  cases atomic with
  | false => rw [h.1]; rfl
  | true =>
    obtain ⟨replies, -, rfl⟩ := h
    rfl

/-- What is captured depends on the channel alone. -/
theorem Captured.unique {atomic : Bool} {originals' : Option (List (UInt16 × UInt8))} {c₀ c₁ : C}
    (h : Captured spec updates atomic c originals c₀)
    (h' : Captured spec updates atomic c originals' c₁) : originals' = originals ∧ c₁ = c₀ := by
  cases atomic with
  | false => exact ⟨h'.1.trans h.1.symm, h'.2.trans h.2.symm⟩
  | true =>
    obtain ⟨replies, hreplies, rfl⟩ := h
    obtain ⟨replies', hreplies', rfl⟩ := h'
    cases hreplies.symm.trans hreplies'
    exact ⟨rfl, rfl⟩

/-- **When the report of a failed write is true.** A call that returns `AtomicWriteFailed` has
restored what the report says exactly if it had originals to restore: those it was given, or those
that an atomic write has read. -/
theorem rollback_report_truthful_iff {c c' : Logged C} (updates : List (UInt16 × UInt8))
    (originals : Option (List (UInt16 × UInt8))) (options : EepromWriteOptions) (address : UInt16)
    (reason : String) (errors : List (UInt16 × String)) :
    (writeEepromWithOriginals spec updates originals options c =
        (.err (.atomicWriteFailed address reason errors), c') →
      (Truthful spec options.verifyReadBack updates originals c c' address reason errors ↔
        originals.isSome = true)) ∧
    (writeEeprom spec updates options c =
        (.err (.atomicWriteFailed address reason errors), c') →
      ((∃ captured c₀, Captured spec updates options.atomic c captured c₀ ∧
          Truthful spec options.verifyReadBack updates captured c₀ c' address reason errors) ↔
        options.atomic = true)) := by
  have hgiven : ∀ (originals : Option (List (UInt16 × UInt8))) (c : Logged C),
      writeEepromWithOriginals spec updates originals options c =
        (.err (.atomicWriteFailed address reason errors), c') →
      (Truthful spec options.verifyReadBack updates originals c c' address reason errors ↔
        originals.isSome = true) := by
    rintro (_ | given) c h
    · exact iff_of_false (not_truthful_of_no_originals h) (by simp)
    · exact iff_of_true (truthful_of_originals h) rfl
  refine ⟨hgiven originals c, fun h ↦ ?_⟩
  obtain ⟨captured, c₀, hcaptured, hwrite⟩ := captured_of_writeEeprom h
  have hatomic : captured.isSome = true ↔ options.atomic = true := by rw [hcaptured.isSome]
  rw [← hatomic, ← hgiven captured c₀ hwrite]
  constructor
  · rintro ⟨captured', c₁, hcaptured', htruthful⟩
    obtain ⟨rfl, rfl⟩ := hcaptured.unique hcaptured'
    exact htruthful
  · exact fun htruthful ↦ ⟨captured, c₀, hcaptured, htruthful⟩

end Channel

/-- A locked cell behind one that takes its value, and no originals: the report speaks of a
completed rollback, and the first value stays where it was written. -/
theorem unrestored_write_reported_as_rolled_back :
    letI := CharTables.ascii
    let before : Logged (SimulatedEeprom .c90) := ⟨⟨fun _ ↦ 0x10, fun a ↦ a = 0x0d⟩, []⟩
    let updates : List (UInt16 × UInt8) := [(0x0c, 0x42), (0x0d, 0x43)]
    let reason := "EEPROM verification failed at 0x000d: expected 0x43, got 0x10"
    let run := writeEepromWithOriginals .c90 updates none ⟨true, false⟩ before
    run.1 = .err (.atomicWriteFailed 0x0d reason []) ∧
    (EpsonError.atomicWriteFailed 0x0d reason []).display =
      "atomic EEPROM write failed at 0x000d: " ++ reason ++
        "; rollback completed for all attempted bytes" ∧
    run.2.channel.cells 0x0c = 0x42 ∧
    ¬ Truthful .c90 true updates none before run.2 0x0d reason [] := by
  let _ := CharTables.ascii
  intro before updates reason run
  have hfail : run.1 = .err (.atomicWriteFailed 0x0d reason []) := by decide +kernel
  refine ⟨hfail, by decide +kernel, by decide +kernel, ?_⟩
  exact not_truthful_of_no_originals (Prod.fst_eq_iff.1 hfail)

end Reink
