import Reink.App.Control
import Reink.App.Image

/-!
# Write plans

Reading a complete backup, preparing a write with it, and applying a prepared plan. The plan is
checked again when it is applied, against the specification of the session; behind the check the
lookups in the backup cannot fail, and whatever the printer answers, the only EEPROM writes that are
sent are to addresses of the plan.
-/

namespace Reink

open EpsonController
open EpsonError (showAddress)
open Program (Moves Makes ofExcept rejectIf rejectIf_neg rejectIf_pos)

namespace EpsonD4Session

variable {T : Type} [ByteTransport T] [CharTables] (bound : Nat)

/-- The reads of `dump_eeprom` that are left, after the bytes read so far. -/
def dumpLoop : List UInt16 → List UInt8 → Program (EpsonD4Session T) ApplicationError (List UInt8)
  | [], bytes => return bytes
  | address :: addresses, bytes => do
    let replies ← readEeprom bound [address]
    let reply ← Program.orPanic replies.getLast?
      "one requested EEPROM address produces one reply"
    dumpLoop addresses (bytes ++ [reply.value])

/-- Reads every address in the selected model's bounded EEPROM range. -/
def dumpEeprom : Program (EpsonD4Session T) ApplicationError EepromImage := fun session ↦
  (do
    let bytes ← dumpLoop bound session.spec.addresses []
    return ⟨session.spec.model, session.spec.memoryLow, bytes⟩ :
    Program (EpsonD4Session T) ApplicationError EepromImage) session

/-- Reads a complete backup and validates every requested update before any EEPROM write is sent. -/
def prepareEepromWrite (updates : List (UInt16 × UInt8)) :
    Program (EpsonD4Session T) ApplicationError EepromWritePlan := fun session ↦
  (do
    ofExcept id (validateEepromUpdates session.spec updates)
    let backup ← dumpEeprom bound
    return ⟨backup, updates⟩ : Program (EpsonD4Session T) ApplicationError EepromWritePlan) session

/-- The backup's bytes at the addresses of the updates. -/
def originalsOf (backup : EepromImage) :
    List (UInt16 × UInt8) → Except ApplicationError (List (UInt16 × UInt8))
  | [] => .ok []
  | (address, _) :: updates =>
    match backup.valueAt address with
    | none => .error (.writePlan ("backup does not contain EEPROM address " ++ showAddress address))
    | some value =>
      match originalsOf backup updates with
      | .error error => .error error
      | .ok originals => .ok ((address, value) :: originals)

/-- Applies a previously prepared plan with read-back verification and rollback of completed updates
if a write fails. -/
def applyEepromWrite (plan : EepromWritePlan) :
    Program (EpsonD4Session T) ApplicationError Unit := fun session ↦
  (do
    rejectIf
      (plan.backup.model ≠ session.spec.model ∨
        plan.backup.startAddress ≠ session.spec.memoryLow ∨
        plan.backup.bytes.length ≠ session.spec.imageLength)
      (.writePlan "backup does not match the active model range")
    ofExcept id (validateEepromUpdates session.spec plan.updates)
    let originals ← ofExcept id (originalsOf plan.backup plan.updates)
    onControl bound fun spec ↦
      writeEepromWithOriginals spec plan.updates (some originals) ⟨true, true⟩ :
    Program (EpsonD4Session T) ApplicationError Unit) session

end EpsonD4Session

/-- **What a plan must be** for the specification: a complete image of the model's range, and
updates within it. -/
structure EepromWritePlan.Matches (plan : EepromWritePlan) (spec : EpsonSpec) : Prop where
  model : plan.backup.model = spec.model
  start : plan.backup.startAddress = spec.memoryLow
  length : plan.backup.bytes.length = spec.imageLength
  updates : ValidUpdates spec plan.updates

/-! ### The requests of a write -/

/-- The request writes to none but the given addresses, if it is an EEPROM write at all. -/
def WritesWithin (spec : EpsonSpec) (addresses : List UInt16) (request : List UInt8) : Prop :=
  ∀ address value, encodeEepromWrite spec address value = .ok request → address ∈ addresses

section Requests

variable {spec : EpsonSpec} {addresses : List UInt16} {request : List UInt8}

/-- A read writes nowhere. -/
theorem writesWithin_of_read {address : UInt16} (h : encodeEepromRead spec address = .ok request) :
    WritesWithin spec addresses request :=
  fun _ _ hwrite ↦ absurd hwrite (encodeEepromWrite_ne_of_read h)

/-- A write is to the one address that it names. -/
theorem writesWithin_of_write {address : UInt16} {value : UInt8} (hmem : address ∈ addresses)
    (h : encodeEepromWrite spec address value = .ok request) :
    WritesWithin spec addresses request := by
  intro address' value' hwrite
  have hsame := (decodeWrite_eq_some.2 hwrite).symm.trans (decodeWrite_eq_some.2 h)
  rwa [(Prod.mk.inj (Option.some.inj hsame)).1]

/-- A transaction message is no EEPROM write, which begins with a bar. -/
theorem writesWithin_of_encodes (h : TransactionMessage.Encodes request) :
    WritesWithin spec addresses request := by
  intro address value hwrite
  obtain ⟨message, revision, hencode⟩ := h
  have hcode := D4Link.head?_of_encode hencode
  obtain ⟨writeKey, payload, -, -, hfactory⟩ := encodeEepromWrite_eq_ok.1 hwrite
  have hbar : request.head? = some 0x7c := by
    unfold encodeFactoryCommand encodeCommand at hfactory
    split at hfactory
    · cases hfactory
      rfl
    · cases hfactory
  rw [hcode] at hbar
  cases message <;> cases hbar

variable {C : Type} [ControlChannel C] [CharTables]

theorem writeEepromAddress_writesWithin {address : UInt16} {value : UInt8} {verifyReadBack : Bool}
    (hmem : address ∈ addresses) :
    Moves (Requests (WritesWithin spec addresses))
      (writeEepromAddress spec address value verifyReadBack : Program C EpsonError Unit) :=
  writeEepromAddress_moves (fun _ ↦ writesWithin_of_write hmem) fun _ ↦ writesWithin_of_read

theorem rollback_writesWithin {originals : List (UInt16 × UInt8)} {verifyReadBack : Bool}
    {attempted : List UInt16} (hsub : attempted ⊆ addresses) :
    Moves (Requests (WritesWithin spec addresses))
      (rollback spec originals verifyReadBack attempted :
        Program C EpsonError (List (UInt16 × String))) := by
  induction attempted with
  | nil => exact .pure _
  | cons address attempted ih =>
    obtain ⟨hmem, hrest⟩ := List.cons_subset.1 hsub
    rw [rollback]
    split
    · exact ih hrest
    · refine .bind (.attempt (writeEepromAddress_writesWithin hmem)) fun restored ↦
        .bind (ih hrest) fun errors ↦ ?_
      rcases restored with error | ⟨⟩ <;> exact .pure _

/-- The write loop, with the rollback that may end it, stays within the addresses of the updates. -/
theorem writeUpdates_writesWithin {updates : List (UInt16 × UInt8)}
    {originals : Option (List (UInt16 × UInt8))} {verifyReadBack : Bool} {attempted : List UInt16}
    (hsub : attempted ++ updates.map Prod.fst ⊆ addresses) :
    Moves (Requests (WritesWithin spec addresses))
      (writeUpdates spec originals verifyReadBack attempted updates :
        Program C EpsonError Unit) := by
  induction updates generalizing attempted with
  | nil => exact .pure _
  | cons update updates ih =>
    obtain ⟨address, value⟩ := update
    rw [List.map_cons, List.append_cons] at hsub
    have hattempted : attempted ++ [address] ⊆ addresses := fun _ h ↦
      hsub (List.mem_append_left _ h)
    have hmem : address ∈ addresses := hattempted (by simp)
    refine .bind (.attempt (writeEepromAddress_writesWithin hmem)) fun result ↦ ?_
    rcases result with error | ⟨⟩
    · rcases originals with _ | originals
      · exact .bind (.pure _) fun _ ↦ .throw _
      · refine .bind (rollback_writesWithin ?_) fun _ ↦ .throw _
        exact fun _ h ↦ hattempted (List.mem_reverse.1 h)
    · exact ih hsub

/-- **Every EEPROM write of a call**, rollback included, is to the address of an update. -/
theorem writeEepromWithOriginals_writesWithin {updates : List (UInt16 × UInt8)}
    {originals : Option (List (UInt16 × UInt8))} {options : EepromWriteOptions} :
    Moves (Requests (WritesWithin spec (updates.map Prod.fst)))
      (writeEepromWithOriginals spec updates originals options : Program C EpsonError Unit) := by
  have hloop : Moves (Requests (WritesWithin spec (updates.map Prod.fst)))
      (writeUpdates spec originals options.verifyReadBack [] updates : Program C EpsonError Unit) :=
    writeUpdates_writesWithin (List.Subset.refl (updates.map Prod.fst))
  unfold writeEepromWithOriginals
  rcases originals with _ | originals
  · exact .bind (.rejectIf _) fun _ ↦ hloop
  · dsimp only
    split
    · exact .throw _
    · exact hloop

end Requests

/-! ### Applying a plan -/

namespace EpsonD4Session

variable {T : Type} [ByteTransport T] {bound : Nat} [CharTables] {spec : EpsonSpec}
  {plan : EepromWritePlan}

omit [CharTables] in
/-- The originals of a complete backup are found for all updates in range, and are its bytes. -/
theorem exists_originalsOf {backup : EepromImage} {updates : List (UInt16 × UInt8)}
    (hstart : backup.startAddress = spec.memoryLow)
    (hlength : backup.bytes.length = spec.imageLength)
    (hcontains : ∀ update ∈ updates, spec.Contains update.1) :
    ∃ originals, originalsOf backup updates = .ok originals ∧
      originals.map Prod.fst = updates.map Prod.fst ∧
      ∀ original ∈ originals, backup.valueAt original.1 = some original.2 := by
  induction updates with
  | nil => exact ⟨[], rfl, rfl, by simp⟩
  | cons update updates ih =>
    obtain ⟨address, value⟩ := update
    obtain ⟨hrange, hrest⟩ := List.forall_mem_cons.1 hcontains
    obtain ⟨originals, hok, hsame, hvalues⟩ := ih hrest
    obtain ⟨original, horiginal⟩ := Option.isSome_iff_exists.1
      ((EepromImage.isSome_valueAt hstart hlength hrange.low_le_high).2 hrange)
    refine ⟨(address, original) :: originals, ?_, by simp [hsame],
      List.forall_mem_cons.2 ⟨horiginal, hvalues⟩⟩
    rw [originalsOf, horiginal, hok]

omit [CharTables] in
/-- What the check of the plan's image compares. -/
theorem matches_iff : plan.Matches spec ↔
    ¬ (plan.backup.model ≠ spec.model ∨ plan.backup.startAddress ≠ spec.memoryLow ∨
        plan.backup.bytes.length ≠ spec.imageLength) ∧ ValidUpdates spec plan.updates := by
  simp only [not_or, not_not]
  exact ⟨fun h ↦ ⟨⟨h.model, h.start, h.length⟩, h.updates⟩,
    fun ⟨⟨hm, hs, hl⟩, hu⟩ ↦ ⟨hm, hs, hl, hu⟩⟩

/-- A plan that does not match is refused, and nothing is sent. -/
theorem applyEepromWrite_of_not_matches {session : EpsonD4Session T}
    (h : ¬ plan.Matches session.spec) :
    ∃ message, applyEepromWrite bound plan session = (.err (.writePlan message), session) := by
  rw [matches_iff, not_and] at h
  unfold applyEepromWrite
  by_cases himage : plan.backup.model ≠ session.spec.model ∨
      plan.backup.startAddress ≠ session.spec.memoryLow ∨
      plan.backup.bytes.length ≠ session.spec.imageLength
  · rw [rejectIf_pos himage]
    exact ⟨_, rfl⟩
  rcases hcheck : validateEepromUpdates session.spec plan.updates with e | ⟨⟩
  · obtain ⟨message, rfl⟩ := validateEepromUpdates_error hcheck
    rw [rejectIf_neg himage]
    exact ⟨message, rfl⟩
  · exact absurd (validateEepromUpdates_eq_ok.1 hcheck) (h himage)

/-- A plan that matches is handed to the controller with the originals found in its backup. -/
theorem applyEepromWrite_of_matches {session : EpsonD4Session T}
    {originals : List (UInt16 × UInt8)} (h : plan.Matches session.spec)
    (horiginals : originalsOf plan.backup plan.updates = .ok originals) :
    applyEepromWrite bound plan session =
      onControl bound (fun spec ↦
        writeEepromWithOriginals spec plan.updates (some originals) ⟨true, true⟩) session := by
  obtain ⟨himage, hupdates⟩ := matches_iff.1 h
  unfold applyEepromWrite
  rw [rejectIf_neg himage, validateEepromUpdates_eq_ok.2 hupdates, horiginals]
  rfl

/-- A dump reads one byte for each address. -/
theorem length_of_dumpLoop {addresses : List UInt16} {bytes result : List UInt8}
    {session session' : EpsonD4Session T}
    (h : dumpLoop bound addresses bytes session = (.ok result, session')) :
    result.length = bytes.length + addresses.length ∧ session'.spec = session.spec := by
  induction addresses generalizing bytes session with
  | nil =>
    cases h
    exact ⟨rfl, rfl⟩
  | cons address addresses ih =>
    obtain ⟨replies, session₁, hread, hrest⟩ := Program.bind_eq_ok.1 h
    have hspec : session₁.spec = session.spec := by
      have hfixed : (readEeprom bound [address] session).2.spec = session.spec :=
        onControl_spec fun spec ↦ EpsonController.readEeprom spec [address]
      rwa [hread] at hfixed
    rcases hlast : replies.getLast? with _ | reply
    · rw [hlast] at hrest
      cases hrest
    · rw [hlast, Program.orPanic_some, Program.pure_bind] at hrest
      obtain ⟨hlength, hspec'⟩ := ih hrest
      rw [hlength, List.length_append, List.length_singleton, List.length_cons]
      exact ⟨by omega, hspec'.trans hspec⟩

/-- **What is prepared is accepted**: a prepared plan has the updates that were asked for, and
matches the specification of the session, which is still the same. -/
theorem matches_of_prepareEepromWrite {updates : List (UInt16 × UInt8)}
    {session session' : EpsonD4Session T}
    (h : prepareEepromWrite bound updates session = (.ok plan, session')) :
    plan.updates = updates ∧ plan.Matches session'.spec ∧ session'.spec = session.spec := by
  obtain ⟨_, session₁, hcheck, hrest⟩ := Program.bind_eq_ok.1 h
  obtain ⟨hvalidate, rfl⟩ := Program.ofExcept_eq_ok.1 hcheck
  have hvalid := validateEepromUpdates_eq_ok.1 hvalidate
  obtain ⟨backup, session₂, hdump, hlast⟩ := Program.bind_eq_ok.1 hrest
  cases hlast
  obtain ⟨bytes, session₃, hloop, hpure⟩ := Program.bind_eq_ok.1 hdump
  cases hpure
  obtain ⟨hlength, hspec⟩ := length_of_dumpLoop hloop
  rw [hspec]
  obtain ⟨update, hmem⟩ := List.exists_mem_of_ne_nil _ hvalid.ne_nil
  refine ⟨rfl, ⟨rfl, rfl, ?_, hvalid⟩, rfl⟩
  rw [hlength, EpsonSpec.length_addresses (hvalid.contains update hmem).low_le_high]
  exact Nat.zero_add _

/-- **The gate of a write plan.** A plan whose backup or updates do not match the specification of
the session is refused, and the session is as it was. For one that matches every lookup in the
backup succeeds, and the controller is handed exactly the backup's bytes at the addresses of the
updates. Whatever happens then, every packet that is handed to the transport, if it carries an
EEPROM write at all, carries one to an address of the updates. -/
theorem applyEepromWrite_gated (bound : Nat) (plan : EepromWritePlan) (session : EpsonD4Session T) :
    (¬ plan.Matches session.spec →
      ∃ message, applyEepromWrite bound plan session = (.err (.writePlan message), session)) ∧
    (plan.Matches session.spec →
      (∀ update ∈ plan.updates, (plan.backup.valueAt update.1).isSome = true) ∧
      (∀ message, (applyEepromWrite bound plan session).1 ≠ .err (.writePlan message)) ∧
      ∃ originals : List (UInt16 × UInt8), originals.map Prod.fst = plan.updates.map Prod.fst ∧
        (∀ original ∈ originals, plan.backup.bytes[original.1.toNat -
          session.spec.memoryLow.toNat]? = some original.2) ∧
        applyEepromWrite bound plan session =
          onControl bound (fun spec ↦
            writeEepromWithOriginals spec plan.updates (some originals) ⟨true, true⟩) session) ∧
    ∃ new, (applyEepromWrite bound plan session).2.link.history = session.link.history ++ new ∧
      ∀ step ∈ new,
        step.event.Carries (WritesWithin session.spec (plan.updates.map Prod.fst)) := by
  have hmatches (h : plan.Matches session.spec) :=
    exists_originalsOf h.start h.length h.updates.contains
  refine ⟨applyEepromWrite_of_not_matches, fun h ↦ ?_, ?_⟩
  · -- no later error is one of the plan
    obtain ⟨originals, hok, hsame, hvalues⟩ := hmatches h
    have hrun : applyEepromWrite bound plan session =
        onControl bound (fun spec ↦
          writeEepromWithOriginals spec plan.updates (some originals) ⟨true, true⟩) session :=
      applyEepromWrite_of_matches h hok
    refine ⟨fun update hmem ↦ ?_, fun message ↦ ?_, originals, hsame, fun original hmem ↦ ?_, hrun⟩
    · have hrange := h.updates.contains update hmem
      exact (EepromImage.isSome_valueAt h.start h.length hrange.low_le_high).2 hrange
    · rw [hrun]
      rcases onControl_cases (fun spec ↦ writeEepromWithOriginals spec plan.updates
        (some originals) ⟨true, true⟩) session with ⟨e, hcontrol⟩ | hcontrol <;> rw [hcontrol]
      · simp
      · rcases (writeEepromWithOriginals session.spec plan.updates (some originals) ⟨true, true⟩
          (⟨session.link, session.controlChannel⟩ : D4ControlChannel T bound)).1 with _ | _ | _ | _
        all_goals simp [Outcome.mapErr]
    · have hvalue := hvalues original hmem
      rw [EepromImage.valueAt_eq, h.start] at hvalue
      split at hvalue
      · exact hvalue
      · cases hvalue
  · -- a plan that is refused sends nothing at all
    refine Makes.history ?_
    by_cases h : plan.Matches session.spec
    · obtain ⟨originals, hok, -, -⟩ := hmatches h
      rw [applyEepromWrite_of_matches h hok]
      exact makes_of_onControl (fun _ ↦ writesWithin_of_encodes) session
        writeEepromWithOriginals_writesWithin
    · obtain ⟨message, hrefused⟩ := applyEepromWrite_of_not_matches h
      rw [hrefused]

end EpsonD4Session

end Reink
