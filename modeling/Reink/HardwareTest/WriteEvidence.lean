import Reink.App.Image

/-!
# Write evidence

The hardware test that writes one byte, reads it back, and restores it. Its session is arbitrary:
any call may give any result. The run keeps the calls it has made with their results; they are read
by no code.
-/

namespace Reink

open EpsonError (showValue)

/-! ### The outcome -/

/-- How far a stage has come. -/
inductive StageStatus where
  | completed
  | failed
  | skipped
deriving DecidableEq, Repr

/-- How a stage has ended. -/
structure WriteEvidenceStage where
  status : StageStatus
  detail : String
  value : Option UInt8
deriving DecidableEq, Repr

namespace WriteEvidenceStage

/-- A stage that was completed. -/
def completed (detail : String) (value : Option UInt8) : WriteEvidenceStage :=
  ⟨.completed, detail, value⟩

/-- A stage that has failed. -/
def failed (detail : String) : WriteEvidenceStage := ⟨.failed, detail, none⟩

/-- A stage that was not reached. -/
def skipped (detail : String) : WriteEvidenceStage := ⟨.skipped, detail, none⟩

/-- The stage was completed. -/
def succeeded (stage : WriteEvidenceStage) : Bool := stage.status = .completed

@[simp] theorem succeeded_failed (detail : String) : (failed detail).succeeded = false := rfl

@[simp] theorem succeeded_skipped (detail : String) : (skipped detail).succeeded = false := rfl

end WriteEvidenceStage

/-- How each stage has ended. -/
structure WriteEvidenceOutcome where
  identity : WriteEvidenceStage
  preRead : WriteEvidenceStage
  backup : WriteEvidenceStage
  testWrite : WriteEvidenceStage
  testReadback : WriteEvidenceStage
  restoration : WriteEvidenceStage
  restorationReadback : WriteEvidenceStage
  originalValue : Option UInt8
deriving DecidableEq, Repr

namespace WriteEvidenceOutcome

/-- The outcome before the first stage. -/
def new : WriteEvidenceOutcome where
  identity := .skipped "D4 identity has not been read"
  preRead := .skipped "original byte was not read"
  backup := .skipped "complete backup was not created"
  testWrite := .skipped "test write was not attempted"
  testReadback := .skipped "test write read-back was not attempted"
  restoration := .skipped "restoration was not attempted"
  restorationReadback := .skipped "restoration read-back was not attempted"
  originalValue := none

/-- Every stage was completed. -/
def completedSafely (outcome : WriteEvidenceOutcome) : Bool :=
  outcome.identity.succeeded && outcome.preRead.succeeded && outcome.backup.succeeded &&
    outcome.testWrite.succeeded && outcome.testReadback.succeeded &&
    outcome.restoration.succeeded && outcome.restorationReadback.succeeded

end WriteEvidenceOutcome

/-! ### The session -/

/-- What the test asks of a session. -/
class WriteEvidenceSession (S : Type) where
  identityModel : S → Except String (Option String) × S
  readByte : UInt16 → S → Except String UInt8 × S
  prepareWritePlan : List (UInt16 × UInt8) → S → Except String EepromWritePlan × S
  applyWritePlan : EepromWritePlan → S → Except String Unit × S

/-- A call with its result. -/
inductive EvidenceCall where
  | identityModel (result : Except String (Option String))
  | readByte (address : UInt16) (result : Except String UInt8)
  | prepareWritePlan (updates : List (UInt16 × UInt8)) (result : Except String EepromWritePlan)
  | persistBackup (bytes : List UInt8) (result : Except String Unit)
  | applyWritePlan (plan : EepromWritePlan) (result : Except String Unit)

/-- A session and the calls that were made, oldest first. -/
structure EvidenceRun (S : Type) where
  session : S
  calls : List EvidenceCall

/-- The test is a program that always comes to its end. -/
abbrev EvidenceM (S : Type) : Type → Type := StateM (EvidenceRun S)

namespace EvidenceM

variable {S α : Type}

/-- Call the session, and keep the call with its result. -/
def call (method : S → α × S) (entry : α → EvidenceCall) : EvidenceM S α := fun run ↦
  let (result, session) := method run.session
  (result, ⟨session, run.calls ++ [entry result]⟩)

/-- What follows a call goes on with its result. -/
theorem call_bind {β : Type} {method : S → α × S} {entry : α → EvidenceCall}
    {f : α → EvidenceM S β} {run : EvidenceRun S} {result : α} {session : S}
    (h : method run.session = (result, session)) :
    (call method entry >>= f) run = f result ⟨session, run.calls ++ [entry result]⟩ := by
  show f (method run.session).1
    ⟨(method run.session).2, run.calls ++ [entry (method run.session).1]⟩ = _
  rw [h]

variable [WriteEvidenceSession S]

/-- Ask the printer for its model. -/
def identityModel : EvidenceM S (Except String (Option String)) :=
  call WriteEvidenceSession.identityModel .identityModel

/-- Read a byte. -/
def readByte (address : UInt16) : EvidenceM S (Except String UInt8) :=
  call (WriteEvidenceSession.readByte address) (.readByte address)

/-- Prepare the write of the updates. -/
def prepareWritePlan (updates : List (UInt16 × UInt8)) :
    EvidenceM S (Except String EepromWritePlan) :=
  call (WriteEvidenceSession.prepareWritePlan updates) (.prepareWritePlan updates)

/-- Apply a prepared write. -/
def applyWritePlan (plan : EepromWritePlan) : EvidenceM S (Except String Unit) :=
  call (WriteEvidenceSession.applyWritePlan plan) (.applyWritePlan plan)

omit [WriteEvidenceSession S] in
/-- The backup goes to its own function, which is called at most once. -/
def persistBackup (persist : List UInt8 → Except String Unit) (bytes : List UInt8) :
    EvidenceM S (Except String Unit) :=
  call (fun session ↦ (persist bytes, session)) (.persistBackup bytes)

end EvidenceM

/-! ### The test -/

section Execute

open EvidenceM

variable {S : Type} [WriteEvidenceSession S] [CharTables] (model : String) (address : UInt16)
  (requestedValue : UInt8) (persist : List UInt8 → Except String Unit)

/-- The independent read-back of the test write. -/
def testReadbackStage (outcome : WriteEvidenceOutcome) : EvidenceM S WriteEvidenceOutcome := do
  match ← readByte address with
  | .ok actual =>
    if actual = requestedValue then
      return { outcome with
        testReadback := .completed "independent read-back matched the requested test byte"
          (some actual) }
    else
      return { outcome with
        testReadback := .failed
          ("independent test write read-back mismatch: expected " ++ showValue requestedValue ++
            ", got " ++ showValue actual) }
  | .error error =>
    return { outcome with
      testReadback := .failed ("independent test write read-back failed: " ++ error) }

/-- The test write, and its read-back if it succeeded. -/
def testWriteStage (testPlan : EepromWritePlan) (outcome : WriteEvidenceOutcome) :
    EvidenceM S WriteEvidenceOutcome := do
  match ← applyWritePlan testPlan with
  | .ok () =>
    testReadbackStage address requestedValue { outcome with
      testWrite := .completed "test write completed with core read-back verification"
        (some requestedValue) }
  | .error error =>
    return { outcome with
      testWrite := .failed
        ("test write or its core read-back verification failed: " ++ error) }

/-- The independent read-back of the restoration. -/
def restorationReadbackStage (originalValue : UInt8) (outcome : WriteEvidenceOutcome) :
    EvidenceM S WriteEvidenceOutcome := do
  match ← readByte address with
  | .ok actual =>
    if actual = originalValue then
      return { outcome with
        restorationReadback := .completed
          "independent restoration read-back matched the original byte" (some actual) }
    else
      return { outcome with
        restorationReadback := .failed
          ("independent restoration read-back mismatch: expected " ++ showValue originalValue ++
            ", got " ++ showValue actual) }
  | .error error =>
    return { outcome with
      restorationReadback := .failed ("independent restoration read-back failed: " ++ error) }

/-- The restoration, and its read-back if it succeeded. -/
def restorationStage (testPlan : EepromWritePlan) (originalValue : UInt8)
    (outcome : WriteEvidenceOutcome) : EvidenceM S WriteEvidenceOutcome := do
  match ← applyWritePlan ⟨testPlan.backup, [(address, originalValue)]⟩ with
  | .ok () =>
    restorationReadbackStage address originalValue { outcome with
      restoration := .completed "restoration write completed with core read-back verification"
        (some originalValue) }
  | .error error =>
    return { outcome with
      restoration := .failed
        ("restoration write or its core read-back verification failed: " ++ error) }

/-- The backup, and behind it the two writes. -/
def backupStage (originalValue : UInt8) (outcome : WriteEvidenceOutcome) :
    EvidenceM S WriteEvidenceOutcome := do
  match ← prepareWritePlan [(address, requestedValue)] with
  | .error error =>
    return { outcome with backup := .failed ("complete backup preparation failed: " ++ error) }
  | .ok testPlan =>
    if testPlan.backup.valueAt address ≠ some originalValue then
      return { outcome with
        backup := .failed
          "complete backup does not match the original-byte pre-read; refusing to write" }
    else
      match ← persistBackup persist testPlan.backup.bytes with
      | .error error =>
        return { outcome with
          backup := .failed ("durable complete backup persistence failed: " ++ error) }
      | .ok () =>
        let outcome ← testWriteStage address requestedValue testPlan { outcome with
          backup := .completed
            "complete backup was created with create-new semantics and synced before the test write"
            none }
        restorationStage address testPlan originalValue outcome

/-- The pre-read of the byte. -/
def preReadStage (outcome : WriteEvidenceOutcome) : EvidenceM S WriteEvidenceOutcome := do
  match ← readByte address with
  | .error error =>
    return { outcome with preRead := .failed ("original-byte pre-read failed: " ++ error) }
  | .ok value =>
    let outcome := { outcome with
      preRead := .completed "original byte read before any write" (some value)
      originalValue := some value }
    if value = requestedValue then
      return { outcome with
        testWrite := .failed ("requested test byte equals the pre-read original byte; " ++
          "refusing a non-evidentiary write") }
    else backupStage address requestedValue persist value outcome

/-- Write a byte, read it back and restore it, each stage after the one before. -/
def executeWriteEvidence : EvidenceM S WriteEvidenceOutcome := do
  let outcome := WriteEvidenceOutcome.new
  match ← identityModel with
  | .ok (some detected) =>
    if detected = model then
      preReadStage address requestedValue persist { outcome with
        identity := .completed "D4 identity exactly matched the requested model" none }
    else
      return { outcome with
        identity := .failed ("D4 identity model " ++ Text.debug detected ++
          " does not match requested model " ++ Text.debug model) }
  | .ok none =>
    return { outcome with
      identity := .failed ("D4 identity does not contain a model; requested model is " ++
        Text.debug model) }
  | .error error =>
    return { outcome with identity := .failed ("D4 identity read failed: " ++ error) }

end Execute

/-! ### The calls of a run -/

/-- The call applies a plan. -/
def EvidenceCall.IsApply : EvidenceCall → Prop
  | .applyWritePlan _ _ => True
  | _ => False

/-- The plan that the call applies. -/
def EvidenceCall.applied : EvidenceCall → Option EepromWritePlan
  | .applyWritePlan plan _ => some plan
  | _ => none

/-- The checks before a write, each passed. -/
def checks (model : String) (address : UInt16) (requestedValue originalValue : UInt8)
    (testPlan : EepromWritePlan) : List EvidenceCall :=
  [.identityModel (.ok (some model)), .readByte address (.ok originalValue),
    .prepareWritePlan [(address, requestedValue)] (.ok testPlan),
    .persistBackup testPlan.backup.bytes (.ok ())]

/-- **The calls of a run that writes**: the checks in their order, each passed, the test plan, and
the restoration; behind each of the two writes at most a read of the address. -/
structure Writes (model : String) (address : UInt16) (requestedValue originalValue : UInt8)
    (testPlan : EepromWritePlan) (tested restored : List (Except String UInt8))
    (calls : List EvidenceCall) : Prop where
  differs : originalValue ≠ requestedValue
  holds : testPlan.backup.valueAt address = some originalValue
  calls : ∃ testResult restoreResult, calls =
    checks model address requestedValue originalValue testPlan ++
    .applyWritePlan testPlan testResult :: tested.map (.readByte address) ++
    .applyWritePlan ⟨testPlan.backup, [(address, originalValue)]⟩ restoreResult ::
      restored.map (.readByte address)

section Stages

open EvidenceM

variable {S : Type} [WriteEvidenceSession S] {model : String} {address : UInt16}
  {requestedValue originalValue : UInt8} {persist : List UInt8 → Except String Unit}

/-- The read-back of the test write fills in its own stage only. -/
theorem testReadbackStage_calls (address : UInt16) (requestedValue : UInt8)
    (outcome : WriteEvidenceOutcome) (run : EvidenceRun S) :
    ∃ (result : Except String UInt8) (readback : WriteEvidenceStage) (run' : EvidenceRun S),
      testReadbackStage address requestedValue outcome run =
        ({ outcome with testReadback := readback }, run') ∧
      run'.calls = run.calls ++ [.readByte address result] := by
  rcases hread : WriteEvidenceSession.readByte address run.session with ⟨error | actual, session⟩
  · exact ⟨.error error, _, _, call_bind hread, rfl⟩
  · rw [testReadbackStage, readByte, call_bind hread]
    dsimp only
    split
    all_goals exact ⟨.ok actual, _, _, rfl, rfl⟩

/-- The test write, whatever comes of it, leaves the other stages as they are. -/
theorem testWriteStage_calls (address : UInt16) (requestedValue : UInt8)
    (testPlan : EepromWritePlan) (outcome : WriteEvidenceOutcome) (run : EvidenceRun S) :
    ∃ (testResult : Except String Unit) (tested : List (Except String UInt8))
      (write readback : WriteEvidenceStage) (run' : EvidenceRun S),
      testWriteStage address requestedValue testPlan outcome run =
        ({ outcome with testWrite := write, testReadback := readback }, run') ∧
      run'.calls =
        run.calls ++ .applyWritePlan testPlan testResult :: tested.map (.readByte address) := by
  rcases happly : WriteEvidenceSession.applyWritePlan testPlan run.session with
    ⟨error | ⟨⟩, session⟩
  · exact ⟨.error error, [], _, outcome.testReadback, _, call_bind happly, rfl⟩
  · rw [testWriteStage, applyWritePlan, call_bind happly]
    dsimp only
    obtain ⟨result, readback, run', hrun, hcalls⟩ :=
      testReadbackStage_calls (S := S) address requestedValue _ _
    refine ⟨.ok (), [result], _, readback, run', hrun, ?_⟩
    rw [hcalls, List.append_assoc]
    rfl

/-- The read-back of the restoration succeeds only with the original byte. -/
theorem restorationReadbackStage_calls (address : UInt16) (originalValue : UInt8)
    (outcome : WriteEvidenceOutcome) (run : EvidenceRun S) :
    ∃ (result : Except String UInt8) (readback : WriteEvidenceStage) (run' : EvidenceRun S),
      restorationReadbackStage address originalValue outcome run =
        ({ outcome with restorationReadback := readback }, run') ∧
      run'.calls = run.calls ++ [.readByte address result] ∧
      (readback.succeeded = true → result = .ok originalValue) := by
  rcases hread : WriteEvidenceSession.readByte address run.session with ⟨error | actual, session⟩
  · exact ⟨.error error, _, _, call_bind hread, rfl, by simp⟩
  · rw [restorationReadbackStage, readByte, call_bind hread]
    dsimp only
    split
    case isTrue hsame => exact ⟨.ok actual, _, _, rfl, rfl, fun _ ↦ by rw [hsame]⟩
    case isFalse => exact ⟨.ok actual, _, _, rfl, rfl, by simp⟩

/-- The restoration of the original byte. Its read-back, if it succeeded, is the last call. -/
theorem restorationStage_calls (address : UInt16) (originalValue : UInt8)
    (testPlan : EepromWritePlan) (outcome : WriteEvidenceOutcome) (run : EvidenceRun S)
    (hskipped : outcome.restorationReadback.succeeded = false) :
    ∃ (restoreResult : Except String Unit) (restored : List (Except String UInt8))
      (outcome' : WriteEvidenceOutcome) (run' : EvidenceRun S),
      restorationStage address testPlan originalValue outcome run = (outcome', run') ∧
      run'.calls = run.calls ++
        .applyWritePlan ⟨testPlan.backup, [(address, originalValue)]⟩ restoreResult ::
          restored.map (.readByte address) ∧
      (outcome'.restorationReadback.succeeded = true → restored = [.ok originalValue]) := by
  rcases happly : WriteEvidenceSession.applyWritePlan ⟨testPlan.backup, [(address, originalValue)]⟩
    run.session with ⟨error | ⟨⟩, session⟩
  · exact ⟨.error error, [], _, _, call_bind happly, rfl,
      fun h ↦ Bool.noConfusion (hskipped.symm.trans h)⟩
  · rw [restorationStage, applyWritePlan, call_bind happly]
    dsimp only
    obtain ⟨result, readback, run', hrun, hcalls, hresult⟩ :=
      restorationReadbackStage_calls (S := S) address originalValue _ _
    refine ⟨.ok (), [result], _, run', hrun, ?_, fun h ↦ by rw [hresult h]⟩
    rw [hcalls, List.append_assoc]
    rfl

/-! ### The two kinds of runs -/

/-- How a run ends: it has applied no plan and does not count as safe, or it has made the calls of a
run that writes, and counts as safe only if its last read gave the original byte. -/
def Ends (model : String) (address : UInt16) (requestedValue : UInt8)
    (result : WriteEvidenceOutcome × EvidenceRun S) : Prop :=
  ((∀ call ∈ result.2.calls, ¬ call.IsApply) ∧ result.1.completedSafely = false) ∨
    ∃ originalValue testPlan tested restored,
      Writes model address requestedValue originalValue testPlan tested restored result.2.calls ∧
      (result.1.completedSafely = true → restored = [.ok originalValue])

/-- A run whose restoration was skipped is not safe. -/
theorem completedSafely_of_skipped {outcome : WriteEvidenceOutcome}
    (h : outcome.restorationReadback.succeeded = false) : outcome.completedSafely = false := by
  rw [WriteEvidenceOutcome.completedSafely, h, Bool.and_false]

omit [WriteEvidenceSession S] in
/-- A run that is given up before the writes. -/
theorem ends_of_stopped {outcome : WriteEvidenceOutcome} {run : EvidenceRun S}
    {calls : List EvidenceCall} (hcalls : run.calls = calls)
    (hquiet : ∀ call ∈ calls, ¬ call.IsApply)
    (hskipped : outcome.restorationReadback.succeeded = false) :
    Ends model address requestedValue (outcome, run) := by
  subst hcalls
  exact .inl ⟨hquiet, completedSafely_of_skipped hskipped⟩

/-- **Behind the checks** the test write is followed by the restoration, whatever comes of it. -/
theorem writes_ends {testPlan : EepromWritePlan} {outcome : WriteEvidenceOutcome}
    {run : EvidenceRun S} (hdiffers : originalValue ≠ requestedValue)
    (hholds : testPlan.backup.valueAt address = some originalValue)
    (hcalls : run.calls = checks model address requestedValue originalValue testPlan)
    (hskipped : outcome.restorationReadback.succeeded = false) :
    Ends model address requestedValue
      ((testWriteStage address requestedValue testPlan outcome >>= fun outcome ↦
        restorationStage address testPlan originalValue outcome) run) := by
  obtain ⟨testResult, tested, write, readback, run₁, htest, hcalls₁⟩ :=
    testWriteStage_calls address requestedValue testPlan outcome run
  obtain ⟨restoreResult, restored, outcome₂, run₂, hrestore, hcalls₂, hlast⟩ :=
    restorationStage_calls address originalValue testPlan
      { outcome with testWrite := write, testReadback := readback } run₁ hskipped
  have hrun : (testWriteStage address requestedValue testPlan outcome >>= fun outcome ↦
      restorationStage address testPlan originalValue outcome) run = (outcome₂, run₂) := by
    rw [← hrestore]
    exact congrArg (fun pair ↦ restorationStage address testPlan originalValue pair.1 pair.2) htest
  rw [hrun]
  refine .inr ⟨originalValue, testPlan, tested, restored,
    ⟨hdiffers, hholds, testResult, restoreResult, ?_⟩, fun hsafe ↦ hlast ?_⟩
  · rw [hcalls₂, hcalls₁, hcalls]
  · rw [WriteEvidenceOutcome.completedSafely, Bool.and_eq_true] at hsafe
    exact hsafe.2

/-- The backup stage, behind the identity and the pre-read. -/
theorem backupStage_ends {outcome : WriteEvidenceOutcome} {run : EvidenceRun S}
    (hdiffers : originalValue ≠ requestedValue)
    (hcalls : run.calls =
      [.identityModel (.ok (some model)), .readByte address (.ok originalValue)])
    (hskipped : outcome.restorationReadback.succeeded = false) :
    Ends model address requestedValue
      (backupStage address requestedValue persist originalValue outcome run) := by
  rcases hprepare : WriteEvidenceSession.prepareWritePlan [(address, requestedValue)] run.session
    with ⟨error | testPlan, session⟩
  · rw [backupStage, prepareWritePlan, call_bind hprepare]
    exact ends_of_stopped (congrArg (· ++ [_]) hcalls) (by simp [EvidenceCall.IsApply]) hskipped
  rw [backupStage, prepareWritePlan, call_bind hprepare]
  dsimp only
  by_cases hholds : testPlan.backup.valueAt address ≠ some originalValue
  · rw [if_pos hholds]
    exact ends_of_stopped (congrArg (· ++ [_]) hcalls) (by simp [EvidenceCall.IsApply]) hskipped
  rw [if_neg hholds]
  have hsaved : (persistBackup persist testPlan.backup.bytes : EvidenceM S _) = call _ _ := rfl
  rw [hsaved, call_bind rfl]
  rcases hpersist : persist testPlan.backup.bytes with error | ⟨⟩
  · exact ends_of_stopped (congrArg (· ++ [_] ++ [_]) hcalls) (by simp [EvidenceCall.IsApply])
      hskipped
  · refine writes_ends hdiffers (not_not.1 hholds) ?_ hskipped
    show (run.calls ++ [_]) ++ [_] = _
    rw [hcalls]
    rfl

theorem preReadStage_ends {outcome : WriteEvidenceOutcome} {run : EvidenceRun S}
    (hcalls : run.calls = [.identityModel (.ok (some model))])
    (hskipped : outcome.restorationReadback.succeeded = false) :
    Ends model address requestedValue
      (preReadStage address requestedValue persist outcome run) := by
  rcases hread : WriteEvidenceSession.readByte address run.session with ⟨error | value, session⟩
  · rw [preReadStage, readByte, call_bind hread]
    exact ends_of_stopped (congrArg (· ++ [_]) hcalls) (by simp [EvidenceCall.IsApply]) hskipped
  rw [preReadStage, readByte, call_bind hread]
  dsimp only
  by_cases hsame : value = requestedValue
  · rw [if_pos hsame]
    exact ends_of_stopped (congrArg (· ++ [_]) hcalls) (by simp [EvidenceCall.IsApply]) hskipped
  · rw [if_neg hsame]
    exact backupStage_ends hsame (by rw [hcalls]; rfl) hskipped

theorem executeWriteEvidence_ends [CharTables] (model : String) (address : UInt16)
    (requestedValue : UInt8) (persist : List UInt8 → Except String Unit) (session : S) :
    Ends model address requestedValue
      (executeWriteEvidence model address requestedValue persist ⟨session, []⟩) := by
  have hstop (result : Except String (Option String)) (stage : WriteEvidenceStage) (session' : S) :
      Ends model address requestedValue
        ({ WriteEvidenceOutcome.new with identity := stage },
          (⟨session', [.identityModel result]⟩ : EvidenceRun S)) :=
    ends_of_stopped rfl (by simp [EvidenceCall.IsApply]) rfl
  rcases hidentity : WriteEvidenceSession.identityModel session with
    ⟨error | _ | detected, session'⟩
  · rw [executeWriteEvidence, identityModel, call_bind hidentity]
    exact hstop _ _ _
  · rw [executeWriteEvidence, identityModel, call_bind hidentity]
    exact hstop _ _ _
  rw [executeWriteEvidence, identityModel, call_bind hidentity]
  dsimp only
  by_cases hmodel : detected = model
  · rw [if_pos hmodel]
    exact preReadStage_ends (by rw [hmodel]; rfl) rfl
  · rw [if_neg hmodel]
    exact hstop _ _ _

/-! ### Safety -/

/-- A call that is none of the checks comes after all of them. -/
theorem exists_of_split {α : Type} {checked rest before after : List α} {x : α}
    (h : checked ++ rest = before ++ x :: after) (hx : x ∉ checked) :
    ∃ between, before = checked ++ between ∧ rest = between ++ x :: after := by
  rcases List.append_eq_append_iff.1 h with ⟨between, hbefore, hrest⟩ | ⟨cut, hchecked, hafter⟩
  · exact ⟨between, hbefore, hrest⟩
  · cases cut with
    | nil => exact ⟨[], by rw [hchecked, List.append_nil, List.append_nil], hafter.symm⟩
    | cons y cut =>
      rw [List.cons_append, List.cons.injEq] at hafter
      exact absurd (by rw [hchecked, hafter.1]; simp) hx

theorem filterMap_applied_reads (results : List (Except String UInt8)) :
    (results.map (.readByte address)).filterMap EvidenceCall.applied = [] := by
  rw [List.filterMap_map, List.filterMap_eq_nil_iff]
  exact fun _ _ ↦ rfl

/-- **Write evidence is safe.** Whatever the session and the persisting of the backup do, a plan is
applied only behind an identity that equals the model, a pre-read of a byte other than the requested
one, a prepared plan whose backup holds that byte, and the saving of this backup. The first plan
that is applied is the prepared one, and whatever comes of it, exactly one more is applied: that of
the original byte alone. A run that counts as safe ends in a read of the original byte. -/
theorem executeWriteEvidence_safe [CharTables] (model : String) (address : UInt16)
    (requestedValue : UInt8) (persist : List UInt8 → Except String Unit) (session : S) :
    let result := executeWriteEvidence model address requestedValue persist ⟨session, []⟩
    (∀ before plan r after, result.2.calls = before ++ .applyWritePlan plan r :: after →
      ∃ originalValue testPlan, originalValue ≠ requestedValue ∧
        testPlan.backup.valueAt address = some originalValue ∧
        checks model address requestedValue originalValue testPlan <+: before) ∧
    (∀ before plan r after, result.2.calls = before ++ .applyWritePlan plan r :: after →
      (∀ call ∈ before, ¬ call.IsApply) →
        ∃ originalValue, before = checks model address requestedValue originalValue plan ∧
          after.filterMap EvidenceCall.applied = [⟨plan.backup, [(address, originalValue)]⟩]) ∧
    (result.1.completedSafely = true →
      ∃ originalValue testPlan between restoration r, result.2.calls =
        checks model address requestedValue originalValue testPlan ++ between ++
          [.applyWritePlan restoration r, .readByte address (.ok originalValue)]) := by
  intro result
  have happly (original : UInt8) (testPlan plan : EepromWritePlan) (r : Except String Unit) :
      EvidenceCall.applyWritePlan plan r ∉
        checks model address requestedValue original testPlan := by
    simp [checks]
  rcases executeWriteEvidence_ends model address requestedValue persist session with
    ⟨hnone, hincomplete⟩ | ⟨original, testPlan, tested, restored, hwrites, hsafe⟩
  · have hcontra (before plan r after)
        (h : result.2.calls = before ++ .applyWritePlan plan r :: after) : False :=
      hnone (.applyWritePlan plan r) (h ▸ by simp) trivial
    exact ⟨fun _ _ _ _ h ↦ (hcontra _ _ _ _ h).elim, fun _ _ _ _ h ↦ (hcontra _ _ _ _ h).elim,
      fun h ↦ Bool.noConfusion (hincomplete.symm.trans h)⟩
  obtain ⟨hdiffers, hholds, testResult, restoreResult, hcalls⟩ := hwrites
  have hsplit (before plan r after)
      (h : result.2.calls = before ++ .applyWritePlan plan r :: after) :=
    exists_of_split (List.append_assoc .. ▸ hcalls.symm.trans h) (happly original testPlan plan r)
  refine ⟨fun before plan r after h ↦ ?_, fun before plan r after h hfirst ↦ ?_, fun h ↦ ?_⟩
  · obtain ⟨between, rfl, -⟩ := hsplit _ _ _ _ h
    exact ⟨original, testPlan, hdiffers, hholds, List.prefix_append _ _⟩
  · obtain ⟨between, rfl, hrest⟩ := hsplit _ _ _ _ h
    -- right behind the checks is the test plan, so there is nothing between them and the first plan
    cases between with
    | nil =>
      obtain ⟨hhead, htail⟩ := List.cons.inj hrest
      cases hhead
      refine ⟨original, List.append_nil _, ?_⟩
      have hafter : after = tested.map (.readByte address) ++ (.applyWritePlan
          ⟨testPlan.backup, [(address, original)]⟩ restoreResult ::
            restored.map (.readByte address)) := htail.symm
      rw [hafter, List.filterMap_append, filterMap_applied_reads, List.nil_append,
        List.filterMap_cons, filterMap_applied_reads]
      rfl
    | cons call between =>
      have hcall : .applyWritePlan testPlan testResult = call := (List.cons.inj hrest).1
      exact absurd trivial (hfirst (.applyWritePlan testPlan testResult) (by simp [hcall]))
  · refine ⟨original, testPlan,
      .applyWritePlan testPlan testResult :: tested.map (.readByte address),
      ⟨testPlan.backup, [(address, original)]⟩, restoreResult, ?_⟩
    rw [hcalls, hsafe h]
    rfl

end Stages

end Reink
