import Reink.App.SimulatedWriter
import Reink.Cli.UsbSession
import Reink.Core.Database

/-!
# Commands that write

The commands that write single bytes, reset a counter, or restore an image. They differ in their
words and in where the updates come from. Nothing is opened before the confirmation is there, the
path of the backup is free, the model known, and the updates in its range.
-/

namespace Reink

/-- The exact words that a command asks for. -/
def validateConfirmation (confirmation : Option String) (expected command : String) :
    Except String Unit :=
  if confirmation = some expected then .ok ()
  else .error (command ++ " requires --confirmation " ++ expected ++ " exactly")

/-- The built-in specification of the requested model. -/
def selectedModel (builtin : Except String ModelDatabase) (model : String) :
    Except String EpsonSpec := do
  let database ← builtin
  Except.okOr ("unknown model: " ++ model) (database.get model)

/-- The model that the printer has told must be the requested one. -/
def verifyRequestedModel [CharTables] (identity : PrinterIdentity) (model : String) :
    Except String Unit :=
  match identity.detectedModel with
  | some detected =>
    if detected = model then .ok ()
    else .error ("printer identity model " ++ Text.debug detected ++
      " does not match requested model " ++ Text.debug model)
  | none => .error ("printer identity does not contain a model; requested model is " ++
      Text.debug model)

/-! ### The updates -/

namespace Cli

open EpsonError (showAddress)

/-- The check of the updates that are left, after the addresses seen so far. -/
def validateUpdates (spec : EpsonSpec) (addresses : List UInt16) :
    List (UInt16 × UInt8) → Except String Unit
  | [] => .ok ()
  | (address, _) :: updates =>
    if address < spec.memoryLow ∨ address > spec.memoryHigh then
      .error ("EEPROM update address " ++ showAddress address ++ " is outside model range " ++
        showAddress spec.memoryLow ++ "..=" ++ showAddress spec.memoryHigh)
    else if address ∈ addresses then
      .error ("EEPROM update address " ++ showAddress address ++ " is duplicated")
    else validateUpdates spec (address :: addresses) updates

/-- The check of the updates that the command line gives. -/
def validateEepromUpdates (spec : EpsonSpec) (updates : List (UInt16 × UInt8)) :
    Except String Unit :=
  if updates = [] then .error "at least one --update ADDRESS=VALUE is required"
  else validateUpdates spec [] updates

/-- The bytes that the model declares for a reset of the counter. -/
def declaredCounterResetUpdates (spec : EpsonSpec) (target : CounterResetTarget) :
    Outcome String (List (UInt16 × UInt8)) := do
  let undeclared := "model " ++ spec.model ++ " has no explicitly declared " ++
    target.displayName ++ " reset bytes"
  let operation ← ((spec.counterReset target).mapErr Empty.elim).bind
    (Outcome.orErr · undeclared)
  if ¬ operation.hasDeclaredResetValues then .err undeclared
  else
    let updates := operation.addresses.zip operation.resetValues
    Outcome.ofExcept (validateEepromUpdates spec updates)
    return updates

end Cli

/-- The updates that write the image of the file back. -/
def readRestoreImage {F : Type} [FileSystem F] (path : String) (spec : EpsonSpec) (files : F) :
    Outcome String (List (UInt16 × UInt8)) := do
  let bytes ← Outcome.ofExcept ((FileSystem.read path files).mapError
    ("could not read EEPROM restore image " ++ path ++ ": " ++ ·))
  restoreEepromUpdates spec bytes

/-! ### The commands -/

namespace MutationKind

/-- The words of the command that writes single bytes. -/
def usbEepromWrite : MutationKind where
  confirmation := "I_CONFIRM_THIS_WILL_WRITE_EEPROM"
  command := "usb-eeprom-write"
  backupKind := "EEPROM backup"
  prepareFailure := "could not prepare EEPROM write: "
  applyFailure := "EEPROM write failed: "

/-- The words of the command that resets a counter. -/
def usbEepromReset : MutationKind where
  confirmation := "I_CONFIRM_THIS_WILL_RESET_DECLARED_COUNTERS"
  command := "usb-eeprom-reset"
  backupKind := "EEPROM reset backup"
  prepareFailure := "could not prepare declared counter reset: "
  applyFailure := "declared counter reset failed: "

/-- The words of the command that restores an image. -/
def usbEepromRestore : MutationKind where
  confirmation := "I_CONFIRM_THIS_WILL_RESTORE_EEPROM"
  command := "usb-eeprom-restore"
  backupKind := "EEPROM rollback backup"
  prepareFailure := "could not prepare EEPROM restore: "
  applyFailure := "EEPROM restore failed: "

end MutationKind

section Commands

variable {T F : Type} [FileSystem F] [CharTables]

/-- Where the updates of a command come from. -/
abbrev UpdateSource (F : Type) : Type := EpsonSpec → F → Outcome String (List (UInt16 × UInt8))

/-- What is checked before anything is opened, in this order. -/
def mutationGate (kind : MutationKind) (confirmation : Option String)
    (builtin : Except String ModelDatabase) (model : String) (source : UpdateSource F)
    (backupFile : String) (files : F) : Outcome String (EpsonSpec × List (UInt16 × UInt8)) := do
  Outcome.ofExcept (validateConfirmation confirmation kind.confirmation kind.command)
  Outcome.ofExcept (validateNewFilePath backupFile kind.backupKind files)
  let spec ← Outcome.ofExcept (selectedModel builtin model)
  let updates ← source spec files
  return (spec, updates)

variable [UsbTransport T] (bound : Nat) (confirmation : Option String)
  (builtin : Except String ModelDatabase) (model : String)

/-- A command that writes. -/
def runMutation (kind : MutationKind) (source : UpdateSource F) (backupFile : String)
    (opened : Except String T) (files : F) : Outcome Empty (Except String Unit × Option T × F) :=
  match mutationGate kind confirmation builtin model source backupFile files with
  | .err error => return (.error error, none, files)
  | .panic message => .panic message
  | .running => .running
  | .ok (spec, updates) =>
    withUsbEpsonSession bound opened spec
      (mutateEeprom kind (verifyRequestedModel · model) updates backupFile) files

/-- The command that writes single bytes. -/
def usbEepromWriteOutput (updates : List (UInt16 × UInt8)) (backupFile : String)
    (opened : Except String T) (files : F) : Outcome Empty (Except String Unit × Option T × F) :=
  runMutation bound confirmation builtin model .usbEepromWrite (fun spec _ ↦ do
    Outcome.ofExcept (Cli.validateEepromUpdates spec updates)
    return updates) backupFile opened files

/-- The command that resets a counter. -/
def usbEepromResetOutput (target : CounterResetTarget) (backupFile : String)
    (opened : Except String T) (files : F) : Outcome Empty (Except String Unit × Option T × F) :=
  runMutation bound confirmation builtin model .usbEepromReset
    (fun spec _ ↦ Cli.declaredCounterResetUpdates spec target) backupFile opened files

/-- The command that restores an image. -/
def usbEepromRestoreOutput (inputFile backupFile : String) (opened : Except String T) (files : F) :
    Outcome Empty (Except String Unit × Option T × F) :=
  runMutation bound confirmation builtin model .usbEepromRestore
    (fun spec files ↦ readRestoreImage inputFile spec files) backupFile opened files

end Commands

/-! ### The updates of the commands -/

namespace Cli

variable {spec : EpsonSpec} {updates : List (UInt16 × UInt8)}

/-- The loop is that of a write plan. -/
theorem validateUpdates_mapError (addresses : List UInt16) :
    (validateUpdates spec addresses updates).mapError ApplicationError.writePlan =
      Reink.validateUpdates spec addresses updates := by
  induction updates generalizing addresses with
  | nil => rfl
  | cons update updates ih =>
    obtain ⟨address, value⟩ := update
    rw [validateUpdates, Reink.validateUpdates]
    split
    · rfl
    split
    · rfl
    · exact ih _

/-- The command line accepts what a write plan accepts. -/
theorem validateEepromUpdates_eq_ok :
    validateEepromUpdates spec updates = .ok () ↔ ValidUpdates spec updates := by
  rw [← Reink.validateEepromUpdates_eq_ok, validateEepromUpdates, Reink.validateEepromUpdates,
    ← validateUpdates_mapError]
  split
  · exact ⟨nofun, nofun⟩
  · rcases validateUpdates spec [] updates with error | ⟨⟩
    · exact ⟨nofun, nofun⟩
    · exact ⟨fun _ ↦ rfl, fun _ ↦ rfl⟩

/-- **The command line resets the bytes that the application does.** -/
theorem declaredCounterResetUpdates_eq_ok {target : CounterResetTarget} :
    declaredCounterResetUpdates spec target = .ok updates ↔
      Reink.declaredCounterResetUpdates spec target = .ok updates := by
  obtain ⟨merged, hmerged⟩ : ∃ merged, spec.counterReset target = .ok merged :=
    ⟨_, spec.mergedOperation_eq _⟩
  unfold declaredCounterResetUpdates Reink.declaredCounterResetUpdates
  rw [hmerged]
  rcases merged with _ | operation
  case none => exact ⟨nofun, nofun⟩
  case some =>
    show (if ¬ operation.hasDeclaredResetValues = true then _ else _) = _ ↔
      (if ¬ operation.hasDeclaredResetValues = true then _ else _) = _
    split
    case isTrue => exact ⟨nofun, nofun⟩
    case isFalse =>
      set declared := operation.addresses.zip operation.resetValues
      have hcheck : validateEepromUpdates spec declared = .ok () ↔
          Reink.validateEepromUpdates spec declared = .ok () :=
        validateEepromUpdates_eq_ok.trans Reink.validateEepromUpdates_eq_ok.symm
      constructor
      · intro h
        obtain ⟨⟨⟩, hok, hpure⟩ := Outcome.bind_eq_ok.1 h
        rw [hcheck.1 (Outcome.ofExcept_eq_ok.1 hok)]
        exact hpure
      · intro h
        split at h
        case h_1 => exact absurd h ApplicationError.display_ne_ok
        case h_2 hok =>
          exact Outcome.bind_eq_ok.2 ⟨(), Outcome.ofExcept_eq_ok.2 (hcheck.2 hok), h⟩

end Cli

/-- The sources of the updates of the three commands. -/
inductive CommandSource {F : Type} [FileSystem F] [CharTables] :
    MutationKind → UpdateSource F → Prop where
  | write (updates : List (UInt16 × UInt8)) : CommandSource .usbEepromWrite fun spec _ ↦ do
    Outcome.ofExcept (Cli.validateEepromUpdates spec updates)
    return updates
  | reset (target : CounterResetTarget) : CommandSource .usbEepromReset
    fun spec _ ↦ Cli.declaredCounterResetUpdates spec target
  | restore (inputFile : String) : CommandSource .usbEepromRestore
    fun spec files ↦ readRestoreImage inputFile spec files

/-- **What a command would write has been checked.** -/
theorem CommandSource.validUpdates {F : Type} [FileSystem F] [CharTables] {kind : MutationKind}
    {source : UpdateSource F} {spec : EpsonSpec} {files : F} {updates : List (UInt16 × UInt8)}
    (h : CommandSource kind source) (hrange : spec.memoryLow ≤ spec.memoryHigh)
    (hsource : source spec files = .ok updates) : ValidUpdates spec updates := by
  cases h with
  | write =>
    obtain ⟨⟨⟩, hvalid, hpure⟩ := Outcome.bind_eq_ok.1 hsource
    cases hpure
    exact Cli.validateEepromUpdates_eq_ok.1 (Outcome.ofExcept_eq_ok.1 hvalid)
  | reset target =>
    exact (declaredCounterResetUpdates_eq_ok (Cli.declaredCounterResetUpdates_eq_ok.1 hsource)).1
  | restore inputFile =>
    obtain ⟨bytes, -, hrestore⟩ := Outcome.bind_eq_ok.1 hsource
    exact validUpdates_of_restoreEepromUpdates hrange hrestore

/-! ### The gate -/

section Gate

variable {F : Type} [FileSystem F] [CharTables] {kind : MutationKind}
  {confirmation : Option String} {builtin : Except String ModelDatabase} {model : String}
  {source : UpdateSource F} {backupFile : String} {files : F} {spec : EpsonSpec}
  {updates : List (UInt16 × UInt8)}

omit [FileSystem F] [CharTables] in
theorem validateConfirmation_eq_ok {expected command : String} :
    validateConfirmation confirmation expected command = .ok () ↔ confirmation = some expected := by
  unfold validateConfirmation
  split
  case isTrue h => exact iff_of_true rfl h
  case isFalse h => exact iff_of_false nofun h

theorem verifyRequestedModel_eq_ok {identity : PrinterIdentity} :
    verifyRequestedModel identity model = .ok () ↔ identity.detectedModel = some model := by
  unfold verifyRequestedModel
  split
  case h_1 detected hdetected =>
    rw [hdetected, Option.some_inj]
    split
    case isTrue heq => exact iff_of_true rfl heq
    case isFalse hne => exact iff_of_false nofun hne
  case h_2 hnone => exact iff_of_false nofun (by rw [hnone]; exact nofun)

omit [CharTables] in
/-- **What passes the gate.** -/
theorem mutationGate_eq_ok :
    mutationGate kind confirmation builtin model source backupFile files = .ok (spec, updates) ↔
      confirmation = some kind.confirmation ∧
        validateNewFilePath backupFile kind.backupKind files = .ok () ∧
        selectedModel builtin model = .ok spec ∧ source spec files = .ok updates := by
  simp only [mutationGate, Outcome.bind_eq_ok, Outcome.ofExcept_eq_ok]
  constructor
  · rintro ⟨⟨⟩, hconfirmation, ⟨⟩, hpath, spec', hmodel, updates', hsource, hpure⟩
    cases hpure
    exact ⟨validateConfirmation_eq_ok.1 hconfirmation, hpath, hmodel, hsource⟩
  · rintro ⟨hconfirmation, hpath, hmodel, hsource⟩
    exact ⟨(), validateConfirmation_eq_ok.2 hconfirmation, (), hpath, spec, hmodel, updates,
      hsource, rfl⟩

end Gate

section Commands

variable {T F : Type} [UsbTransport T] [FileSystem F] [CharTables] {bound : Nat}
  {confirmation : Option String} {builtin : Except String ModelDatabase} {model : String}
  {kind : MutationKind} {source : UpdateSource F} {backupFile : String} {files files' : F}
  {result : Except String Unit}

end Commands

/-- The database with the simulated C90. -/
def ModelDatabase.c90 : ModelDatabase :=
  ⟨fun model ↦ if model = "C90" then some IdentifiedPrinter.c90.spec else none⟩

end Reink
