import Reink.Gui.Operation
import Reink.Gui.Trace

/-!
# The window

The state of the window, and what its buttons do to it. The controls are drawn in the state they act
on, so an action is offered under the conditions under which its control is enabled. What starts a
thread is left to the system of the window and its threads; the fixtures and what is only drawn are
left out.
-/

namespace Reink

open Text (upperHexadecimal)

/-! ### The state -/

/-- The pages of the window. -/
inductive Page where
  | status
  | eeprom
  | tools
deriving DecidableEq, Repr

/-- The EEPROM file that is shown. -/
structure LoadedEeprom where
  path : String
  bytes : List UInt8
  startAddress : Nat
  selectedOffset : Nat
  model : Option String
deriving DecidableEq, Repr

/-- How far the search for devices is. -/
inductive UsbScanStatus where
  | scanning
  | ready
  | failed (error : String)
  | unavailable
deriving DecidableEq, Repr

/-- The report of the last operation. -/
structure UsbOperationResultReport where
  success : Bool
  headline : String
  lines : List String
deriving DecidableEq, Repr

/-- What is particular to the three dialogs. -/
inductive PendingPreflight where
  | write (address value : String)
  | restore (restoreImage : Option RestoreImagePreflight)
  | reset (target : CounterResetTarget)

/-- An open dialog. -/
structure PendingUsbOperation where
  preflight : PendingPreflight
  backupFile : Option String := none
  confirmation : String := ""
  nativeExperimentalAcknowledgement : String := ""

/-- The window. A receiver is the number of the thread that sends to it. -/
structure ReinkGui where
  page : Page
  fixturesEnabled : Bool
  selectedFixture : Option Nat
  loadedEeprom : Option LoadedEeprom
  usbCandidates : List DescriptorCandidate
  selectedCandidateIndex : Option Nat
  selectedModelName : Option String
  usbScanStatus : UsbScanStatus
  usbScanReceiver : Option Nat
  fileError : Option String
  usbOperationReceiver : Option Nat
  usbOperationResult : Option UsbOperationResultReport
  pendingUsbOperation : Option PendingUsbOperation
  debugTraffic : DebugTrafficTrace

namespace ReinkGui

variable (catalog : ModelCatalog) (gui : ReinkGui)

/-- The candidate that is selected. -/
def selectedUsbCandidate : Option DescriptorCandidate :=
  gui.selectedCandidateIndex.bind fun index ↦ gui.usbCandidates[index]?

/-- The expected model, if a candidate is selected and the model is known. -/
def selectedUsbModel : Option String :=
  match gui.selectedUsbCandidate with
  | none => none
  | some _ => gui.selectedModelName.filter fun model ↦ (catalog.get model).isSome

/-- An operation has been started and not yet reported. -/
def usbOperationInProgress : Bool := gui.usbOperationReceiver.isSome

/-- A fixture is selected in the place of a device. -/
def fixtureSelected : Bool := gui.fixturesEnabled && gui.selectedFixture.isSome

/-- The mutation of the selected candidate is experimental. -/
def nativeMutationSelected : Bool :=
  gui.selectedUsbCandidate.any DescriptorCandidate.experimentalMutation

/-! ### Selecting -/

/-- Select the candidate, with its model where there is but one hint. -/
def selectUsbCandidate (index : Nat) (candidate : DescriptorCandidate) : ReinkGui :=
  { gui with
    selectedCandidateIndex := some index
    selectedModelName :=
      if candidate.modelHints.length = 1 then candidate.modelHints.head? else none
    loadedEeprom := none
    selectedFixture := none
    usbOperationResult := none
    pendingUsbOperation := none }

/-- Select the fixture. -/
def selectFixture (index : Nat) : ReinkGui :=
  { gui with
    loadedEeprom := none
    selectedCandidateIndex := none
    selectedModelName := none
    selectedFixture := some index
    usbOperationResult := none
    pendingUsbOperation := none }

/-- The file that is chosen, and what reading it gives. -/
def openEepromFile : Option (String × Except String (List UInt8)) → ReinkGui
  | none => gui
  | some (_, .error error) =>
    { gui with fileError := some ("Unable to open EEPROM file: " ++ error) }
  | some (_, .ok []) => { gui with fileError := some "The selected EEPROM file is empty." }
  | some (path, .ok bytes) =>
    { gui with
      loadedEeprom := some ⟨path, bytes, 0, 0, none⟩
      selectedCandidateIndex := none
      selectedModelName := none
      selectedFixture := none
      fileError := none
      usbOperationResult := none
      pendingUsbOperation := none
      page := .eeprom }

/-- Choose the model of the device. -/
def selectUsbModel (model : String) : ReinkGui :=
  { gui with
    selectedModelName := some model
    usbOperationResult := none
    pendingUsbOperation := none }

/-- Choose the model of the file. -/
def selectFileModel (model : String) : ReinkGui :=
  { gui with loadedEeprom := gui.loadedEeprom.map fun file ↦ { file with model := some model } }

/-- A byte of the loaded image. Without one, a row of a fixture is selected. -/
def selectEepromAddress (address : Nat) : ReinkGui :=
  { gui with
    loadedEeprom := gui.loadedEeprom.map fun file ↦
      if file.startAddress ≤ address ∧ address - file.startAddress < file.bytes.length then
        { file with selectedOffset := address - file.startAddress }
      else file }

/-! ### The dialogs -/

/-- Open the dialog of a checked operation. -/
def openDialog (preflight : PendingPreflight) : ReinkGui :=
  { gui with pendingUsbOperation := some { preflight } }

/-- The dialog for the selected byte. Beside a selected candidate the viewer shows a loaded image
only. -/
def prepareSelectedWrite : Outcome Empty ReinkGui := do
  let file ← Outcome.orPanic gui.loadedEeprom "index out of bounds"
  let value ← Outcome.orPanic file.bytes[file.selectedOffset]? "index out of bounds"
  return gui.openDialog (.write
    ("0x" ++ upperHexadecimal 4 (file.startAddress + file.selectedOffset))
    ("0x" ++ upperHexadecimal 2 value.toNat))

/-- Type into the dialog. -/
def editDialog (edit : PendingUsbOperation → PendingUsbOperation) : ReinkGui :=
  { gui with pendingUsbOperation := gui.pendingUsbOperation.map edit }

/-- Close the dialog. -/
def closeDialog : ReinkGui := { gui with pendingUsbOperation := none }

/-- The specification that an open dialog is for. -/
def dialogSpec : Option EpsonSpec := (gui.selectedUsbModel catalog).bind catalog.get

end ReinkGui

/-- The update of a write dialog. -/
def writeUpdate (spec : EpsonSpec) (address value : String) : Except String (UInt16 × UInt8) := do
  let address ← parseU16Input address
  let value ← parseU8Input value
  if address < spec.memoryLow ∨ address > spec.memoryHigh then
    .error ("Address 0x" ++ upperHexadecimal 4 address.toNat ++
      " is outside the selected model range.")
  else .ok (address, value)

namespace PendingPreflight

/-- What has to be typed. -/
def confirmation : PendingPreflight → String
  | write _ _ => eepromWriteConfirmation
  | restore _ => eepromRestoreConfirmation
  | reset _ => eepromCounterResetConfirmation

/-- The check that is shown in the dialog. -/
def valid (spec : EpsonSpec) : PendingPreflight → Outcome Empty Bool
  | write address value => return (writeUpdate spec address value).toBool
  | restore restoreImage => return restoreImage.any fun preflight ↦ preflight.result.toBool
  | reset target =>
    match declaredCounterResetUpdates spec target with
    | .ok _ => .ok true
    | .err _ => .ok false
    | .panic message => .panic message
    | .running => .running

end PendingPreflight

namespace PendingUsbOperation

variable (pending : PendingUsbOperation) (spec : EpsonSpec) (nativeMutationSelected : Bool)

/-- The acknowledgement was typed in, where it is needed. -/
def acknowledged : Bool :=
  !nativeMutationSelected || confirmationMatches pending.nativeExperimentalAcknowledgement
    windowsNativeExperimentalMutationAcknowledgement

/-- Whether the dialog can be run. -/
def ready : Outcome Empty Bool := do
  let valid ← pending.preflight.valid spec
  return valid && pending.backupFile.isSome &&
    confirmationMatches pending.confirmation pending.preflight.confirmation &&
    pending.acknowledged nativeMutationSelected

/-- The request of the dialog, which relies on what has enabled it. -/
def dispatch : Outcome Empty UsbOperationRequest :=
  match pending.preflight with
  | .write address value => do
    let update ← Outcome.orPanic (writeUpdate spec address value).toOption
      "enabled only with a valid EEPROM update"
    let backupFile ← Outcome.orPanic pending.backupFile "enabled only after backup selection"
    return .write [update] backupFile (pending.acknowledged nativeMutationSelected)
  | .restore restoreImage => do
    let preflight ← Outcome.orPanic restoreImage "enabled only with a selected restore image"
    let image ← Outcome.orPanic preflight.result.toOption
      "enabled only with a valid restore image"
    let backupFile ← Outcome.orPanic pending.backupFile "enabled only after backup selection"
    return .restore image.bytes backupFile (pending.acknowledged nativeMutationSelected)
  | .reset target => do
    let backupFile ← Outcome.orPanic pending.backupFile "enabled only after backup selection"
    return .reset target backupFile (pending.acknowledged nativeMutationSelected)

end PendingUsbOperation

/-! ### Reports -/

/-- The session was shut down and the device closed. -/
def cleanupIsSuccessful (cleanup : UsbSessionCleanup) : Bool :=
  cleanup.d4Shutdown = .succeeded ∧ cleanup.usbClose = .succeeded

/-- The displayed status of one part of the cleanup. -/
def cleanupStatusLabel : UsbCleanupStatus → String
  | .notAttempted => "not attempted"
  | .succeeded => "succeeded"
  | .failed error => "failed (" ++ error ++ ")"

/-- The lines of the report on the cleanup. -/
def cleanupReportLines (cleanup : UsbSessionCleanup) : List String :=
  ["D4 shutdown: " ++ cleanupStatusLabel cleanup.d4Shutdown ++ ".",
    "USB cleanup: " ++ cleanupStatusLabel cleanup.usbClose ++ "."]

namespace UsbOperationSuccess

/-- The headline of a success, with the cleanup or without. -/
def headline : UsbOperationSuccess → Bool → String
  | status .., true => "Printer status completed"
  | status .., false => "Printer status read completed; cleanup needs attention"
  | dump .., true => "EEPROM dump saved"
  | dump .., false => "EEPROM dump saved; cleanup needs attention"
  | mutation action .., true => "EEPROM " ++ action ++ " completed"
  | mutation action .., false => "EEPROM " ++ action ++ " completed; cleanup needs attention"

/-- The lines of the report on a success. -/
def lines : UsbOperationSuccess → List String
  | status model responseBytes display =>
    ["Exact D4 identity/model match confirmed for " ++ model ++ ".",
      "Status response (" ++ toString responseBytes ++ " byte(s)): " ++ display]
  | dump image outputFile loadForDisplay =>
    ["Identity/model match confirmed.",
      "Saved " ++ toString image.bytes.length ++ " bytes (0x" ++
        upperHexadecimal 4 image.startAddress.toNat ++ "..=0x" ++
        upperHexadecimal 4 (image.startAddress.toNat + (image.bytes.length - 1)) ++ ") to " ++
        outputFile ++ ".",
      if loadForDisplay then "The saved image is available in the EEPROM pane."
      else "Native dumps are not loaded into the UI and their traffic is not captured."]
  | mutation _ model backupFile currentValues updateCount =>
    ["Identity/model match confirmed for " ++ model ++ ".",
      "Backup written to " ++ backupFile ++ ".",
      "Values before the write: " ++ formatCurrentValues currentValues ++ ".",
      "Read-back verified all " ++ toString updateCount ++ " byte(s); no rollback needed."]

end UsbOperationSuccess

/-- The report on an outcome. -/
def UsbOperationOutcome.report (outcome : UsbOperationOutcome) : UsbOperationResultReport :=
  match outcome.operation with
  | .ok success =>
    ⟨cleanupIsSuccessful outcome.cleanup, success.headline (cleanupIsSuccessful outcome.cleanup),
      success.lines ++ cleanupReportLines outcome.cleanup⟩
  | .error error =>
    ⟨false, "Selected-printer operation failed",
      [error, "If a write reached EEPROM, read-back verification and rollback were attempted; " ++
        "any rollback failure is reported above."] ++ cleanupReportLines outcome.cleanup⟩

/-- The image that an outcome gives the window to show. -/
def UsbOperationOutcome.image (outcome : UsbOperationOutcome) : Option LoadedEeprom :=
  match outcome.operation with
  | .ok (.dump image outputFile true) =>
    some ⟨outputFile, image.bytes, image.startAddress.toNat, 0, some image.model⟩
  | _ => none

namespace ReinkGui

variable (gui : ReinkGui)

/-- Append the record of an operation to the trace. -/
def appendRecordedTransportEvents (events : List TransportEvent) : ReinkGui :=
  { gui with debugTraffic := (gui.debugTraffic.appendCapturedEvents events).2 }

/-- The end of a poll that has received an outcome. -/
def takeOutcome (outcome : UsbOperationOutcome) : ReinkGui :=
  let gui := { gui with usbOperationReceiver := none }
  let gui := if outcome.events ≠ [] then gui.appendRecordedTransportEvents outcome.events else gui
  let gui := match outcome.image with
    | none => gui
    | some file =>
      { gui with
        loadedEeprom := some file
        selectedFixture := none
        fileError := none
        page := .eeprom }
  { gui with usbOperationResult := some outcome.report }

/-- The end of a poll that has received the result of a scan. -/
def takeScan : Except String (List DescriptorCandidate) → ReinkGui
  | .ok candidates =>
    { gui with
      usbScanReceiver := none
      usbCandidates := candidates
      selectedCandidateIndex := none
      selectedModelName := none
      usbScanStatus := .ready }
  | .error error => { gui with usbScanReceiver := none, usbScanStatus := .failed error }

end ReinkGui

end Reink
