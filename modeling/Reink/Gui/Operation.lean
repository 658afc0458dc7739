import Reink.App.Mutation
import Reink.Gui.Candidate
import Reink.Gui.Inputs
import Reink.Gui.NativeRedaction
import Reink.Usb.Transport

/-!
# Operations on the selected printer

What a thread of the window does. The request is prepared for the expected model before anything is
opened; the identity of the printer has to be of this model; and a request that writes saves a
complete backup first.
-/

namespace Reink

open SessionOperation (session saveNewFile)

/-- What the window asks a thread for. -/
inductive UsbOperationRequest where
  | status
  | dump (outputFile : String)
  | write (updates : List (UInt16 × UInt8)) (backupFile : String)
      (nativeExperimentalAcknowledged : Bool)
  | restore (image : List UInt8) (backupFile : String) (nativeExperimentalAcknowledged : Bool)
  | reset (target : CounterResetTarget) (backupFile : String)
      (nativeExperimentalAcknowledged : Bool)
deriving DecidableEq, Repr

/-- The requests that write. -/
def UsbOperationRequest.IsMutation : UsbOperationRequest → Prop
  | status | dump _ => False
  | write .. | restore .. | reset .. => True

instance : DecidablePred UsbOperationRequest.IsMutation := fun request ↦ by
  cases request <;> unfold UsbOperationRequest.IsMutation <;> infer_instance

/-- What a successful operation has done. -/
inductive UsbOperationSuccess where
  | status (model : String) (responseBytes : Nat) (display : String)
  | dump (image : EepromImage) (outputFile : String) (loadForDisplay : Bool)
  | mutation (action model backupFile : String) (currentValues : List (UInt16 × UInt8))
      (updateCount : Nat)
deriving DecidableEq, Repr

/-- What an operation thread reports. -/
abbrev UsbOperationOutcome : Type := SelectedUsbSessionOutcome UsbOperationSuccess

/-! ### Preparing a request -/

/-- A request whose updates have been computed. -/
inductive PreparedRequest where
  | status
  | dump (outputFile : String)
  | mutation (action : String) (updates : List (UInt16 × UInt8)) (backupFile : String)
      (nativeExperimentalAcknowledged : Bool)
deriving DecidableEq, Repr

/-- The request for a model, whose updates are known. -/
def UsbOperationRequest.prepare (spec : EpsonSpec) :
    UsbOperationRequest → Outcome String PreparedRequest
  | status => return .status
  | dump outputFile => return .dump outputFile
  | write updates backupFile acknowledged =>
    return .mutation "write" updates backupFile acknowledged
  | restore image backupFile acknowledged => do
    let updates ← restoreEepromUpdates spec image
    return .mutation "restore" updates backupFile acknowledged
  | reset target backupFile acknowledged => do
    let updates ← declaredCounterResetUpdates spec target
    return .mutation target.displayName updates backupFile acknowledged

/-! ### On the session -/

section Operations

variable [CharTables] (expectedModel : String)

/-- An operation behind the check of the identity. -/
def identified {α : Type} (operation : SessionOperation α) : SessionOperation α := do
  let identity ← session .readIdentity ""
  Client.ofExcept (verifyExactModel identity expectedModel)
  operation

/-- The values that the backup has at the addresses of the updates. -/
def currentValues (plan : EepromWritePlan) : Except String (List (UInt16 × UInt8)) :=
  plan.updates.mapM fun (address, _) ↦
    Except.okOr ("complete backup did not contain " ++ EpsonError.showAddress address)
      ((plan.backup.valueAt address).map fun value ↦ (address, value))

/-- The status, behind what is done to the response. -/
def statusOperation (redact : List UInt8 → List UInt8) : SessionOperation UsbOperationSuccess :=
  identified expectedModel do
    let response ← session .readStatus ""
    let response := redact response
    return .status expectedModel response.length (displayStatusResponse response)

/-- Dump the memory range into a new file. -/
def dumpOperation (outputFile : String) (loadForDisplay : Bool) :
    SessionOperation UsbOperationSuccess :=
  identified expectedModel do
    let image ← session .dumpEeprom ""
    SessionOperation.newFile outputFile image.bytes "EEPROM image"
    return .dump image outputFile loadForDisplay

/-- A mutation through libusb. -/
def usbMutation (action backupFile : String) :
    GuardedMutation (List (UInt16 × UInt8)) UsbOperationSuccess where
  prepareFailure := "could not prepare EEPROM " ++ action ++ ": "
  inspect := currentValues
  backupKind := "EEPROM backup"
  saveFailure values error := error ++
    "; pre-write current values captured from the complete backup: " ++ formatCurrentValues values
  applyFailure values := "EEPROM " ++ action ++ " failed after capturing pre-write current values ("
    ++ formatCurrentValues values ++ "): "
  report plan values := .mutation action expectedModel backupFile values plan.updates.length

/-- A mutation through the stock driver of Windows. -/
def nativeMutation (action backupFile : String) :
    GuardedMutation (List (UInt16 × UInt8)) UsbOperationSuccess where
  prepareFailure := "could not prepare experimental EEPROM " ++ action ++ ": "
  inspect := currentValues
  backupKind := "experimental Windows native EEPROM backup"
  saveFailure _ error := error
  applyFailure _ := "experimental Windows native EEPROM " ++ action ++ " failed: "
  report plan values := .mutation action expectedModel backupFile values plan.updates.length

/-- The operation of a request. -/
def usbOperation : PreparedRequest → SessionOperation UsbOperationSuccess
  | .status => statusOperation expectedModel id
  | .dump outputFile => dumpOperation expectedModel outputFile true
  | .mutation action updates backupFile _ =>
    (usbMutation expectedModel action backupFile).operation (verifyExactModel · expectedModel)
      updates backupFile

end Operations

/-! ### The thread -/

/-- The answers of the system to the attempts to open a device. -/
structure UsbEnvironment (T : Type) where
  openUsb : UsbDeviceSelector → UsbInterfaceSelector → Except String T
  openNative : WindowsNativePrinterCandidate → Except String T

section Threads

variable {T F : Type} [UsbTransport T] [FileSystem F] [CharTables] (bound : Nat)
  (builtin : Except String ModelDatabase) (environment : UsbEnvironment T)

/-- What is reported before anything is opened. -/
def notOpened (error : String) (files : F) : SelectedUsbSession T F UsbOperationSuccess :=
  ⟨⟨.error error, .notAttempted, []⟩, none, files⟩

/-- An operation that reads, through the stock driver of Windows. Its record shows no serial
numbers. -/
def runNativeRead (native : WindowsNativePrinterCandidate) (spec : EpsonSpec)
    (operation : SessionOperation UsbOperationSuccess) (recordTraffic : Bool) (files : F) :
    Outcome Empty (SelectedUsbSession T F UsbOperationSuccess) := do
  let run ← withOpenedWindowsNativeEpsonSession bound (environment.openNative native) spec
    recordTraffic operation files
  let events ← Outcome.orPanic (redactNativeIdentitySerials run.outcome.events)
    "index out of bounds"
  return { run with outcome := { run.outcome with events := events } }

/-- A mutation through the stock driver of Windows. There is no record of it. -/
def runNativeMutation (native : WindowsNativePrinterCandidate) (spec : EpsonSpec)
    (expectedModel action : String) (updates : List (UInt16 × UInt8)) (backupFile : String)
    (nativeExperimentalAcknowledged : Bool) (files : F) :
    Outcome Empty (SelectedUsbSession T F UsbOperationSuccess) :=
  match requireNativeExperimentalMutationAcknowledgement nativeExperimentalAcknowledged with
  | .error error => return notOpened error files
  | .ok () => do
    let run ← withOpenedWindowsNativeEpsonSession bound (environment.openNative native) spec false
      ((nativeMutation expectedModel action backupFile).operation
        (verifyExactModel · expectedModel) updates backupFile) files
    return { run with outcome := { run.outcome with events := [] } }

/-- Run the request over the stock driver. -/
def runNativeOperation (native : WindowsNativePrinterCandidate) (spec : EpsonSpec)
    (expectedModel : String) (recordTraffic : Bool) (files : F) :
    PreparedRequest → Outcome Empty (SelectedUsbSession T F UsbOperationSuccess)
  | .mutation action updates backupFile acknowledged =>
    runNativeMutation bound environment native spec expectedModel action updates backupFile
      acknowledged files
  | .status =>
    -- the redaction always gives a buffer
    runNativeRead bound environment native spec (statusOperation expectedModel fun response ↦
      (redactIdentitySerialFields response).getD response) recordTraffic files
  | .dump outputFile =>
    runNativeRead bound environment native spec (dumpOperation expectedModel outputFile false)
      recordTraffic files

/-- The interface that a candidate of libusb names. -/
def DescriptorCandidate.selectors (candidate : DescriptorCandidate) :
    Option (UsbDeviceSelector × UsbInterfaceSelector) := do
  let busNumber ← candidate.busNumber
  let deviceAddress ← candidate.deviceAddress
  let interfaceNumber ← candidate.interfaceNumber
  let alternateSetting ← candidate.alternateSetting
  return (.atLocation candidate.vendorId candidate.productId busNumber deviceAddress,
    ⟨interfaceNumber, alternateSetting⟩)

/-- Run the request over the backend of the candidate. -/
def runPreparedRequest (candidate : DescriptorCandidate) (spec : EpsonSpec)
    (expectedModel : String) (recordTraffic : Bool) (request : PreparedRequest) (files : F) :
    Outcome Empty (SelectedUsbSession T F UsbOperationSuccess) :=
  match candidate.backend, candidate.selectors with
  | .libUsb, none =>
    return notOpened "libusb candidate is missing its required explicit selector" files
  | .libUsb, some (device, interface) =>
    withSelectedUsbEpsonSession bound (environment.openUsb device interface) spec recordTraffic
      (usbOperation expectedModel request) files
  | .windowsNative native, _ =>
    runNativeOperation bound environment native spec expectedModel recordTraffic files request

/-- Prepare the request and run it; what is missing is reported. -/
def runSelectedUsbOperation (candidate : DescriptorCandidate) (expectedModel : String)
    (request : UsbOperationRequest) (recordTraffic : Bool) (files : F) :
    Outcome Empty (SelectedUsbSession T F UsbOperationSuccess) :=
  match builtin with
  | .error error => return notOpened ("model database load failed: " ++ error) files
  | .ok database =>
    match database.get expectedModel with
    | none => return notOpened ("unknown selected expected model: " ++ expectedModel) files
    | some spec =>
      match request.prepare spec with
      | .err error => return notOpened error files
      | .panic message => .panic message
      | .running => .running
      | .ok request =>
        runPreparedRequest bound environment candidate spec expectedModel recordTraffic request
          files

end Threads

end Reink
