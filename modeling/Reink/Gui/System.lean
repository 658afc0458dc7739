import Reink.Gui.Thread
import Reink.Gui.Window
import Reink.Library.Machine

/-!
# The window and its threads

The window hands scans and operations to threads and polls their channels. The steps of the system
are the polls, the actions of the user where they are offered, and the ends of threads, in any
order; what a thread finds and how its devices behave is arbitrary.
-/

namespace Reink

/-! ### Channels -/

/-- The channel of a thread: the thread is at work, has sent its result, or has stopped. -/
inductive Channel (α : Type) where
  | empty
  | full (a : α)
  | disconnected

theorem Channel.full_ne_empty {α : Type} (a : α) : full a ≠ empty := by
  intro h
  cases h

/-- What is received without waiting. -/
def Channel.tryRecv {α β : Type} (sent : α → β) (stopped : β) : Channel α → Option β
  | empty => none
  | full a => some (sent a)
  | disconnected => some stopped

theorem Channel.ne_empty_of_tryRecv {α β : Type} {sent : α → β} {stopped b : β}
    {channel : Channel α} (h : channel.tryRecv sent stopped = some b) : channel ≠ .empty := by
  rintro rfl
  cases h

/-- What an operation thread has come to, and the files it found. -/
structure OperationEnd (T F : Type) where
  files : F
  run : SelectedUsbSession (Journaled T) F UsbOperationSuccess

/-- A thread that was started for an operation. -/
structure OperationThread (T F : Type) where
  candidate : DescriptorCandidate
  expectedModel : String
  request : UsbOperationRequest
  recordTraffic : Bool
  channel : Channel (OperationEnd T F)

/-- What the window receives of a scan. -/
def scanResult : Channel (Except String (List DescriptorCandidate)) →
    Option (Except String (List DescriptorCandidate)) :=
  Channel.tryRecv id (.error "The USB descriptor scan stopped unexpectedly.")

/-- What the window receives of an operation. -/
def OperationThread.outcome {T F : Type} (thread : OperationThread T F) :
    Option UsbOperationOutcome :=
  thread.channel.tryRecv (·.run.outcome)
    ⟨.error "The selected-printer operation stopped unexpectedly.", .notAttempted, []⟩

/-- The window, and all threads that it has started, each with its number. -/
structure GuiSystem (T F : Type) where
  gui : ReinkGui
  scans : List (Channel (Except String (List DescriptorCandidate)))
  operations : List (OperationThread T F)

/-! ### Actions -/

/-- What the user does to the window alone. -/
inductive WindowAction where
  | navigateTo (page : Page)
  | selectUsbCandidate (index : Nat)
  | selectFixture (index : Nat)
  | openEepromFile (chosen : Option (String × Except String (List UInt8)))
  | selectUsbModel (model : String)
  | selectFileModel (model : String)
  | selectEepromAddress (address : Nat)
  | setCaptureEnabled (enabled : Bool)
  | clearTraffic
  | prepareSelectedWrite
  | prepare (preflight : PendingPreflight)
  | editDialog (edit : PendingUsbOperation → PendingUsbOperation)
  | closeDialog

/-- What the user does. The path of a dump is chosen in a dialog of the system. -/
inductive UserAction where
  | window (action : WindowAction)
  | refreshUsbCandidates
  | readPrinterStatus
  | saveEepromDump (outputFile : String)
  | runDialog

/-- The dialogs that a button opens, which are empty. -/
def PendingPreflight.IsBlank : PendingPreflight → Prop
  | write address value => address = "" ∧ value = ""
  | restore restoreImage => restoreImage = none
  | reset _ => True

/-- What can be typed and chosen in a dialog. It stays the dialog that it is. -/
inductive DialogEdit (spec : EpsonSpec) (nativeMutationSelected : Bool) :
    (PendingUsbOperation → PendingUsbOperation) → Prop where
  | address (text : String) : DialogEdit spec nativeMutationSelected fun pending ↦
    match pending.preflight with
    | .write _ value => { pending with preflight := .write text value }
    | _ => pending
  | value (text : String) : DialogEdit spec nativeMutationSelected fun pending ↦
    match pending.preflight with
    | .write address _ => { pending with preflight := .write address text }
    | _ => pending
  | restoreImage (file : RestoreImageFile) (path : String) (preflight : RestoreImagePreflight)
      (hchecked : preflightRestoreImage file path spec = .ok preflight) :
    DialogEdit spec nativeMutationSelected fun pending ↦
      match pending.preflight with
      | .restore _ => { pending with preflight := .restore (some preflight) }
      | _ => pending
  | backupFile (path : String) : DialogEdit spec nativeMutationSelected fun pending ↦
    { pending with backupFile := some path }
  | confirmation (text : String) : DialogEdit spec nativeMutationSelected fun pending ↦
    { pending with confirmation := text }
  | acknowledgement (text : String) (hnative : nativeMutationSelected = true) :
    DialogEdit spec nativeMutationSelected fun pending ↦
      { pending with nativeExperimentalAcknowledgement := text }

namespace ReinkGui

variable (catalog : ModelCatalog) (gui : ReinkGui)

/-- The viewer shows the bytes of an image or of a fixture. -/
def ViewerShown : Prop :=
  ¬ (gui.selectedUsbCandidate.isSome ∧ gui.loadedEeprom = none) ∧
    ¬ (gui.loadedEeprom = none ∧ gui.fixtureSelected = false)

/-- A button for an operation that reads. -/
def Enabled : Prop :=
  (gui.selectedUsbModel catalog).isSome ∧ gui.usbOperationInProgress = false

/-- A button for a dialog. -/
def MutationEnabled : Prop :=
  gui.Enabled catalog ∧
    gui.selectedUsbCandidate.any DescriptorCandidate.permitsPersistentMutation

/-- What the window offers. -/
def Offers : WindowAction → Prop
  | .navigateTo _ => True
  | .selectUsbCandidate index =>
    gui.usbOperationInProgress = false ∧ index < gui.usbCandidates.length
  | .selectFixture _ => gui.usbOperationInProgress = false ∧ gui.fixturesEnabled = true
  | .openEepromFile _ => gui.usbOperationInProgress = false
  | .selectUsbModel model => gui.page = .status ∧ gui.selectedUsbCandidate.isSome ∧
      gui.usbOperationInProgress = false ∧ model ∈ catalog.models
  | .selectFileModel model => gui.loadedEeprom.isSome ∧ gui.selectedUsbCandidate = none ∧
      model ∈ catalog.models
  | .selectEepromAddress _ => gui.page = .eeprom ∧ gui.ViewerShown
  | .setCaptureEnabled _ => True
  | .clearTraffic => 0 < gui.debugTraffic.count
  | .prepareSelectedWrite => gui.page = .eeprom ∧ gui.ViewerShown ∧ gui.MutationEnabled catalog
  | .prepare preflight => gui.page = .tools ∧ gui.MutationEnabled catalog ∧ preflight.IsBlank
  | .editDialog edit => gui.pendingUsbOperation.isSome ∧ ∃ spec,
      gui.dialogSpec catalog = some spec ∧ DialogEdit spec gui.nativeMutationSelected edit
  | .closeDialog => gui.pendingUsbOperation.isSome

def perform : WindowAction → Outcome Empty ReinkGui
  | .navigateTo page => return { gui with page := page }
  | .selectUsbCandidate index => do
    let candidate ← Outcome.orPanic gui.usbCandidates[index]? "index out of bounds"
    return gui.selectUsbCandidate index candidate
  | .selectFixture index => return gui.selectFixture index
  | .openEepromFile chosen => return gui.openEepromFile chosen
  | .selectUsbModel model => return gui.selectUsbModel model
  | .selectFileModel model => return gui.selectFileModel model
  | .selectEepromAddress address => return gui.selectEepromAddress address
  | .setCaptureEnabled enabled =>
    return { gui with debugTraffic := gui.debugTraffic.setCaptureEnabled enabled }
  | .clearTraffic => return { gui with debugTraffic := gui.debugTraffic.clear }
  | .prepareSelectedWrite => gui.prepareSelectedWrite
  | .prepare preflight => return gui.openDialog preflight
  | .editDialog edit => return gui.editDialog edit
  | .closeDialog => return gui.closeDialog

end ReinkGui

namespace GuiSystem

variable {T F : Type} (catalog : ModelCatalog) (s : GuiSystem T F)

/-- The system with another window. -/
def withGui (gui : ReinkGui) : GuiSystem T F := { s with gui := gui }

/-- A report in place of an operation. -/
def blocked (line : String) : GuiSystem T F :=
  s.withGui { s.gui with
    usbOperationResult := some ⟨false, "Selected-printer operation blocked", [line]⟩ }

/-- Start a scan, and forget the receiver of the one before. -/
def refreshUsbCandidates : GuiSystem T F :=
  { s with
    gui := { s.gui with usbScanReceiver := some s.scans.length, usbScanStatus := .scanning }
    scans := s.scans ++ [.empty] }

/-- Take the result of the scan, if it is there. -/
def pollUsbCandidates : GuiSystem T F :=
  match (s.gui.usbScanReceiver.bind (s.scans[·]?)).bind scanResult with
  | none => s
  | some result => s.withGui (s.gui.takeScan result)

/-- Take the outcome of the operation, if it is there. -/
def pollUsbOperation : GuiSystem T F :=
  match (s.gui.usbOperationReceiver.bind (s.operations[·]?)).bind OperationThread.outcome with
  | none => s
  | some outcome => s.withGui (s.gui.takeOutcome outcome)

/-- A dump through the stock driver of Windows is not recorded. -/
def nativeDump (candidate : DescriptorCandidate) : UsbOperationRequest → Bool
  | .dump _ => candidate.backend ≠ .libUsb
  | _ => false

/-- A new thread for the operation. -/
def spawnOperation (candidate : DescriptorCandidate) (expectedModel : String)
    (request : UsbOperationRequest) : GuiSystem T F :=
  let recordTraffic := s.gui.debugTraffic.captureEnabled && !nativeDump candidate request
  let debugTraffic :=
    if recordTraffic then s.gui.debugTraffic.beginOperation else s.gui.debugTraffic
  { s with
    gui := { s.gui with
      usbOperationReceiver := some s.operations.length
      usbOperationResult := none
      debugTraffic := debugTraffic }
    operations := s.operations ++ [⟨candidate, expectedModel, request, recordTraffic, .empty⟩] }

/-- Start the operation on the selected candidate, unless something is in the way. -/
def startSelectedUsbOperation (request : UsbOperationRequest) : GuiSystem T F :=
  if s.gui.usbOperationReceiver.isSome then s
  else if s.gui.usbScanStatus = .scanning then
    s.blocked "Wait for USB enumeration to finish before starting an operation."
  else
    match s.gui.selectedUsbCandidate with
    | none => s
    | some candidate =>
      if request.IsMutation ∧ ¬ candidate.permitsPersistentMutation then
        s.blocked "The selected backend does not permit persistent mutation."
      else
        match s.gui.selectedUsbModel catalog with
        | none => s.blocked ("Select one expected bundled model for the selected candidate " ++
            "before opening USB.")
        | some expectedModel => s.spawnOperation candidate expectedModel request

/-- The button of a dialog that runs it. The dialog is closed, whatever comes of the request. -/
def runDialog : Outcome Empty (GuiSystem T F) :=
  match s.gui.pendingUsbOperation, s.gui.dialogSpec catalog with
  | some pending, some spec => do
    let request ← pending.dispatch spec s.gui.nativeMutationSelected
    return (s.withGui s.gui.closeDialog).startSelectedUsbOperation catalog request
  | _, _ => return s

def Offers : UserAction → Prop
  | .window action => s.gui.Offers catalog action
  | .refreshUsbCandidates =>
    s.gui.usbScanStatus ≠ .scanning ∧ s.gui.usbOperationInProgress = false
  | .readPrinterStatus => s.gui.page = .status ∧ s.gui.Enabled catalog
  | .saveEepromDump _ => s.gui.page ≠ .eeprom ∧ s.gui.Enabled catalog
  | .runDialog => ∃ pending spec, s.gui.pendingUsbOperation = some pending ∧
      s.gui.dialogSpec catalog = some spec ∧
      pending.ready spec s.gui.nativeMutationSelected = .ok true

def perform : UserAction → Outcome Empty (GuiSystem T F)
  | .window action => do
    let gui ← s.gui.perform action
    return s.withGui gui
  | .refreshUsbCandidates => return s.refreshUsbCandidates
  | .readPrinterStatus => return s.startSelectedUsbOperation catalog .status
  | .saveEepromDump outputFile => return s.startSelectedUsbOperation catalog (.dump outputFile)
  | .runDialog => s.runDialog catalog

/-- What a scan can end with: the candidates of what the drivers list, or nothing. -/
inductive ScanEnds : Channel (Except String (List DescriptorCandidate)) → Prop where
  | sent (libusb : Except String (List UsbPrinterCandidate))
      (native : Option (Except String (List WindowsNativePrinterCandidate))) :
    ScanEnds (.full (scanDescriptorCandidates catalog libusb native))
  | stopped : ScanEnds .disconnected

/-- What an operation can end with: a run, on whatever devices and files it finds, or nothing. -/
inductive OperationEnds [UsbTransport T] [FileSystem F] [CharTables] (bound : Nat)
    (thread : OperationThread T F) : Channel (OperationEnd T F) → Prop where
  | sent (environment : UsbEnvironment T) (files : F)
      (run : SelectedUsbSession (Journaled T) F UsbOperationSuccess)
      (hrun : runSelectedUsbOperation bound (.ok catalog.database) environment.journaled
        thread.candidate thread.expectedModel thread.request thread.recordTraffic files = .ok run) :
    OperationEnds bound thread (.full ⟨files, run⟩)
  | stopped : OperationEnds bound thread .disconnected

end GuiSystem

/-- Who makes a step. -/
inductive GuiStep where
  | pollUsbCandidates
  | pollUsbOperation
  | user (action : UserAction)
  | scanEnds (thread : Nat)
  | operationEnds (thread : Nat)

/-- The window that is shown first, and its first scan. -/
def GuiSystem.initial {T F : Type} (fixturesEnabled : Bool) : GuiSystem T F :=
  refreshUsbCandidates
    { gui := ⟨.status, fixturesEnabled, if fixturesEnabled then some 0 else none, none, [], none,
        none, .unavailable, none, none, none, none, none, {}⟩
      scans := []
      operations := [] }

/-- The window beside its threads. -/
def guiMachine (T F : Type) [UsbTransport T] [FileSystem F] [CharTables] (bound : Nat)
    (catalog : ModelCatalog) : Machine (GuiSystem T F) GuiStep where
  start s := ∃ fixturesEnabled, s = .initial fixturesEnabled
  step
    | .pollUsbCandidates, s, s' => s' = s.pollUsbCandidates
    | .pollUsbOperation, s, s' => s' = s.pollUsbOperation
    | .user action, s, s' => s.Offers catalog action ∧ s.perform catalog action = .ok s'
    | .scanEnds thread, s, s' => s.scans[thread]? = some .empty ∧
        ∃ channel, GuiSystem.ScanEnds catalog channel ∧
          s' = { s with scans := s.scans.set thread channel }
    | .operationEnds i, s, s' => ∃ thread channel, s.operations[i]? = some thread ∧
        thread.channel = .empty ∧ GuiSystem.OperationEnds catalog bound thread channel ∧
        s' = { s with operations := s.operations.set i { thread with channel := channel } }

/-! ### What a step is -/

/-- The actions that open a dialog. -/
def WindowAction.OpensDialog : WindowAction → Prop
  | prepareSelectedWrite | prepare _ => True
  | _ => False

namespace ReinkGui

variable {catalog : ModelCatalog} {gui gui' : ReinkGui}

/-- What an action of the user leaves as it is. What is selected stays, or no operation is in
progress and there is no report and no dialog any more. -/
structure Acted (gui gui' : ReinkGui) (action : WindowAction) : Prop where
  scanReceiver : gui'.usbScanReceiver = gui.usbScanReceiver
  scanStatus : gui'.usbScanStatus = gui.usbScanStatus
  candidates : gui'.usbCandidates = gui.usbCandidates
  operationReceiver : gui'.usbOperationReceiver = gui.usbOperationReceiver
  traffic : gui'.debugTraffic = gui.debugTraffic ∨ gui'.debugTraffic = gui.debugTraffic.clear ∨
    ∃ enabled, gui'.debugTraffic = gui.debugTraffic.setCaptureEnabled enabled
  selection : (gui'.selectedCandidateIndex = gui.selectedCandidateIndex ∧
      gui'.selectedModelName = gui.selectedModelName ∧
      gui'.usbOperationResult = gui.usbOperationResult ∧
      (gui'.pendingUsbOperation.isSome → gui.pendingUsbOperation.isSome ∨ action.OpensDialog)) ∨
    gui.usbOperationReceiver = none ∧ gui'.usbOperationResult = none ∧
      gui'.pendingUsbOperation = none

theorem receiver_of_idle (h : gui.usbOperationInProgress = false) :
    gui.usbOperationReceiver = none := by
  simpa [usbOperationInProgress] using h

theorem acted_of_perform {action : WindowAction} (hoffers : gui.Offers catalog action)
    (h : gui.perform action = .ok gui') : gui.Acted gui' action := by
  cases action with
  | selectUsbCandidate index =>
    obtain ⟨candidate, -, heq⟩ := Outcome.bind_eq_ok.1 h
    cases heq
    exact ⟨rfl, rfl, rfl, rfl, .inl rfl, .inr ⟨receiver_of_idle hoffers.1, rfl, rfl⟩⟩
  | selectFixture index =>
    cases h
    exact ⟨rfl, rfl, rfl, rfl, .inl rfl, .inr ⟨receiver_of_idle hoffers.1, rfl, rfl⟩⟩
  | openEepromFile chosen =>
    cases h
    rcases chosen with _ | ⟨path, error | ⟨_ | ⟨byte, bytes⟩⟩⟩
    · exact ⟨rfl, rfl, rfl, rfl, .inl rfl, .inl ⟨rfl, rfl, rfl, .inl⟩⟩
    · exact ⟨rfl, rfl, rfl, rfl, .inl rfl, .inl ⟨rfl, rfl, rfl, .inl⟩⟩
    · exact ⟨rfl, rfl, rfl, rfl, .inl rfl, .inl ⟨rfl, rfl, rfl, .inl⟩⟩
    · exact ⟨rfl, rfl, rfl, rfl, .inl rfl, .inr ⟨receiver_of_idle hoffers, rfl, rfl⟩⟩
  | selectUsbModel model =>
    cases h
    exact ⟨rfl, rfl, rfl, rfl, .inl rfl, .inr ⟨receiver_of_idle hoffers.2.2.1, rfl, rfl⟩⟩
  | prepareSelectedWrite =>
    obtain ⟨file, -, h⟩ := Outcome.bind_eq_ok.1 h
    obtain ⟨value, -, h⟩ := Outcome.bind_eq_ok.1 h
    cases h
    exact ⟨rfl, rfl, rfl, rfl, .inl rfl, .inl ⟨rfl, rfl, rfl, fun _ ↦ .inr trivial⟩⟩
  | prepare preflight =>
    cases h
    exact ⟨rfl, rfl, rfl, rfl, .inl rfl, .inl ⟨rfl, rfl, rfl, fun _ ↦ .inr trivial⟩⟩
  | editDialog edit =>
    cases h
    exact ⟨rfl, rfl, rfl, rfl, .inl rfl, .inl ⟨rfl, rfl, rfl, fun _ ↦ .inl hoffers.1⟩⟩
  | closeDialog =>
    cases h
    exact ⟨rfl, rfl, rfl, rfl, .inl rfl, .inl ⟨rfl, rfl, rfl, fun hopen ↦ by cases hopen⟩⟩
  | setCaptureEnabled enabled =>
    cases h
    exact ⟨rfl, rfl, rfl, rfl, .inr (.inr ⟨enabled, rfl⟩), .inl ⟨rfl, rfl, rfl, .inl⟩⟩
  | clearTraffic =>
    cases h
    exact ⟨rfl, rfl, rfl, rfl, .inr (.inl rfl), .inl ⟨rfl, rfl, rfl, .inl⟩⟩
  | navigateTo _ | selectFileModel _ | selectEepromAddress _ =>
    cases h
    exact ⟨rfl, rfl, rfl, rfl, .inl rfl, .inl ⟨rfl, rfl, rfl, .inl⟩⟩

/-- What the end of an operation leaves as it is, and what becomes of its record and image. -/
structure Polled (gui : ReinkGui) (outcome : UsbOperationOutcome) (gui' : ReinkGui) : Prop where
  scanReceiver : gui'.usbScanReceiver = gui.usbScanReceiver
  scanStatus : gui'.usbScanStatus = gui.usbScanStatus
  candidates : gui'.usbCandidates = gui.usbCandidates
  index : gui'.selectedCandidateIndex = gui.selectedCandidateIndex
  model : gui'.selectedModelName = gui.selectedModelName
  pending : gui'.pendingUsbOperation = gui.pendingUsbOperation
  receiver : gui'.usbOperationReceiver = none
  traffic : gui'.debugTraffic = (gui.debugTraffic.appendCapturedEvents outcome.events).2
  loaded : gui'.loadedEeprom = outcome.image.or gui.loadedEeprom

theorem polled_takeOutcome (outcome : UsbOperationOutcome) :
    gui.Polled outcome (gui.takeOutcome outcome) := by
  unfold takeOutcome
  by_cases hevents : outcome.events = []
  · simp only [hevents, ne_eq, not_true_eq_false, if_false]
    rcases himage : outcome.image with _ | file
    · exact ⟨rfl, rfl, rfl, rfl, rfl, rfl, rfl, by rw [hevents]; rfl, by rw [himage]; rfl⟩
    · exact ⟨rfl, rfl, rfl, rfl, rfl, rfl, rfl, by rw [hevents]; rfl, by rw [himage]; rfl⟩
  · simp only [hevents, ne_eq, not_false_eq_true, if_true]
    rcases himage : outcome.image with _ | file
    · exact ⟨rfl, rfl, rfl, rfl, rfl, rfl, rfl, rfl, by rw [himage]; rfl⟩
    · exact ⟨rfl, rfl, rfl, rfl, rfl, rfl, rfl, rfl, by rw [himage]; rfl⟩

end ReinkGui

section Steps

variable {T F : Type} [UsbTransport T] [FileSystem F] [CharTables] {bound : Nat}
  {catalog : ModelCatalog} {s s' : GuiSystem T F} {label : GuiStep}

/-- A button asks for a request; the state is that in which it is started. -/
inductive GuiSystem.Requests (catalog : ModelCatalog) (s : GuiSystem T F) :
    UserAction → UsbOperationRequest → GuiSystem T F → Prop where
  | status : Requests catalog s .readPrinterStatus .status s
  | dump (outputFile : String) :
    Requests catalog s (.saveEepromDump outputFile) (.dump outputFile) s
  | dialog (pending : PendingUsbOperation) (spec : EpsonSpec) (request : UsbOperationRequest)
      (hpending : s.gui.pendingUsbOperation = some pending)
      (hspec : s.gui.dialogSpec catalog = some spec)
      (hready : pending.ready spec s.gui.nativeMutationSelected = .ok true)
      (hdispatch : pending.dispatch spec s.gui.nativeMutationSelected = .ok request) :
    Requests catalog s .runDialog request (s.withGui s.gui.closeDialog)

/-- A request can be started. -/
structure GuiSystem.Startable (catalog : ModelCatalog) (s : GuiSystem T F)
    (candidate : DescriptorCandidate) (expectedModel : String) (request : UsbOperationRequest) :
    Prop where
  idle : s.gui.usbOperationReceiver = none
  scanned : s.gui.usbScanStatus ≠ .scanning
  selected : s.gui.selectedUsbCandidate = some candidate
  expected : s.gui.selectedUsbModel catalog = some expectedModel
  permits : request.IsMutation → candidate.permitsPersistentMutation = true

/-- What a step does to the system. -/
inductive GuiSystem.Moved (bound : Nat) (catalog : ModelCatalog) (s : GuiSystem T F) :
    GuiStep → GuiSystem T F → Prop where
  | stays (label : GuiStep) : Moved bound catalog s label s
  | scanTaken (i : Nat) (channel : Channel (Except String (List DescriptorCandidate)))
      (result : Except String (List DescriptorCandidate))
      (hreceiver : s.gui.usbScanReceiver = some i) (hthread : s.scans[i]? = some channel)
      (hresult : scanResult channel = some result) :
    Moved bound catalog s .pollUsbCandidates (s.withGui (s.gui.takeScan result))
  | outcomeTaken (i : Nat) (thread : OperationThread T F) (outcome : UsbOperationOutcome)
      (hreceiver : s.gui.usbOperationReceiver = some i)
      (hthread : s.operations[i]? = some thread) (houtcome : thread.outcome = some outcome) :
    Moved bound catalog s .pollUsbOperation (s.withGui (s.gui.takeOutcome outcome))
  | window (action : WindowAction) (gui : ReinkGui) (hoffers : s.gui.Offers catalog action)
      (hperform : s.gui.perform action = .ok gui) :
    Moved bound catalog s (.user (.window action)) (s.withGui gui)
  | refreshed (hscanned : s.gui.usbScanStatus ≠ .scanning)
      (hidle : s.gui.usbOperationReceiver = none) :
    Moved bound catalog s (.user .refreshUsbCandidates) s.refreshUsbCandidates
  | unstarted (action : UserAction) (request : UsbOperationRequest) (asked : GuiSystem T F)
      (result : Option UsbOperationResultReport)
      (hrequests : s.Requests catalog action request asked)
      (hresult : result = s.gui.usbOperationResult ∨ ∃ headline lines,
        result = some ⟨false, headline, lines⟩) :
    Moved bound catalog s (.user action)
      (asked.withGui { asked.gui with usbOperationResult := result })
  | started (action : UserAction) (request : UsbOperationRequest) (asked : GuiSystem T F)
      (candidate : DescriptorCandidate) (expectedModel : String)
      (hrequests : s.Requests catalog action request asked)
      (hstartable : s.Startable catalog candidate expectedModel request) :
    Moved bound catalog s (.user action) (asked.spawnOperation candidate expectedModel request)
  | scanEnds (i : Nat) (channel : Channel (Except String (List DescriptorCandidate)))
      (hthread : s.scans[i]? = some .empty) (hends : GuiSystem.ScanEnds catalog channel) :
    Moved bound catalog s (.scanEnds i) { s with scans := s.scans.set i channel }
  | operationEnds (i : Nat) (thread : OperationThread T F)
      (channel : Channel (OperationEnd T F)) (hthread : s.operations[i]? = some thread)
      (hempty : thread.channel = .empty)
      (hends : GuiSystem.OperationEnds catalog bound thread channel) :
    Moved bound catalog s (.operationEnds i)
      { s with operations := s.operations.set i { thread with channel := channel } }

namespace GuiSystem

omit [UsbTransport T] [FileSystem F] [CharTables] in
/-- The start of a request, which changes the report at most if there is none. -/
theorem start_cases (catalog : ModelCatalog) (s : GuiSystem T F) (request : UsbOperationRequest) :
    (∃ candidate expectedModel, s.Startable catalog candidate expectedModel request ∧
      s.startSelectedUsbOperation catalog request =
        s.spawnOperation candidate expectedModel request) ∨
      ∃ result, (result = s.gui.usbOperationResult ∨ ∃ headline lines,
          result = some ⟨false, headline, lines⟩) ∧
        s.startSelectedUsbOperation catalog request =
          s.withGui { s.gui with usbOperationResult := result } := by
  unfold startSelectedUsbOperation
  split
  case isTrue => exact .inr ⟨_, .inl rfl, rfl⟩
  case isFalse hidle =>
    split
    case isTrue => exact .inr ⟨_, .inr ⟨_, _, rfl⟩, rfl⟩
    case isFalse hscanned =>
      split
      case h_1 => exact .inr ⟨_, .inl rfl, rfl⟩
      case h_2 candidate hcandidate =>
        split
        case isTrue => exact .inr ⟨_, .inr ⟨_, _, rfl⟩, rfl⟩
        case isFalse hpermits =>
          split
          case h_1 => exact .inr ⟨_, .inr ⟨_, _, rfl⟩, rfl⟩
          case h_2 expectedModel hmodel =>
            refine .inl ⟨candidate, expectedModel, ⟨?_, hscanned, hcandidate, hmodel, ?_⟩, rfl⟩
            · simpa using hidle
            · intro hmutation
              by_contra hforbidden
              exact hpermits ⟨hmutation, hforbidden⟩

omit [UsbTransport T] [FileSystem F] [CharTables] in
/-- The button of a request only starts it. -/
theorem Requests.gui_eq {action : UserAction} {request : UsbOperationRequest}
    {asked : GuiSystem T F} (h : s.Requests catalog action request asked) :
    asked = s ∨ asked = s.withGui s.gui.closeDialog := by
  cases h with
  | status => exact .inl rfl
  | dump outputFile => exact .inl rfl
  | dialog => exact .inr rfl

omit [UsbTransport T] [FileSystem F] [CharTables] in
theorem Requests.startable_iff {action : UserAction} {request : UsbOperationRequest}
    {asked : GuiSystem T F} (h : s.Requests catalog action request asked)
    {candidate : DescriptorCandidate} {expectedModel : String} :
    asked.Startable catalog candidate expectedModel request ↔
      s.Startable catalog candidate expectedModel request := by
  rcases h.gui_eq with rfl | rfl
  · exact .rfl
  · exact ⟨fun ⟨hidle, hscanned, hselected, hexpected, hpermits⟩ ↦
        ⟨hidle, hscanned, hselected, hexpected, hpermits⟩,
      fun ⟨hidle, hscanned, hselected, hexpected, hpermits⟩ ↦
        ⟨hidle, hscanned, hselected, hexpected, hpermits⟩⟩

/-- A request of a button, started or not. -/
theorem moved_of_request {action : UserAction} {request : UsbOperationRequest}
    {asked : GuiSystem T F} (h : s.Requests catalog action request asked) :
    s.Moved bound catalog (.user action) (asked.startSelectedUsbOperation catalog request) := by
  have hresult : asked.gui.usbOperationResult = s.gui.usbOperationResult := by
    rcases h.gui_eq with rfl | rfl <;> rfl
  rcases start_cases catalog asked request with
    ⟨candidate, expectedModel, hstartable, heq⟩ | ⟨result, hkept, heq⟩
  · rw [heq]
    exact .started action request asked candidate expectedModel h (h.startable_iff.1 hstartable)
  · rw [heq]
    rw [hresult] at hkept
    exact .unstarted action request asked result h hkept

theorem moved_of_pollUsbCandidates :
    s.Moved bound catalog .pollUsbCandidates s.pollUsbCandidates := by
  unfold pollUsbCandidates
  split
  case h_1 => exact .stays _
  case h_2 result hresult =>
    obtain ⟨channel, hchannel, hresult⟩ := Option.bind_eq_some_iff.1 hresult
    obtain ⟨i, hreceiver, hthread⟩ := Option.bind_eq_some_iff.1 hchannel
    exact .scanTaken i channel result hreceiver hthread hresult

theorem moved_of_pollUsbOperation :
    s.Moved bound catalog .pollUsbOperation s.pollUsbOperation := by
  unfold pollUsbOperation
  split
  case h_1 => exact .stays _
  case h_2 outcome houtcome =>
    obtain ⟨thread, hthread, houtcome⟩ := Option.bind_eq_some_iff.1 houtcome
    obtain ⟨i, hreceiver, hthread⟩ := Option.bind_eq_some_iff.1 hthread
    exact .outcomeTaken i thread outcome hreceiver hthread houtcome

end GuiSystem

/-- **Every step is one of these.** -/
theorem moved_of_step (h : (guiMachine T F bound catalog).step label s s') :
    s.Moved bound catalog label s' := by
  cases label with
  | pollUsbCandidates =>
    obtain rfl := h
    exact GuiSystem.moved_of_pollUsbCandidates
  | pollUsbOperation =>
    obtain rfl := h
    exact GuiSystem.moved_of_pollUsbOperation
  | scanEnds i =>
    obtain ⟨hthread, channel, hends, rfl⟩ := h
    exact .scanEnds i channel hthread hends
  | operationEnds i =>
    obtain ⟨thread, channel, hthread, hempty, hends, rfl⟩ := h
    exact .operationEnds i thread channel hthread hempty hends
  | user action =>
    obtain ⟨hoffers, hperform⟩ := h
    cases action with
    | window action =>
      obtain ⟨gui, hgui, heq⟩ := Outcome.bind_eq_ok.1 hperform
      cases heq
      exact .window action gui hoffers hgui
    | refreshUsbCandidates =>
      cases hperform
      exact .refreshed hoffers.1 (by simpa [ReinkGui.usbOperationInProgress] using hoffers.2)
    | readPrinterStatus =>
      cases hperform
      exact GuiSystem.moved_of_request .status
    | saveEepromDump outputFile =>
      cases hperform
      exact GuiSystem.moved_of_request (.dump outputFile)
    | runDialog =>
      obtain ⟨pending, spec, hpending, hspec, hready⟩ := hoffers
      simp only [GuiSystem.perform, GuiSystem.runDialog, hpending, hspec] at hperform
      obtain ⟨request, hdispatch, heq⟩ := Outcome.bind_eq_ok.1 hperform
      cases heq
      exact GuiSystem.moved_of_request
        (.dialog pending spec request hpending hspec hready hdispatch)

/-- The user does what is offered. -/
theorem reachable_of_user (h : (guiMachine T F bound catalog).Reachable s) (action : UserAction)
    (hoffers : s.Offers catalog action) (hperform : s.perform catalog action = .ok s') :
    (guiMachine T F bound catalog).Reachable s' :=
  h.step (show (guiMachine T F bound catalog).step (.user action) s s' from ⟨hoffers, hperform⟩)

/-! ### What an operation has ended with -/

namespace GuiSystem

omit [UsbTransport T] [FileSystem F] [CharTables] in
/-- A thread after a step that spawns one. -/
theorem mem_of_spawnOperation {candidate : DescriptorCandidate} {expectedModel : String}
    {request : UsbOperationRequest} {thread : OperationThread T F}
    (h : thread ∈ (s.spawnOperation candidate expectedModel request).operations) :
    thread ∈ s.operations ∨
      ∃ recordTraffic, thread = ⟨candidate, expectedModel, request, recordTraffic, .empty⟩ := by
  rcases List.mem_append.1 h with hold | hnew
  · exact .inl hold
  · exact .inr ⟨_, List.mem_singleton.1 hnew⟩

/-- The end of a thread is one of its own. -/
theorem OperationEnds.with_channel {thread : OperationThread T F}
    {channel : Channel (OperationEnd T F)} (h : OperationEnds catalog bound thread channel) :
    OperationEnds catalog bound { thread with channel := channel } channel := by
  cases h with
  | sent environment files run hrun => exact .sent environment files run hrun
  | stopped => exact .stopped

/-- A thread that is not at work has come to an end of an operation. -/
theorem operationEnds_of_reachable (h : (guiMachine T F bound catalog).Reachable s) :
    ∀ thread ∈ s.operations, thread.channel ≠ .empty →
      OperationEnds catalog bound thread thread.channel := by
  refine h.induction (P := fun s ↦ ∀ thread ∈ s.operations, thread.channel ≠ .empty →
    OperationEnds catalog bound thread thread.channel) ?_ ?_
  · rintro first ⟨fixturesEnabled, rfl⟩ thread hthread
    cases hthread
  intro label before after hreachable ih hstep thread hthread hended
  cases moved_of_step hstep with
  | stays => exact ih thread hthread hended
  | scanTaken => exact ih thread hthread hended
  | outcomeTaken => exact ih thread hthread hended
  | window => exact ih thread hthread hended
  | refreshed => exact ih thread hthread hended
  | scanEnds => exact ih thread hthread hended
  | unstarted action request asked result hrequests hresult =>
    rcases hrequests.gui_eq with rfl | rfl <;> exact ih thread hthread hended
  | started action request asked candidate expectedModel hrequests hstartable =>
    rcases mem_of_spawnOperation hthread with hold | ⟨recordTraffic, rfl⟩
    · rcases hrequests.gui_eq with rfl | rfl <;> exact ih thread hold hended
    · exact absurd rfl hended
  | operationEnds i ending channel hending hempty hends =>
    rcases List.mem_or_eq_of_mem_set hthread with hold | rfl
    · exact ih thread hold hended
    · exact hends.with_channel

end GuiSystem

end Steps

end Reink
