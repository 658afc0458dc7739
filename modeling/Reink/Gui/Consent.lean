import Reink.Gui.System

/-!
# What the user agrees to

A thread that writes was started by a dialog, in which the user typed the confirmation and chose the
backup file. While a dialog is open nothing else can be selected, so what it was opened for is what
it runs on.
-/

namespace Reink

/-! ### The dialog -/

namespace PendingUsbOperation

variable {pending : PendingUsbOperation} {spec : EpsonSpec} {native : Bool}

/-- A dialog that can be run is valid, confirmed and acknowledged, and has a backup file. -/
theorem ready_eq_ok_true (h : pending.ready spec native = .ok true) :
    pending.preflight.valid spec = .ok true ∧ pending.backupFile.isSome = true ∧
      confirmationMatches pending.confirmation pending.preflight.confirmation = true ∧
      pending.acknowledged native = true := by
  obtain ⟨valid, hvalid, heq⟩ := Outcome.bind_eq_ok.1 h
  have hall : (valid && pending.backupFile.isSome &&
      confirmationMatches pending.confirmation pending.preflight.confirmation &&
      pending.acknowledged native) = true := by simpa using heq
  simp only [Bool.and_eq_true] at hall
  obtain ⟨⟨⟨rfl, hbackup⟩, hconfirmed⟩, hacknowledged⟩ := hall
  exact ⟨hvalid, hbackup, hconfirmed, hacknowledged⟩

end PendingUsbOperation

/-- The steps that open a dialog. -/
def GuiStep.OpensDialog : GuiStep → Prop
  | user (.window action) => action.OpensDialog
  | _ => False

section Dialogs

variable {T F : Type} [UsbTransport T] [FileSystem F] [CharTables] {bound : Nat}
  {catalog : ModelCatalog} {s s' : GuiSystem T F} {label : GuiStep}

namespace GuiSystem

/-- The step has left what is selected, or nothing is selected behind it. -/
def SelectionKept (s s' : GuiSystem T F) : Prop :=
  s'.gui.selectedUsbCandidate = none ∨
    s'.gui.selectedUsbCandidate = s.gui.selectedUsbCandidate ∧
      s'.gui.selectedModelName = s.gui.selectedModelName

omit [UsbTransport T] [FileSystem F] [CharTables] in
theorem SelectionKept.trans {s'' : GuiSystem T F} (h : s.SelectionKept s')
    (h' : s'.SelectionKept s'') : s.SelectionKept s'' := by
  rcases h' with hnone | ⟨hcandidate, hmodel⟩
  · exact .inl hnone
  rcases h with hnone | ⟨hcandidate', hmodel'⟩
  · exact .inl (hcandidate.trans hnone)
  · exact .inr ⟨hcandidate.trans hcandidate', hmodel.trans hmodel'⟩

omit [UsbTransport T] [FileSystem F] [CharTables] in
theorem selectedUsbCandidate_congr {gui gui' : ReinkGui}
    (hcandidates : gui'.usbCandidates = gui.usbCandidates)
    (hindex : gui'.selectedCandidateIndex = gui.selectedCandidateIndex) :
    gui'.selectedUsbCandidate = gui.selectedUsbCandidate := by
  unfold ReinkGui.selectedUsbCandidate
  rw [hcandidates, hindex]

/-- **Beside an open dialog** nothing else gets selected, and it was open before if the step has not
opened it. -/
theorem Moved.dialog (h : s.Moved bound catalog label s')
    (hpending : s'.gui.pendingUsbOperation.isSome = true) :
    s.SelectionKept s' ∧ (s.gui.pendingUsbOperation.isSome = true ∨ label.OpensDialog) := by
  cases h with
  | stays _ => exact ⟨.inr ⟨rfl, rfl⟩, .inl hpending⟩
  | scanTaken i channel result hreceiver hthread hresult =>
    rcases result with error | candidates
    · exact ⟨.inr ⟨rfl, rfl⟩, .inl hpending⟩
    · exact ⟨.inl rfl, .inl hpending⟩
  | outcomeTaken i thread outcome hreceiver hthread houtcome =>
    have hpolled := s.gui.polled_takeOutcome outcome
    refine ⟨.inr ⟨selectedUsbCandidate_congr hpolled.candidates hpolled.index, hpolled.model⟩,
      .inl ?_⟩
    rwa [← hpolled.pending]
  | window action gui hoffers hperform =>
    have hacted := ReinkGui.acted_of_perform hoffers hperform
    rcases hacted.selection with ⟨hindex, hmodel, -, hopen⟩ | ⟨-, -, hnone⟩
    · exact ⟨.inr ⟨selectedUsbCandidate_congr hacted.candidates hindex, hmodel⟩, hopen hpending⟩
    · rw [show (s.withGui gui).gui = gui from rfl, hnone] at hpending
      cases hpending
  | refreshed hscanned hidle => exact ⟨.inr ⟨rfl, rfl⟩, .inl hpending⟩
  | unstarted action request asked result hrequests hresult =>
    rcases hrequests.gui_eq with rfl | rfl
    · exact ⟨.inr ⟨rfl, rfl⟩, .inl hpending⟩
    · cases hpending
  | started action request asked candidate expectedModel hrequests hstartable =>
    rcases hrequests.gui_eq with rfl | rfl
    · exact ⟨.inr ⟨rfl, rfl⟩, .inl hpending⟩
    · cases hpending
  | scanEnds i channel hthread hends => exact ⟨.inr ⟨rfl, rfl⟩, .inl hpending⟩
  | operationEnds i thread channel hthread hempty hends =>
    exact ⟨.inr ⟨rfl, rfl⟩, .inl hpending⟩

/-- A thread has been started with this number, for this candidate, model and request. -/
def HasStarted (i : Nat) (candidate : DescriptorCandidate) (expectedModel : String)
    (request : UsbOperationRequest) (recordTraffic : Bool) (s : GuiSystem T F) : Prop :=
  ∃ channel, s.operations[i]? = some ⟨candidate, expectedModel, request, recordTraffic, channel⟩

variable {i : Nat} {candidate : DescriptorCandidate} {expectedModel : String}
  {request : UsbOperationRequest} {recordTraffic : Bool}

omit [UsbTransport T] [FileSystem F] [CharTables] in
/-- A thread that was not there before is the last that was spawned. -/
theorem HasStarted.of_spawnOperation {candidate' : DescriptorCandidate} {expectedModel' : String}
    {request' : UsbOperationRequest}
    (h : (s.spawnOperation candidate' expectedModel' request').HasStarted i candidate expectedModel
      request recordTraffic) :
    s.HasStarted i candidate expectedModel request recordTraffic ∨
      candidate = candidate' ∧ expectedModel = expectedModel' ∧ request = request' ∧
        recordTraffic = (s.gui.debugTraffic.captureEnabled && !nativeDump candidate request) := by
  obtain ⟨channel, hthread⟩ := h
  simp only [spawnOperation] at hthread
  by_cases hbefore : i < s.operations.length
  · rw [List.getElem?_append_left hbefore] at hthread
    exact .inl ⟨channel, hthread⟩
  · rw [List.getElem?_append_right (Nat.le_of_not_lt hbefore)] at hthread
    cases List.mem_singleton.1 (List.mem_of_getElem? hthread)
    exact .inr ⟨rfl, rfl, rfl, rfl⟩

/-- Threads are started by buttons only. -/
theorem Moved.started_of_new (h : s.Moved bound catalog label s')
    (hthread : s'.HasStarted i candidate expectedModel request recordTraffic)
    (hnew : ¬ s.HasStarted i candidate expectedModel request recordTraffic) :
    ∃ action asked, label = .user action ∧ s.Requests catalog action request asked ∧
      s.Startable catalog candidate expectedModel request ∧
      recordTraffic = (s.gui.debugTraffic.captureEnabled && !nativeDump candidate request) := by
  cases h with
  | stays _ => exact absurd hthread hnew
  | scanTaken => exact absurd hthread hnew
  | outcomeTaken => exact absurd hthread hnew
  | window => exact absurd hthread hnew
  | refreshed => exact absurd hthread hnew
  | scanEnds => exact absurd hthread hnew
  | unstarted action request' asked result hrequests hresult =>
    rcases hrequests.gui_eq with rfl | rfl <;> exact absurd hthread hnew
  | started action request' asked candidate' expectedModel' hrequests hstartable =>
    rcases hthread.of_spawnOperation with hold | ⟨rfl, rfl, rfl, rfl⟩
    · rcases hrequests.gui_eq with rfl | rfl <;> exact absurd hold hnew
    · refine ⟨action, asked, rfl, hrequests, hstartable, ?_⟩
      rcases hrequests.gui_eq with rfl | rfl <;> rfl
  | operationEnds j thread channel hthread' hempty hends =>
    obtain ⟨channel', hthread⟩ := hthread
    refine absurd ?_ hnew
    rw [List.getElem?_set] at hthread
    split at hthread
    case isTrue hsame =>
      subst hsame
      split at hthread
      case isTrue =>
        cases hthread
        exact ⟨thread.channel, hthread'⟩
      case isFalse => cases hthread
    case isFalse => exact ⟨channel', hthread⟩

/-- The user has opened a dialog while the candidate and the model were selected, and has run it
while they were: it was open all the time between, and no other dialog was opened. -/
def Consented (bound : Nat) (catalog : ModelCatalog) (candidate : DescriptorCandidate)
    (expectedModel : String) (spec : EpsonSpec) (request : UsbOperationRequest)
    (pending : PendingUsbOperation) (s : GuiSystem T F) : Prop :=
  ∃ before opening opened confirmed started,
    (guiMachine T F bound catalog).Reachable before ∧ GuiStep.OpensDialog opening ∧
    (guiMachine T F bound catalog).step opening before opened ∧
    opened.gui.selectedUsbCandidate = some candidate ∧
    opened.gui.selectedModelName = some expectedModel ∧
    (guiMachine T F bound catalog).LeadsWithout GuiStep.OpensDialog
      (fun s ↦ s.gui.pendingUsbOperation.isSome = true) opened confirmed ∧
    confirmed.gui.selectedUsbCandidate = some candidate ∧
    confirmed.gui.selectedModelName = some expectedModel ∧
    confirmed.gui.pendingUsbOperation = some pending ∧
    pending.ready spec candidate.experimentalMutation = .ok true ∧
    pending.dispatch spec candidate.experimentalMutation = .ok request ∧
    (guiMachine T F bound catalog).step (.user .runDialog) confirmed started ∧
    (guiMachine T F bound catalog).Leads started s

theorem Consented.dialog {spec : EpsonSpec} {pending : PendingUsbOperation}
    (h : Consented bound catalog candidate expectedModel spec request pending s) :
    pending.ready spec candidate.experimentalMutation = .ok true ∧
      pending.dispatch spec candidate.experimentalMutation = .ok request := by
  obtain ⟨_, _, _, _, _, -, -, -, -, -, -, -, -, -, hready, hdispatch, -⟩ := h
  exact ⟨hready, hdispatch⟩

omit [UsbTransport T] [FileSystem F] [CharTables] in
theorem selectedModelName_eq_of_selectedUsbModel {gui : ReinkGui}
    (h : gui.selectedUsbModel catalog = some expectedModel) :
    gui.selectedModelName = some expectedModel := by
  unfold ReinkGui.selectedUsbModel at h
  split at h
  · cases h
  · exact (Option.filter_eq_some_iff.1 h).1

/-- A thread was started by a button. -/
theorem exists_start (h : (guiMachine T F bound catalog).Reachable s)
    (hthread : s.HasStarted i candidate expectedModel request recordTraffic) :
    ∃ before action asked after, (guiMachine T F bound catalog).Reachable before ∧
      before.Requests catalog action request asked ∧
      before.Startable catalog candidate expectedModel request ∧
      recordTraffic = (before.gui.debugTraffic.captureEnabled && !nativeDump candidate request) ∧
      (guiMachine T F bound catalog).step (.user action) before after ∧
      (guiMachine T F bound catalog).Leads after s := by
  obtain ⟨before, label, after, hbefore, hnew, hstep, hholds, hafter⟩ :=
    h.entered (P := (·.HasStarted i candidate expectedModel request recordTraffic)) (by
      rintro first ⟨fixturesEnabled, rfl⟩ ⟨channel, hnone⟩
      cases hnone) hthread
  obtain ⟨action, asked, rfl, hrequests, hstartable, hrecords⟩ :=
    (moved_of_step hstep).started_of_new hholds hnew
  exact ⟨before, action, asked, after, hbefore, hrequests, hstartable, hrecords, hstep, hafter⟩

end GuiSystem

end Dialogs

/-- The catalog of the simulated C90. -/
def ModelCatalog.c90 : ModelCatalog where
  database := .c90
  models := ["C90"]
  sorted := List.pairwise_singleton _ _
  mem_models model := by
    unfold ModelDatabase.get ModelDatabase.c90
    by_cases hmodel : model = "C90" <;> simp [hmodel]
  valid model spec h := by
    unfold ModelDatabase.get ModelDatabase.c90 at h
    by_cases hmodel : model = "C90"
    · simp only [hmodel, if_true] at h
      cases h
      refine ⟨by decide, fun key hkey ↦ by cases hkey; rfl, fun operation hmem ↦ ?_, nofun, .nil⟩
      simp only [IdentifiedPrinter.c90, EpsonSpec.c90, List.mem_cons, List.not_mem_nil,
        or_false] at hmem
      rcases hmem with rfl | rfl | rfl
      · exact ⟨by decide, .inr ⟨rfl, rfl⟩⟩
      · exact ⟨by decide, .inr ⟨rfl, rfl⟩⟩
      · exact ⟨by decide, .inl ⟨rfl, rfl⟩⟩
    · simp [hmodel] at h

/-- The window with the selected C90, on one of its pages and with one of its dialogs. -/
def ReinkGui.c90 (page : Page) (pending : Option PendingUsbOperation) : ReinkGui :=
  ⟨page, false, none, none, [.usb1], some 0, some "C90", .ready, none, none, none, none, pending,
    {}⟩

/-- The C90 is found and selected. -/
theorem exists_reachable_c90 {T F : Type} [UsbTransport T] [FileSystem F] [CharTables]
    (bound : Nat) :
    ∃ scans, (guiMachine T F bound .c90).Reachable ⟨.c90 .status none, scans, []⟩ := by
  have h₀ : (guiMachine T F bound .c90).Reachable (.initial false) := .of_start ⟨false, rfl⟩
  have h₁ := h₀.step (show (guiMachine T F bound .c90).step (.scanEnds 0) _ _ from
    ⟨rfl, .full (.ok [.usb1]), .sent (.ok [⟨0x04b8, 0x0005, 1, 2, 0, 0⟩]) none, rfl⟩)
  have h₂ := h₁.step (show (guiMachine T F bound .c90).step .pollUsbCandidates _ _ from rfl)
  have h₃ := reachable_of_user h₂ (.window (.selectUsbCandidate 0)) ⟨rfl, Nat.one_pos⟩ rfl
  have h₄ := reachable_of_user h₃ (.window (.selectUsbModel "C90"))
    ⟨rfl, rfl, rfl, List.mem_singleton.2 rfl⟩ rfl
  exact ⟨_, h₄⟩

/-- The confirmed write of the C90. -/
def PendingUsbOperation.c90 : PendingUsbOperation :=
  ⟨.write "0x0d" "0x55", some "backup.bin", eepromWriteConfirmation, ""⟩

/-- A write of the C90 is prepared and confirmed. -/
theorem exists_reachable_dialog_c90 {T F : Type} [UsbTransport T] [FileSystem F] [CharTables]
    (bound : Nat) :
    ∃ scans, (guiMachine T F bound .c90).Reachable
      ⟨.c90 .tools (some PendingUsbOperation.c90), scans, []⟩ := by
  obtain ⟨scans, h₀⟩ := exists_reachable_c90 (T := T) (F := F) bound
  have h₁ := reachable_of_user h₀ (.window (.navigateTo .tools)) trivial rfl
  have h₂ := reachable_of_user h₁ (.window (.prepare (.write "" "")))
    ⟨rfl, ⟨⟨rfl, rfl⟩, rfl⟩, ⟨rfl, rfl⟩⟩ rfl
  have h₃ := reachable_of_user h₂ (.window (.editDialog _)) ⟨rfl, _, rfl, .address "0x0d"⟩ rfl
  have h₄ := reachable_of_user h₃ (.window (.editDialog _)) ⟨rfl, _, rfl, .value "0x55"⟩ rfl
  have h₅ := reachable_of_user h₄ (.window (.editDialog _))
    ⟨rfl, _, rfl, .backupFile "backup.bin"⟩ rfl
  have h₆ := reachable_of_user h₅ (.window (.editDialog _))
    ⟨rfl, _, rfl, .confirmation eepromWriteConfirmation⟩ rfl
  exact ⟨scans, h₆⟩

theorem offers_runDialog_c90 {T F : Type}
    (scans : List (Channel (Except String (List DescriptorCandidate)))) :
    (⟨.c90 .tools (some PendingUsbOperation.c90), scans, []⟩ : GuiSystem T F).Offers .c90
      .runDialog := by
  have hready : PendingUsbOperation.c90.ready IdentifiedPrinter.c90.spec false = .ok true := by rfl
  exact ⟨PendingUsbOperation.c90, _, rfl, rfl, hready⟩

end Reink
