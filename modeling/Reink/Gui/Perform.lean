import Reink.Gui.Report

/-!
# What the window can do

What the window offers it does: no index is out of bounds and no expectation of a dialog fails. What
a dialog checks before it can be run holds of the request that it makes, also when the thread checks
it again, so no thread ends before it has got to its device.
-/

namespace Reink

/-! ### The checks of a dialog -/

/-- A loaded image has the byte that is selected. -/
def LoadedEeprom.Viewed (file : LoadedEeprom) : Prop := file.selectedOffset < file.bytes.length

/-- An image that the dialog shows as valid is one for the model. -/
def PendingPreflight.Checked (spec : EpsonSpec) : PendingPreflight → Prop
  | restore (some preflight) => ∀ image, preflight.result = .ok image →
      ∃ updates, restoreEepromUpdates spec image.bytes = .ok updates
  | _ => True

section Checks

variable {spec : EpsonSpec} {native : Bool}

theorem checked_of_preflightRestoreImage {file : RestoreImageFile} {path : String}
    {preflight : RestoreImagePreflight} (h : preflightRestoreImage file path spec = .ok preflight) :
    (PendingPreflight.restore (some preflight)).Checked spec := by
  intro image himage
  unfold preflightRestoreImage at h
  split at h
  case h_1 validated hvalidated =>
    cases h
    cases himage
    obtain ⟨updates, hupdates, -⟩ := restore_of_checkRestoreImage hvalidated
    exact ⟨updates, hupdates⟩
  case h_2 =>
    cases h
    cases himage
  case h_3 => cases h
  case h_4 => cases h

/-- What is chosen and typed in a dialog leaves it checked. -/
theorem DialogEdit.checked {edit : PendingUsbOperation → PendingUsbOperation}
    (h : DialogEdit spec native edit) {pending : PendingUsbOperation}
    (hchecked : pending.preflight.Checked spec) : (edit pending).preflight.Checked spec := by
  cases h with
  | address text =>
    rcases hpreflight : pending.preflight with ⟨_, _⟩ | _ | _
    · simp only [hpreflight]
      trivial
    · simpa only [hpreflight] using hchecked
    · simpa only [hpreflight] using hchecked
  | value text =>
    rcases hpreflight : pending.preflight with ⟨_, _⟩ | _ | _
    · simp only [hpreflight]
      trivial
    · simpa only [hpreflight] using hchecked
    · simpa only [hpreflight] using hchecked
  | restoreImage file path preflight hpreflight =>
    rcases hkind : pending.preflight with ⟨_, _⟩ | _ | _
    · simpa only [hkind] using hchecked
    · simp only [hkind]
      exact checked_of_preflightRestoreImage hpreflight
    · simpa only [hkind] using hchecked
  | backupFile path => exact hchecked
  | confirmation text => exact hchecked
  | acknowledgement text hnative => exact hchecked

/-- **A dialog that can be run makes a request**, and the thread can prepare it. -/
theorem PendingUsbOperation.dispatch_of_ready {pending : PendingUsbOperation}
    (hchecked : pending.preflight.Checked spec) (hready : pending.ready spec native = .ok true) :
    ∃ request prepared, pending.dispatch spec native = .ok request ∧
      request.prepare spec = .ok prepared := by
  obtain ⟨hvalid, hbackup, -, -⟩ := ready_eq_ok_true hready
  obtain ⟨backupFile, hbackup⟩ := Option.isSome_iff_exists.1 hbackup
  unfold dispatch
  rcases hpreflight : pending.preflight with ⟨address, value⟩ | restoreImage | target
  · rw [hpreflight] at hvalid
    rcases hupdate : writeUpdate spec address value with error | update
    · rw [PendingPreflight.valid, hupdate] at hvalid
      cases hvalid
    · refine ⟨.write [update] backupFile (pending.acknowledged native), _, ?_, rfl⟩
      exact Outcome.bind_eq_ok.2 ⟨update, Outcome.orPanic_eq_ok.2 (by rw [hupdate]; rfl),
        Outcome.bind_eq_ok.2 ⟨backupFile, Outcome.orPanic_eq_ok.2 hbackup, rfl⟩⟩
  · rw [hpreflight] at hvalid hchecked
    rcases restoreImage with _ | preflight
    · cases hvalid
    rcases hresult : preflight.result with error | image
    · simp only [PendingPreflight.valid, Option.any_some, hresult] at hvalid
      cases hvalid
    · obtain ⟨updates, hupdates⟩ := hchecked image hresult
      refine ⟨.restore image.bytes backupFile (pending.acknowledged native),
        .mutation "restore" updates backupFile (pending.acknowledged native), ?_, ?_⟩
      · exact Outcome.bind_eq_ok.2 ⟨preflight, rfl, Outcome.bind_eq_ok.2
          ⟨image, Outcome.orPanic_eq_ok.2 (by rw [hresult]; rfl),
            Outcome.bind_eq_ok.2 ⟨backupFile, Outcome.orPanic_eq_ok.2 hbackup, rfl⟩⟩⟩
      · rw [UsbOperationRequest.prepare, hupdates]
        rfl
  · rw [hpreflight] at hvalid
    rcases hupdates : declaredCounterResetUpdates spec target with updates | error | message | _
    · refine ⟨.reset target backupFile (pending.acknowledged native),
        .mutation target.displayName updates backupFile (pending.acknowledged native), ?_, ?_⟩
      · exact Outcome.bind_eq_ok.2 ⟨backupFile, Outcome.orPanic_eq_ok.2 hbackup, rfl⟩
      · rw [UsbOperationRequest.prepare, hupdates]
        rfl
    · rw [PendingPreflight.valid, hupdates] at hvalid
      cases hvalid
    · rw [PendingPreflight.valid, hupdates] at hvalid
      cases hvalid
    · rw [PendingPreflight.valid, hupdates] at hvalid
      cases hvalid

end Checks

/-! ### What the window keeps -/

/-- The loaded image has its selected byte, and the open dialog is checked for its model. -/
structure ReinkGui.Sound (catalog : ModelCatalog) (gui : ReinkGui) : Prop where
  viewed : ∀ file, gui.loadedEeprom = some file → file.Viewed
  checked : ∀ pending spec, gui.pendingUsbOperation = some pending →
    gui.dialogSpec catalog = some spec → pending.preflight.Checked spec

namespace ReinkGui

variable {catalog : ModelCatalog} {gui gui' : ReinkGui}

theorem dialogSpec_congr (hcandidate : gui'.selectedUsbCandidate = gui.selectedUsbCandidate)
    (hmodel : gui'.selectedModelName = gui.selectedModelName) :
    gui'.dialogSpec catalog = gui.dialogSpec catalog := by
  unfold dialogSpec selectedUsbModel
  rw [hcandidate, hmodel]

theorem dialogSpec_of_none (hnone : gui.selectedUsbCandidate = none) :
    gui.dialogSpec catalog = none := by
  unfold dialogSpec selectedUsbModel
  rw [hnone]
  rfl

/-- What keeps the selection, or the dialog of none, needs no new check. -/
theorem Sound.of_kept (h : gui.Sound catalog)
    (hviewed : ∀ file, gui'.loadedEeprom = some file → file.Viewed)
    (hpending : ∀ pending, gui'.pendingUsbOperation = some pending →
      gui.pendingUsbOperation = some pending)
    (hkept : gui'.selectedUsbCandidate = none ∨
      gui'.selectedUsbCandidate = gui.selectedUsbCandidate ∧
        gui'.selectedModelName = gui.selectedModelName) : gui'.Sound catalog := by
  refine ⟨hviewed, fun pending spec hopen hspec ↦ ?_⟩
  rcases hkept with hnone | ⟨hcandidate, hmodel⟩
  · rw [dialogSpec_of_none hnone] at hspec
    cases hspec
  · rw [dialogSpec_congr hcandidate hmodel] at hspec
    exact h.checked pending spec (hpending pending hopen) hspec

/-- Without a dialog only the image matters. -/
theorem sound_of_closed (hviewed : ∀ file, gui.loadedEeprom = some file → file.Viewed)
    (hclosed : gui.pendingUsbOperation = none) : gui.Sound catalog :=
  ⟨hviewed, fun pending spec hopen ↦ by rw [hclosed] at hopen; cases hopen⟩

theorem Sound.perform {action : WindowAction} (h : gui.Sound catalog)
    (hoffers : gui.Offers catalog action) (hperform : gui.perform action = .ok gui') :
    gui'.Sound catalog := by
  cases action with
  | selectUsbCandidate index =>
    obtain ⟨candidate, -, heq⟩ := Outcome.bind_eq_ok.1 hperform
    cases heq
    exact sound_of_closed nofun rfl
  | selectFixture index =>
    cases hperform
    exact sound_of_closed nofun rfl
  | openEepromFile chosen =>
    cases hperform
    rcases chosen with _ | ⟨path, error | ⟨_ | ⟨byte, bytes⟩⟩⟩
    · exact h
    · exact h.of_kept h.viewed (fun _ hopen ↦ hopen) (.inr ⟨rfl, rfl⟩)
    · exact h.of_kept h.viewed (fun _ hopen ↦ hopen) (.inr ⟨rfl, rfl⟩)
    · refine sound_of_closed ?_ rfl
      rintro file ⟨⟩
      exact Nat.succ_pos _
  | selectUsbModel model =>
    cases hperform
    exact sound_of_closed h.viewed rfl
  | selectFileModel model =>
    cases hperform
    refine h.of_kept (fun file hfile ↦ ?_) (fun _ hopen ↦ hopen) (.inr ⟨rfl, rfl⟩)
    obtain ⟨before, hbefore, rfl⟩ := Option.map_eq_some_iff.1 hfile
    exact h.viewed before hbefore
  | selectEepromAddress address =>
    cases hperform
    refine h.of_kept (fun file hfile ↦ ?_) (fun _ hopen ↦ hopen) (.inr ⟨rfl, rfl⟩)
    obtain ⟨before, hbefore, rfl⟩ := Option.map_eq_some_iff.1 hfile
    split
    case isTrue hinside => exact hinside.2
    case isFalse => exact h.viewed before hbefore
  | prepareSelectedWrite =>
    obtain ⟨file, -, hperform⟩ := Outcome.bind_eq_ok.1 hperform
    obtain ⟨value, -, hperform⟩ := Outcome.bind_eq_ok.1 hperform
    cases hperform
    refine ⟨h.viewed, ?_⟩
    rintro pending spec ⟨⟩ hspec
    trivial
  | prepare preflight =>
    cases hperform
    refine ⟨h.viewed, ?_⟩
    rintro pending spec ⟨⟩ hspec
    cases preflight with
    | write _ _ => trivial
    | restore restoreImage =>
      obtain rfl : restoreImage = none := hoffers.2.2
      trivial
    | reset _ => trivial
  | editDialog edit =>
    cases hperform
    -- A restore image was chosen for the model that is still selected.
    obtain ⟨-, spec, hspec, hedit⟩ := hoffers
    refine ⟨h.viewed, fun pending spec' hopen hspec' ↦ ?_⟩
    obtain ⟨before, hbefore, rfl⟩ := Option.map_eq_some_iff.1 hopen
    obtain rfl : spec = spec' := Option.some.inj (hspec.symm.trans hspec')
    exact hedit.checked (h.checked before spec hbefore hspec)
  | closeDialog =>
    cases hperform
    exact sound_of_closed h.viewed rfl
  | navigateTo _ | setCaptureEnabled _ | clearTraffic =>
    cases hperform
    exact h.of_kept h.viewed (fun _ hopen ↦ hopen) (.inr ⟨rfl, rfl⟩)

/-- What is offered is done. -/
theorem Sound.performs (h : gui.Sound catalog) {action : WindowAction}
    (hoffers : gui.Offers catalog action) : ∃ gui', gui.perform action = .ok gui' := by
  cases action with
  | selectUsbCandidate index =>
    obtain ⟨candidate, hcandidate⟩ : ∃ candidate, gui.usbCandidates[index]? = some candidate :=
      ⟨_, List.getElem?_eq_getElem hoffers.2⟩
    exact ⟨_, Outcome.bind_eq_ok.2 ⟨candidate, Outcome.orPanic_eq_ok.2 hcandidate, rfl⟩⟩
  | prepareSelectedWrite =>
    obtain ⟨-, ⟨hshown, -⟩, ⟨hmodel, -⟩, -⟩ := hoffers
    have hcandidate : gui.selectedUsbCandidate.isSome = true := by
      rcases hnone : gui.selectedUsbCandidate with _ | candidate
      · rw [selectedUsbModel, hnone] at hmodel
        cases hmodel
      · rfl
    rcases hfile : gui.loadedEeprom with _ | file
    · exact absurd ⟨hcandidate, hfile⟩ hshown
    · obtain ⟨value, hvalue⟩ : ∃ value, file.bytes[file.selectedOffset]? = some value :=
        ⟨_, List.getElem?_eq_getElem (h.viewed file hfile)⟩
      exact ⟨_, Outcome.bind_eq_ok.2 ⟨file, Outcome.orPanic_eq_ok.2 hfile,
        Outcome.bind_eq_ok.2 ⟨value, Outcome.orPanic_eq_ok.2 hvalue, rfl⟩⟩⟩
  | _ => exact ⟨_, rfl⟩

end ReinkGui

theorem EpsonSpec.length_addresses_pos {spec : EpsonSpec} (h : spec.Valid) :
    0 < spec.addresses.length := by
  rw [EpsonSpec.length_addresses h.memory]
  exact Nat.succ_pos _

section Runs

variable {T F : Type} [UsbTransport T] [FileSystem F] [CharTables] {bound : Nat}
  {catalog : ModelCatalog} {s s' : GuiSystem T F} {label : GuiStep}

namespace GuiSystem

/-- The image of a dump is that of a range, which is not empty. -/
theorem viewed_of_image {thread : OperationThread T F} {ended : OperationEnd T F}
    (hends : OperationEnds catalog bound thread (.full ended)) {file : LoadedEeprom}
    (hfile : UsbOperationOutcome.image ended.run.outcome = some file) : file.Viewed := by
  obtain @⟨environment, files, run, hrun⟩ := hends
  unfold UsbOperationOutcome.image at hfile
  split at hfile
  case h_2 => cases hfile
  case h_1 image outputFile hoperation =>
    cases hfile
    rcases runSelectedUsbOperation_cases hrun with ⟨⟨error, rfl⟩, -⟩ |
      ⟨spec, prepared, hget, hprepare, hran⟩
    · cases hoperation
    obtain ⟨-, haccurate⟩ := hran.accurate hoperation
    cases haccurate with
    | dump _ _ _ hmodel hstart hlength hsaved =>
      rw [LoadedEeprom.Viewed, hlength]
      exact EpsonSpec.length_addresses_pos (catalog.valid _ spec hget)

theorem Moved.sound (h : s.Moved bound catalog label s') (hsound : s.gui.Sound catalog)
    (hends : ∀ thread ∈ s.operations, thread.channel ≠ .empty →
      OperationEnds catalog bound thread thread.channel) : s'.gui.Sound catalog := by
  cases h with
  | stays => exact hsound
  | scanTaken i channel result hreceiver hthread hresult =>
    rcases result with error | candidates
    · exact hsound.of_kept hsound.viewed (fun _ hopen ↦ hopen) (.inr ⟨rfl, rfl⟩)
    · exact hsound.of_kept hsound.viewed (fun _ hopen ↦ hopen) (.inl rfl)
  | outcomeTaken i thread outcome hreceiver hthread houtcome =>
    have hpolled := s.gui.polled_takeOutcome outcome
    refine hsound.of_kept (fun file hfile ↦ ?_) (fun _ hopen ↦ hpolled.pending.symm.trans hopen)
      (.inr ⟨selectedUsbCandidate_congr hpolled.candidates hpolled.index, hpolled.model⟩)
    rcases OperationThread.channel_of_outcome houtcome with ⟨ended, hended, rfl⟩ | ⟨error, rfl⟩
    · have hend := hends thread (List.mem_of_getElem? hthread)
        (Channel.ne_empty_of_tryRecv houtcome)
      rw [hended] at hend
      rcases Option.or_eq_some_iff.1 (hpolled.loaded.symm.trans hfile) with himage | ⟨-, hold⟩
      · exact viewed_of_image hend himage
      · exact hsound.viewed file hold
    · exact hsound.viewed file (hpolled.loaded.symm.trans hfile)
  | window action gui hoffers hperform => exact hsound.perform hoffers hperform
  | refreshed => exact hsound.of_kept hsound.viewed (fun _ hopen ↦ hopen) (.inr ⟨rfl, rfl⟩)
  | unstarted action request asked result hrequests hresult =>
    rcases hrequests.gui_eq with rfl | rfl
    · exact hsound.of_kept hsound.viewed (fun _ hopen ↦ hopen) (.inr ⟨rfl, rfl⟩)
    · exact ReinkGui.sound_of_closed hsound.viewed rfl
  | started action request asked candidate expectedModel hrequests hstartable =>
    rcases hrequests.gui_eq with rfl | rfl
    · exact hsound.of_kept hsound.viewed (fun _ hopen ↦ hopen) (.inr ⟨rfl, rfl⟩)
    · exact ReinkGui.sound_of_closed hsound.viewed rfl
  | scanEnds => exact hsound
  | operationEnds => exact hsound

theorem sound_of_reachable (h : (guiMachine T F bound catalog).Reachable s) :
    s.gui.Sound catalog := by
  refine h.induction (P := fun s ↦ s.gui.Sound catalog) ?_ ?_
  · rintro first ⟨fixturesEnabled, rfl⟩
    exact ReinkGui.sound_of_closed nofun rfl
  · intro label before after hreachable ih hstep
    exact (moved_of_step hstep).sound ih (operationEnds_of_reachable hreachable)

end GuiSystem

end Runs

/-- **What the window offers it does.** In every state that the window and its threads come to, an
action that is offered is performed to its end: no index is out of bounds and no expectation of a
dialog fails. In an open dialog every file that is chosen is checked to an end, and a dialog that
can be run makes a request that the thread can prepare for the expected model: what the window has
checked is not refused. -/
theorem guiMachine_performs {T F : Type} [UsbTransport T] [FileSystem F] [CharTables]
    {bound : Nat} {catalog : ModelCatalog} {s : GuiSystem T F}
    (h : (guiMachine T F bound catalog).Reachable s) :
    (∀ action, s.Offers catalog action → ∃ s', s.perform catalog action = .ok s') ∧
      ∀ pending spec, s.gui.pendingUsbOperation = some pending →
        s.gui.dialogSpec catalog = some spec →
        (∀ file path, ∃ preflight, preflightRestoreImage file path spec = .ok preflight) ∧
        (pending.ready spec s.gui.nativeMutationSelected = .ok true →
          ∃ request prepared,
            pending.dispatch spec s.gui.nativeMutationSelected = .ok request ∧
            request.prepare spec = .ok prepared) := by
  have hsound := GuiSystem.sound_of_reachable h
  refine ⟨fun action hoffers ↦ ?_, fun pending spec hopen hspec ↦ ⟨?_, fun hready ↦
    PendingUsbOperation.dispatch_of_ready (hsound.checked pending spec hopen hspec) hready⟩⟩
  swap
  · obtain ⟨model, -, hget⟩ := Option.bind_eq_some_iff.1 hspec
    exact exists_preflightRestoreImage (catalog.valid model spec hget).memory
  cases action with
  | window action =>
    obtain ⟨gui, hgui⟩ := hsound.performs hoffers
    exact ⟨_, Outcome.bind_eq_ok.2 ⟨gui, hgui, rfl⟩⟩
  | runDialog =>
    obtain ⟨pending, spec, hopen, hspec, hready⟩ := hoffers
    obtain ⟨request, prepared, hdispatch, -⟩ :=
      PendingUsbOperation.dispatch_of_ready (hsound.checked pending spec hopen hspec) hready
    refine ⟨(s.withGui s.gui.closeDialog).startSelectedUsbOperation catalog request, ?_⟩
    simp only [GuiSystem.perform, GuiSystem.runDialog, hopen, hspec]
    exact Outcome.bind_eq_ok.2 ⟨request, hdispatch, rfl⟩
  | refreshUsbCandidates | readPrinterStatus | saveEepromDump _ => exact ⟨_, rfl⟩

/-- The prepared write of the C90 can be run. -/
theorem guiMachine_performs_of_c90 :
    letI := CharTables.ascii
    ∃ s : GuiSystem (WritablePrinter .c90) MemoryFiles, (guiMachine _ _ 300 .c90).Reachable s ∧
      s.Offers .c90 .runDialog ∧ ∃ s', s.perform .c90 .runDialog = .ok s' := by
  let _ := CharTables.ascii
  obtain ⟨scans, h⟩ :=
    exists_reachable_dialog_c90 (T := WritablePrinter .c90) (F := MemoryFiles) 300
  obtain ⟨hperforms, -⟩ := guiMachine_performs h
  have hoffers := offers_runDialog_c90 (T := WritablePrinter .c90) (F := MemoryFiles) scans
  exact ⟨_, h, hoffers, hperforms .runDialog hoffers⟩

end Reink
