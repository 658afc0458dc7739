import Reink.Gui.Consent

/-!
# One thread at a time

The window has started many threads, and waits for the one that is at work: a scan or an operation,
never two of them. What is selected stays selected until the outcome of the operation is taken, so a
success that is reported is one of the selected printer.
-/

namespace Reink

section Threads

variable {T F : Type} [UsbTransport T] [FileSystem F] [CharTables] {bound : Nat}
  {catalog : ModelCatalog} {s s' : GuiSystem T F} {label : GuiStep}

namespace GuiSystem

/-- The window agrees with its threads. -/
structure Consistent (s : GuiSystem T F) : Prop where
  scanning : s.gui.usbScanStatus = .scanning ↔ s.gui.usbScanReceiver.isSome = true
  scan : ∀ i, s.scans[i]? = some .empty → s.gui.usbScanReceiver = some i
  operation : ∀ i thread, s.operations[i]? = some thread → thread.channel = .empty →
    s.gui.usbOperationReceiver = some i
  awaited : ∀ i, s.gui.usbOperationReceiver = some i → s.gui.usbScanReceiver = none ∧
    ∃ thread, s.operations[i]? = some thread ∧
      s.gui.selectedUsbCandidate = some thread.candidate ∧
      s.gui.selectedModelName = some thread.expectedModel

omit [UsbTransport T] [FileSystem F] [CharTables]

/-- Beside no scan the scan receiver is empty. -/
theorem Consistent.receiver_of_scanned (h : s.Consistent)
    (hscanned : s.gui.usbScanStatus ≠ .scanning) : s.gui.usbScanReceiver = none := by
  by_contra hsome
  exact hscanned (h.scanning.2 (Option.isSome_iff_ne_none.2 hsome))

/-- Only the report and the dialog have changed. -/
theorem Consistent.withReport (h : s.Consistent) (result : Option UsbOperationResultReport)
    (pending : Option PendingUsbOperation) :
    (s.withGui { s.gui with
      usbOperationResult := result, pendingUsbOperation := pending }).Consistent :=
  ⟨h.scanning, h.scan, h.operation, h.awaited⟩

theorem Consistent.takeScan (h : s.Consistent) {i : Nat}
    {channel : Channel (Except String (List DescriptorCandidate))}
    (hreceiver : s.gui.usbScanReceiver = some i) (hthread : s.scans[i]? = some channel)
    (hended : channel ≠ .empty) (result : Except String (List DescriptorCandidate)) :
    (s.withGui (s.gui.takeScan result)).Consistent := by
  -- Beside an awaited operation there is no scan, and none is left behind the one that is taken.
  have hnone : ∀ j, s.gui.usbOperationReceiver ≠ some j := by
    intro j hj
    rw [(h.awaited j hj).1] at hreceiver
    cases hreceiver
  have hscan : ∀ j : Nat, s.scans[j]? ≠ some .empty := by
    intro j hj
    obtain rfl := Option.some.inj (hreceiver.symm.trans (h.scan j hj))
    exact hended (Option.some.inj (hthread.symm.trans hj))
  rcases result with error | candidates
  · exact ⟨iff_of_false (by intro h; cases h) (by intro h; cases h),
      fun j hj ↦ absurd hj (hscan j), h.operation, fun j hj ↦ absurd hj (hnone j)⟩
  · exact ⟨iff_of_false (by intro h; cases h) (by intro h; cases h),
      fun j hj ↦ absurd hj (hscan j), h.operation, fun j hj ↦ absurd hj (hnone j)⟩

theorem Consistent.takeOutcome (h : s.Consistent) {i : Nat} {thread : OperationThread T F}
    (hreceiver : s.gui.usbOperationReceiver = some i) (hthread : s.operations[i]? = some thread)
    (hended : thread.channel ≠ .empty) (outcome : UsbOperationOutcome) :
    (s.withGui (s.gui.takeOutcome outcome)).Consistent := by
  have hpolled := s.gui.polled_takeOutcome outcome
  refine ⟨?_, fun j hj ↦ hpolled.scanReceiver.trans (h.scan j hj), ?_, ?_⟩
  · show (s.gui.takeOutcome outcome).usbScanStatus = _ ↔ _
    rw [hpolled.scanStatus, h.scanning, ← hpolled.scanReceiver]
    rfl
  · intro j other hother hempty
    obtain rfl := Option.some.inj (hreceiver.symm.trans (h.operation j other hother hempty))
    obtain rfl := Option.some.inj (hthread.symm.trans hother)
    exact absurd hempty hended
  · intro j hj
    cases hpolled.receiver.symm.trans hj

theorem Consistent.act (h : s.Consistent) {action : WindowAction} {gui : ReinkGui}
    (hacted : s.gui.Acted gui action) : (s.withGui gui).Consistent := by
  refine ⟨?_, fun j hj ↦ hacted.scanReceiver.trans (h.scan j hj),
    fun j thread hthread hempty ↦
      hacted.operationReceiver.trans (h.operation j thread hthread hempty), ?_⟩
  · show gui.usbScanStatus = _ ↔ _
    rw [hacted.scanStatus, h.scanning, ← hacted.scanReceiver]
    rfl
  · intro j hj
    have hbefore : s.gui.usbOperationReceiver = some j := hacted.operationReceiver.symm.trans hj
    obtain ⟨hscan, thread, hthread, hcandidate, hmodel⟩ := h.awaited j hbefore
    rcases hacted.selection with ⟨hindex, hname, -, -⟩ | ⟨hidle, -, -⟩
    · exact ⟨hacted.scanReceiver.trans hscan, thread, hthread,
        (selectedUsbCandidate_congr hacted.candidates hindex).trans hcandidate, hname.trans hmodel⟩
    · cases hidle.symm.trans hbefore

theorem Consistent.refresh (h : s.Consistent) (hscanned : s.gui.usbScanStatus ≠ .scanning)
    (hidle : s.gui.usbOperationReceiver = none) : s.refreshUsbCandidates.Consistent := by
  refine ⟨iff_of_true rfl rfl, ?_, h.operation, fun j hj ↦ ?_⟩
  · intro j hj
    by_cases hbefore : j < s.scans.length
    · have hempty : s.scans[j]? = some .empty :=
        (List.getElem?_append_left hbefore).symm.trans hj
      cases (h.receiver_of_scanned hscanned).symm.trans (h.scan j hempty)
    · -- the new scan, which the receiver is of
      have hlength : j < (s.scans ++ [Channel.empty]).length := List.getElem?_eq_some_iff.1 hj |>.1
      rw [List.length_append, List.length_singleton] at hlength
      exact congrArg some (by omega)
  · cases hidle.symm.trans hj

theorem Consistent.spawn (h : s.Consistent) {candidate : DescriptorCandidate}
    {expectedModel : String} {request : UsbOperationRequest}
    (hstartable : s.Startable catalog candidate expectedModel request) :
    (s.spawnOperation candidate expectedModel request).Consistent := by
  refine ⟨h.scanning, h.scan, ?_, ?_⟩
  · intro j thread hj hempty
    by_cases hbefore : j < s.operations.length
    · have hold : s.operations[j]? = some thread :=
        (List.getElem?_append_left hbefore).symm.trans hj
      cases hstartable.idle.symm.trans (h.operation j thread hold hempty)
    · have hlength := (List.getElem?_eq_some_iff.1 hj).1
      simp only [spawnOperation, List.length_append, List.length_singleton] at hlength
      exact congrArg some (by omega)
  · rintro j ⟨⟩
    exact ⟨h.receiver_of_scanned hstartable.scanned, _, List.getElem?_concat_length,
      hstartable.selected, selectedModelName_eq_of_selectedUsbModel hstartable.expected⟩

theorem ScanEnds.ne_empty {channel : Channel (Except String (List DescriptorCandidate))}
    (h : ScanEnds catalog channel) : channel ≠ .empty := by
  rintro rfl
  cases h

theorem Consistent.endScan (h : s.Consistent) (i : Nat)
    {channel : Channel (Except String (List DescriptorCandidate))} (hended : channel ≠ .empty) :
    ({ s with scans := s.scans.set i channel } : GuiSystem T F).Consistent := by
  refine ⟨h.scanning, fun j hj ↦ ?_, h.operation, h.awaited⟩
  rw [List.getElem?_set] at hj
  split at hj
  case isTrue =>
    split at hj
    case isTrue => exact absurd (Option.some.inj hj) hended
    case isFalse => cases hj
  case isFalse => exact h.scan j hj

theorem Consistent.endOperation (h : s.Consistent) {i : Nat} {thread : OperationThread T F}
    (hthread : s.operations[i]? = some thread) {channel : Channel (OperationEnd T F)}
    (hended : channel ≠ .empty) :
    ({ s with operations := s.operations.set i { thread with channel := channel } } :
      GuiSystem T F).Consistent := by
  refine ⟨h.scanning, h.scan, fun j other hother hempty ↦ ?_, fun j hj ↦ ?_⟩
  · simp only [List.getElem?_set] at hother
    split at hother
    case isTrue =>
      split at hother
      case isTrue =>
        obtain rfl := Option.some.inj hother
        exact absurd hempty hended
      case isFalse => cases hother
    case isFalse => exact h.operation j other hother hempty
  · obtain ⟨hscan, other, hother, hselected⟩ := h.awaited j hj
    refine ⟨hscan, ?_⟩
    by_cases hsame : i = j
    · subst hsame
      obtain rfl := Option.some.inj (hthread.symm.trans hother)
      have hlength := (List.getElem?_eq_some_iff.1 hthread).1
      exact ⟨_, List.getElem?_set_self hlength, hselected⟩
    · exact ⟨other, (List.getElem?_set_ne hsame).trans hother, hselected⟩

theorem consistent_initial (fixturesEnabled : Bool) :
    (initial fixturesEnabled : GuiSystem T F).Consistent := by
  refine ⟨iff_of_true rfl rfl, ?_, ?_, ?_⟩
  · intro i hi
    have hlength := (List.getElem?_eq_some_iff.1 hi).1
    exact congrArg some (Nat.lt_one_iff.1 hlength).symm
  · intro i thread hi
    cases hi
  · intro i hi
    cases hi

end GuiSystem

theorem GuiSystem.OperationEnds.ne_empty {thread : OperationThread T F}
    {channel : Channel (OperationEnd T F)}
    (h : GuiSystem.OperationEnds catalog bound thread channel) : channel ≠ .empty := by
  rintro rfl
  cases h

/-- A step keeps the window in agreement with its threads. -/
theorem GuiSystem.Moved.consistent (h : s.Moved bound catalog label s')
    (hconsistent : s.Consistent) : s'.Consistent := by
  cases h with
  | stays => exact hconsistent
  | scanTaken i channel result hreceiver hthread hresult =>
    exact hconsistent.takeScan hreceiver hthread (Channel.ne_empty_of_tryRecv hresult) result
  | outcomeTaken i thread outcome hreceiver hthread houtcome =>
    exact hconsistent.takeOutcome hreceiver hthread (Channel.ne_empty_of_tryRecv houtcome) outcome
  | window action gui hoffers hperform =>
    exact hconsistent.act (ReinkGui.acted_of_perform hoffers hperform)
  | refreshed hscanned hidle => exact hconsistent.refresh hscanned hidle
  | unstarted action request asked result hrequests hresult =>
    rcases hrequests.gui_eq with rfl | rfl
    · exact hconsistent.withReport result _
    · exact hconsistent.withReport result none
  | started action request asked candidate expectedModel hrequests hstartable =>
    have hasked : asked.Consistent := by
      rcases hrequests.gui_eq with rfl | rfl
      · exact hconsistent
      · exact hconsistent.withReport _ none
    exact hasked.spawn (hrequests.startable_iff.2 hstartable)
  | scanEnds i channel hthread hends => exact hconsistent.endScan i hends.ne_empty
  | operationEnds i thread channel hthread hempty hends =>
    exact hconsistent.endOperation hthread hends.ne_empty

/-- **The window agrees with its threads** in every state that they come to. -/
theorem GuiSystem.consistent_of_reachable (h : (guiMachine T F bound catalog).Reachable s) :
    s.Consistent := by
  refine h.induction (P := GuiSystem.Consistent) ?_ ?_
  · rintro first ⟨fixturesEnabled, rfl⟩
    exact GuiSystem.consistent_initial fixturesEnabled
  · intro label before after hreachable ih hstep
    exact (moved_of_step hstep).consistent ih

/-! ### Until the outcome is taken -/

namespace GuiSystem

variable {i : Nat}

/-- The window waits for an operation until it takes its outcome. -/
theorem Moved.receiver (h : s.Moved bound catalog label s')
    (hawaited : s.gui.usbOperationReceiver = some i) :
    s'.gui.usbOperationReceiver = some i ∨
      ∃ thread outcome, label = .pollUsbOperation ∧ s.operations[i]? = some thread ∧
        thread.outcome = some outcome ∧ s' = s.withGui (s.gui.takeOutcome outcome) := by
  cases h with
  | stays => exact .inl hawaited
  | scanTaken j channel result hreceiver hthread hresult =>
    rcases result with error | candidates <;> exact .inl hawaited
  | outcomeTaken j thread outcome hreceiver hthread houtcome =>
    obtain rfl := Option.some.inj (hreceiver.symm.trans hawaited)
    exact .inr ⟨thread, outcome, rfl, hthread, houtcome, rfl⟩
  | window action gui hoffers hperform =>
    exact .inl ((ReinkGui.acted_of_perform hoffers hperform).operationReceiver.trans hawaited)
  | refreshed => exact .inl hawaited
  | unstarted action request asked result hrequests hresult =>
    rcases hrequests.gui_eq with rfl | rfl <;> exact .inl hawaited
  | started action request asked candidate expectedModel hrequests hstartable =>
    cases hstartable.idle.symm.trans hawaited
  | scanEnds => exact .inl hawaited
  | operationEnds => exact .inl hawaited

/-- It never waits for the same operation again. -/
theorem Moved.receiver_ne (h : s.Moved bound catalog label s') (hold : i < s.operations.length)
    (hdone : s.gui.usbOperationReceiver ≠ some i) :
    i < s'.operations.length ∧ s'.gui.usbOperationReceiver ≠ some i := by
  cases h with
  | stays => exact ⟨hold, hdone⟩
  | scanTaken j channel result hreceiver hthread hresult =>
    rcases result with error | candidates <;> exact ⟨hold, hdone⟩
  | outcomeTaken j thread outcome hreceiver hthread houtcome =>
    refine ⟨hold, fun hawaited ↦ ?_⟩
    cases (s.gui.polled_takeOutcome outcome).receiver.symm.trans hawaited
  | window action gui hoffers hperform =>
    refine ⟨hold, fun hawaited ↦ hdone ?_⟩
    exact (ReinkGui.acted_of_perform hoffers hperform).operationReceiver.symm.trans hawaited
  | refreshed => exact ⟨hold, hdone⟩
  | unstarted action request asked result hrequests hresult =>
    rcases hrequests.gui_eq with rfl | rfl <;> exact ⟨hold, hdone⟩
  | started action request asked candidate expectedModel hrequests hstartable =>
    -- The number of the new thread is larger than that of every thread before it.
    have hlength : asked.operations = s.operations := by
      rcases hrequests.gui_eq with rfl | rfl <;> rfl
    rw [← hlength] at hold
    refine ⟨?_, fun hawaited ↦ hold.ne (Option.some.inj hawaited).symm⟩
    rw [spawnOperation, List.length_append]
    exact Nat.lt_add_right _ hold
  | scanEnds => exact ⟨hold, hdone⟩
  | operationEnds j thread channel hthread hempty hends =>
    exact ⟨by rwa [List.length_set], hdone⟩

theorem receiver_ne_of_leads (h : (guiMachine T F bound catalog).Leads s s')
    (hold : i < s.operations.length) (hdone : s.gui.usbOperationReceiver ≠ some i) :
    s'.gui.usbOperationReceiver ≠ some i := by
  have hboth : i < s'.operations.length ∧ s'.gui.usbOperationReceiver ≠ some i := by
    induction h with
    | refl => exact ⟨hold, hdone⟩
    | tail _ hlast ih =>
      obtain ⟨label, hlast⟩ := hlast
      exact (moved_of_step hlast).receiver_ne ih.1 ih.2
  exact hboth.2

/-- Between the states, a poll has taken the outcome of the operation. -/
def Taken (bound : Nat) (catalog : ModelCatalog) (i : Nat) (s s' : GuiSystem T F) : Prop :=
  ∃ before after thread outcome, (guiMachine T F bound catalog).Leads s before ∧
    before.gui.usbOperationReceiver = some i ∧ before.operations[i]? = some thread ∧
    thread.outcome = some outcome ∧
    (guiMachine T F bound catalog).step .pollUsbOperation before after ∧
    after = before.withGui (before.gui.takeOutcome outcome) ∧
    (guiMachine T F bound catalog).Leads after s'

end GuiSystem

end Threads

/-- **One thread at a time.** While an operation is at work, no other operation is and no scan is,
the window waits for it, and what it was started for is still selected. -/
theorem guiMachine_excludes {T F : Type} [UsbTransport T] [FileSystem F] [CharTables]
    {bound : Nat} {catalog : ModelCatalog} {s : GuiSystem T F}
    (h : (guiMachine T F bound catalog).Reachable s) {i : Nat} {thread : OperationThread T F}
    (hthread : s.operations[i]? = some thread) (hempty : thread.channel = .empty) :
    s.gui.usbOperationReceiver = some i ∧
      (∀ j other, s.operations[j]? = some other → other.channel = .empty → j = i) ∧
      (∀ channel ∈ s.scans, channel ≠ .empty) ∧
      s.gui.selectedUsbCandidate = some thread.candidate ∧
      s.gui.selectedModelName = some thread.expectedModel := by
  have hconsistent := GuiSystem.consistent_of_reachable h
  have hawaited := hconsistent.operation i thread hthread hempty
  obtain ⟨hnone, other, hother, hselected⟩ := hconsistent.awaited i hawaited
  obtain rfl := Option.some.inj (hthread.symm.trans hother)
  refine ⟨hawaited, fun j other hother hempty' ↦ ?_, fun channel hchannel hscan ↦ ?_, hselected⟩
  · exact Option.some.inj ((hconsistent.operation j other hother hempty').symm.trans hawaited)
  · obtain ⟨j, hj⟩ := List.mem_iff_getElem?.1 hchannel
    cases hnone.symm.trans (hconsistent.scan j (hscan ▸ hj))

/-- A dump of the C90 is at work. -/
theorem exists_reachable_dump_c90 {T F : Type} [UsbTransport T] [FileSystem F] [CharTables]
    (bound : Nat) :
    ∃ scans, (guiMachine T F bound .c90).Reachable
      ⟨{ ReinkGui.c90 .status none with usbOperationReceiver := some 0 }, scans,
        [⟨.usb1, "C90", .dump "image.bin", false, .empty⟩]⟩ := by
  obtain ⟨scans, h⟩ := exists_reachable_c90 (T := T) (F := F) bound
  exact ⟨scans, reachable_of_user h (.saveEepromDump "image.bin") ⟨nofun, rfl, rfl⟩ rfl⟩

/-- Beside the dump of the C90 there is no other operation and no scan. -/
theorem guiMachine_excludes_of_c90 :
    letI := CharTables.ascii
    ∃ s : GuiSystem (WritablePrinter .c90) MemoryFiles, (guiMachine _ _ 300 .c90).Reachable s ∧
      s.gui.usbOperationReceiver = some 0 ∧ ∀ channel ∈ s.scans, channel ≠ .empty := by
  let _ := CharTables.ascii
  obtain ⟨scans, h⟩ := exists_reachable_dump_c90 (T := WritablePrinter .c90) (F := MemoryFiles) 300
  obtain ⟨hawaited, -, hscans, -⟩ := guiMachine_excludes h (i := 0) rfl rfl
  exact ⟨_, h, hawaited, hscans⟩

/-- **An outcome is taken, and once.** Behind a state in which the window waits for an operation, it
waits for it in the states before a poll has taken its outcome, and in no other. -/
theorem guiMachine_delivers {T F : Type} [UsbTransport T] [FileSystem F] [CharTables]
    {bound : Nat} {catalog : ModelCatalog} {s s' : GuiSystem T F} {i : Nat}
    (hawaited : s.gui.usbOperationReceiver = some i)
    (hleads : (guiMachine T F bound catalog).Leads s s') :
    s'.gui.usbOperationReceiver = some i ↔ ¬ GuiSystem.Taken bound catalog i s s' := by
  refine ⟨fun hwaits htaken ↦ ?_, fun hnot ↦ ?_⟩
  · obtain ⟨before, after, thread, outcome, -, -, hthread, -, -, rfl, hafter⟩ := htaken
    refine GuiSystem.receiver_ne_of_leads hafter (List.getElem?_eq_some_iff.1 hthread).1 ?_ hwaits
    intro hagain
    cases (before.gui.polled_takeOutcome outcome).receiver.symm.trans hagain
  · induction hleads with
    | refl => exact hawaited
    | @tail before after hbefore hlast ih =>
      obtain ⟨label, hlast⟩ := hlast
      have hwaits : before.gui.usbOperationReceiver = some i := by
        refine ih fun ⟨asked, taken, thread, outcome, hasked, hwaited, hthread, houtcome, hpoll,
          htaken, hsince⟩ ↦ hnot ?_
        exact ⟨asked, taken, thread, outcome, hasked, hwaited, hthread, houtcome, hpoll, htaken,
          hsince.tail ⟨label, hlast⟩⟩
      rcases (moved_of_step hlast).receiver hwaits with
        hstill | ⟨thread, outcome, rfl, hthread, houtcome, rfl⟩
      · exact hstill
      · exact absurd ⟨before, _, thread, outcome, hbefore, hwaits, hthread, houtcome, hlast, rfl,
          .refl⟩ hnot

/-- The memory of the simulated C90 is dumped. -/
theorem exists_dumpRun_c90 :
    letI := CharTables.ascii
    let printer := WritablePrinter.idle .c90 fun address ↦ address.toUInt8
    ∃ run, runSelectedUsbOperation 300 (.ok .c90) (UsbEnvironment.ofUsb printer).journaled .usb1
        "C90" (.dump "image.bin") false (⟨[]⟩ : MemoryFiles) = .ok run ∧
      (UsbOperationOutcome.report run.outcome).success = true := by
  let _ := CharTables.ascii
  intro printer
  have hdumped : (runSelectedUsbOperation 300 (.ok .c90) (UsbEnvironment.ofUsb printer).journaled
      .usb1 "C90" (.dump "image.bin") false (⟨[]⟩ : MemoryFiles)).any
        (fun run ↦ (UsbOperationOutcome.report run.outcome).success) = true := by
    decide +kernel
  exact Outcome.any_iff.1 hdumped

/-- A dump of the C90 ends, and its outcome is taken and reported. -/
theorem exists_leads_dumped_c90 {T F : Type} [UsbTransport T] [FileSystem F] [CharTables]
    {bound : Nat} {environment : UsbEnvironment T} {files : F}
    {run : SelectedUsbSession (Journaled T) F UsbOperationSuccess}
    (hrun : runSelectedUsbOperation bound (.ok .c90) environment.journaled .usb1 "C90"
      (.dump "image.bin") false files = .ok run) :
    ∃ s s' : GuiSystem T F, (guiMachine T F bound .c90).Reachable s ∧
      s.gui.usbOperationReceiver = some 0 ∧ (guiMachine T F bound .c90).Leads s s' ∧
      s'.gui.usbOperationReceiver = none ∧
      s'.gui.usbOperationResult = some (UsbOperationOutcome.report run.outcome) ∧
      s'.operations = [⟨.usb1, "C90", .dump "image.bin", false, .full ⟨files, run⟩⟩] := by
  obtain ⟨scans, h⟩ := exists_reachable_dump_c90 (T := T) (F := F) bound
  let started : GuiSystem T F :=
    ⟨{ ReinkGui.c90 .status none with usbOperationReceiver := some 0 }, scans,
      [⟨.usb1, "C90", .dump "image.bin", false, .empty⟩]⟩
  let ended : GuiSystem T F :=
    { started with operations := [⟨.usb1, "C90", .dump "image.bin", false, .full ⟨files, run⟩⟩] }
  have hended : (guiMachine T F bound .c90).step (.operationEnds 0) started ended :=
    ⟨⟨.usb1, "C90", .dump "image.bin", false, .empty⟩, .full ⟨files, run⟩, rfl, rfl,
      .sent environment files run hrun, rfl⟩
  have hpolled : (guiMachine T F bound .c90).step .pollUsbOperation ended ended.pollUsbOperation :=
    rfl
  exact ⟨started, _, h, rfl, (Relation.ReflTransGen.single ⟨_, hended⟩).tail ⟨_, hpolled⟩,
    (ended.gui.polled_takeOutcome run.outcome).receiver, rfl, rfl⟩

/-- The dump of the simulated C90 succeeds, and the window takes and reports its outcome. -/
theorem guiMachine_delivers_of_c90 :
    letI := CharTables.ascii
    ∃ s s' : GuiSystem (WritablePrinter .c90) MemoryFiles, ∃ report,
      (guiMachine _ _ 300 .c90).Reachable s ∧ s.gui.usbOperationReceiver = some 0 ∧
      (guiMachine _ _ 300 .c90).Leads s s' ∧ s'.gui.usbOperationResult = some report ∧
      report.success = true ∧ GuiSystem.Taken 300 .c90 0 s s' := by
  let _ := CharTables.ascii
  obtain ⟨run, hrun, hsuccess⟩ := exists_dumpRun_c90
  obtain ⟨s, s', hreachable, hawaited, hleads, htaken, hreport, -⟩ := exists_leads_dumped_c90 hrun
  refine ⟨s, s', _, hreachable, hawaited, hleads, hreport, hsuccess, ?_⟩
  by_contra hnot
  cases htaken.symm.trans ((guiMachine_delivers hawaited hleads).2 hnot)

end Reink
