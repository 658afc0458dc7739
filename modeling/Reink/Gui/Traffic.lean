import Reink.Gui.Report

/-!
# What traffic the window shows

Only threads that were started with the capture enabled hand on a record, and its transfers are
decoded on their own. So an entry of the list shows one transfer of one such thread.
-/

namespace Reink

section Traffic

variable {T F : Type} [UsbTransport T] [FileSystem F] [CharTables] {bound : Nat}
  {catalog : ModelCatalog} {s s' : GuiSystem T F} {label : GuiStep}

namespace GuiSystem

/-- The entry shows a transfer of a thread that has ended. -/
structure Traces (s : GuiSystem T F) (entry : DebugTrafficEntry) (thread : OperationThread T F)
    (ended : OperationEnd T F) (direction : DebugTrafficDirection)
    (transfer : ReassembledTransfer) : Prop where
  started : thread ∈ s.operations
  recorded : thread.recordTraffic = true
  channel : thread.channel = .full ended
  decoded : transfer ∈ transfersOf direction ended.run.outcome.events
  shows : entry.Shows transfer

/-- The list is bounded and shows transfers of threads; the decoders are fresh beside a thread that
records. -/
structure Tracing (s : GuiSystem T F) : Prop where
  bounded : s.gui.debugTraffic.count ≤ debugTrafficMaxEntries
  traced : ∀ entry ∈ s.gui.debugTraffic.entries, ∃ thread ended direction transfer,
    s.Traces entry thread ended direction transfer
  fresh : ∀ i thread, s.gui.usbOperationReceiver = some i → s.operations[i]? = some thread →
    thread.recordTraffic = true → s.gui.debugTraffic.Fresh

omit [UsbTransport T] [FileSystem F] [CharTables]

theorem Traces.mono {entry : DebugTrafficEntry} {thread : OperationThread T F}
    {ended : OperationEnd T F} {direction : DebugTrafficDirection} {transfer : ReassembledTransfer}
    (h : s.Traces entry thread ended direction transfer)
    (hended : ∀ thread ∈ s.operations, thread.channel ≠ .empty → thread ∈ s'.operations) :
    s'.Traces entry thread ended direction transfer := by
  refine ⟨hended thread h.started ?_, h.recorded, h.channel, h.decoded, h.shows⟩
  rw [h.channel]
  exact Channel.full_ne_empty ended

/-- What keeps the traffic and the ended threads, and waits for no other thread. -/
theorem Tracing.mono (h : s.Tracing) (htraffic : s'.gui.debugTraffic = s.gui.debugTraffic)
    (hended : ∀ thread ∈ s.operations, thread.channel ≠ .empty → thread ∈ s'.operations)
    (hawaited : ∀ i thread, s'.gui.usbOperationReceiver = some i →
      s'.operations[i]? = some thread → s.gui.usbOperationReceiver = some i ∧
        ∃ other, s.operations[i]? = some other ∧ other.recordTraffic = thread.recordTraffic) :
    s'.Tracing := by
  refine ⟨htraffic ▸ h.bounded, fun entry hentry ↦ ?_, fun i thread hi hthread hrecorded ↦ ?_⟩
  · obtain ⟨thread, ended, direction, transfer, htraces⟩ := h.traced entry (htraffic ▸ hentry)
    exact ⟨thread, ended, direction, transfer, htraces.mono hended⟩
  · obtain ⟨hi, other, hother, hsame⟩ := hawaited i thread hi hthread
    rw [htraffic]
    exact h.fresh i other hi hother (hsame.trans hrecorded)

/-- Of a list without entries, and of one with them. -/
theorem Tracing.act (h : s.Tracing) {action : WindowAction} {gui : ReinkGui}
    (hacted : s.gui.Acted gui action) : (s.withGui gui).Tracing := by
  have hfresh : ∀ i thread, gui.usbOperationReceiver = some i →
      s.operations[i]? = some thread → thread.recordTraffic = true → s.gui.debugTraffic.Fresh :=
    fun i thread hi ↦ h.fresh i thread (hacted.operationReceiver.symm.trans hi)
  rcases hacted.traffic with hsame | hclear | ⟨enabled, hset⟩
  · exact h.mono hsame (fun _ hmem _ ↦ hmem) fun i thread hi hthread ↦
      ⟨hacted.operationReceiver.symm.trans hi, thread, hthread, rfl⟩
  · refine ⟨?_, fun entry hentry ↦ ?_, fun i thread _ _ _ ↦ ?_⟩
    · rw [show (s.withGui gui).gui.debugTraffic = _ from hclear]
      exact Nat.zero_le _
    · rw [show (s.withGui gui).gui.debugTraffic = _ from hclear] at hentry
      cases hentry
    · rw [show (s.withGui gui).gui.debugTraffic = _ from hclear]
      exact ⟨rfl, rfl⟩
  · refine ⟨?_, fun entry hentry ↦ ?_, fun i thread hi hthread hrecorded ↦ ?_⟩
    · rw [show (s.withGui gui).gui.debugTraffic = _ from hset]
      exact h.bounded
    · rw [show (s.withGui gui).gui.debugTraffic = _ from hset] at hentry
      obtain ⟨thread, ended, direction, transfer, htraces⟩ := h.traced entry hentry
      exact ⟨thread, ended, direction, transfer, htraces.mono fun _ hmem _ ↦ hmem⟩
    · rw [show (s.withGui gui).gui.debugTraffic = _ from hset]
      obtain ⟨htx, hrx⟩ := hfresh i thread hi hthread hrecorded
      exact ⟨htx, hrx⟩

/-- The record of the thread that the window has waited for is decoded on its own. -/
theorem Tracing.takeOutcome (h : s.Tracing) {i : Nat} {thread : OperationThread T F}
    (hreceiver : s.gui.usbOperationReceiver = some i) (hthread : s.operations[i]? = some thread)
    {outcome : UsbOperationOutcome} (houtcome : thread.outcome = some outcome)
    (hrecorded : ∀ ended, thread.channel = .full ended → ended.run.outcome.events ≠ [] →
      thread.recordTraffic = true) :
    (s.withGui (s.gui.takeOutcome outcome)).Tracing := by
  have hpolled := s.gui.polled_takeOutcome outcome
  have htraffic : (s.withGui (s.gui.takeOutcome outcome)).gui.debugTraffic =
      (s.gui.debugTraffic.appendCapturedEvents outcome.events).2 := hpolled.traffic
  have hnone (j : Nat) : (s.gui.takeOutcome outcome).usbOperationReceiver ≠ some j := by
    rw [hpolled.receiver]
    exact nofun
  by_cases hevents : outcome.events = []
  · refine h.mono ?_ (fun _ hmem _ ↦ hmem) fun j _ hj ↦ absurd hj (hnone j)
    rw [htraffic, hevents]
    rfl
  rcases OperationThread.channel_of_outcome houtcome with ⟨ended, hended, heq⟩ | ⟨error, rfl⟩
  swap
  · exact absurd rfl hevents
  have hrecords := hrecorded ended hended (heq ▸ hevents)
  -- The decoders have been fresh since the thread was started: the traffic was at most cleared.
  have hfresh := h.fresh i thread hreceiver hthread hrecords
  obtain ⟨hcount, hmem⟩ := s.gui.debugTraffic.appendCapturedEvents_shows outcome.events
  refine ⟨?_, fun entry hentry ↦ ?_, fun j _ hj ↦ absurd hj (hnone j)⟩
  · rw [htraffic]
    exact hcount h.bounded
  · rw [htraffic] at hentry
    rcases hmem entry hentry with hold | ⟨direction, transfer, htransfer, hshows⟩
    · obtain ⟨other, ended, direction, transfer, htraces⟩ := h.traced entry hold
      exact ⟨other, ended, direction, transfer, htraces.mono fun _ hmem _ ↦ hmem⟩
    · rw [hfresh.decoder, heq] at htransfer
      exact ⟨thread, ended, direction, transfer, List.mem_of_getElem? hthread, hrecords, hended,
        htransfer, hshows⟩

/-- A new thread that records starts with fresh decoders. -/
theorem Tracing.spawn (h : s.Tracing) (candidate : DescriptorCandidate) (expectedModel : String)
    (request : UsbOperationRequest) :
    (s.spawnOperation candidate expectedModel request).Tracing := by
  have htraffic : (s.spawnOperation candidate expectedModel request).gui.debugTraffic.entries =
      s.gui.debugTraffic.entries := by
    simp only [spawnOperation]
    split <;> rfl
  refine ⟨?_, fun entry hentry ↦ ?_, fun i thread hi hthread hrecorded ↦ ?_⟩
  · rw [DebugTrafficTrace.count, htraffic]
    exact h.bounded
  · rw [htraffic] at hentry
    obtain ⟨thread, ended, direction, transfer, htraces⟩ := h.traced entry hentry
    exact ⟨thread, ended, direction, transfer,
      htraces.mono fun _ hmem _ ↦ List.mem_append_left _ hmem⟩
  · obtain rfl := Option.some.inj hi
    obtain rfl := Option.some.inj (List.getElem?_concat_length.symm.trans hthread)
    simp only [spawnOperation]
    rw [if_pos hrecorded]
    exact s.gui.debugTraffic.fresh_resetDecoderState

end GuiSystem

/-- A step keeps the traffic traced. -/
theorem GuiSystem.Moved.tracing (h : s.Moved bound catalog label s') (htracing : s.Tracing)
    (hends : ∀ thread ∈ s.operations, thread.channel ≠ .empty →
      GuiSystem.OperationEnds catalog bound thread thread.channel) : s'.Tracing := by
  cases h with
  | stays => exact htracing
  | scanTaken i channel result hreceiver hthread hresult =>
    rcases result with error | candidates
    · exact htracing.mono rfl (fun _ hmem _ ↦ hmem) fun i thread hi hthread ↦
        ⟨hi, thread, hthread, rfl⟩
    · exact htracing.mono rfl (fun _ hmem _ ↦ hmem) fun i thread hi hthread ↦
        ⟨hi, thread, hthread, rfl⟩
  | outcomeTaken i thread outcome hreceiver hthread houtcome =>
    refine htracing.takeOutcome hreceiver hthread houtcome fun ended hended hevents ↦ ?_
    have hend := hends thread (List.mem_of_getElem? hthread)
      (Channel.ne_empty_of_tryRecv houtcome)
    rw [hended] at hend
    obtain @⟨environment, files, run, hrun⟩ := hend
    exact recordTraffic_of_events hrun hevents
  | window action gui hoffers hperform =>
    exact htracing.act (ReinkGui.acted_of_perform hoffers hperform)
  | refreshed =>
    exact htracing.mono rfl (fun _ hmem _ ↦ hmem) fun i thread hi hthread ↦
      ⟨hi, thread, hthread, rfl⟩
  | unstarted action request asked result hrequests hresult =>
    rcases hrequests.gui_eq with rfl | rfl
    · exact htracing.mono rfl (fun _ hmem _ ↦ hmem) fun i thread hi hthread ↦
        ⟨hi, thread, hthread, rfl⟩
    · exact htracing.mono rfl (fun _ hmem _ ↦ hmem) fun i thread hi hthread ↦
        ⟨hi, thread, hthread, rfl⟩
  | started action request asked candidate expectedModel hrequests hstartable =>
    refine GuiSystem.Tracing.spawn ?_ candidate expectedModel request
    rcases hrequests.gui_eq with rfl | rfl
    · exact htracing
    · exact htracing.mono rfl (fun _ hmem _ ↦ hmem) fun i thread hi hthread ↦
        ⟨hi, thread, hthread, rfl⟩
  | scanEnds =>
    exact htracing.mono rfl (fun _ hmem _ ↦ hmem) fun i thread hi hthread ↦
      ⟨hi, thread, hthread, rfl⟩
  | operationEnds i thread channel hthread hempty hends =>
    refine htracing.mono rfl (GuiSystem.mem_of_operationEnds hthread hempty) ?_
    intro j other hj hother
    refine ⟨hj, ?_⟩
    by_cases hsame : i = j
    · subst hsame
      obtain rfl := Option.some.inj ((List.getElem?_set_self
        (List.getElem?_eq_some_iff.1 hthread).1).symm.trans hother)
      exact ⟨thread, hthread, rfl⟩
    · exact ⟨other, (List.getElem?_set_ne hsame).symm.trans hother, rfl⟩

theorem GuiSystem.tracing_of_reachable (h : (guiMachine T F bound catalog).Reachable s) :
    s.Tracing := by
  refine h.induction (P := GuiSystem.Tracing) ?_ ?_
  · rintro first ⟨fixturesEnabled, rfl⟩
    refine ⟨Nat.zero_le _, ?_, ?_⟩
    · intro entry hentry
      cases hentry
    · intro i thread hi
      cases hi
  · intro label before after hreachable ih hstep
    exact (moved_of_step hstep).tracing ih (GuiSystem.operationEnds_of_reachable hreachable)

end Traffic

/-- **The window shows recorded traffic only.** In every state that the window and its threads come
to, the list of transfers is bounded, and each of its entries shows one transfer of the record of
one thread, decoded apart from those of all others; the thread has ended, and was started by a
button while the capture was enabled, for no dump through the stock driver of Windows. -/
theorem guiMachine_tracesRecordedOnly {T F : Type} [UsbTransport T] [FileSystem F] [CharTables]
    {bound : Nat} {catalog : ModelCatalog} {s : GuiSystem T F}
    (h : (guiMachine T F bound catalog).Reachable s) :
    s.gui.debugTraffic.count ≤ debugTrafficMaxEntries ∧
      ∀ entry ∈ s.gui.debugTraffic.entries, ∃ thread ended direction transfer,
        s.Traces entry thread ended direction transfer ∧
        ∃ before action asked after, (guiMachine T F bound catalog).Reachable before ∧
          before.Requests catalog action thread.request asked ∧
          before.Startable catalog thread.candidate thread.expectedModel thread.request ∧
          before.gui.debugTraffic.captureEnabled = true ∧
          GuiSystem.nativeDump thread.candidate thread.request = false ∧
          (guiMachine T F bound catalog).step (.user action) before after ∧
          (guiMachine T F bound catalog).Leads after s := by
  have htracing := GuiSystem.tracing_of_reachable h
  refine ⟨htracing.bounded, fun entry hentry ↦ ?_⟩
  obtain ⟨thread, ended, direction, transfer, htraces⟩ := htracing.traced entry hentry
  obtain ⟨i, hi⟩ := List.mem_iff_getElem?.1 htraces.started
  obtain ⟨before, action, asked, after, hbefore, hrequests, hstartable, hrecords, hstep, hafter⟩ :=
    GuiSystem.exists_start h (i := i) ⟨thread.channel, hi⟩
  rw [htraces.recorded, eq_comm, Bool.and_eq_true, Bool.not_eq_true'] at hrecords
  exact ⟨thread, ended, direction, transfer, htraces, before, action, asked, after, hbefore,
    hrequests, hstartable, hrecords.1, hrecords.2, hstep, hafter⟩

/-- The capture is enabled, and the status of the C90 is read. -/
theorem exists_reachable_recorded_c90 {T F : Type} [UsbTransport T] [FileSystem F] [CharTables]
    {bound : Nat} {environment : UsbEnvironment T} {files : F}
    {run : SelectedUsbSession (Journaled T) F UsbOperationSuccess}
    (hrun : runSelectedUsbOperation bound (.ok .c90) environment.journaled .usb1 "C90" .status true
      files = .ok run) :
    ∃ s, (guiMachine T F bound .c90).Reachable s ∧ s.gui.debugTraffic =
      (({ captureEnabled := true } : DebugTrafficTrace).appendCapturedEvents run.outcome.events).2
      := by
  obtain ⟨scans, h₀⟩ := exists_reachable_c90 (T := T) (F := F) bound
  have h₁ := reachable_of_user h₀ (.window (.setCaptureEnabled true)) trivial rfl
  let thread : OperationThread T F := ⟨.usb1, "C90", .status, true, .empty⟩
  let gui : ReinkGui := { ReinkGui.c90 .status none with
    usbOperationReceiver := some 0, debugTraffic := { captureEnabled := true } }
  have h₂ : (guiMachine T F bound .c90).Reachable ⟨gui, scans, [thread]⟩ :=
    reachable_of_user h₁ .readPrinterStatus ⟨rfl, rfl, rfl⟩ rfl
  let ended : GuiSystem T F := ⟨gui, scans, [{ thread with channel := .full ⟨files, run⟩ }]⟩
  have h₃ : (guiMachine T F bound .c90).Reachable ended :=
    h₂.step (show (guiMachine T F bound .c90).step (.operationEnds 0) _ ended from
      ⟨thread, .full ⟨files, run⟩, rfl, rfl, .sent environment files run hrun, rfl⟩)
  have h₄ : (guiMachine T F bound .c90).Reachable ended.pollUsbOperation :=
    h₃.step (show (guiMachine T F bound .c90).step .pollUsbOperation ended _ from rfl)
  exact ⟨_, h₄, (gui.polled_takeOutcome run.outcome).traffic⟩

/-- The window shows transfers of the simulated C90. -/
theorem guiMachine_tracesRecordedOnly_of_c90 :
    letI := CharTables.ascii
    ∃ s : GuiSystem (WritablePrinter .c90) MemoryFiles, (guiMachine _ _ 300 .c90).Reachable s ∧
      ∃ entry ∈ s.gui.debugTraffic.entries, ∃ thread ended direction transfer,
        s.Traces entry thread ended direction transfer := by
  let _ := CharTables.ascii
  set printer := WritablePrinter.idle .c90 fun address ↦ address.toUInt8
  have hrecorded : (runSelectedUsbOperation 300 (.ok .c90) (UsbEnvironment.ofUsb printer).journaled
      .usb1 "C90" .status true (⟨[]⟩ : MemoryFiles)).any (fun run ↦
        !(({ captureEnabled := true } : DebugTrafficTrace).appendCapturedEvents
          run.outcome.events).2.entries.isEmpty) = true := by
    decide +kernel
  clear_value printer
  obtain ⟨run, hrun, hentries⟩ := Outcome.any_iff.1 hrecorded
  obtain ⟨s, hreachable, htraffic⟩ := exists_reachable_recorded_c90 hrun
  rw [← htraffic, Bool.not_eq_true', List.isEmpty_eq_false_iff_exists_mem] at hentries
  obtain ⟨entry, hentry⟩ := hentries
  obtain ⟨-, hshown⟩ := guiMachine_tracesRecordedOnly hreachable
  obtain ⟨thread, ended, direction, transfer, htraces, -⟩ := hshown entry hentry
  exact ⟨s, hreachable, entry, hentry, thread, ended, direction, transfer, htraces⟩

end Reink
