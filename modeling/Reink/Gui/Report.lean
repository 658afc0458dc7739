import Reink.Gui.Exclusion

/-!
# What the window reports

A success in the window is that of a thread that has ended, and is shown beside the printer that the
thread was started for, or beside none. So it is true of this printer.
-/

namespace Reink

section Reports

variable {T F : Type} [UsbTransport T] [FileSystem F] [CharTables] {bound : Nat}
  {catalog : ModelCatalog} {s s' : GuiSystem T F} {label : GuiStep}

namespace GuiSystem

/-- The report is on the success of the thread, and on the selected printer. -/
structure ReportsOn (s : GuiSystem T F) (report : UsbOperationResultReport)
    (thread : OperationThread T F) (ended : OperationEnd T F) (success : UsbOperationSuccess) :
    Prop where
  started : thread ∈ s.operations
  channel : thread.channel = .full ended
  succeeded : ended.run.outcome.operation = .ok success
  reported : report = UsbOperationOutcome.report ended.run.outcome
  selected : s.gui.selectedUsbCandidate = none ∨
    s.gui.selectedUsbCandidate = some thread.candidate ∧
      s.gui.selectedModelName = some thread.expectedModel

/-- A report of success is on a thread. -/
def Reporting (s : GuiSystem T F) : Prop :=
  ∀ report, s.gui.usbOperationResult = some report → report.success = true →
    ∃ thread ended success, s.ReportsOn report thread ended success

omit [UsbTransport T] [FileSystem F] [CharTables]

/-- The end of a thread at work leaves the ended threads. -/
theorem mem_of_operationEnds {i : Nat} {thread : OperationThread T F}
    (hthread : s.operations[i]? = some thread) (hempty : thread.channel = .empty)
    {channel : Channel (OperationEnd T F)} :
    ∀ other ∈ s.operations, other.channel ≠ .empty →
      other ∈ s.operations.set i { thread with channel := channel } := by
  intro other hmem hended
  obtain ⟨j, hj⟩ := List.mem_iff_getElem?.1 hmem
  have hne : i ≠ j := by
    rintro rfl
    obtain rfl := Option.some.inj (hthread.symm.trans hj)
    exact hended hempty
  exact List.mem_of_getElem? ((List.getElem?_set_ne hne).trans hj)

/-- What keeps the report, the ended threads and the selection keeps what it is on. -/
theorem Reporting.mono (h : s.Reporting)
    (hresult : s'.gui.usbOperationResult = s.gui.usbOperationResult)
    (hended : ∀ thread ∈ s.operations, thread.channel ≠ .empty → thread ∈ s'.operations)
    (hkept : s.SelectionKept s') : s'.Reporting := by
  intro report hreport hsuccess
  obtain ⟨thread, ended, success, hon⟩ := h report (hresult.symm.trans hreport) hsuccess
  refine ⟨thread, ended, success, hended thread hon.started ?_, hon.channel, hon.succeeded,
    hon.reported, ?_⟩
  · rw [hon.channel]
    exact Channel.full_ne_empty ended
  · rcases hkept with hnone | ⟨hcandidate, hmodel⟩
    · exact .inl hnone
    · rw [hcandidate, hmodel]
      exact hon.selected

/-- An outcome is that of the run of the thread, or stands for none. -/
theorem OperationThread.channel_of_outcome {thread : OperationThread T F}
    {outcome : UsbOperationOutcome} (h : thread.outcome = some outcome) :
    (∃ ended, thread.channel = .full ended ∧ outcome = ended.run.outcome) ∨
      ∃ error, outcome = ⟨.error error, .notAttempted, []⟩ := by
  rcases hchannel : thread.channel with _ | ended | _
  · rw [OperationThread.outcome, hchannel] at h
    cases h
  · rw [OperationThread.outcome, hchannel] at h
    exact .inl ⟨ended, rfl, (Option.some.inj h).symm⟩
  · rw [OperationThread.outcome, hchannel] at h
    exact .inr ⟨_, (Option.some.inj h).symm⟩

end GuiSystem

end Reports

end Reink
