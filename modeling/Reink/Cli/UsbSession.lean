import Reink.App.UsbLifecycle

/-!
# Sessions of the command line

A command succeeds only if its operation, the shutdown and the close of its transport all have. What
has failed is listed in its error, in that order.
-/

namespace Reink

section Definitions

variable {T F α : Type} [UsbTransport T] [FileSystem F] [CharTables] (bound : Nat)

/-- The text of the error, if there is one. -/
def errorText (prefixed : String) : Except String α → List String
  | .ok _ => []
  | .error error => [prefixed ++ error]

/-- The error of a result as its text. -/
def withText (result : Except ApplicationError α) : Outcome Empty (Except String α) :=
  match result with
  | .ok a => return .ok a
  | .error error => do
    let text ← error.display
    return .error text

/-- Runs an operation on an opened transport and reports the first of its results, or all errors.
The transport is closed, and dropped at the end. -/
def withUsbEpsonSession (opened : Except String T) (spec : EpsonSpec)
    (operation : SessionOperation α) (files : F) :
    Outcome Empty (Except String α × Option T × F) :=
  match opened with
  | .error error => return (.error error, none, files)
  | .ok transport => do
    match ← runSession bound (RecordingTransport.new transport) spec operation files with
    | .setupFailed setup recording files =>
      let text ← setup.display
      match UsbTransport.close recording.intoParts.1 with
      | (.ok (), transport) =>
        return (.error ("D4 session setup failed: " ++ text), some (UsbTransport.drop transport),
          files)
      | (.error close, transport) =>
        return (.error ("D4 session setup failed: " ++ text ++ "; USB transport close failed: " ++
          close), some (UsbTransport.drop transport), files)
    | .finished result shutdown recording files =>
      let shutdown ← withText shutdown
      let (close, transport) := UsbTransport.close recording.intoParts.1
      match result, shutdown, close with
      | .ok value, .ok (), .ok () => return (.ok value, some (UsbTransport.drop transport), files)
      | result, shutdown, close =>
        let errors := errorText "" result ++ errorText "D4 shutdown failed: " shutdown ++
          errorText "USB transport close failed: " close
        return (.error (String.intercalate "; " errors), some (UsbTransport.drop transport), files)

end Definitions

section Success

variable {T F α : Type} [UsbTransport T] [FileSystem F] [CharTables] {bound : Nat}
  {opened : Except String T} {spec : EpsonSpec} {operation : SessionOperation α} {files files' : F}
  {value : α} {left : Option T}

omit [UsbTransport T] [FileSystem F] [CharTables] in
/-- A report without a failure is that of a session that was set up and shut down, and of a
transport that was closed. -/
theorem closeRecorded_succeeded_iff {last : SessionEnd (RecordingTransport T) F α}
    {result : Except String α} {status : UsbCleanupStatus} (hresult : last.operation = .ok result)
    (hstatus : last.d4Shutdown = .ok status) :
    (result = .ok value ∧ status = .succeeded) ↔
      ∃ recording after, last = .finished (.ok value) (.ok ()) recording after := by
  constructor
  · rintro ⟨rfl, rfl⟩
    rcases last with ⟨error, _, _⟩ | ⟨result, error | ⟨⟩, recording, after⟩
    · obtain ⟨text, -, htext⟩ := Outcome.bind_eq_ok.1 hresult
      cases htext
    · obtain ⟨text, htext⟩ := ne_failed_of_display hstatus
      cases htext
    · cases hresult
      exact ⟨recording, after, rfl⟩
  · rintro ⟨recording, after, rfl⟩
    cases hresult
    cases hstatus
    exact ⟨rfl, rfl⟩

theorem withUsbEpsonSession_eq_ok {transport : T} :
    withUsbEpsonSession bound (.ok transport) spec operation files =
        .ok (.ok value, left, files') ↔
      ∃ recording, runSession bound (RecordingTransport.new transport) spec operation files =
          .ok (.finished (.ok value) (.ok ()) recording files') ∧
        (UsbTransport.close recording.inner).1 = .ok () ∧
        left = some (UsbTransport.drop (UsbTransport.close recording.inner).2) := by
  constructor
  · intro h
    obtain ⟨last, hrun, hlast⟩ := Outcome.bind_eq_ok.1 h
    rcases last with ⟨setup, recording, after⟩ | ⟨result, shutdown, recording, after⟩
    · obtain ⟨text, -, hclose⟩ := Outcome.bind_eq_ok.1 hlast
      split at hclose <;> cases hclose
    · obtain ⟨shutdown', htext, hclose⟩ := Outcome.bind_eq_ok.1 hlast
      rcases result with error | result
      · cases hclose
      rcases shutdown with error | ⟨⟩
      · obtain ⟨text, -, hshutdown⟩ := Outcome.bind_eq_ok.1 htext
        cases hshutdown
        cases hclose
      cases htext
      rcases hclosed : UsbTransport.close recording.inner with ⟨error | ⟨⟩, transport'⟩
      all_goals
        have hclosed' : UsbTransport.close recording.intoParts.1 = _ := hclosed
        rw [hclosed'] at hclose
        cases hclose
      exact ⟨recording, hrun, by rw [hclosed], by rw [hclosed]⟩
  · rintro ⟨recording, hrun, hclosed, rfl⟩
    show (runSession _ _ _ _ _ >>= _) = _
    rw [hrun, Outcome.ok_bind]
    rcases hclose : UsbTransport.close recording.inner with ⟨result, transport'⟩
    rw [hclose] at hclosed
    cases hclosed
    have hclose' : UsbTransport.close recording.intoParts.1 = _ := hclose
    show (withText (.ok ()) >>= _) = _
    rw [withText, Outcome.pure_eq_ok, Outcome.ok_bind, hclose']
    rfl

/-- **The command line and the application agree** on what success is: a command succeeds exactly
where the application would report the value of the operation, the conversation terminated and the
transport closed, and it leaves the same transport and the same files. -/
theorem withUsbEpsonSession_ok_iff {openFailure : String} :
    withUsbEpsonSession bound opened spec operation files = .ok (.ok value, left, files') ↔
      ∃ run, withEpsonSession bound openFailure opened spec true operation files = .ok run ∧
        run.outcome.operation = .ok value ∧
        run.outcome.cleanup = ⟨.succeeded, .succeeded⟩ ∧
        run.transport = left ∧ run.files = files' := by
  rcases opened with error | transport
  · refine ⟨fun h ↦ (nomatch h), ?_⟩
    rintro ⟨run, h, hresult, -, -, -⟩
    cases h
    cases hresult
  rw [withUsbEpsonSession_eq_ok]
  constructor
  · rintro ⟨recording, hrun, hclosed, rfl⟩
    refine ⟨closeRecorded (.ok value) .succeeded recording files', ?_, rfl, ?_, rfl, rfl⟩
    · show (runSession _ _ _ _ _ >>= _) = _
      rw [← RecordingTransport.new, hrun]
      rfl
    · show UsbSessionCleanup.mk _ (.ofResult (UsbTransport.close recording.inner).1) = _
      rw [hclosed]
      rfl
  · rintro ⟨run, h, hvalue, hcleanup, rfl, rfl⟩
    obtain ⟨last, result, status, hrun, hresult, hstatus, rfl⟩ := withEpsonSession_ok h
    obtain ⟨hstatus', hclosed⟩ := UsbSessionCleanup.mk.inj hcleanup
    obtain ⟨recording, after, rfl⟩ :=
      (closeRecorded_succeeded_iff hresult hstatus).1 ⟨hvalue, hstatus'⟩
    refine ⟨recording, hrun, ?_, rfl⟩
    rcases hclose : (UsbTransport.close recording.inner).1 with error | ⟨⟩
    · have hfailed : UsbCleanupStatus.ofResult (UsbTransport.close recording.inner).1 =
          .succeeded := hclosed
      rw [hclose] at hfailed
      cases hfailed
    · rfl

end Success

/-! ### The driver of the interface -/

section Lifecycle

variable {T F α : Type} [FileSystem F] [CharTables] {bound : Nat} {spec : EpsonSpec}
  {operation : SessionOperation α} {files files' : F} {result : Except String α}

/-- The transport of a session is closed and dropped, and a command succeeds only if it was
closed. -/
theorem withUsbEpsonSession_closes [UsbTransport T] {transport : T} {left : Option T}
    (h : withUsbEpsonSession bound (.ok transport) spec operation files =
      .ok (result, left, files')) :
    ∃ last : SessionEnd (RecordingTransport T) F α,
      runSession bound (RecordingTransport.new transport) spec operation files = .ok last ∧
      left = some (UsbTransport.drop (UsbTransport.close last.target.inner).2) ∧
      files' = last.files ∧
      (∀ value, result = .ok value → (UsbTransport.close last.target.inner).1 = .ok ()) := by
  obtain ⟨last, hrun, hlast⟩ := Outcome.bind_eq_ok.1 h
  refine ⟨last, hrun, ?_⟩
  rcases last with ⟨setup, recording, after⟩ | ⟨value, shutdown, recording, after⟩
  all_goals
    obtain ⟨text, -, hclose⟩ := Outcome.bind_eq_ok.1 hlast
    rcases hclosed : UsbTransport.close recording.inner with ⟨error | ⟨⟩, transport'⟩
    all_goals
      have hclosed' : UsbTransport.close recording.intoParts.1 = _ := hclosed
      rw [hclosed'] at hclose
  case setupFailed.error | setupFailed.ok =>
    cases hclose
    exact ⟨by simp [SessionEnd.target, hclosed], rfl, nofun⟩
  all_goals
    rcases value with _ | value <;> rcases text with _ | ⟨⟩ <;> cases hclose
    all_goals
      exact ⟨by simp [SessionEnd.target, hclosed], rfl, by simp [SessionEnd.target, hclosed]⟩

/-- **A command gives the driver back.** From opening the interface to dropping the transport,
whatever the printer, the operation and the library do: no driver is attached that is not owed, none
is detached where that is refused, and the interface is released at most once. Where a driver stays
detached, attaching it has been tried and refused, and a command that returns has failed. Where the
session panics and its transport is dropped on unwinding, the same holds. -/
theorem withUsbEpsonSession_handsBack {H : Type} [BulkHandle H] {selector : UsbInterfaceSelector}
    {inputEndpoint outputEndpoint : UInt8} {selected : Except UsbOpenError UInt8}
    {opened : Except UsbError Unit} {handoff : UsbDriverHandoff} {handle : H}
    {attempt : Except String (ClaimedTransport H)} {run : UsbRun H}
    (hopen : ClaimedTransport.openWithPolicy selector inputEndpoint outputEndpoint selected opened
      handoff handle = (attempt, run)) :
    (∀ result left files' calls,
      withUsbEpsonSession bound attempt spec operation files = .ok (result, left, files') →
      calls = left.elim run.calls (·.run.calls) →
        HandoffSafe handoff calls ∧
          (owed calls = true → (∃ error, result = .error error) ∧
            ∃ error, .attach (.error error) ∈ calls)) ∧
    ∀ claimed calls, attempt = .ok claimed →
      calls = (UsbTransport.drop (sessionStand bound (RecordingTransport.new claimed) spec operation
        files).1.state.target.inner).run.calls →
        HandoffSafe handoff calls ∧
          (owed calls = true → ∃ error, .attach (.error error) ∈ calls) := by
  constructor
  · rintro result left files' calls h rfl
    rcases attempt with error | claimed
    · cases h
      obtain ⟨hsafe, howed⟩ := ClaimedTransport.handsBack_of_openWithPolicy_error hopen
      exact ⟨hsafe, fun h ↦ ⟨⟨error, rfl⟩, howed h⟩⟩
    obtain ⟨last, hrun, rfl, -, hclose⟩ := withUsbEpsonSession_closes h
    obtain ⟨htransport, hcalls⟩ := ClaimedTransport.claims_of_runSession hrun
    obtain ⟨hsafe, howed⟩ :=
      closes_handsBack (ClaimedTransport.open_of_openWithPolicy_ok hopen) hcalls 1
    rw [← htransport] at hsafe howed
    refine ⟨hsafe, fun h ↦ ?_⟩
    obtain ⟨hdetached, before, error, hattach⟩ := howed h
    have hmem : .attach (.error error) ∈
        (closes 2 last.target.inner.transport last.target.inner.run).2.calls := by
      rw [hattach]
      exact List.mem_concat_self
    refine ⟨?_, error, hmem⟩
    rcases result with error | value
    · exact ⟨error, rfl⟩
    · have hclosed := ClaimedTransport.close_ok (Prod.ext (hclose value rfl) rfl)
      have hnone := ReadOnlyUsbTransport.detached_of_close_ok hclosed
      exact absurd (hdetached.symm.trans hnone) (by simp)
  · rintro claimed calls rfl rfl
    have hclaims := claimed.claims_of_sessionStand true bound spec operation files
    rw [← RecordingTransport.new] at hclaims
    generalize (sessionStand bound (RecordingTransport.new claimed) spec operation
      files).1.state.target.inner = stopped at hclaims ⊢
    obtain ⟨htransport, hcalls⟩ := hclaims
    obtain ⟨hsafe, howed⟩ :=
      closes_handsBack (ClaimedTransport.open_of_openWithPolicy_ok hopen) hcalls 0
    rw [← htransport] at hsafe howed
    refine ⟨hsafe, fun h ↦ ?_⟩
    obtain ⟨-, before, error, hattach⟩ := howed h
    have hmem : .attach (.error error) ∈ (closes 1 stopped.transport stopped.run).2.calls := by
      rw [hattach]
      exact List.mem_concat_self
    exact ⟨error, hmem⟩

omit [CharTables] in
/-- The cell is read, but the driver does not come back, and the command has failed. -/
theorem withUsbEpsonSession_handsBack_of_refused :
    letI := CharTables.ascii
    let opened := ClaimedTransport.openWithPolicy ⟨0, 0⟩ 0x81 0x02 (.ok 0) (.ok ())
      .temporarilyDetach (SimulatedDevice.c90 false)
    ∃ result left, withUsbEpsonSession 300 opened.1 .c90
        (SessionOperation.session (.readEeprom [0x0c]) "") (⟨[]⟩ : MemoryFiles) =
          .ok (result, some left, ⟨[]⟩) ∧
      owed left.run.calls = true ∧ ∃ error, result = .error error := by
  let _ := CharTables.ascii
  intro opened
  have howed : (withUsbEpsonSession 300 opened.1 .c90
      (SessionOperation.session (.readEeprom [0x0c]) "") (⟨[]⟩ : MemoryFiles)).any
        (fun (_, left, files) ↦ files = ⟨[]⟩ ∧ left.any fun left ↦ owed left.run.calls) = true := by
    decide +kernel
  have hopen : ClaimedTransport.openWithPolicy ⟨0, 0⟩ 0x81 0x02 (.ok 0) (.ok ())
      .temporarilyDetach (SimulatedDevice.c90 false) = (opened.1, opened.2) := rfl
  clear_value opened
  obtain ⟨⟨result, left, files⟩, hrun, hleft⟩ := Outcome.any_iff.1 howed
  obtain ⟨rfl, hsome⟩ := of_decide_eq_true hleft
  obtain ⟨left, rfl, howed⟩ := (Option.any_eq_true _ _).1 hsome
  exact ⟨result, left, hrun, howed, 
    (((withUsbEpsonSession_handsBack hopen).1 _ _ _ _ hrun rfl).2 howed).1⟩

end Lifecycle

end Reink
