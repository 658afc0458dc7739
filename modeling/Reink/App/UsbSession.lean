import Reink.App.SessionRun
import Reink.App.SimulatedPrinter
import Reink.Platform.Journal

/-!
# Sessions on a selected transport

A transport is opened, a session is run on it with its traffic on record, and the transport is
closed, and dropped, which closes it once more. The report of the cleanup says what became of the
conversation and of the first close.
-/

namespace Reink

/-- Status of a cleanup stage after a selected USB operation. -/
inductive UsbCleanupStatus where
  | notAttempted
  | succeeded
  | failed (error : String)
deriving DecidableEq, Repr

/-- D4 and USB cleanup outcomes retained even when the requested operation fails. -/
structure UsbSessionCleanup where
  d4Shutdown : UsbCleanupStatus
  usbClose : UsbCleanupStatus
deriving DecidableEq, Repr

/-- The report of a session that was never opened. -/
def UsbSessionCleanup.notAttempted : UsbSessionCleanup := ⟨.notAttempted, .notAttempted⟩

/-- Result and cleanup record for one explicitly selected USB D4 operation. -/
structure SelectedUsbSessionOutcome (α : Type) where
  operation : Except String α
  cleanup : UsbSessionCleanup
  events : List TransportEvent

/-- The outcome of a session, with the transport as it was dropped, and the files. -/
structure SelectedUsbSession (T F α : Type) where
  outcome : SelectedUsbSessionOutcome α
  transport : Option T
  files : F

namespace UsbCleanupStatus

/-- The status of an attempt. -/
def ofResult : Except String Unit → UsbCleanupStatus
  | .ok () => succeeded
  | .error error => failed error

/-- What a failed setup says of the conversation. -/
def ofSetupError : ApplicationError → UsbCleanupStatus
  | .setupRecovered _ => succeeded
  | .setupRecovery _ recovery => failed recovery.display
  | _ => notAttempted

end UsbCleanupStatus

namespace SessionEnd

variable {T F α : Type}

/-- What the report says of the operation. -/
def operation : SessionEnd T F α → Outcome Empty (Except String α)
  | setupFailed error _ _ => do
    let text ← error.display
    return .error ("Epson D4 session setup failed: " ++ text)
  | finished operation _ _ _ => return operation

/-- What the report says of the conversation. -/
def d4Shutdown : SessionEnd T F α → Outcome Empty UsbCleanupStatus
  | setupFailed error _ _ => return .ofSetupError error
  | finished _ (.ok ()) _ _ => return .succeeded
  | finished _ (.error error) _ _ => do
    let text ← error.display
    return .failed text

end SessionEnd

section Definitions

variable {T F α : Type} [UsbTransport T] [FileSystem F] [CharTables] (bound : Nat)

/-- Closes the transport behind the record, and reports. Then the transport is dropped. -/
def closeRecorded (operation : Except String α) (d4Shutdown : UsbCleanupStatus)
    (recording : RecordingTransport T) (files : F) : SelectedUsbSession T F α :=
  let (transport, events) := recording.intoParts
  let (usbClose, transport) := UsbTransport.close transport
  ⟨⟨operation, ⟨d4Shutdown, .ofResult usbClose⟩, events⟩, some (UsbTransport.drop transport), files⟩

/-- Runs an operation on an opened transport, or reports that it could not be opened. -/
def withEpsonSession (openFailure : String) (opened : Except String T) (spec : EpsonSpec)
    (recordTraffic : Bool) (operation : SessionOperation α) (files : F) :
    Outcome Empty (SelectedUsbSession T F α) :=
  match opened with
  | .error error => return ⟨⟨.error (openFailure ++ error), .notAttempted, []⟩, none, files⟩
  | .ok transport => do
    let last ← runSession bound (RecordingTransport.newWithRecording transport recordTraffic) spec
      operation files
    return closeRecorded (← last.operation) (← last.d4Shutdown) last.target last.files

/-- Opens one selected USB interface, runs a caller-authorized D4 operation, and always attempts
orderly D4 and USB cleanup. -/
def withSelectedUsbEpsonSession (opened : Except String T) (spec : EpsonSpec)
    (recordTraffic : Bool) (operation : SessionOperation α) (files : F) :
    Outcome Empty (SelectedUsbSession T F α) :=
  withEpsonSession bound "could not open selected USB interface: " opened spec recordTraffic
    operation files

/-- The same through a selected Windows USBPRINT token. -/
def withOpenedWindowsNativeEpsonSession (opened : Except String T) (spec : EpsonSpec)
    (recordTraffic : Bool) (operation : SessionOperation α) (files : F) :
    Outcome Empty (SelectedUsbSession T F α) :=
  withEpsonSession bound "could not open selected Windows stock-driver interface: " opened spec
    recordTraffic operation files

end Definitions

/-! ### A simulated printer -/

/-- Closing it takes nothing. -/
instance {p : Printer} : UsbTransport (SimulatedPrinter p) where
  close s := (.ok (), s)

/-- A C90 of revision 1.0 that returns the credit with every reply. -/
def Printer.c90 : Printer :=
  ⟨.c90, fun a ↦ a.toUInt8 + 1, .v10, 2, 0x100, 0x100, 0, by decide, by decide, by decide⟩

/-- A simulated printer of the model C90. -/
def SimulatedPrinter.c90 : SimulatedPrinter .c90 := ⟨.idle, [], 1, 1, by decide, by decide⟩

/-! ### The ends of sessions -/

section Ends

variable {T F α : Type} [ByteTransport T] {bound : Nat}

omit [ByteTransport T] in
theorem D4Link.conversation_of_terminateConversation {link link' : D4Link T}
    (h : D4Link.terminateConversation link = (.ok (), link')) :
    link'.conversation = .terminated := by
  obtain ⟨_, link₁, -, hrest⟩ := Program.bind_eq_ok.1 h
  obtain ⟨_, link₂, -, hlast⟩ := Program.bind_eq_ok.1 hrest
  cases hlast
  rfl

/-- An exit that succeeds leaves the conversation terminated. -/
theorem D4Link.conversation_of_exit {w w' : LinkRun T} (h : D4Link.exit bound w = (.ok (), w')) :
    w'.state.conversation = .terminated := by
  obtain ⟨_, w₁, -, hrequested⟩ := Program.bind_eq_ok.1 h
  obtain ⟨_, w₂, -, hexchanged⟩ := Program.bind_eq_ok.1 hrequested
  obtain ⟨reply, w₃, -, hreply⟩ := Program.bind_eq_ok.1 hexchanged
  split at hreply
  · split at hreply
    · obtain ⟨houtcome, hstate⟩ := Prod.mk.inj hreply
      rw [← hstate]
      exact conversation_of_terminateConversation (Prod.ext houtcome rfl)
    · cases hreply
  · cases hreply

/-- A shutdown without an error is a close and an exit without one. -/
theorem EpsonD4Session.of_shutdown_eq_ok {session session' : EpsonD4Session T}
    (h : shutdown bound session = (.ok (), session')) :
    ∃ w, D4Link.closeChannel bound session.controlChannel session.link = (.ok (), w) ∧
      D4Link.exit bound w = (.ok (), session'.link) := by
  obtain ⟨close, session₁, hclose, h⟩ := Program.bind_eq_ok.1 h
  obtain ⟨exit, session₂, hexit, h⟩ := Program.bind_eq_ok.1 h
  rcases close with error | ⟨⟩
  · rcases exit with error | ⟨⟩ <;> cases h
  rcases exit with error | ⟨⟩
  · cases h
  cases h
  have hclosed := Program.attempt_eq_ok.1 hclose
  have hexited := Program.attempt_eq_ok.1 hexit
  refine ⟨session₁.link, ?_, ?_⟩
  · rw [onLink, Program.zoom] at hclosed
    obtain ⟨houtcome, hsession⟩ := Prod.mk.inj hclosed
    rw [← hsession]
    exact Prod.ext houtcome rfl
  · rw [onLink, Program.zoom] at hexited
    obtain ⟨houtcome, hsession⟩ := Prod.mk.inj hexited
    rw [← hsession]
    exact Prod.ext houtcome rfl

/-- The entry fails before there is a conversation. -/
theorem ofSetupError_of_entryReplyLoop {limit : Nat} {reply : List UInt8} {receivedData : Bool}
    {error : ApplicationError} {target target' : T}
    (h : entryReplyLoop limit reply receivedData target = (.err error, target')) :
    UsbCleanupStatus.ofSetupError error = .notAttempted := by
  induction limit generalizing reply receivedData target with
  | zero =>
    cases receivedData <;> cases h <;> rfl
  | succ limit ih =>
    rcases Program.bind_eq_err.1 h with hread | ⟨bytes, target₁, -, hrest⟩
    · rw [readEntry] at hread
      split at hread <;> cases hread
      rfl
    · split at hrest
      · exact ih hrest
      · split at hrest
        · cases hrest
        · exact ih hrest

/-- The conversation of a failed setup is reported terminated after an exit that succeeded. -/
theorem EpsonD4Session.connectRecoverable_recovered {target target' : T} {spec : EpsonSpec}
    {error : ApplicationError}
    (h : connectRecoverable bound target spec = .err (error, target'))
    (hstatus : UsbCleanupStatus.ofSetupError error = .succeeded) :
    ∃ before after : LinkRun T, D4Link.exit bound before = (.ok (), after) ∧
      after.state.target = target' := by
  unfold connectRecoverable at h
  split at h
  · cases h
    cases hstatus
  split at h <;> try (cases h; done)
  case h_1 hwait =>
    cases h
    rw [ofSetupError_of_entryReplyLoop hwait] at hstatus
    cases hstatus
  split at h <;> try cases h
  · cases hstatus
  split at h <;> try cases h
  split at h <;> cases h
  case h_1 hexit => exact ⟨_, _, hexit, rfl⟩
  case h_2 => cases hstatus

end Ends

/-! ### Reports -/

section Reports

variable {T F α : Type} [FileSystem F] [CharTables] {bound : Nat} {openFailure : String}
  {spec : EpsonSpec} {recordTraffic : Bool} {operation : SessionOperation α} {files : F}

/-- A session taken apart: what came of it on the recording transport, and the report on that. -/
theorem withEpsonSession_ok [UsbTransport T] {transport : T} {run : SelectedUsbSession T F α}
    (h : withEpsonSession bound openFailure (.ok transport) spec recordTraffic operation files =
      .ok run) :
    ∃ last result status,
      runSession bound (RecordingTransport.newWithRecording transport recordTraffic) spec operation
        files = .ok last ∧
      last.operation = .ok result ∧ last.d4Shutdown = .ok status ∧
      run = closeRecorded result status last.target last.files := by
  obtain ⟨last, hrun, hlast⟩ := Outcome.bind_eq_ok.1 h
  obtain ⟨result, hresult, hrest⟩ := Outcome.bind_eq_ok.1 hlast
  obtain ⟨status, hstatus, hreport⟩ := Outcome.bind_eq_ok.1 hrest
  exact ⟨last, result, status, hrun, hresult, hstatus, (Outcome.ok.inj hreport).symm⟩

/-- An operation that is reported successful was run to its end, and the files are as it left
them. -/
theorem exists_run_of_operation [UsbTransport T] {opened : Except String T}
    {run : SelectedUsbSession T F α}
    (h : withEpsonSession bound openFailure opened spec recordTraffic operation files = .ok run)
    {success : α} (hok : run.outcome.operation = .ok success) :
    ∃ host host' : Host (RecordingTransport T) F, host.session.spec = spec ∧ host.files = files ∧
      operation.run (Host.serve bound) host = (.ok success, host') ∧ host'.files = run.files := by
  rcases opened with error | transport
  · cases h
    cases hok
  obtain ⟨last, result, status, hrun, hresult, -, rfl⟩ := withEpsonSession_ok h
  obtain rfl : result = .ok success := hok
  rcases runSession_cases hrun with ⟨error, w, -, rfl⟩ |
    ⟨controlChannel, w, result, shutdown, host₁, host₂, -, hattempt, hshutdown, rfl⟩
  · obtain ⟨text, -, htext⟩ := Outcome.bind_eq_ok.1 hresult
    cases htext
  · cases hresult
    refine ⟨_, host₁, rfl, rfl, Program.attempt_eq_ok.1 hattempt, ?_⟩
    have hlast := congrArg Prod.snd hshutdown
    rw [Program.Simulates.attempt_snd] at hlast
    have hfiles := congrArg Host.files hlast
    exact hfiles

/-- Without a record nothing is recorded. -/
theorem events_of_unrecorded [UsbTransport T] {opened : Except String T}
    {run : SelectedUsbSession T F α}
    (h : withEpsonSession bound openFailure opened spec false operation files = .ok run) :
    run.outcome.events = [] := by
  rcases opened with error | transport
  · cases h
    rfl
  obtain ⟨last, result, status, hrun, -, -, rfl⟩ := withEpsonSession_ok h
  have hkept := runSession_keeps (I := fun recording : RecordingTransport T ↦
    recording.recordingEnabled = false ∧ recording.events = []) bound ?_ ?_ ⟨rfl, rfl⟩ hrun
  · exact hkept.2
  · rintro data recording ⟨henabled, hevents⟩
    rw [RecordingTransport.writeAll_eq]
    split <;> simp [RecordingTransport.push_events, henabled, hevents]
  · rintro size recording ⟨henabled, hevents⟩
    rw [RecordingTransport.read_eq]
    split <;> simp [RecordingTransport.push_events, henabled, hevents]

omit [CharTables] in
/-- The error of a shutdown is no success. -/
theorem ne_failed_of_display {error : ApplicationError} {status : UsbCleanupStatus}
    (h : (error.display >>= fun text ↦ pure (.failed text) : Outcome Empty UsbCleanupStatus) =
      .ok status) : ∃ text, status = .failed text := by
  obtain ⟨text, -, htext⟩ := Outcome.bind_eq_ok.1 h
  exact ⟨text, (Outcome.ok.inj htext).symm⟩

/-- A session that is reported terminated has ended with an exit that succeeded. -/
theorem exit_of_succeeded [ByteTransport T] {target : T} {last : SessionEnd T F α}
    (hrun : runSession bound target spec operation files = .ok last)
    (hstatus : last.d4Shutdown = .ok .succeeded) :
    ∃ before after : LinkRun T, D4Link.exit bound before = (.ok (), after) ∧
      after.state.target = last.target := by
  unfold runSession at hrun
  split at hrun <;> try (cases hrun; done)
  case h_1 hconnect =>
    cases hrun
    exact EpsonD4Session.connectRecoverable_recovered hconnect (Outcome.ok.inj hstatus)
  split at hrun <;> try (cases hrun; done)
  case h_1 result shutdown host hopened =>
    cases hrun
    obtain ⟨_, host₁, -, hafter⟩ := Program.bind_eq_ok.1 hopened
    obtain ⟨_, host₂, hshutdown, hpair⟩ := Program.bind_eq_ok.1 hafter
    cases hpair
    rcases shutdown with error | ⟨⟩
    · obtain ⟨text, htext⟩ := ne_failed_of_display hstatus
      cases htext
    · obtain ⟨houtcome, hhost⟩ := Prod.mk.inj (Program.attempt_eq_ok.1 hshutdown)
      obtain ⟨w, -, hexit⟩ := EpsonD4Session.of_shutdown_eq_ok (Prod.ext houtcome rfl)
      refine ⟨w, _, hexit, ?_⟩
      rw [← hhost]
      rfl
  case h_2 error _ _ => exact error.elim

/-- **The report of a session is true**, whatever the transport, the printer and the operation do,
where the session returns: the transport is closed after every transfer, that close is reported, and
the only call behind it is the close of the drop; the record is that of the successful transfers,
and empty if none was asked for; a conversation that is reported terminated has been terminated by
the last exchange; and only after a failed setup is there no shutdown. -/
theorem withEpsonSession_report [UsbTransport T] {transport : T}
    {run : SelectedUsbSession (Journaled T) F α}
    (h : withEpsonSession bound openFailure (.ok (Journaled.start transport)) spec recordTraffic
      operation files = .ok run) :
    ∃ last : Journaled T,
      TransportCall.closed ∉ last.calls ∧
      run.outcome.cleanup.usbClose = .ofResult (UsbTransport.close last).1 ∧
      run.transport = some (UsbTransport.drop (UsbTransport.close last).2) ∧
      (UsbTransport.drop (UsbTransport.close last).2).calls = last.calls ++ [.closed, .closed] ∧
      run.outcome.events =
        (if recordTraffic then last.calls.filterMap TransportCall.transfer else []) ∧
      (run.outcome.cleanup.d4Shutdown = .succeeded →
        ∃ before after : LinkRun (RecordingTransport (Journaled T)),
          D4Link.exit bound before = (.ok (), after) ∧
          after.state.conversation = .terminated ∧ after.state.target.inner = last) ∧
      (run.outcome.cleanup.d4Shutdown = .notAttempted →
        ∃ text, run.outcome.operation = .error ("Epson D4 session setup failed: " ++ text)) := by
  obtain ⟨last, result, status, hrun, hresult, hstatus, rfl⟩ := withEpsonSession_ok h
  have hrecords : RecordsJournal recordTraffic last.target := by
    refine runSession_keeps bound (fun data _ ↦ .writeAll data) (fun size _ ↦ .read size) ?_ hrun
    cases recordTraffic <;> exact ⟨by simp [RecordingTransport.newWithRecording, Journaled.start],
      rfl, rfl⟩
  refine ⟨last.target.inner, hrecords.notClosed, rfl, rfl, List.append_assoc _ _ _,
    hrecords.events, ?_, ?_⟩
  · rintro (rfl : status = .succeeded)
    obtain ⟨before, after, hexit, htarget⟩ := exit_of_succeeded hrun hstatus
    exact ⟨before, after, hexit, D4Link.conversation_of_exit hexit, by rw [htarget]⟩
  · rintro (rfl : status = .notAttempted)
    rcases last with ⟨error, _, _⟩ | ⟨_, error | ⟨⟩, _, _⟩
    · obtain ⟨text, -, htext⟩ := Outcome.bind_eq_ok.1 hresult
      exact ⟨text, (Outcome.ok.inj htext).symm⟩
    · obtain ⟨text, htext⟩ := ne_failed_of_display hstatus
      cases htext
    · cases hstatus

omit [CharTables] in
/-- A cell of the simulated C90 is read, and the report is true. -/
theorem withEpsonSession_report_of_c90 :
    letI := CharTables.ascii
    ∃ run last, withEpsonSession 300 "" (.ok (Journaled.start SimulatedPrinter.c90)) .c90 true
        (SessionOperation.session (.readEeprom [0x0c]) "") (⟨[]⟩ : MemoryFiles) = .ok run ∧
      run.outcome.operation = .ok [⟨0x0c, 0x0d⟩] ∧ TransportCall.closed ∉ last.calls ∧
      run.transport = some (UsbTransport.drop (UsbTransport.close last).2) ∧
      run.outcome.events = last.calls.filterMap TransportCall.transfer := by
  let _ := CharTables.ascii
  have hread : (withEpsonSession 300 "" (.ok (Journaled.start SimulatedPrinter.c90)) .c90 true
      (SessionOperation.session (.readEeprom [0x0c]) "") (⟨[]⟩ : MemoryFiles)).any
        (·.outcome.operation = .ok [⟨0x0c, 0x0d⟩]) = true := by decide +kernel
  obtain ⟨run, hrun, hvalue⟩ := Outcome.any_iff.1 hread
  obtain ⟨last, hclosed, -, htransport, -, hevents, -⟩ := withEpsonSession_report hrun
  exact ⟨run, last, hrun, of_decide_eq_true hvalue, hclosed, htransport, hevents⟩

/-- **Recording changes nothing but the record.** The same session without a record, or with one,
reports the same operation and the same cleanup, and leaves the same transport and the same
files. -/
theorem withEpsonSession_recording [UsbTransport T] {opened : Except String T}
    {run : SelectedUsbSession T F α}
    (h : withEpsonSession bound openFailure opened spec recordTraffic operation files = .ok run)
    (otherTraffic : Bool) :
    ∃ run', withEpsonSession bound openFailure opened spec otherTraffic operation files =
        .ok run' ∧
      run'.outcome.operation = run.outcome.operation ∧
      run'.outcome.cleanup = run.outcome.cleanup ∧
      run'.transport = run.transport ∧ run'.files = run.files := by
  rcases opened with error | transport
  · cases h
    exact ⟨_, rfl, rfl, rfl, rfl, rfl⟩
  obtain ⟨last, result, status, hrun, hresult, hstatus, rfl⟩ := withEpsonSession_ok h
  obtain ⟨recording, hrun', hinner⟩ := runSession_alongside RecordingTransport.simulation_of_inner
    bound (show (RecordingTransport.newWithRecording transport recordTraffic).inner =
      (RecordingTransport.newWithRecording transport otherTraffic).inner from rfl) hrun trivial
  have hresult' : (last.mapTarget fun _ ↦ recording).operation = .ok result := by
    cases last <;> exact hresult
  have hstatus' : (last.mapTarget fun _ ↦ recording).d4Shutdown = .ok status := by
    rcases last with _ | ⟨_, _ | _, _, _⟩ <;> exact hstatus
  refine ⟨closeRecorded result status recording last.files, ?_, rfl, ?_, ?_, rfl⟩
  · show (runSession _ _ _ _ _ >>= _) = _
    rw [hrun', Outcome.ok_bind, hresult', Outcome.ok_bind, hstatus', Outcome.ok_bind]
    cases last <;> rfl
  · simp only [closeRecorded, RecordingTransport.intoParts, hinner]
  · simp only [closeRecorded, RecordingTransport.intoParts, hinner]

omit [CharTables] in
/-- A cell of the simulated C90 is read with a record and without one. -/
theorem withEpsonSession_recording_of_c90 :
    letI := CharTables.ascii
    ∃ run run', withEpsonSession 300 "" (.ok SimulatedPrinter.c90) .c90 true
        (SessionOperation.session (.readEeprom [0x0c]) "") (⟨[]⟩ : MemoryFiles) = .ok run ∧
      withEpsonSession 300 "" (.ok SimulatedPrinter.c90) .c90 false
        (SessionOperation.session (.readEeprom [0x0c]) "") (⟨[]⟩ : MemoryFiles) = .ok run' ∧
      run.outcome.operation = .ok [⟨0x0c, 0x0d⟩] ∧ run'.outcome.operation = run.outcome.operation ∧
      run'.transport = run.transport := by
  let _ := CharTables.ascii
  have hread : (withEpsonSession 300 "" (.ok SimulatedPrinter.c90) .c90 true
      (SessionOperation.session (.readEeprom [0x0c]) "") (⟨[]⟩ : MemoryFiles)).any
        (·.outcome.operation = .ok [⟨0x0c, 0x0d⟩]) = true := by decide +kernel
  obtain ⟨run, hrun, hvalue⟩ := Outcome.any_iff.1 hread
  obtain ⟨run', hrun', hoperation, -, htransport, -⟩ := withEpsonSession_recording hrun false
  exact ⟨run, run', hrun, hrun', of_decide_eq_true hvalue, hoperation, htransport⟩

end Reports

end Reink
