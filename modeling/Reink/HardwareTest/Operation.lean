import Reink.App.Replay
import Reink.App.UsbLifecycle
import Reink.HardwareTest.TraceFile

/-!
# Operations of the hardware test

An operation on a printer with its traffic on record, and the file that the traffic is kept in. The
transport is closed twice if the first close fails, and once more when it is dropped. What the file
says of a run can be replayed.
-/

namespace Reink

/-- What a report says of the driver. -/
structure DriverHandoffReport where
  automatic : Bool
  detached : Bool
  reattached : Option Bool
deriving DecidableEq, Repr

/-- The report of what the transport has recorded. -/
def DriverHandoffReport.fromUsb (outcome : UsbDriverHandoffOutcome) : DriverHandoffReport :=
  ⟨outcome.requested, outcome.detached, outcome.reattached⟩

/-- What an operation leaves behind. -/
structure D4Operation (α : Type) where
  result : Except String α
  events : List TransportEvent
  driverHandoff : DriverHandoffReport

section Definitions

variable {T F α : Type}

/-- The first close, and a retry where it fails, which is not reported. -/
def closeRetried [UsbTransport T] (transport : T) : Except String Unit × T :=
  match UsbTransport.close transport with
  | (.ok (), transport) => (.ok (), transport)
  | (.error error, transport) => (.error error, (UsbTransport.close transport).2)

/-- The result of an operation, of the shutdown and of the close. -/
def finishD4Operation (operation : Except String α) (shutdown close : Except String Unit) :
    Except String α :=
  match operation with
  | .ok value =>
    match shutdown, close with
    | .ok (), .ok () => .ok value
    | .error error, .ok () => .error ("D4 shutdown failed: " ++ error)
    | .ok (), .error error => .error ("USB transport close failed: " ++ error)
    | .error shutdown, .error close =>
      .error ("D4 shutdown failed: " ++ shutdown ++ "; USB transport close also failed: " ++ close)
  | .error operation =>
    let shutdownError :=
      match shutdown with
      | .ok () => []
      | .error error => ["D4 shutdown also failed: " ++ error]
    let closeError :=
      match close with
      | .ok () => []
      | .error error => ["USB transport close also failed: " ++ error]
    .error (String.intercalate "; "
      (["D4 operation failed: " ++ operation] ++ shutdownError ++ closeError))

/-- The result of a setup that failed, and of the close. -/
def failD4Setup (error : String) (close : Except String Unit) : Except String α :=
  match close with
  | .ok () => .error ("D4 session setup failed: " ++ error)
  | .error close => .error ("D4 session setup failed: " ++ error ++
      "; USB transport close also failed: " ++ close)

/-- The result of a session whose transport was closed. -/
def SessionEnd.d4Result (close : Except String Unit) :
    SessionEnd T F α → Outcome Empty (Except String α)
  | .setupFailed error _ _ => do
    let text ← error.display
    return failD4Setup text close
  | .finished operation shutdown _ _ =>
    match shutdown with
    | .ok () => return finishD4Operation operation (.ok ()) close
    | .error error => do
      let text ← error.display
      return finishD4Operation operation (.error text) close

/-- Runs an operation on an open transport, which is closed, reported on, and dropped. -/
def runD4Operation [HandoffTransport T] [FileSystem F] [CharTables] (bound : Nat) (transport : T)
    (spec : EpsonSpec) (operation : SessionOperation α) (files : F) :
    Outcome Empty (D4Operation α × T × F) := do
  let last ← runSession bound (RecordingTransport.new transport) spec operation files
  let (transport, events) := last.target.intoParts
  let (close, transport) := closeRetried transport
  let result ← last.d4Result close
  return (⟨result, events, .fromUsb (HandoffTransport.driverHandoffOutcome transport)⟩,
    UsbTransport.drop transport, last.files)

/-! ### The trace file -/

variable [FileSystem F]

/-- Writes the events to a new file. How a value is printed is a parameter. -/
def writeTraceFile (toVec : JsonValue → Except String (List UInt8)) (path command : String)
    (events : List TransportEvent) : Program F String Unit := do
  let files ← Program.get
  Program.ofExcept id (validateNewFilePath path "private trace file" files)
  let contents ← Program.ofExcept ("could not encode private trace: " ++ ·)
    (toVec (traceJson command events))
  let file ← fileOperation ("could not create private trace file " ++ path ++ ": ")
    (FileSystem.createNew path)
  fileOperation ("could not write private trace file " ++ path ++ ": ")
    (FileSystem.writeAll file contents)

/-- Keeps the traffic of an operation in a file, if one was asked for. -/
def finishTrace (toVec : JsonValue → Except String (List UInt8)) (operation : D4Operation α)
    (traceFile : Option String) (command : String) : Program F Empty (D4Operation α) :=
  match traceFile with
  | none => return operation
  | some path => do
    let trace ← Program.attempt (writeTraceFile toVec path command operation.events)
    match operation.result, trace with
    | .ok _, .ok () => return operation
    | .ok _, .error error => return { operation with result := .error error }
    | .error error, .ok () => return { operation with
        result := .error (error ++ "; incomplete private trace saved to " ++ path) }
    | .error error, .error trace => return { operation with
        result := .error (error ++ "; private trace could not be saved: " ++ trace) }

/-- The events in a trace file. -/
def readTraceFile (fromStr : String → Except String JsonValue) (path : String) (files : F) :
    Except String (List SanitizedTraceEvent) := do
  let bytes ← (FileSystem.read path files).mapError
    ("could not read trace file " ++ path ++ ": " ++ ·)
  if ¬ Text.IsUtf8 bytes then
    .error ("could not read trace file " ++ path ++ ": stream did not contain valid UTF-8")
  else parseTraceEvents fromStr (Text.ofBytes bytes)

end Definitions

/-! ### What a run comes to -/

section Runs

variable {T F α : Type}

@[simp] theorem SessionEnd.d4Result_mapTarget {T' : Type} (f : T → T') (close : Except String Unit)
    (last : SessionEnd T F α) : (last.mapTarget f).d4Result close = last.d4Result close := by
  cases last <;> rfl

/-- No operation succeeds whose transport could not be closed. -/
theorem SessionEnd.d4Result_of_close_error {last : SessionEnd T F α} {close : String}
    {result : Except String α} (h : last.d4Result (.error close) = .ok result) :
    ∃ error, result = .error error := by
  rcases last with ⟨setup, _, _⟩ | ⟨operation, shutdown, _, _⟩
  · obtain ⟨text, -, hresult⟩ := Outcome.bind_eq_ok.1 h
    cases hresult
    exact ⟨_, rfl⟩
  · have hfailed : ∀ shutdown : Except String Unit,
        ∃ error, finishD4Operation operation shutdown (.error close) = .error error := by
      intro shutdown
      rcases operation with _ | value <;> rcases shutdown with _ | ⟨⟩ <;> exact ⟨_, rfl⟩
    rcases shutdown with error | ⟨⟩
    · obtain ⟨text, -, hresult⟩ := Outcome.bind_eq_ok.1 h
      cases hresult
      exact hfailed _
    · cases h
      exact hfailed _

variable [FileSystem F] [CharTables] {bound : Nat} {spec : EpsonSpec}
  {operation : SessionOperation α} {files files' : F} {done : D4Operation α}

/-- A run taken apart. -/
theorem runD4Operation_ok [HandoffTransport T] {transport left : T}
    (h : runD4Operation bound transport spec operation files = .ok (done, left, files')) :
    ∃ last : SessionEnd (RecordingTransport T) F α,
      runSession bound (RecordingTransport.new transport) spec operation files = .ok last ∧
      last.files = files' ∧ left = UsbTransport.drop (closeRetried last.target.inner).2 ∧
      done.events = last.target.events ∧
      last.d4Result (closeRetried last.target.inner).1 = .ok done.result ∧
      done.driverHandoff =
        .fromUsb (HandoffTransport.driverHandoffOutcome (closeRetried last.target.inner).2) := by
  obtain ⟨last, hrun, hlast⟩ := Outcome.bind_eq_ok.1 h
  obtain ⟨result, hresult, hdone⟩ := Outcome.bind_eq_ok.1 hlast
  cases hdone
  exact ⟨last, hrun, rfl, rfl, rfl, hresult, rfl⟩

/-! ### The trace file -/

section TraceFile

variable {toVec : JsonValue → Except String (List UInt8)} {path command : String}
  {events : List TransportEvent} {finished : D4Operation α}

omit [CharTables] in
/-- What was written can be read: the text that was printed. -/
theorem read_of_writeTraceFile (hkeeps : KeepsWritten F) {source : String}
    (hprint : toVec (traceJson command events) = .ok (Text.utf8 source))
    (h : writeTraceFile toVec path command events files = (.ok (), files')) :
    FileSystem.read path files' = .ok (Text.utf8 source) := by
  obtain ⟨_, files₁, -, hchecked⟩ := Program.bind_eq_ok.1 h
  obtain ⟨⟨⟩, files₂, -, hprinted⟩ := Program.bind_eq_ok.1 hchecked
  obtain ⟨contents, files₃, hcontents, hopened⟩ := Program.bind_eq_ok.1 hprinted
  cases hprint.symm.trans (Program.ofExcept_eq_ok.1 hcontents).1
  obtain ⟨file, files₄, hcreate, hwrite⟩ := Program.bind_eq_ok.1 hopened
  exact hkeeps path file _ _ _ _ (fileOperation_eq_ok.1 hcreate) (fileOperation_eq_ok.1 hwrite)

omit [CharTables] in
/-- **The end of an operation whose trace was saved.** The file holds the events, and an operation
that has succeeded still has. -/
theorem finishTrace_saved (hkeeps : KeepsWritten F) {fromStr : String → Except String JsonValue}
    {source : String} {parsed : List SanitizedTraceEvent}
    (hprint : toVec (traceJson command done.events) = .ok (Text.utf8 source))
    (hparse : parseTraceEvents fromStr source = .ok parsed)
    (h : finishTrace toVec done (some path) command files = (.ok finished, files'))
    (hsaved : (writeTraceFile toVec path command done.events files).1 = .ok ()) :
    readTraceFile fromStr path files' = .ok parsed ∧
      ∀ value, done.result = .ok value → finished.result = .ok value := by
  obtain ⟨trace, files₁, htrace, h⟩ := Program.bind_eq_ok.1 h
  have hwritten : writeTraceFile toVec path command done.events files = (.ok (), files₁) := by
    have hfiles := congrArg Prod.snd htrace
    rw [Program.Simulates.attempt_snd] at hfiles
    exact Prod.ext hsaved hfiles
  obtain rfl : .ok () = trace := by
    rw [Program.attempt_eq_ok.2 hwritten] at htrace
    cases htrace
    rfl
  have hread := read_of_writeTraceFile hkeeps hprint hwritten
  have hevents : readTraceFile fromStr path files₁ = .ok parsed := by
    unfold readTraceFile
    rw [hread]
    show (if ¬ Text.IsUtf8 (Text.utf8 source) then _ else _) = _
    rw [if_neg (not_not.2 (Text.isUtf8_utf8 source)), Text.ofBytes_utf8]
    exact hparse
  rcases hresult : done.result with error | value <;> rw [hresult] at h <;> cases h
  · exact ⟨hevents, nofun⟩
  · exact ⟨hevents, fun _ h ↦ hresult.trans h⟩

end TraceFile

/-! ### Replaying the trace -/

/-- **The trace file of a faultless run replays it.** The reader takes the printed text for the
events that were recorded, and so it does the file that the end of the operation has written. Over
their transcript the same operation on the same files ends as it did, so that with the same close it
comes to the result that was reported, and the transcript is used up. -/
theorem runD4Operation_replays [HandoffTransport T] {transport : T} {left : Journaled T}
    (h : runD4Operation bound (Journaled.start transport) spec operation files =
      .ok (done, left, files'))
    (hfaultless : ∀ call ∈ left.calls, ¬ call.Failed)
    {fromStr : String → Except String JsonValue} {source command : String} (hcommand : command ≠ "")
    (hsource : fromStr source = .ok (traceJson command done.events)) (description : String) :
    ∃ events ended replayed, parseTraceEvents fromStr source = .ok events ∧
      (∀ toVec path finished files'', KeepsWritten F →
        toVec (traceJson command done.events) = .ok (Text.utf8 source) →
        finishTrace toVec done (some path) command files' = (.ok finished, files'') →
        (writeTraceFile toVec path command done.events files').1 = .ok () →
          readTraceFile fromStr path files'' = .ok events ∧
            ∀ value, done.result = .ok value → finished.result = .ok value) ∧
      runSession bound (RecordingTransport.new (Journaled.start transport)) spec operation files =
        .ok ended ∧
      runSession bound (SanitizedTranscript.ofEvents description
        (events.map SanitizedTraceEvent.toTransport)).intoTransport spec operation files =
          .ok (ended.mapTarget fun _ ↦ replayed) ∧
      replayed.assertFinished = (.ok () : Outcome Empty Unit) ∧ ended.files = files' ∧
      (ended.mapTarget fun _ ↦ replayed).d4Result (closeRetried ended.target.inner).1 =
        .ok done.result := by
  obtain ⟨last, hrun, rfl, rfl, hevents, hresult, -⟩ := runD4Operation_ok h
  have hbefore : ∀ call ∈ last.target.inner.calls, ¬ call.Failed := by
    intro call hcall
    refine hfaultless call (List.mem_append_left _ ?_)
    unfold closeRetried
    split <;> rename_i hclose <;> obtain rfl := (Prod.mk.inj hclose).2
    · exact List.mem_append_left _ hcall
    · exact List.mem_append_left _ (List.mem_append_left _ hcall)
  obtain ⟨replayed, hreplay, hfinished⟩ := runSession_replays hrun hbefore description
  have hevents' : (done.events.map SanitizedTraceEvent.ofTransport).map
      SanitizedTraceEvent.toTransport = done.events := by
    rw [List.map_map]
    exact (List.map_congr_left fun event _ ↦
      SanitizedTraceEvent.toTransport_ofTransport event).trans (List.map_id _)
  have hparse : parseTraceEvents fromStr source =
      .ok (done.events.map SanitizedTraceEvent.ofTransport) := by
    refine parseTraceEvents_eq_ok_iff.2 ⟨_, hsource, command, hcommand, ?_⟩
    rw [hevents']
  refine ⟨_, last, replayed, hparse, ?_, hrun, ?_, hfinished, rfl, ?_⟩
  · exact fun toVec path finished files'' hkeeps hprint hfinish hsaved ↦
      finishTrace_saved hkeeps hprint hparse hfinish hsaved
  · rw [hevents', hevents]
    exact hreplay
  · rw [SessionEnd.d4Result_mapTarget]
    exact hresult

/-- The simulated C90 on USB, without a driver. -/
def driverlessC90 : ClaimedTransport (SimulatedDevice (SimulatedPrinter .c90)) :=
  ⟨⟨0, 0⟩, 0x81, 0x02, ⟨0, true, false, ⟨false, false, none⟩⟩, ⟨⟨.c90, false, true⟩, []⟩⟩

/-- The text that is printed for the transfers of a command. -/
def traceText (command : String) (events : List TransportEvent) : String :=
  let eventText (direction : String) (bytes : List UInt8) : String :=
    "\x7b\"bytes\":\"" ++ traceHex bytes ++ "\",\"direction\":\"" ++ direction ++ "\"\x7d"
  let eventTexts := events.map fun event ↦
    match event with
    | .tx bytes => eventText "tx" bytes
    | .rx bytes => eventText "rx" bytes
  "\x7b\"command\":\"" ++ command ++ "\",\"events\":[" ++ String.intercalate "," eventTexts ++
    "],\"mode\":\"read_only\",\"schema_version\":1\x7d"

omit [CharTables] in
/-- A cell of the simulated C90 is read. The trace is saved, and the cell read again from it. -/
theorem runD4Operation_replays_of_c90 :
    letI := CharTables.ascii
    let operation := SessionOperation.session (.readEeprom [0x0c]) ""
    ∃ done left, runD4Operation 300 (Journaled.start driverlessC90) .c90 operation
        (⟨[]⟩ : MemoryFiles) = .ok (done, left, ⟨[]⟩) ∧ done.result = .ok [⟨0x0c, 0x0d⟩] ∧
      let text := traceText "d4-eeprom-read" done.events
      let fromStr : String → Except String JsonValue := fun source ↦
        if source = text then .ok (traceJson "d4-eeprom-read" done.events)
        else .error "expected value at line 1 column 1"
      ∃ finished saved events ended replayed,
        finishTrace (fun _ ↦ .ok (Text.utf8 text)) done (some "trace.json") "d4-eeprom-read" ⟨[]⟩ =
          (.ok finished, saved) ∧
        finished.result = .ok [⟨0x0c, 0x0d⟩] ∧
        readTraceFile fromStr "trace.json" (saved : MemoryFiles) = .ok events ∧
        runSession 300 (RecordingTransport.new (Journaled.start driverlessC90)) .c90 operation
          (⟨[]⟩ : MemoryFiles) = .ok ended ∧
        runSession 300 (SanitizedTranscript.ofEvents "trace"
          (events.map SanitizedTraceEvent.toTransport)).intoTransport .c90 operation
            (⟨[]⟩ : MemoryFiles) = .ok (ended.mapTarget fun _ ↦ replayed) ∧
        replayed.assertFinished = (.ok () : Outcome Empty Unit) ∧
        (ended.mapTarget fun _ ↦ replayed).d4Result (closeRetried ended.target.inner).1 =
          .ok done.result := by
  let _ := CharTables.ascii
  intro operation
  have hread : (runD4Operation 300 (Journaled.start driverlessC90) .c90 operation
      (⟨[]⟩ : MemoryFiles)).any (fun (done, left, files) ↦ files = ⟨[]⟩ ∧
        done.result = .ok [⟨0x0c, 0x0d⟩] ∧ left.calls.all fun call ↦ call.transfer.isSome ||
          call = .closed) = true := by
    decide +kernel
  obtain ⟨⟨done, left, files⟩, hrun, hdone⟩ := Outcome.any_iff.1 hread
  obtain ⟨rfl, hvalue, hcalls⟩ := of_decide_eq_true hdone
  have hfaultless : ∀ call ∈ left.calls, ¬ call.Failed := by
    intro call hcall hfailed
    have htransfer := List.all_eq_true.1 hcalls call hcall
    cases call <;> first | exact hfailed | simp [TransportCall.transfer] at htransfer
  refine ⟨done, left, hrun, hvalue, ?_⟩
  intro text fromStr
  obtain ⟨events, ended, replayed, -, hread, hended, hreplay, hfinished, -, hresult⟩ :=
    runD4Operation_replays hrun hfaultless (show "d4-eeprom-read" ≠ "" by decide)
      (show fromStr text = _ from if_pos rfl) "trace"
  have hwritten : writeTraceFile (fun _ ↦ .ok (Text.utf8 text)) "trace.json" "d4-eeprom-read"
      done.events (⟨[]⟩ : MemoryFiles) = (.ok (), ⟨[("trace.json", Text.utf8 text)]⟩) := rfl
  have hfinish : finishTrace (fun _ ↦ .ok (Text.utf8 text)) done (some "trace.json")
      "d4-eeprom-read" (⟨[]⟩ : MemoryFiles) =
        (.ok done, ⟨[("trace.json", Text.utf8 text)]⟩) := by
    unfold finishTrace
    rw [hvalue]
    exact Program.bind_run_ok (Program.attempt_eq_ok.2 hwritten)
  obtain ⟨hevents, -⟩ := hread _ "trace.json" done _ MemoryFiles.keepsWritten rfl hfinish
    (congrArg Prod.fst hwritten)
  exact ⟨done, _, events, ended, replayed, hfinish, hvalue, hevents, hended, hreplay, hfinished,
    hresult⟩

/-! ### The driver -/

/-- **The hardware test gives the driver back, and its report on it is true.** Whatever the printer,
the operation and the library do on an interface that was opened, where the operation returns: no
driver is attached that is not owed, none is detached where that is refused, and the interface is
released at most once. The report says whether a driver was detached and whether it is back, as of
the calls that were made until then. A driver that is not back in the report makes the test fail;
the drop tries to attach it once more, and it stays detached only where that was refused. -/
theorem runD4Operation_handsBack {H : Type} [BulkHandle H] {selector : UsbInterfaceSelector}
    {inputEndpoint outputEndpoint : UInt8} {selected : Except UsbOpenError UInt8}
    {opened : Except UsbError Unit} {handoff : UsbDriverHandoff} {handle : H}
    {claimed left : ClaimedTransport H} {run : UsbRun H}
    (hopen : ClaimedTransport.openWithPolicy selector inputEndpoint outputEndpoint selected opened
      handoff handle = (.ok claimed, run))
    (h : runD4Operation bound claimed spec operation files = .ok (done, left, files')) :
    ∃ reported : ClaimedTransport H, left = UsbTransport.drop reported ∧
      HandoffSafe handoff left.run.calls ∧
      done.driverHandoff.automatic = decide (handoff = .temporarilyDetach) ∧
      (done.driverHandoff.detached = true ↔ .detach (.ok ()) ∈ reported.run.calls) ∧
      (done.driverHandoff.reattached = some true ↔ .attach (.ok ()) ∈ reported.run.calls) ∧
      (owed reported.run.calls = true → ∃ error, done.result = .error error) ∧
      (owed left.run.calls = true → owed reported.run.calls = true ∧
        ∃ before error, left.run.calls =
          reported.run.calls ++ before ++ [.attach (.error error)]) := by
  obtain ⟨last, hrun, -, hleft, -, hresult, hreport⟩ := runD4Operation_ok h
  obtain ⟨htransport, hcalls⟩ := ClaimedTransport.claims_of_runSession hrun
  have hdevice := ClaimedTransport.open_of_openWithPolicy_ok hopen
  have hreports := fun n ↦ driverHandoff_reports hdevice hcalls n
  have hback := fun n ↦ closes_handsBack hdevice hcalls n
  have howes := fun n ↦ owed_closes hdevice hcalls n
  rw [← htransport] at hreports hback howes
  rw [hreport]
  unfold closeRetried at hleft hresult ⊢
  rcases hclose : UsbTransport.close last.target.inner with ⟨error | ⟨⟩, closed⟩ <;>
    rw [hclose] at hleft hresult <;> subst hleft
  case error =>
    obtain ⟨hrequested, hdetached, hreattached⟩ := hreports 2
    obtain rfl := (Prod.mk.inj hclose).2
    refine ⟨_, rfl, (hback 2).1, hrequested, hdetached, hreattached,
      fun _ ↦ SessionEnd.d4Result_of_close_error hresult, fun howed ↦ ?_⟩
    obtain ⟨hkept, hattach⟩ := (hback 2).2 howed
    exact ⟨(howes 2).trans hkept, hattach⟩
  case ok =>
    obtain ⟨hrequested, hdetached, hreattached⟩ := hreports 1
    have hok := ReadOnlyUsbTransport.detached_of_close_ok (ClaimedTransport.close_ok hclose)
    obtain rfl := (Prod.mk.inj hclose).2
    have hnone (howed : owed (closes 1 last.target.inner.transport
        last.target.inner.run).2.calls = true) : False :=
      absurd ((howes 1).symm.trans howed |>.symm.trans hok) (by simp)
    refine ⟨_, rfl, (hback 1).1, hrequested, hdetached, hreattached, fun howed ↦ ?_, fun howed ↦ ?_⟩
    · exact (hnone howed).elim
    · exact (hnone ((howes 1).trans ((hback 1).2 howed).1)).elim

omit [CharTables] in
/-- The cell is read, and the driver is back. -/
theorem runD4Operation_handsBack_of_c90 :
    letI := CharTables.ascii
    let opened := ClaimedTransport.openWithPolicy ⟨0, 0⟩ 0x81 0x02 (.ok 0) (.ok ())
      .temporarilyDetach (SimulatedDevice.c90 true)
    ∃ claimed done reported left, opened.1 = .ok claimed ∧
      runD4Operation 300 claimed .c90 (SessionOperation.session (.readEeprom [0x0c]) "")
        (⟨[]⟩ : MemoryFiles) = .ok (done, left, ⟨[]⟩) ∧ left = UsbTransport.drop reported ∧
      done.result = .ok [⟨0x0c, 0x0d⟩] ∧ done.driverHandoff = ⟨true, true, some true⟩ ∧
      .detach (.ok ()) ∈ reported.run.calls ∧ .attach (.ok ()) ∈ reported.run.calls := by
  let _ := CharTables.ascii
  intro opened
  have hread : opened.1.toOption.any (fun claimed ↦ (runD4Operation 300 claimed .c90
      (SessionOperation.session (.readEeprom [0x0c]) "") (⟨[]⟩ : MemoryFiles)).any
        fun (done, _, files) ↦ files = ⟨[]⟩ ∧ done.result = .ok [⟨0x0c, 0x0d⟩] ∧
          done.driverHandoff = ⟨true, true, some true⟩) = true := by
    decide +kernel
  have hopen : ClaimedTransport.openWithPolicy ⟨0, 0⟩ 0x81 0x02 (.ok 0) (.ok ())
      .temporarilyDetach (SimulatedDevice.c90 true) = (opened.1, opened.2) := rfl
  clear_value opened
  obtain ⟨claimed, hclaimed, hsome⟩ := (Option.any_eq_true _ _).1 hread
  rcases opened with ⟨error | claimed, run⟩ <;> cases hclaimed
  obtain ⟨⟨done, left, files⟩, hrun, hdone⟩ := Outcome.any_iff.1 hsome
  obtain ⟨rfl, hvalue, hreport⟩ := of_decide_eq_true hdone
  obtain ⟨reported, hleft, -, -, hdetached, hreattached, -⟩ := runD4Operation_handsBack hopen hrun
  rw [hreport] at hdetached hreattached
  exact ⟨claimed, done, reported, left, rfl, hrun, hleft, hvalue, hreport, hdetached.1 rfl,
    hreattached.1 rfl⟩

end Runs

end Reink
