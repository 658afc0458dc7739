import Reink.Cli.Mutation
import Reink.Gui.Operation

/-!
# What a thread of the window does

Every request runs in one session, and its operation is that of the command line in other words: so
an EEPROM write tells of a backup. A success that a thread reports is that of its request, and what
it says of the image or of the values is what the session has read and saved.
-/

namespace Reink

open SessionOperation (of_session_run of_saveNewFile_run)

/-! ### One session -/

/-- The environment whose transports keep a journal. -/
def UsbEnvironment.journaled {T : Type} (environment : UsbEnvironment T) :
    UsbEnvironment (Journaled T) where
  openUsb device interface := (environment.openUsb device interface).map Journaled.start
  openNative native := (environment.openNative native).map Journaled.start

section Writes

variable {T F : Type} [UsbTransport T] [FileSystem F] [CharTables] {bound : Nat}
  {database : ModelDatabase} {environment : UsbEnvironment T} {candidate : DescriptorCandidate}
  {expectedModel : String} {spec : EpsonSpec} {recordTraffic : Bool} {files : F}

/-- The operation that a request comes to, for a candidate. -/
inductive RunsAs (candidate : DescriptorCandidate) (expectedModel : String) :
    PreparedRequest → SessionOperation UsbOperationSuccess → Prop where
  | status (redact : List UInt8 → List UInt8) :
    RunsAs candidate expectedModel .status (statusOperation expectedModel redact)
  | dump (outputFile : String) (loadForDisplay : Bool) :
    RunsAs candidate expectedModel (.dump outputFile)
      (dumpOperation expectedModel outputFile loadForDisplay)
  | mutation (action : String) (updates : List (UInt16 × UInt8)) (backupFile : String)
      (acknowledged : Bool)
      (mutation : GuardedMutation (List (UInt16 × UInt8)) UsbOperationSuccess)
      (hacknowledged : candidate.experimentalMutation = true → acknowledged = true)
      (hinspect : mutation.inspect = currentValues)
      (hreport : ∀ plan values, mutation.report plan values =
        .mutation action expectedModel backupFile values plan.updates.length) :
    RunsAs candidate expectedModel (.mutation action updates backupFile acknowledged)
      (mutation.operation (verifyExactModel · expectedModel) updates backupFile)

/-- What the environment answers to an attempt to open the candidate. -/
def UsbEnvironment.Opens {T : Type} (environment : UsbEnvironment T)
    (candidate : DescriptorCandidate) (opened : Except String T) : Prop :=
  (∃ device interface, candidate.backend = .libUsb ∧
      candidate.selectors = some (device, interface) ∧
      opened = environment.openUsb device interface) ∨
    ∃ native, candidate.backend = .windowsNative native ∧ opened = environment.openNative native

/-- The run hands on what the session came to. Of the record it shows no more than its shape. -/
structure Shows (run session : SelectedUsbSession T F UsbOperationSuccess) : Prop where
  transport : run.transport = session.transport
  files : run.files = session.files
  operation : run.outcome.operation = session.outcome.operation
  cleanup : run.outcome.cleanup = session.outcome.cleanup
  events : run.outcome.events.map TransportEvent.shape <+:
    session.outcome.events.map TransportEvent.shape

omit [UsbTransport T] [FileSystem F] [CharTables] in
theorem Shows.refl (session : SelectedUsbSession T F UsbOperationSuccess) :
    Shows session session := ⟨rfl, rfl, rfl, rfl, List.prefix_rfl⟩

/-- What a request of the candidate has come to: the session of its operation. -/
def RanIn (bound : Nat) (environment : UsbEnvironment T) (candidate : DescriptorCandidate)
    (spec : EpsonSpec) (expectedModel : String) (recordTraffic : Bool) (request : PreparedRequest)
    (files : F) (run : SelectedUsbSession T F UsbOperationSuccess) : Prop :=
  ∃ openFailure opened recorded operation session, environment.Opens candidate opened ∧
    (recorded = true → recordTraffic = true) ∧ RunsAs candidate expectedModel request operation ∧
    withEpsonSession bound openFailure opened spec recorded operation files = .ok session ∧
    Shows run session

theorem runNativeRead_ranIn {native : WindowsNativePrinterCandidate}
    (hbackend : candidate.backend = .windowsNative native) {request : PreparedRequest}
    {operation : SessionOperation UsbOperationSuccess}
    (hruns : RunsAs candidate expectedModel request operation)
    {run : SelectedUsbSession T F UsbOperationSuccess}
    (h : runNativeRead bound environment native spec operation recordTraffic files = .ok run) :
    RanIn bound environment candidate spec expectedModel recordTraffic request files run := by
  obtain ⟨session, hsession, hrest⟩ := Outcome.bind_eq_ok.1 h
  obtain ⟨events, hevents, hreport⟩ := Outcome.bind_eq_ok.1 hrest
  cases hreport
  refine ⟨_, _, recordTraffic, operation, session, .inr ⟨native, hbackend, rfl⟩, id, hruns,
    hsession, rfl, rfl, rfl, rfl, ?_⟩
  rcases hredacted : redactNativeIdentitySerials session.outcome.events with _ | redacted
  · rw [hredacted] at hevents
    cases hevents
  · rw [hredacted] at hevents
    cases hevents
    rw [shape_of_redactNativeIdentitySerials hredacted]

/-- Why a request for a candidate is refused before anything is opened. -/
def Refused (candidate : DescriptorCandidate) (request : PreparedRequest) : Prop :=
  candidate.backend = .libUsb ∧ candidate.selectors = none ∨
    candidate.experimentalMutation = true ∧
      ∃ action updates backupFile, request = .mutation action updates backupFile false

/-- **A request runs in one session**, on a transport of the candidate, with the operation of the
request. Where there is none, it was refused and nothing was opened. -/
theorem runPreparedRequest_cases {request : PreparedRequest}
    {run : SelectedUsbSession T F UsbOperationSuccess}
    (h : runPreparedRequest bound environment candidate spec expectedModel recordTraffic request
      files = .ok run) :
    (∃ error, run = notOpened error files) ∧ Refused candidate request ∨
      RanIn bound environment candidate spec expectedModel recordTraffic request files run := by
  unfold runPreparedRequest at h
  rcases hbackend : candidate.backend with _ | native
  · rcases hselectors : candidate.selectors with _ | ⟨device, interface⟩
    · rw [hbackend, hselectors] at h
      cases h
      exact .inl ⟨⟨_, rfl⟩, .inl ⟨hbackend, hselectors⟩⟩
    · rw [hbackend, hselectors] at h
      refine .inr ⟨_, _, recordTraffic, _, run, .inl ⟨device, interface, hbackend, hselectors, rfl⟩,
        id, ?_, h, .refl run⟩
      cases request with
      | status => exact .status id
      | dump outputFile => exact .dump outputFile true
      | mutation action updates backupFile acknowledged =>
        refine .mutation action updates backupFile acknowledged _ (fun hexperimental ↦ ?_) rfl
          fun _ _ ↦ rfl
        rw [DescriptorCandidate.experimentalMutation, hbackend] at hexperimental
        cases hexperimental
  rw [hbackend] at h
  cases request with
  | status => exact .inr (runNativeRead_ranIn hbackend (.status _) h)
  | dump outputFile => exact .inr (runNativeRead_ranIn hbackend (.dump outputFile false) h)
  | mutation action updates backupFile acknowledged =>
    rcases acknowledged with _ | _
    · cases h
      refine .inl ⟨⟨_, rfl⟩, .inr ⟨?_, action, updates, backupFile, rfl⟩⟩
      rw [DescriptorCandidate.experimentalMutation, hbackend]
      rfl
    · obtain ⟨session, hsession, hreport⟩ := Outcome.bind_eq_ok.1 h
      cases hreport
      exact .inr ⟨_, _, false, _, session, .inr ⟨native, hbackend, rfl⟩, nofun,
        .mutation action updates backupFile true _ (fun _ ↦ rfl) rfl fun _ _ ↦ rfl, hsession, rfl,
        rfl, rfl, rfl, List.nil_prefix⟩

/-- What a thread has come to. -/
theorem runSelectedUsbOperation_cases {request : UsbOperationRequest}
    {run : SelectedUsbSession T F UsbOperationSuccess}
    (h : runSelectedUsbOperation bound (.ok database) environment candidate expectedModel request
      recordTraffic files = .ok run) :
    (∃ error, run = notOpened error files) ∧
        (∀ spec prepared, database.get expectedModel = some spec →
          request.prepare spec = .ok prepared → Refused candidate prepared) ∨
      ∃ spec prepared, database.get expectedModel = some spec ∧
        request.prepare spec = .ok prepared ∧
        RanIn bound environment candidate spec expectedModel recordTraffic prepared files run := by
  rcases hget : database.get expectedModel with _ | spec
  · rw [runSelectedUsbOperation, hget] at h
    cases h
    exact .inl ⟨⟨_, rfl⟩, fun _ _ hsome ↦ by cases hsome⟩
  rw [runSelectedUsbOperation, hget] at h
  dsimp only at h
  split at h
  case h_1 error hrefused =>
    cases h
    refine .inl ⟨⟨_, rfl⟩, fun _ _ hsome hprepared ↦ ?_⟩
    cases hsome
    cases hrefused.symm.trans hprepared
  case h_2 => cases h
  case h_3 => cases h
  case h_4 prepared hprepared =>
    rcases runPreparedRequest_cases h with ⟨hnone, hrefused⟩ | hran
    · refine .inl ⟨hnone, fun _ _ hsome hprepared' ↦ ?_⟩
      cases hsome
      cases hprepared.symm.trans hprepared'
      exact hrefused
    · exact .inr ⟨spec, prepared, rfl, hprepared, hran⟩

omit [UsbTransport T] [CharTables] in
/-- The transports of a journaled environment start with an empty journal. -/
theorem UsbEnvironment.Opens.exists_start {opened : Except String (Journaled T)}
    (h : environment.journaled.Opens candidate opened) :
    ∃ opened', opened = Except.map Journaled.start opened' := by
  rcases h with ⟨device, interface, -, -, rfl⟩ | ⟨native, -, rfl⟩
  · exact ⟨_, rfl⟩
  · exact ⟨_, rfl⟩

end Writes

/-! ### What a thread reports -/

/-- What is true of a success: it is that of the request. A dump has the whole memory, and is in
the new file. A mutation shows the values that its backup has at the addresses of the updates, and
this backup is in the new file. -/
inductive Accurate {F : Type} [FileSystem F] (spec : EpsonSpec) (expectedModel : String)
    (files files' : F) : PreparedRequest → UsbOperationSuccess → Prop where
  | status (responseBytes : Nat) (display : String) :
    Accurate spec expectedModel files files' .status (.status expectedModel responseBytes display)
  | dump (image : EepromImage) (outputFile : String) (loadForDisplay : Bool)
      (hmodel : image.model = spec.model) (hstart : image.startAddress = spec.memoryLow)
      (hlength : image.bytes.length = spec.addresses.length)
      (hsaved : writeNewBinaryFile outputFile image.bytes "EEPROM image" files = (.ok (), files')) :
    Accurate spec expectedModel files files' (.dump outputFile)
      (.dump image outputFile loadForDisplay)
  | mutation (action : String) (updates values : List (UInt16 × UInt8)) (backup : EepromImage)
      (backupFile backupKind : String) (acknowledged : Bool)
      (hmatches : EepromWritePlan.Matches ⟨backup, updates⟩ spec)
      (hvalues : List.Forall₂ (fun update value ↦ value.1 = update.1 ∧
        backup.valueAt update.1 = some value.2) updates values)
      (hsaved : writeNewBinaryFile backupFile backup.bytes backupKind files = (.ok (), files')) :
    Accurate spec expectedModel files files' (.mutation action updates backupFile acknowledged)
      (.mutation action expectedModel backupFile values updates.length)

section Reports

variable {T F : Type} [ByteTransport T] [FileSystem F] [CharTables] {bound : Nat}
  {expectedModel : String} {spec : EpsonSpec}

/-- The session has identified the printer as one of the model. -/
def Identified (bound : Nat) (expectedModel : String) (before after : EpsonD4Session T) : Prop :=
  ∃ identity, EpsonD4Session.readIdentity bound before = (.ok identity, after) ∧
    identity.detectedModel = some expectedModel

omit [CharTables] in
theorem Identified.spec_eq {before after : EpsonD4Session T}
    (h : Identified bound expectedModel before after) : after.spec = before.spec := by
  obtain ⟨identity, hidentity, -⟩ := h
  obtain ⟨response, session, hresponse, hlast⟩ := Program.bind_eq_ok.1 hidentity
  obtain ⟨-, rfl⟩ := Program.ofExcept_eq_ok.1 hlast
  have hfixed : (EpsonD4Session.onControl bound (fun _ ↦ EpsonController.requestIdentity)
      before).2.spec = before.spec := EpsonD4Session.onControl_spec _
  rwa [Program.mapErr_eq_ok.1 hresponse] at hfixed

/-- An operation behind the check of the identity has come to its end behind it. -/
theorem of_identified_run {α : Type} {operation : SessionOperation α} {host host' : Host T F}
    {a : α}
    (h : (identified expectedModel operation).run (Host.serve bound) host = (.ok a, host')) :
    ∃ session, Identified bound expectedModel host.session session ∧
      operation.run (Host.serve bound) (host.withSession session) = (.ok a, host') := by
  rw [identified, Client.run_bind] at h
  obtain ⟨identity, host₁, hidentity, h⟩ := Program.bind_eq_ok.1 h
  obtain ⟨session, hread, rfl⟩ := of_session_run hidentity
  rcases hverify : verifyExactModel identity expectedModel with error | ⟨⟩
  · rw [hverify] at h
    cases h
  rw [hverify, Client.ofExcept_ok, Client.done_bind] at h
  exact ⟨session, ⟨identity, hread, verifyExactModel_eq_ok_iff.1 hverify⟩, h⟩

/-- A dump is an image of the whole memory. -/
theorem image_of_dumpEeprom {session session' : EpsonD4Session T} {image : EepromImage}
    (h : EpsonD4Session.dumpEeprom bound session = (.ok image, session')) :
    image.model = session.spec.model ∧ image.startAddress = session.spec.memoryLow ∧
      image.bytes.length = session.spec.addresses.length := by
  obtain ⟨bytes, session₁, hloop, hlast⟩ := Program.bind_eq_ok.1 h
  cases hlast
  exact ⟨rfl, rfl, (EpsonD4Session.length_of_dumpLoop hloop).1.trans (Nat.zero_add _)⟩

omit [CharTables] in
theorem of_currentValues {plan : EepromWritePlan} {values : List (UInt16 × UInt8)}
    (h : currentValues plan = .ok values) :
    List.Forall₂ (fun update value ↦ value.1 = update.1 ∧
      plan.backup.valueAt update.1 = some value.2) plan.updates values := by
  refine (Except.mapM_eq_ok.1 h).imp fun update value hvalue ↦ ?_
  obtain ⟨byte, hbyte, rfl⟩ := Option.map_eq_some_iff.1 (Except.okOr_eq_ok_iff.1 hvalue)
  exact ⟨rfl, hbyte⟩

/-- **A success is true.** The printer was identified in the session, and what the success says is
what the operation has read and saved. -/
theorem RunsAs.accurate {candidate : DescriptorCandidate} {request : PreparedRequest}
    {operation : SessionOperation UsbOperationSuccess}
    (hruns : RunsAs candidate expectedModel request operation) {host host' : Host T F}
    {success : UsbOperationSuccess}
    (h : operation.run (Host.serve bound) host = (.ok success, host')) :
    (∃ session, Identified bound expectedModel host.session session) ∧
      Accurate host.session.spec expectedModel host.files host'.files request success := by
  cases hruns with
  | status redact =>
    obtain ⟨session, hidentified, h⟩ := of_identified_run h
    rw [Client.run_bind] at h
    obtain ⟨response, host₁, hresponse, h⟩ := Program.bind_eq_ok.1 h
    cases h
    exact ⟨⟨session, hidentified⟩, .status _ _⟩
  | dump outputFile loadForDisplay =>
    obtain ⟨session, hidentified, h⟩ := of_identified_run h
    rw [Client.run_bind] at h
    obtain ⟨image, host₁, hdump, h⟩ := Program.bind_eq_ok.1 h
    obtain ⟨session', hperform, rfl⟩ := of_session_run hdump
    rw [Client.run_bind, SessionOperation.newFile_eq] at h
    obtain ⟨⟨⟩, host₂, hfile, h⟩ := Program.bind_eq_ok.1 h
    obtain ⟨files', hsaved, rfl⟩ := of_saveNewFile_run hfile
    cases h
    obtain ⟨hmodel, hstart, hlength⟩ := image_of_dumpEeprom (Program.mapErr_eq_ok.1 hperform)
    rw [← hidentified.spec_eq]
    exact ⟨⟨session, hidentified⟩, .dump image outputFile loadForDisplay hmodel hstart hlength
      hsaved⟩
  | mutation action updates backupFile acknowledged mutation hacknowledged hinspect hreport =>
    rw [GuardedMutation.operation, Client.run_bind] at h
    obtain ⟨identity, host₁, hidentity, h⟩ := Program.bind_eq_ok.1 h
    obtain ⟨session, hread, rfl⟩ := of_session_run hidentity
    rcases hverify : verifyExactModel identity expectedModel with error | ⟨⟩
    · rw [hverify] at h
      cases h
    have hidentified : Identified bound expectedModel host.session session :=
      ⟨identity, hread, verifyExactModel_eq_ok_iff.1 hverify⟩
    rw [hverify, Client.ofExcept_ok, Client.done_bind, Client.run_bind] at h
    obtain ⟨plan, host₂, hplan, h⟩ := Program.bind_eq_ok.1 h
    obtain ⟨session₂, hprepare, rfl⟩ := of_session_run hplan
    rcases hvalues : currentValues plan with error | values
    · rw [hinspect, hvalues] at h
      cases h
    rw [hinspect, hvalues, Client.ofExcept_ok, Client.done_bind, Client.run_bind] at h
    obtain ⟨⟨⟩, host₃, hfile, h⟩ := Program.bind_eq_ok.1 h
    obtain ⟨files', hsaved, rfl⟩ := of_saveNewFile_run hfile
    rw [Client.run_bind] at h
    obtain ⟨⟨⟩, host₄, happly, h⟩ := Program.bind_eq_ok.1 h
    obtain ⟨session₃, -, rfl⟩ := of_session_run happly
    rw [hreport] at h
    cases h
    obtain ⟨hupdates, hmatches, hspec⟩ :=
      EpsonD4Session.matches_of_prepareEepromWrite (Program.mapErr_eq_ok.1 hprepare)
    have hbefore := of_currentValues hvalues
    rw [hspec] at hmatches
    rw [hupdates] at hbefore
    rw [hupdates, ← hidentified.spec_eq]
    exact ⟨⟨session, hidentified⟩, .mutation action updates values plan.backup backupFile _
      acknowledged (hupdates ▸ hmatches) hbefore hsaved⟩

end Reports

/-- What a session reports is true. -/
theorem RanIn.accurate {T F : Type} [UsbTransport T] [FileSystem F] [CharTables] {bound : Nat}
    {environment : UsbEnvironment T} {candidate : DescriptorCandidate} {spec : EpsonSpec}
    {expectedModel : String} {recordTraffic : Bool} {request : PreparedRequest} {files : F}
    {run : SelectedUsbSession T F UsbOperationSuccess}
    (h : RanIn bound environment candidate spec expectedModel recordTraffic request files run)
    {success : UsbOperationSuccess} (hok : run.outcome.operation = .ok success) :
    (∃ before after : EpsonD4Session (RecordingTransport T), before.spec = spec ∧
        Identified bound expectedModel before after) ∧
      Accurate spec expectedModel files run.files request success := by
  obtain ⟨openFailure, opened, recorded, operation, session, -, -, hruns, hsession, hshows⟩ := h
  obtain ⟨host, host', rfl, rfl, hrun, hfiles⟩ :=
    exists_run_of_operation hsession (hshows.operation.symm.trans hok)
  obtain ⟨⟨after, hidentified⟩, haccurate⟩ := hruns.accurate hrun
  refine ⟨⟨_, after, rfl, hidentified⟩, ?_⟩
  rwa [hshows.files, ← hfiles]

/-- A printer interface of libusb. -/
def DescriptorCandidate.usb1 : DescriptorCandidate :=
  ⟨"usb-1", .libUsb, 0x04b8, 0x0005, some 1, some 2, some 0, some 0, []⟩

/-- The printer is behind every interface of libusb. -/
def UsbEnvironment.ofUsb {T : Type} (printer : T) : UsbEnvironment T where
  openUsb _ _ := .ok printer
  openNative _ := .error "there is no such interface"

/-- A thread that was not asked to record hands on no record. -/
theorem recordTraffic_of_events {T F : Type} [UsbTransport T] [FileSystem F] [CharTables]
    {bound : Nat} {database : ModelDatabase} {environment : UsbEnvironment T}
    {candidate : DescriptorCandidate} {expectedModel : String} {request : UsbOperationRequest}
    {recordTraffic : Bool} {files : F} {run : SelectedUsbSession T F UsbOperationSuccess}
    (h : runSelectedUsbOperation bound (.ok database) environment candidate expectedModel request
      recordTraffic files = .ok run) (hevents : run.outcome.events ≠ []) :
    recordTraffic = true := by
  rcases runSelectedUsbOperation_cases h with ⟨⟨error, rfl⟩, -⟩ | ⟨spec, prepared, -, -, hran⟩
  · exact absurd rfl hevents
  obtain ⟨openFailure, opened, recorded, operation, session, -, hrecorded, -, hsession, hshows⟩ :=
    hran
  rcases recorded with _ | _
  · have hshape := hshows.events
    rw [events_of_unrecorded hsession, List.map_nil, List.prefix_nil, List.map_eq_nil_iff] at hshape
    exact absurd hshape hevents
  · exact hrecorded rfl

end Reink
