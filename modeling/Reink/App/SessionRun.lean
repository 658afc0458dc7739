import Reink.App.SessionSimulation

/-!
# Whole sessions

Setup, the operation of the caller, and the shutdown, which is attempted whatever the operation came
to. How a session ends depends on the transport only by what it answers. Not every session ends: its
loops may go on for ever, and its assertions may fail. Where it stands is defined in any case.
-/

namespace Reink

open Program (Simulates attempt mapErr throw zoom)

/-- How a session came to its end. The transport is given back, and so are the files. -/
inductive SessionEnd (T F α : Type) where
  | setupFailed (error : ApplicationError) (target : T) (files : F)
  | finished (operation : Except String α) (shutdown : Except ApplicationError Unit)
      (target : T) (files : F)

namespace SessionEnd

variable {T T' F α : Type}

/-- The transport that is left. -/
def target : SessionEnd T F α → T
  | setupFailed _ target _ => target
  | finished _ _ target _ => target

/-- The files that are left. -/
def files : SessionEnd T F α → F
  | setupFailed _ _ files => files
  | finished _ _ _ files => files

/-- The end with another transport. -/
def mapTarget (f : T → T') : SessionEnd T F α → SessionEnd T' F α
  | setupFailed error target files => setupFailed error (f target) files
  | finished operation shutdown target files => finished operation shutdown (f target) files

end SessionEnd

section Definitions

variable {T F α : Type} [ByteTransport T] [FileSystem F] [CharTables] (bound : Nat)

/-- What follows on a setup: the operation, and the shutdown in any case. -/
def runOpened (operation : SessionOperation α) :
    Program (Host T F) Empty (Except String α × Except ApplicationError Unit) := do
  let result ← attempt (operation.run (Host.serve bound))
  let shutdown ← attempt (Host.onSession (EpsonD4Session.shutdown bound))
  return (result, shutdown)

/-- Open a session over the transport, run the operation on it and shut it down. -/
def runSession (target : T) (spec : EpsonSpec) (operation : SessionOperation α) (files : F) :
    Outcome Empty (SessionEnd T F α) :=
  match EpsonD4Session.connectRecoverable bound target spec with
  | .err (error, target) => .ok (.setupFailed error target files)
  | .panic message => .panic message
  | .running => .running
  | .ok session =>
    match runOpened bound operation ⟨session, files⟩ with
    | (.ok (result, shutdown), host) =>
      .ok (.finished result shutdown host.session.link.state.target host.files)
    | (.err error, _) => error.elim
    | (.panic message, _) => .panic message
    | (.running, _) => .running

end Definitions

/-! ### The setup as a program -/

namespace EpsonD4Session

section Setup

variable {T : Type} [ByteTransport T] (bound : Nat)

/-- The entry command. -/
def writeEntry : Program T ApplicationError Unit := fun target ↦
  match ByteTransport.writeAll epsonD4EntryCommand target with
  | (.error error, target) => (.err (.transport error), target)
  | (.ok (), target) => (.ok (), target)

/-- Run a program on the transport of a link. -/
def onTarget {T ε α : Type} (m : Program T ε α) : Program (LinkRun T) ε α :=
  zoom (fun w ↦ w.state.target)
    (fun w target ↦ { w with state := { w.state with target := target } }) m

theorem onTarget_new {T ε α : Type} (m : Program T ε α) (target : T) :
    onTarget m (.start (D4Link.new target)) =
      ((m target).1, .start (D4Link.new (m target).2)) := rfl

/-- The setup on a link that is there from the start. -/
def setUp : Program (LinkRun T) ApplicationError ChannelId := do
  onTarget writeEntry
  onTarget waitForEntryReply
  mapErr .d4 (D4Link.initializeLink bound)
  match ← attempt (D4Link.openService bound "EPSON-CTRL") with
  | .ok controlChannel => return controlChannel
  | .error setup =>
    match ← attempt (D4Link.exit bound) with
    | .ok () => throw (.setupRecovered setup)
    | .error recovery => throw (.setupRecovery setup recovery)

/-- The session, or the error and the transport, after a setup. -/
def ofSetUp (spec : EpsonSpec) :
    Outcome ApplicationError ChannelId × LinkRun T →
      Outcome (ApplicationError × T) (EpsonD4Session T)
  | (.ok controlChannel, link) => .ok ⟨link, controlChannel, spec⟩
  | (.err error, link) => .err (error, link.state.target)
  | (.panic message, _) => .panic message
  | (.running, _) => .running

/-- **Connecting is the setup.** The link is not touched before the entry is over. -/
theorem connectRecoverable_eq (target : T) (spec : EpsonSpec) :
    connectRecoverable bound target spec =
      ofSetUp spec (setUp bound (.start (D4Link.new target))) := by
  unfold connectRecoverable setUp
  rcases hwrite : ByteTransport.writeAll epsonD4EntryCommand target with ⟨error | _, target₁⟩
  · have hentry : writeEntry target = (.err (.transport error), target₁) := by
      rw [writeEntry, hwrite]
    rw [Program.bind_run_err (by rw [onTarget_new, hentry])]
    rfl
  have hentry : writeEntry target = (.ok (), target₁) := by rw [writeEntry, hwrite]
  rw [Program.bind_run_ok (by rw [onTarget_new, hentry])]
  dsimp only
  rcases hwait : waitForEntryReply target₁ with ⟨_ | error | message | _, target₂⟩
  case err => rw [Program.bind_run_err (by rw [onTarget_new, hwait])]; rfl
  case panic => rw [Program.bind_run_panic (by rw [onTarget_new, hwait])]; rfl
  case running => rw [Program.bind_run_running (by rw [onTarget_new, hwait])]; rfl
  rw [Program.bind_run_ok (by rw [onTarget_new, hwait])]
  dsimp only
  have hinitialized : (mapErr .d4 (D4Link.initializeLink bound) :
      Program (LinkRun T) ApplicationError Unit) (.start (D4Link.new target₂)) =
      ((D4Link.initializeLink bound (.start (D4Link.new target₂))).1.mapErr .d4,
        (D4Link.initializeLink bound (.start (D4Link.new target₂))).2) := rfl
  rcases hinit : D4Link.initializeLink bound (.start (D4Link.new target₂)) with
    ⟨_ | error | message | _, link⟩ <;> rw [hinit] at hinitialized
  case err => rw [Program.bind_run_err hinitialized]; rfl
  case panic => rw [Program.bind_run_panic hinitialized]; rfl
  case running => rw [Program.bind_run_running hinitialized]; rfl
  rw [Program.bind_run_ok hinitialized]
  dsimp only
  rcases hopen : D4Link.openService bound "EPSON-CTRL" link with ⟨_ | setup | message | _, link'⟩
  case panic =>
    rw [Program.bind_run_panic (by rw [attempt, hopen])]
    rfl
  case running =>
    rw [Program.bind_run_running (by rw [attempt, hopen])]
    rfl
  case ok =>
    rw [Program.bind_run_ok (Program.attempt_eq_ok.2 hopen)]
    rfl
  rw [Program.bind_run_ok (Program.attempt_eq_error.2 hopen)]
  dsimp only
  rcases hexit : D4Link.exit bound link' with ⟨_ | recovery | message | _, link''⟩
  case panic =>
    rw [Program.bind_run_panic (by rw [attempt, hexit])]
    rfl
  case running =>
    rw [Program.bind_run_running (by rw [attempt, hexit])]
    rfl
  case ok =>
    rw [Program.bind_run_ok (Program.attempt_eq_ok.2 hexit)]
    rfl
  · rw [Program.bind_run_ok (Program.attempt_eq_error.2 hexit)]
    rfl

end Setup

end EpsonD4Session

section Stand

variable {T F α : Type} [ByteTransport T] [FileSystem F] [CharTables] (bound : Nat)

/-- Where a session stands, also while it is running and where it has panicked: its link, and the
files. -/
def sessionStand (target : T) (spec : EpsonSpec) (operation : SessionOperation α) (files : F) :
    LinkRun T × F :=
  match EpsonD4Session.setUp bound (.start (D4Link.new target)) with
  | (.ok controlChannel, w) =>
    let (_, host) := runOpened bound operation ⟨⟨w, controlChannel, spec⟩, files⟩
    (host.session.link, host.files)
  | (.err _, w) | (.panic _, w) | (.running, w) => (w, files)

variable {bound} {target : T} {spec : EpsonSpec} {operation : SessionOperation α} {files : F}

/-- A session stands in its setup, or in the operation or the shutdown behind it. -/
theorem sessionStand_cases (bound : Nat) (target : T) (spec : EpsonSpec)
    (operation : SessionOperation α) (files : F) :
    (∃ w, (EpsonD4Session.setUp bound (.start (D4Link.new target))).2 = w ∧
      sessionStand bound target spec operation files = (w, files)) ∨
    ∃ controlChannel w host,
      EpsonD4Session.setUp bound (.start (D4Link.new target)) = (.ok controlChannel, w) ∧
      (runOpened bound operation ⟨⟨w, controlChannel, spec⟩, files⟩).2 = host ∧
      sessionStand bound target spec operation files = (host.session.link, host.files) := by
  unfold sessionStand
  rcases EpsonD4Session.setUp bound (.start (D4Link.new target)) with
    ⟨controlChannel | error | message | _, w⟩
  case ok => exact .inr ⟨controlChannel, w, _, rfl, rfl, rfl⟩
  all_goals exact .inl ⟨w, rfl, rfl⟩

/-- A session that has ended stands where it has ended. -/
theorem runSession_stand {last : SessionEnd T F α}
    (h : runSession bound target spec operation files = .ok last) :
    (sessionStand bound target spec operation files).1.state.target = last.target ∧
      (sessionStand bound target spec operation files).2 = last.files := by
  unfold runSession at h
  rw [EpsonD4Session.connectRecoverable_eq] at h
  unfold sessionStand
  rcases hsetUp : EpsonD4Session.setUp bound (.start (D4Link.new target)) with
    ⟨controlChannel | error | message | _, w⟩ <;> rw [hsetUp] at h
  case panic => cases h
  case running => cases h
  case err =>
    cases h
    exact ⟨rfl, rfl⟩
  case ok =>
    dsimp only [EpsonD4Session.ofSetUp] at h ⊢
    rcases hopened : runOpened bound operation ⟨⟨w, controlChannel, spec⟩, files⟩ with
      ⟨⟨result, shutdown⟩ | error | message | _, host⟩ <;> rw [hopened] at h
    case err => exact error.elim
    case panic => cases h
    case running => cases h
    cases h
    exact ⟨rfl, rfl⟩

end Stand

/-- **A session taken apart**: its setup has failed, or its operation and its shutdown have run one
after the other. -/
theorem runSession_cases {T F α : Type} [ByteTransport T] [FileSystem F] [CharTables] {bound : Nat}
    {target : T} {spec : EpsonSpec} {operation : SessionOperation α} {files : F}
    {last : SessionEnd T F α} (h : runSession bound target spec operation files = .ok last) :
    (∃ error w, EpsonD4Session.setUp bound (.start (D4Link.new target)) = (.err error, w) ∧
      last = .setupFailed error w.state.target files) ∨
    ∃ controlChannel w result shutdown host₁ host₂,
      EpsonD4Session.setUp bound (.start (D4Link.new target)) = (.ok controlChannel, w) ∧
      attempt (operation.run (Host.serve bound)) ⟨⟨w, controlChannel, spec⟩, files⟩ =
        ((.ok result, host₁) : Outcome Empty _ × _) ∧
      attempt (Host.onSession (EpsonD4Session.shutdown bound)) host₁ =
        ((.ok shutdown, host₂) : Outcome Empty _ × _) ∧
      last = .finished result shutdown host₂.session.link.state.target host₂.files := by
  unfold runSession at h
  rw [EpsonD4Session.connectRecoverable_eq] at h
  rcases hsetUp : EpsonD4Session.setUp bound (.start (D4Link.new target)) with
    ⟨controlChannel | error | message | _, w⟩ <;> rw [hsetUp] at h
  case panic => cases h
  case running => cases h
  case err =>
    cases h
    exact .inl ⟨error, w, rfl, rfl⟩
  case ok =>
    dsimp only [EpsonD4Session.ofSetUp] at h
    split at h <;> try (cases h; done)
    case h_1 result shutdown host hopened =>
      cases h
      obtain ⟨result', host₁, hresult, hafter⟩ := Program.bind_eq_ok.1 hopened
      obtain ⟨shutdown', host₂, hshutdown, hpair⟩ := Program.bind_eq_ok.1 hafter
      cases hpair
      exact .inr ⟨controlChannel, w, _, _, host₁, _, rfl, hresult, hshutdown, rfl⟩
    case h_2 error _ _ => exact error.elim

/-! ### Over transports that answer alike -/

section Simulation

variable {T T' F : Type} [ByteTransport T] [ByteTransport T'] {S : T → T' → Prop} {A : T → Prop}
  (hS : TransportSimulation S A) (bound : Nat)

namespace EpsonD4Session

omit [ByteTransport T] [ByteTransport T'] in
theorem onTarget_alongside {ε α : Type} {m : Program T ε α} {m' : Program T' ε α}
    (h : Simulates S A m m') :
    Simulates (Recorded.Beside (D4Link.Over S) fun _ ↦ True)
      (Recorded.StandsIn fun link : D4Link T ↦ A link.target) (onTarget m)
      (onTarget m' : Program (LinkRun T') ε α) := by
  refine .zoom h (fun _ _ hR ↦ hR.state.target) (fun _ _ hR _ _ ht ↦ ?_) (fun _ ↦ Iff.rfl)
    fun _ _ ↦ Iff.rfl
  exact ⟨{ hR.state with target := ht }, hR.events, trivial⟩

include hS

theorem writeEntry_alongside : Simulates S A (writeEntry (T := T)) (writeEntry (T := T')) := by
  refine ⟨fun t h ↦ hS.allowed_write epsonD4EntryCommand t ?_, fun t t' h hA ↦ ?_⟩
  · rw [writeEntry] at h
    rcases hrun : ByteTransport.writeAll epsonD4EntryCommand t with ⟨_ | _, after⟩ <;>
      rw [hrun] at h <;> exact h
  · rw [writeEntry] at hA ⊢
    rw [writeEntry]
    have hwrite := hS.write epsonD4EntryCommand _ _ h
    rcases hrun : ByteTransport.writeAll epsonD4EntryCommand t with ⟨_ | _, after⟩ <;>
      rcases hrun' : ByteTransport.writeAll epsonD4EntryCommand t' with ⟨r', after'⟩ <;>
      rw [hrun] at hA <;> rw [hrun, hrun'] at hwrite <;> obtain ⟨hresult, hafter⟩ := hwrite hA <;>
      cases hresult <;> exact ⟨rfl, hafter⟩

theorem readEntry_alongside {size : Nat} (hsize : 0 < size) :
    Simulates S A (readEntry (T := T) size) (readEntry (T := T') size) := by
  refine ⟨fun t h ↦ hS.allowed_read size t ?_, fun t t' h hA ↦ ?_⟩
  · rw [readEntry] at h
    rcases hrun : ByteTransport.read size t with ⟨_ | _, after⟩ <;> rw [hrun] at h <;> exact h
  · rw [readEntry] at hA ⊢
    rw [readEntry]
    have hread := hS.read size _ _ hsize h
    rcases hrun : ByteTransport.read size t with ⟨_ | _, after⟩ <;>
      rcases hrun' : ByteTransport.read size t' with ⟨r', after'⟩ <;>
      rw [hrun] at hA <;> rw [hrun, hrun'] at hread <;> obtain ⟨hresult, hafter⟩ := hread hA <;>
      cases hresult <;> exact ⟨rfl, hafter⟩

/-- The reads of the entry, by induction on their limit. -/
theorem entryReplyLoop_alongside (limit : Nat) (reply : List UInt8) (receivedData : Bool) :
    Simulates S A (entryReplyLoop (T := T) limit reply receivedData)
      (entryReplyLoop (T := T') limit reply receivedData) := by
  induction limit generalizing reply receivedData with
  | zero => exact .throw _
  | succ limit ih =>
    refine .bind (readEntry_alongside hS (by decide)) fun bytes ↦ ?_
    split
    · exact ih _ _
    · split
      · exact .pure _
      · exact ih _ _

theorem setUp_alongside [Nonempty T'] :
    Simulates (Recorded.Beside (D4Link.Over S) fun _ ↦ True)
      (Recorded.StandsIn fun link : D4Link T ↦ A link.target) (setUp (T := T) bound)
      (setUp (T := T') bound) := by
  refine .bind (onTarget_alongside (writeEntry_alongside hS)) fun _ ↦
    .bind (onTarget_alongside (entryReplyLoop_alongside hS _ _ _)) fun _ ↦
    .bind (.mapErr (D4Link.initializeLink_follow hS D4Link.accounts_true bound)) fun _ ↦
    .bind (.attempt (D4Link.openService_follow hS D4Link.accounts_true bound _)) fun opened ↦ ?_
  rcases opened with setup | controlChannel
  · refine .bind (.attempt (D4Link.exit_follow hS D4Link.accounts_true bound)) fun exited ↦ ?_
    rcases exited with recovery | ⟨⟩ <;> exact .throw _
  · exact .pure _

end EpsonD4Session

/-- Hosts that differ in the transports of their sessions only, and these are related. -/
structure Host.Over (S : T → T' → Prop) (host : Host T F) (host' : Host T' F) : Prop where
  session : EpsonD4Session.Over S host.session host'.session
  files : host.files = host'.files

section Operation

variable [FileSystem F] [CharTables]

/-- Programs on the two hosts. -/
abbrev Host.Alongside {ε α : Type} (S : T → T' → Prop) (A : T → Prop) (m : Program (Host T F) ε α)
    (m' : Program (Host T' F) ε α) : Prop :=
  Simulates (Host.Over S) (fun host ↦ A host.session.link.state.target) m m'

omit [FileSystem F] [CharTables] [ByteTransport T] [ByteTransport T'] in
theorem Host.onSession_alongside {ε α : Type} {m : Program (EpsonD4Session T) ε α}
    {m' : Program (EpsonD4Session T') ε α} (h : EpsonD4Session.Alongside S A m m') :
    Host.Alongside S A (Host.onSession m : Program (Host T F) ε α) (Host.onSession m') :=
  .zoom h (fun _ _ hR ↦ hR.session) (fun _ _ hR _ _ hsession ↦ ⟨hsession, hR.files⟩)
    (fun _ ↦ Iff.rfl) fun _ _ ↦ Iff.rfl

omit [FileSystem F] [CharTables] [ByteTransport T] [ByteTransport T'] in
/-- What happens to the files does not depend on the transports. -/
theorem Host.onFiles_alongside {ε α : Type} (m : Program F ε α) :
    Host.Alongside S A (Host.onFiles m : Program (Host T F) ε α) (Host.onFiles m) := by
  refine ⟨fun _ h ↦ h, fun host host' hR _ ↦ ?_⟩
  show (m host.files).1 = (m host'.files).1 ∧ _
  rw [hR.files]
  refine ⟨rfl, hR.session, ?_⟩
  show (m host.files).2 = (m host'.files).2
  rw [hR.files]

include hS

theorem Host.serve_alongside [Nonempty T'] {ε : Type} (call : OperationCall) :
    Host.Alongside S A (Host.serve (T := T) (F := F) (ε := ε) bound call)
      (Host.serve (T := T') bound call) := by
  cases call with
  | session call => exact Host.onSession_alongside (EpsonD4Session.serve_alongside hS bound call)
  | writeNewBinaryFile path bytes kind => exact Host.onFiles_alongside _

theorem runOpened_alongside [Nonempty T'] {α : Type} (operation : SessionOperation α) :
    Host.Alongside S A (runOpened (T := T) (F := F) bound operation)
      (runOpened (T := T') bound operation) :=
  .bind (.attempt (operation.simulates (Host.serve_alongside hS bound))) fun _ ↦
    .bind (.attempt (Host.onSession_alongside (EpsonD4Session.shutdown_alongside hS bound)))
      fun _ ↦ .pure _

/-- **Whole sessions** over transports that answer alike end alike, with related transports. -/
theorem runSession_alongside {α : Type} {spec : EpsonSpec} {operation : SessionOperation α}
    {files : F} {target : T} {target' : T'} {last : SessionEnd T F α} (h : S target target')
    (hrun : runSession bound target spec operation files = .ok last) (hA : A last.target) :
    ∃ t', runSession bound target' spec operation files = .ok (last.mapTarget fun _ ↦ t') ∧
      S last.target t' := by
  have : Nonempty T' := ⟨target'⟩
  have hstart : Recorded.Beside (D4Link.Over S) (fun _ : LinkRun T' ↦ True)
      (.start (D4Link.new target)) (.start (D4Link.new target')) := ⟨.new h, rfl, trivial⟩
  unfold runSession at hrun ⊢
  rw [EpsonD4Session.connectRecoverable_eq] at hrun ⊢
  have hsetUp := (EpsonD4Session.setUp_alongside hS bound).alike _ _ hstart
  rcases hs : EpsonD4Session.setUp bound (.start (D4Link.new target)) with
    ⟨controlChannel | error | message | _, w⟩ <;> rw [hs] at hrun hsetUp
  case panic => cases hrun
  case running => cases hrun
  case err =>
    cases hrun
    obtain ⟨houtcome, hbeside⟩ := hsetUp hA
    rcases hs' : EpsonD4Session.setUp bound (.start (D4Link.new target')) with ⟨o, w'⟩
    rw [hs'] at houtcome hbeside
    cases houtcome
    exact ⟨w'.state.target, rfl, hbeside.state.target⟩
  case ok =>
    dsimp only [EpsonD4Session.ofSetUp] at hrun
    have hopened := runOpened_alongside (F := F) hS bound operation
    rcases hr : runOpened bound operation ⟨⟨w, controlChannel, spec⟩, files⟩ with
      ⟨⟨result, shutdown⟩ | error | message | _, host⟩ <;> rw [hr] at hrun
    case err => exact error.elim
    case panic => cases hrun
    case running => cases hrun
    cases hrun
    obtain ⟨houtcome, hbeside⟩ := hsetUp (hopened.allowed ⟨⟨w, controlChannel, spec⟩, files⟩
      (by rw [hr]; exact hA))
    rcases hs' : EpsonD4Session.setUp bound (.start (D4Link.new target')) with ⟨o, w'⟩
    rw [hs'] at houtcome hbeside
    cases houtcome
    obtain ⟨hoperation, hhost⟩ := hopened.alike ⟨⟨w, controlChannel, spec⟩, files⟩
      ⟨⟨w', controlChannel, spec⟩, files⟩ ⟨⟨hbeside, rfl, rfl⟩, rfl⟩ (by rw [hr]; exact hA)
    dsimp only [EpsonD4Session.ofSetUp]
    rcases hr' : runOpened bound operation ⟨⟨w', controlChannel, spec⟩, files⟩ with ⟨o, host'⟩
    rw [hr, hr'] at hoperation hhost
    cases hoperation
    refine ⟨host'.session.link.state.target, ?_, hhost.session.link.state.target⟩
    dsimp only [SessionEnd.mapTarget]
    rw [hhost.files]

omit [ByteTransport T'] hS in
/-- What every transfer keeps, a session keeps, wherever it stands. -/
theorem sessionStand_keeps {I : T → Prop}
    (hwrite : ∀ data t, I t → I (ByteTransport.writeAll data t).2)
    (hread : ∀ size t, I t → I (ByteTransport.read size t).2) {α : Type} {spec : EpsonSpec}
    {operation : SessionOperation α} {files : F} {target : T} (h : I target) :
    I (sessionStand bound target spec operation files).1.state.target := by
  have : Nonempty T := ⟨target⟩
  have hI : TransportSimulation (fun t t' : T ↦ t = t' ∧ I t) fun _ ↦ True := by
    refine ⟨fun _ _ _ ↦ trivial, fun _ _ _ ↦ trivial, ?_, ?_⟩
    · rintro data t _ ⟨rfl, ht⟩ -
      exact ⟨rfl, rfl, hwrite data t ht⟩
    · rintro size t _ - ⟨rfl, ht⟩ -
      exact ⟨rfl, rfl, hread size t ht⟩
  have hstart : Recorded.Beside (D4Link.Over fun t t' : T ↦ t = t' ∧ I t)
      (fun _ : LinkRun T ↦ True) (.start (D4Link.new target)) (.start (D4Link.new target)) :=
    ⟨.new ⟨rfl, h⟩, rfl, trivial⟩
  have hsetUp := ((EpsonD4Session.setUp_alongside hI bound).alike _ _ hstart trivial).2
  rcases sessionStand_cases bound target spec operation files with ⟨w, rfl, hstand⟩ |
    ⟨controlChannel, w, host, hs, rfl, hstand⟩ <;> rw [hstand]
  · exact hsetUp.state.target.2
  · rw [hs] at hsetUp
    have hopened := ((runOpened_alongside (F := F) hI bound operation).alike
      ⟨⟨w, controlChannel, spec⟩, files⟩ ⟨⟨w, controlChannel, spec⟩, files⟩
      ⟨⟨hsetUp, rfl, rfl⟩, rfl⟩ trivial).2
    exact hopened.session.link.state.target.2

omit [ByteTransport T'] hS in
/-- What every transfer keeps, a whole session keeps. -/
theorem runSession_keeps {I : T → Prop}
    (hwrite : ∀ data t, I t → I (ByteTransport.writeAll data t).2)
    (hread : ∀ size t, I t → I (ByteTransport.read size t).2) {α : Type} {spec : EpsonSpec}
    {operation : SessionOperation α} {files : F} {target : T} {last : SessionEnd T F α}
    (h : I target) (hrun : runSession bound target spec operation files = .ok last) :
    I last.target :=
  (runSession_stand hrun).1 ▸ sessionStand_keeps bound hwrite hread h

end Operation

end Simulation

end Reink
