import Reink.Library.Text
import Reink.Platform.Journal

/-!
# Transcripts

A transcript is what tests replay in place of a printer: the bytes that must be written next, and
the bytes that are read next. The transport made of it is strict. What is out of turn fails, and
uses nothing up.

The transfers of a run over any transport, taken as a transcript, replay the run, as long as none of
them failed (`Replays.simulation`). And a run over a transcript exchanges nothing but what stands in
it, in its order (`FollowsTranscript`).
-/

namespace Reink

/-- One direction of a sanitized protocol transcript. -/
inductive TranscriptStep where
  /-- Bytes the implementation must write next. -/
  | write (bytes : List UInt8)
  /-- Bytes the simulated peer returns on the next read or reads. -/
  | read (bytes : List UInt8)
deriving DecidableEq, Repr

/-- The derived debug text of bytes. -/
def debugBytes (digits : UInt8 → String) (bytes : List UInt8) : String :=
  "[" ++ String.intercalate ", " (bytes.map digits) ++ "]"

/-- The derived debug text. -/
def TranscriptStep.debug : TranscriptStep → String
  | write bytes => "Write(" ++ debugBytes (fun byte ↦ toString byte.toNat) bytes ++ ")"
  | read bytes => "Read(" ++ debugBytes (fun byte ↦ toString byte.toNat) bytes ++ ")"

/-- A strict transport that replays an ordered sanitized transcript. -/
structure TranscriptTransport where
  description : String
  steps : List TranscriptStep
deriving DecidableEq, Repr

/-- An ordered, sanitized transcript for replaying protocol traffic in tests. -/
structure SanitizedTranscript where
  description : String
  steps : List TranscriptStep
deriving DecidableEq, Repr

namespace SanitizedTranscript

/-- An empty transcript. -/
def new (description : String) : SanitizedTranscript := ⟨description, []⟩

/-- Records bytes the implementation must write at this point in the replay. -/
def expectWrite (transcript : SanitizedTranscript) (bytes : List UInt8) : SanitizedTranscript :=
  { transcript with steps := transcript.steps ++ [.write bytes] }

/-- Records peer bytes returned at this point in the replay. -/
def respond (transcript : SanitizedTranscript) (bytes : List UInt8) : SanitizedTranscript :=
  { transcript with steps := transcript.steps ++ [.read bytes] }

/-- Records peer bytes split into explicit transport read fragments. -/
def respondFragmented (transcript : SanitizedTranscript) (fragments : List (List UInt8)) :
    SanitizedTranscript :=
  fragments.foldl respond transcript

/-- Builds a strict transport that replays this transcript. -/
def intoTransport (transcript : SanitizedTranscript) : TranscriptTransport :=
  ⟨transcript.description, transcript.steps⟩

/-- Records a transfer. -/
def record (transcript : SanitizedTranscript) : TransportEvent → SanitizedTranscript
  | .tx bytes => transcript.expectWrite bytes
  | .rx bytes => transcript.respond bytes

/-- The transcript of transfers. -/
def ofEvents (description : String) (events : List TransportEvent) : SanitizedTranscript :=
  events.foldl record (new description)

end SanitizedTranscript

namespace TranscriptTransport

/-- Panics when a test did not consume the entire transcript. -/
def assertFinished {ε : Type} (transport : TranscriptTransport) : Outcome ε Unit :=
  if transport.steps = [] then return ()
  else .panic (toString transport.steps.length ++ " transcript step(s) were not consumed: [" ++
    String.intercalate ", " (transport.steps.map TranscriptStep.debug) ++ "]")

/-- The error of an operation that the transcript does not have next. -/
def unexpectedOperation (transport : TranscriptTransport) (operation : String)
    (actual : Option (List UInt8)) : TransportError where
  kind := .io
  operation := "transcript replay"
  message := transport.description ++ " attempted " ++ operation ++ " " ++
    actual.elim "" (debugBytes fun byte ↦ Text.upperHexadecimal 2 byte.toNat) ++ "; expected " ++
    transport.steps.head?.elim "None" fun step ↦ "Some(" ++ step.debug ++ ")"

/-- What is left of bytes to be read. -/
def pushFront (bytes : List UInt8) (steps : List TranscriptStep) : List TranscriptStep :=
  if bytes = [] then steps else .read bytes :: steps

instance : ByteTransport TranscriptTransport where
  writeAll data transport :=
    match transport.steps with
    | .write expected :: steps =>
      if expected = data then (.ok (), { transport with steps := steps })
      else (.error (transport.unexpectedOperation "write" (some data)), transport)
    | .read _ :: _ =>
      (.error (transport.unexpectedOperation "write before reading" (some data)), transport)
    | [] => (.error (transport.unexpectedOperation "write" (some data)), transport)
  read size transport :=
    if size = 0 then (.ok [], transport)
    else
      match transport.steps with
      | .read bytes :: steps =>
        (.ok (bytes.take size), { transport with steps := pushFront (bytes.drop size) steps })
      | .write _ :: _ =>
        (.error (transport.unexpectedOperation "read before writing" none), transport)
      | [] => (.ok [], transport)
  length_le_of_read := by
    intro size transport transport' bytes h
    split at h
    · cases h
      exact Nat.zero_le _
    · split at h <;> cases h
      · exact List.length_take_le _ _
      · exact Nat.zero_le _

variable {transport : TranscriptTransport} {steps : List TranscriptStep}

theorem writeAll_expected {data : List UInt8} (h : transport.steps = .write data :: steps) :
    ByteTransport.writeAll data transport = (.ok (), { transport with steps := steps }) := by
  simp [ByteTransport.writeAll, h]

theorem read_bytes {size : Nat} {bytes : List UInt8} (hsize : 0 < size)
    (h : transport.steps = .read bytes :: steps) :
    ByteTransport.read size transport =
      (.ok (bytes.take size), { transport with steps := pushFront (bytes.drop size) steps }) := by
  simp [ByteTransport.read, h, hsize.ne']

end TranscriptTransport

/-! ### Replaying -/

/-- The step that a transfer is in a transcript. -/
def TransportEvent.step : TransportEvent → TranscriptStep
  | tx bytes => .write bytes
  | rx bytes => .read bytes

theorem SanitizedTranscript.steps_ofEvents (description : String) (events : List TransportEvent) :
    (ofEvents description events).steps = events.map TransportEvent.step := by
  have hfold : ∀ transcript : SanitizedTranscript, (events.foldl record transcript).steps =
      transcript.steps ++ events.map TransportEvent.step := by
    induction events with
    | nil => exact fun _ ↦ (List.append_nil _).symm
    | cons event events ih =>
      intro transcript
      rw [List.foldl_cons, ih, List.map_cons]
      cases event <;> simp [record, expectWrite, respond, TransportEvent.step]
  exact hfold (new description)

/-- A call that failed. -/
def TransportCall.Failed : TransportCall → Prop
  | writeFailed _ | readFailed => True
  | _ => False

namespace Journaled

variable {T : Type}

/-- The successful transfers, oldest first. -/
def transfers (journal : Journaled T) : List TransportEvent :=
  journal.calls.filterMap TransportCall.transfer

theorem transfers_push (journal : Journaled T) (call : TransportCall) (inner : T) :
    (journal.push call inner).transfers = journal.transfers ++ call.transfer.toList := by
  rw [transfers, push, List.filterMap_append]
  rcases h : call.transfer with _ | transfer <;> simp [transfers, h]

/-- None of the calls has failed, and they are the first of the given transfers. -/
def FaultlessWithin (events : List TransportEvent) (journal : Journaled T) : Prop :=
  (∀ call ∈ journal.calls, ¬ call.Failed) ∧ journal.transfers <+: events

theorem FaultlessWithin.of_push {events : List TransportEvent} {journal : Journaled T}
    {call : TransportCall} {inner : T} (h : FaultlessWithin events (journal.push call inner)) :
    FaultlessWithin events journal ∧ ¬ call.Failed := by
  obtain ⟨hfailed, hevents⟩ := h
  rw [transfers_push] at hevents
  exact ⟨⟨fun call hcall ↦ hfailed call (List.mem_append_left _ hcall),
    (List.prefix_append _ _).trans hevents⟩, hfailed call (by simp [push])⟩

/-- What follows on the calls so far in the given transfers. -/
theorem FaultlessWithin.of_push_transfer {events : List TransportEvent} {journal : Journaled T}
    {call : TransportCall} {inner : T} {event : TransportEvent}
    (h : FaultlessWithin events (journal.push call inner)) (hcall : call.transfer = some event) :
    ∃ later, events = journal.transfers ++ event :: later := by
  obtain ⟨later, hlater⟩ := h.2
  rw [transfers_push, hcall] at hlater
  exact ⟨later, by rw [← hlater]; simp⟩

end Journaled

/-- The transcript stands where the calls of the journal have come to in the given transfers. -/
def Replays {T : Type} (events : List TransportEvent) (journal : Journaled T)
    (transcript : TranscriptTransport) : Prop :=
  journal.transfers.map TransportEvent.step ++ transcript.steps = events.map TransportEvent.step

section Replaying

variable {T : Type} {events : List TransportEvent} {journal : Journaled T}
  {transcript : TranscriptTransport}

theorem Replays.steps_eq {event : TransportEvent} {later : List TransportEvent}
    (h : Replays events journal transcript)
    (hevents : events = journal.transfers ++ event :: later) :
    transcript.steps = event.step :: later.map TransportEvent.step := by
  rw [Replays, hevents, List.map_append, List.map_cons] at h
  exact List.append_cancel_left h

theorem Replays.push {call : TransportCall} {inner : T} {event : TransportEvent}
    {later : List TransportEvent} (hevents : events = journal.transfers ++ event :: later)
    (hcall : call.transfer = some event)
    (hsteps : transcript.steps = later.map TransportEvent.step) :
    Replays events (journal.push call inner) transcript := by
  rw [Replays, Journaled.transfers_push, hcall, hsteps, hevents]
  simp

/-- **No caller can tell** the transcript of a faultless run from the transport of the run. The
transcript has to know what is yet to come, so this is said in hindsight. -/
theorem Replays.simulation [ByteTransport T] (events : List TransportEvent) :
    TransportSimulation (Replays (T := T) events) (Journaled.FaultlessWithin events) where
  allowed_write _ _ h := (Journaled.FaultlessWithin.of_push h).1
  allowed_read _ _ h := (Journaled.FaultlessWithin.of_push h).1
  write := by
    intro data journal transcript hreplays hfaultless
    rcases hrun : ByteTransport.writeAll data journal.inner with ⟨error | ⟨⟩, inner⟩
    all_goals rw [Journaled.writeAll_run hrun] at hfaultless
    · exact absurd trivial hfaultless.of_push.2
    · obtain ⟨later, hevents⟩ := hfaultless.of_push_transfer rfl
      rw [Journaled.writeAll_run hrun,
        TranscriptTransport.writeAll_expected (hreplays.steps_eq hevents)]
      exact ⟨rfl, .push hevents rfl rfl⟩
  read := by
    intro size journal transcript hsize hreplays hfaultless
    rcases hrun : ByteTransport.read size journal.inner with ⟨error | bytes, inner⟩
    all_goals rw [Journaled.read_run hrun] at hfaultless
    · exact absurd trivial hfaultless.of_push.2
    · obtain ⟨later, hevents⟩ := hfaultless.of_push_transfer rfl
      have hlength := ByteTransport.length_le_of_read hrun
      rw [Journaled.read_run hrun,
        TranscriptTransport.read_bytes hsize (hreplays.steps_eq hevents),
        List.take_of_length_le hlength, List.drop_of_length_le hlength]
      exact ⟨rfl, .push hevents rfl rfl⟩

end Replaying

/-! ### Strictness -/

/-- What a step stands for: a whole write, or single bytes, however they are cut into reads. -/
def TranscriptStep.tokens : TranscriptStep → List (List UInt8 ⊕ UInt8)
  | write bytes => [.inl bytes]
  | read bytes => bytes.map .inr

/-- What the transfers and the steps stand for, in their order. -/
def tokens (steps : List TranscriptStep) : List (List UInt8 ⊕ UInt8) :=
  steps.flatMap TranscriptStep.tokens

@[simp] theorem tokens_nil : tokens [] = [] := rfl

@[simp] theorem tokens_append (steps steps' : List TranscriptStep) :
    tokens (steps ++ steps') = tokens steps ++ tokens steps' :=
  List.flatMap_append

@[simp] theorem tokens_cons (step : TranscriptStep) (steps : List TranscriptStep) :
    tokens (step :: steps) = step.tokens ++ tokens steps := rfl

theorem tokens_pushFront (bytes : List UInt8) (steps : List TranscriptStep) :
    tokens (TranscriptTransport.pushFront bytes steps) =
      (TranscriptStep.read bytes).tokens ++ tokens steps := by
  unfold TranscriptTransport.pushFront
  split
  case isTrue h => rw [h]; rfl
  case isFalse => rfl

/-- What has been transferred, and what is left of the transcript, make up the transcript. -/
def FollowsTranscript (steps : List TranscriptStep) (journal : Journaled TranscriptTransport) :
    Prop :=
  tokens (journal.transfers.map TransportEvent.step) ++ tokens journal.inner.steps = tokens steps

namespace FollowsTranscript

variable {steps : List TranscriptStep} {journal : Journaled TranscriptTransport}

theorem start (transcript : SanitizedTranscript) :
    FollowsTranscript transcript.steps (.start transcript.intoTransport) := rfl

/-- A transfer that takes from the transcript what it stands for. -/
theorem push {call : TransportCall} {inner : TranscriptTransport}
    (h : FollowsTranscript steps journal)
    (hcall : tokens journal.inner.steps =
      tokens (call.transfer.toList.map TransportEvent.step) ++ tokens inner.steps) :
    FollowsTranscript steps (journal.push call inner) := by
  rw [FollowsTranscript, Journaled.transfers_push, List.map_append, tokens_append,
    List.append_assoc]
  show _ ++ (_ ++ tokens inner.steps) = _
  rw [← hcall]
  exact h

/-- What is written is what stands first, or the write fails. -/
theorem writeAll (data : List UInt8) (h : FollowsTranscript steps journal) :
    FollowsTranscript steps (ByteTransport.writeAll data journal).2 := by
  rcases hrun : ByteTransport.writeAll data journal.inner with ⟨result, inner⟩
  rw [Journaled.writeAll_run hrun]
  refine h.push ?_
  simp only [ByteTransport.writeAll] at hrun
  split at hrun <;> try split at hrun
  all_goals cases hrun
  case h_1.isTrue hsteps hdata => rw [hsteps, hdata]; rfl
  all_goals rfl

/-- What is read stands first, or nothing is read. -/
theorem read (size : Nat) (h : FollowsTranscript steps journal) :
    FollowsTranscript steps (ByteTransport.read size journal).2 := by
  rcases hrun : ByteTransport.read size journal.inner with ⟨result, inner⟩
  rw [Journaled.read_run hrun]
  refine h.push ?_
  simp only [ByteTransport.read] at hrun
  split at hrun <;> try split at hrun
  all_goals cases hrun
  case h_1.refl bytes later hsteps =>
    rw [hsteps, tokens_cons, tokens_pushFront]
    show _ = (tokens [.read (bytes.take size)]) ++ _
    rw [tokens_cons, tokens_nil, List.append_nil, ← List.append_assoc]
    simp only [TranscriptStep.tokens, ← List.map_append, List.take_append_drop]
  all_goals rfl

end FollowsTranscript

end Reink
