import Reink.App.SessionRun
import Reink.Platform.Transcript

/-!
# Replaying sessions

The traffic on record of a session, taken as a transcript, plays the session again: the same setup,
the same answers to every call of the operation, the same shutdown. And over a transcript a session
exchanges what stands in it, and no more.
-/

namespace Reink

section Replay

variable {T F α : Type} [ByteTransport T] [FileSystem F] [CharTables] {bound : Nat}
  {spec : EpsonSpec} {operation : SessionOperation α} {files : F}

/-- The record of a recording transport is the journal of the one inside. -/
theorem events_of_runSession {target : T}
    {last : SessionEnd (RecordingTransport (Journaled T)) F α}
    (hrun : runSession bound (RecordingTransport.new (Journaled.start target)) spec operation
      files = .ok last) : last.target.events = last.target.inner.transfers := by
  have hrecords : RecordsJournal true last.target :=
    runSession_keeps bound (fun data _ ↦ .writeAll data) (fun size _ ↦ .read size)
      ⟨by simp [RecordingTransport.new, RecordingTransport.newWithRecording, Journaled.start],
        rfl, rfl⟩ hrun
  exact hrecords.events

/-- The journal of a session replays it, if none of its transfers has failed. -/
theorem runSession_replays {target : T}
    {last : SessionEnd (RecordingTransport (Journaled T)) F α}
    (hrun : runSession bound (RecordingTransport.new (Journaled.start target)) spec operation
      files = .ok last)
    (hfaultless : ∀ call ∈ last.target.inner.calls, ¬ call.Failed) (description : String) :
    ∃ transport, runSession bound
        (SanitizedTranscript.ofEvents description last.target.events).intoTransport spec operation
          files = .ok (last.mapTarget fun _ ↦ transport) ∧
      transport.assertFinished = (.ok () : Outcome Empty Unit) := by
  rw [events_of_runSession hrun]
  obtain ⟨journal, hbare, hinner⟩ := runSession_alongside RecordingTransport.simulation.symm bound
    (show (RecordingTransport.new (Journaled.start target)).inner = Journaled.start target from rfl)
    hrun trivial
  have hjournal : (last.mapTarget fun _ ↦ journal).target = last.target.inner := by
    rw [hinner]
    cases last <;> rfl
  have hstart : Replays last.target.inner.transfers (Journaled.start target)
      (SanitizedTranscript.ofEvents description last.target.inner.transfers).intoTransport := by
    rw [Replays]
    exact SanitizedTranscript.steps_ofEvents _ _
  obtain ⟨transport, hreplay, hreplays⟩ := runSession_alongside
    (Replays.simulation last.target.inner.transfers) bound hstart hbare
    (by rw [hjournal]; exact ⟨hfaultless, List.prefix_refl _⟩)
  refine ⟨transport, ?_, ?_⟩
  · rw [hreplay]
    cases last <;> rfl
  · rw [hjournal] at hreplays
    have hsteps : transport.steps = [] :=
      List.append_right_eq_self.1 hreplays
    rw [TranscriptTransport.assertFinished, if_pos hsteps]
    rfl

end Replay

/-- **A transcript is followed to the letter.** Whatever the operation does and wherever the session
stands, still running, stopped by a panic, or returned, the bytes that were written and read are the
transcript up to there: the writes whole, in their order, and between them the bytes to be read,
however they were cut. A finished transcript has been exchanged entirely. -/
theorem runSession_follows {F α : Type} [FileSystem F] [CharTables] {bound : Nat} {spec : EpsonSpec}
    {operation : SessionOperation α} {files : F} (transcript : SanitizedTranscript)
    {journal : Journaled TranscriptTransport}
    (h : (sessionStand bound (Journaled.start transcript.intoTransport) spec operation
        files).1.state.target = journal ∨
      ∃ last, runSession bound (Journaled.start transcript.intoTransport) spec operation files =
        .ok last ∧ last.target = journal) :
    tokens (journal.transfers.map TransportEvent.step) ++ tokens journal.inner.steps =
        tokens transcript.steps ∧
      (journal.inner.assertFinished = (.ok () : Outcome Empty Unit) →
        tokens (journal.transfers.map TransportEvent.step) = tokens transcript.steps) := by
  obtain rfl : (sessionStand bound (Journaled.start transcript.intoTransport) spec operation
      files).1.state.target = journal := by
    rcases h with h | ⟨last, hrun, rfl⟩
    · exact h
    · exact (runSession_stand hrun).1
  have hfollows : FollowsTranscript transcript.steps (sessionStand bound
      (Journaled.start transcript.intoTransport) spec operation files).1.state.target :=
    sessionStand_keeps bound (fun data _ ↦ .writeAll data) (fun size _ ↦ .read size)
      (.start transcript)
  refine ⟨hfollows, fun hfinished ↦ ?_⟩
  generalize (sessionStand bound (Journaled.start transcript.intoTransport) spec operation
    files).1.state.target = journal at hfollows hfinished
  have hsteps : journal.inner.steps = [] := by
    rw [TranscriptTransport.assertFinished] at hfinished
    split at hfinished
    case isTrue h => exact h
    case isFalse => cases hfinished
  rw [FollowsTranscript, hsteps, tokens_nil, List.append_nil] at hfollows
  exact hfollows

/-- A transcript in which a cell of a C90 is read. -/
def SanitizedTranscript.c90 : SanitizedTranscript :=
  (new "C90 with one EEPROM read").expectWrite epsonD4EntryCommand
    |>.respondFragmented [epsonD4EntryReply.take 3, epsonD4EntryReply.drop 3]
    |>.expectWrite [0, 0, 0, 8, 1, 0, 0, 0x20]
    |>.respond [0, 0, 0, 9, 1, 0, 0x80, 0, 0x20]
    |>.expectWrite ([0, 0, 0, 17, 1, 0, 9] ++ Text.ascii "EPSON-CTRL")
    |>.respond ([0, 0, 0, 19, 1, 0, 0x89, 0, 2] ++ Text.ascii "EPSON-CTRL")
    |>.expectWrite [0, 0, 0, 15, 1, 0, 1, 2, 2, 1, 0, 1, 0, 0, 0]
    |>.respond [0, 0, 0, 18, 1, 0, 0x81, 0, 2, 2, 1, 0, 1, 0, 0, 0, 0, 1]
    |>.expectWrite [2, 2, 0, 16, 1, 0, 0x7c, 0x7c, 6, 0, 6, 0, 0x41, 0xbe, 0xa0, 0x0c]
    |>.respond ([2, 2, 0, 24, 1, 0] ++ Text.ascii "@BDC PS EE:0C4200;")
    |>.expectWrite [0, 0, 0, 9, 1, 0, 2, 2, 2]
    |>.respond [0, 0, 0, 10, 1, 0, 0x82, 0, 2, 2]
    |>.expectWrite [0, 0, 0, 7, 1, 0, 8]
    |>.respond [0, 0, 0, 8, 1, 0, 0x88, 0]

/-- The transcript is finished, so all of it has been exchanged. -/
theorem runSession_follows_of_c90 :
    letI := CharTables.ascii
    ∃ last, runSession 300 (Journaled.start SanitizedTranscript.c90.intoTransport) .c90
        (SessionOperation.session (.readEeprom [0x0c]) "") (⟨[]⟩ : MemoryFiles) = .ok last ∧
      tokens (last.target.transfers.map TransportEvent.step) =
        tokens SanitizedTranscript.c90.steps := by
  let _ := CharTables.ascii
  have hfinished : (runSession 300 (Journaled.start SanitizedTranscript.c90.intoTransport) .c90
      (SessionOperation.session (.readEeprom [0x0c]) "") (⟨[]⟩ : MemoryFiles)).any
        (·.target.inner.assertFinished = (.ok () : Outcome Empty Unit)) = true := by
    decide +kernel
  obtain ⟨last, hrun, hempty⟩ := Outcome.any_iff.1 hfinished
  exact ⟨last, hrun, (runSession_follows _ (.inr ⟨last, hrun, rfl⟩)).2 (of_decide_eq_true hempty)⟩

end Reink
