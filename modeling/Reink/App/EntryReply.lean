import Reink.App.Session
import Reink.D4.Effects
import Reink.Platform.Stream
import Reink.Usb.Probe

/-!
# The entry reply and what follows it

The reads in which a session waits for the entry reply. The probe of the USB crate reads on the same
terms, though its loop treats empty reads otherwise: both stop with the read that completes the
reply, and both take it wherever it stands in what they have read.

What stands behind the reply in that read is lost: the bytes are in a buffer of the session, and the
link begins with the next read. So the packet decoder is given what follows the reply if and only if
a read ends with the reply.
-/

namespace Reink

open Program (bind_run_ok)

section Session

variable {T : Type} [ByteTransport T] {t t' : T}

theorem readEntry_run {size : Nat} {bytes : List UInt8}
    (h : ByteTransport.read size t = (.ok bytes, t')) : readEntry size t = (.ok bytes, t') := by
  rw [readEntry, h]

/-- The chunks are read up to the one that completes the reply, the empty ones among them passed
over. By induction on the chunks. -/
theorem entryReplyLoop_supplied {chunks : List (List UInt8)} {reply : List UInt8}
    (hreply : ¬ epsonD4EntryReply <:+: reply)
    (hreads : Supplies (ByteTransport.read 256) chunks t t') :
    ∃ t'', Supplies (ByteTransport.read 256) (upTo epsonD4EntryReply reply chunks) t t'' ∧
      entryReplyLoop chunks.length reply (reply ≠ []) t =
        (if epsonD4EntryReply <:+: reply ++ chunks.flatten then .ok ()
          else .err (if reply ++ chunks.flatten = [] then .entryReplyMissing
            else .entryReplyInvalid), t'') := by
  induction hreads generalizing reply with
  | @nil t =>
    refine ⟨t, .nil, ?_⟩
    rw [List.flatten_nil, List.append_nil, if_neg hreply, List.length_nil, entryReplyLoop]
    by_cases hempty : reply = [] <;> simp [hempty]
  | @cons t t₁ t' chunk chunks head tail ih =>
    rw [List.length_cons, entryReplyLoop, bind_run_ok (readEntry_run head), List.flatten_cons,
      ← List.append_assoc]
    by_cases hfound : epsonD4EntryReply <:+: reply ++ chunk
    case pos =>
      have hsome : chunk ≠ [] := by
        rintro rfl
        rw [List.append_nil] at hfound
        exact hreply hfound
      refine ⟨t₁, ?_, ?_⟩
      · rw [upTo_cons_of_occurs hfound]
        exact .cons head .nil
      · rw [if_neg hsome, if_pos (Text.contains_iff.2 hfound),
          if_pos (hfound.trans (List.prefix_append _ _).isInfix)]
        rfl
    case neg =>
      obtain ⟨t'', hused, hrun⟩ := ih hfound
      refine ⟨t'', ?_, ?_⟩
      · rw [upTo_cons_of_not hfound]
        exact .cons head hused
      by_cases hempty : chunk = []
      case pos =>
        rw [hempty, List.append_nil] at hrun ⊢
        rw [if_pos rfl, hrun]
      case neg =>
        have hreceived : decide (reply ++ chunk ≠ []) = true :=
          decide_eq_true fun hnil ↦ hempty (List.append_eq_nil_iff.1 hnil).2
        rw [hreceived] at hrun
        rw [if_neg hempty, if_neg (hfound ∘ Text.contains_iff.1), hrun]

end Session

/-! ### The probe and the session -/

/-- **The probe and the session agree on the entry.** On the same reads, five at least, both stop
after the same ones. They recognize the reply if and only if it is in the first five reads;
otherwise the probe reports how many bytes came, and the session that none or the wrong ones did. -/
theorem probe_agrees_with_session {S T : Type} [ByteTransport T]
    {read : Nat → S → Except UsbError (List UInt8) × S} {reads : List (List UInt8)} {s s' : S}
    {t t' : T} (hlength : 5 ≤ reads.length) (hprobe : Supplies (read 256) reads s s')
    (hsession : Supplies (ByteTransport.read 256) reads t t') :
    let received := (reads.take 5).flatten
    let probe := readBoundedReply epsonD4EntryReply read 5 s
    let session := waitForEntryReply t
    (probe.1 = .ok .recognized ↔ epsonD4EntryReply <:+: received) ∧
      (session.1 = .ok () ↔ epsonD4EntryReply <:+: received) ∧
      (¬ epsonD4EntryReply <:+: received →
        probe.1 = .ok (.unrecognized received.length) ∧
        session.1 = .err (if received.length = 0 then .entryReplyMissing
          else .entryReplyInvalid)) ∧
      ∃ used, used <+: reads.take 5 ∧ Supplies (read 256) used s probe.2 ∧
        Supplies (ByteTransport.read 256) used t session.2 := by
  intro received probe session
  have hfive : (reads.take 5).length = 5 := List.length_take_of_le hlength
  have hnone : ¬ epsonD4EntryReply <:+: [] := by decide
  rw [← List.take_append_drop 5 reads] at hprobe hsession
  obtain ⟨_, hprobe⟩ := hprobe.isPrefix
  obtain ⟨_, hsession⟩ := hsession.isPrefix
  obtain ⟨s'', hused, hrun⟩ := boundedReplyLoop_supplied (by decide) hnone hprobe
  obtain ⟨t'', hused', hrun'⟩ := entryReplyLoop_supplied hnone hsession
  rw [hfive] at hrun hrun'
  have hprobed : probe = (_, s'') := hrun
  have hsessed : session = (_, t'') := hrun'
  rw [hprobed, hsessed]
  refine ⟨?_, ?_, fun hmissing ↦ ⟨?_, ?_⟩, _, upTo_isPrefix _ _ _, hused, hused'⟩
  · by_cases hfound : epsonD4EntryReply <:+: received
    · exact iff_of_true (congrArg Except.ok (if_pos hfound)) hfound
    · refine iff_of_false (fun h ↦ ?_) hfound
      cases (congrArg Except.ok (if_neg hfound)).symm.trans h
  · by_cases hfound : epsonD4EntryReply <:+: received
    · exact iff_of_true (if_pos hfound) hfound
    · refine iff_of_false (fun h ↦ ?_) hfound
      cases (if_neg hfound).symm.trans h
  · exact congrArg Except.ok (if_neg hmissing)
  · simp only [List.length_eq_zero_iff]
    exact if_neg hmissing

/-- Noise, empty reads, and a reply that is cut twice. -/
theorem probe_agrees_with_session_on_cut_reply :
    let stream : StreamTransport := .sending [[7, 0, 0], [], [0, 8, 1], [0, 0xc5, 0, 2], []]
    (readBoundedReply epsonD4EntryReply
        (fun size (t : StreamTransport) ↦ (.ok (t.read size).1, (t.read size).2)) 5 stream).1 =
      .ok .recognized ∧ (waitForEntryReply stream).1 = .ok () := by
  intro stream
  have hprobe : Supplies (fun t : StreamTransport ↦
      ((.ok (t.read 256).1, (t.read 256).2) : Except UsbError (List UInt8) × StreamTransport))
        stream.reads stream (.sending []) :=
    .cons rfl (.cons rfl (.cons rfl (.cons rfl (.cons rfl .nil))))
  have hsession : Supplies (ByteTransport.read 256) stream.reads stream (.sending []) :=
    .cons rfl (.cons rfl (.cons rfl (.cons rfl (.cons rfl .nil))))
  have hfound : epsonD4EntryReply <:+: (stream.reads.take 5).flatten := by decide
  have hagree := @probe_agrees_with_session StreamTransport StreamTransport _
    (fun size t ↦ (.ok (t.read size).1, (t.read size).2)) _ _ _ _ _ (by decide) hprobe hsession
  exact ⟨hagree.1.2 hfound, hagree.2.1.2 hfound⟩

/-! ### What follows the reply -/

namespace StreamTransport

/-- A reading takes its bytes off the stream. -/
theorem flatten_supplied {chunks : List (List UInt8)} {t t' : StreamTransport}
    (h : Supplies (ByteTransport.read 256) chunks t t') :
    chunks.flatten ++ t'.reads.flatten = t.reads.flatten := by
  induction h with
  | nil => rfl
  | cons head _ ih =>
    obtain ⟨hchunk, rfl⟩ := Prod.mk.inj head
    obtain rfl := Except.ok.inj hchunk
    rw [List.flatten_cons, List.append_assoc, ih, flatten_read]

/-- The stream can be read any number of times. -/
theorem exists_supplied (count : Nat) (t : StreamTransport) :
    ∃ chunks t', chunks.length = count ∧ Supplies (ByteTransport.read 256) chunks t t' := by
  induction count generalizing t with
  | zero => exact ⟨[], t, rfl, .nil⟩
  | succ count ih =>
    obtain ⟨chunks, t', hlength, hreads⟩ := ih (t.read 256).2
    exact ⟨(t.read 256).1 :: chunks, t', congrArg (· + 1) hlength, .cons rfl hreads⟩

end StreamTransport

namespace D4Link

/-- The bytes handed to the packet decoder, in order. -/
def decoderInput {T : Type} (w : LinkRun T) : List UInt8 :=
  w.history.flatMap fun step ↦
    match step.event with
    | .read bytes => bytes
    | _ => []

/-- The bytes handed to the packet decoder, and those still to be read. -/
def intake (w : LinkRun StreamTransport) : List UInt8 :=
  decoderInput w ++ w.state.target.reads.flatten

/-- A step that reads nothing hands nothing to the decoder. -/
theorem decoderInput_push_of_ne {T : Type} {w : LinkRun T} {event : Event} (after : D4Link T)
    (h : ∀ bytes, event ≠ .read bytes) : decoderInput (w.push event after) = decoderInput w := by
  rw [decoderInput, Recorded.push_history, List.flatMap_append, List.flatMap_singleton]
  split
  next bytes hread => exact absurd hread (h bytes)
  next => exact List.append_nil _

theorem intake_push {w : LinkRun StreamTransport} {event : Event} {after : D4Link StreamTransport}
    (hevent : ∀ bytes, event ≠ .read bytes)
    (htarget : after.target.reads = w.state.target.reads) :
    intake (w.push event after) = intake w := by
  rw [intake, decoderInput_push_of_ne after hevent, Recorded.push_state, htarget, intake]

theorem crossesWrite_intake (payload : List UInt8) :
    CrossesWrite (fun w w' : LinkRun StreamTransport ↦ intake w' = intake w) payload := by
  intro w packet outcome after _ htarget
  have hreads : after.target.reads = w.state.target.reads := by
    rw [htarget]
    rfl
  refine intake_push (fun bytes h ↦ ?_) hreads
  cases outcome <;> cases h

/-- **No step of the link loses a byte** between the transport and the decoder. -/
theorem crosses_intake : Crosses fun w w' : LinkRun StreamTransport ↦ intake w' = intake w where
  message payload _ := crossesWrite_intake payload
  read w := by
    show decoderInput (w.push (.read (w.state.target.read 4096).1) _) ++ _ = intake w
    rw [decoderInput, Recorded.push_history, List.flatMap_append, List.flatMap_singleton,
      List.append_assoc]
    exact congrArg (decoderInput w ++ ·) (StreamTransport.flatten_read 4096 w.state.target)
  internal w event after hevent htarget := by
    refine intake_push (fun bytes h ↦ ?_) (congrArg StreamTransport.reads htarget)
    rw [h] at hevent
    exact hevent

/-- Along whatever the code does. -/
theorem intake_of_steps {w w' : LinkRun StreamTransport}
    (h : Relation.ReflTransGen (fun w w' ↦ intake w' = intake w) w w') : intake w' = intake w := by
  induction h with
  | refl => rfl
  | tail _ hstep ih => exact hstep.trans ih

theorem intake_runCalls (calls : List Call) (w : LinkRun StreamTransport) :
    intake (runCalls calls w).2 = intake w := by
  refine intake_of_steps (runCalls_effects crosses_intake calls w (fun w after htarget ↦ ?_)
    crossesWrite_intake)
  exact intake_push (fun bytes h ↦ nomatch h) (congrArg StreamTransport.reads htarget)

end D4Link

namespace EpsonD4Session

/-- The link of a session goes on where the wait for the entry reply stopped. -/
theorem intake_connectRecoverable {bound : Nat} {target t t' : StreamTransport} {spec : EpsonSpec}
    {session : EpsonD4Session StreamTransport}
    (hwrite : ByteTransport.writeAll epsonD4EntryCommand target = (.ok (), t))
    (hwait : waitForEntryReply t = (.ok (), t'))
    (h : connectRecoverable bound target spec = .ok session) :
    D4Link.intake session.link = t'.reads.flatten := by
  rw [connectRecoverable, hwrite] at h
  dsimp only at h
  rw [hwait] at h
  dsimp only at h
  rcases hinit : D4Link.initializeLink bound (.start (D4Link.new t')) with
    ⟨_ | error | message | _, link⟩
  all_goals rw [hinit] at h
  case err | panic | running => cases h
  have hinitialized := D4Link.intake_of_steps
    (D4Link.initializeLink_effects D4Link.crosses_intake bound (.start (D4Link.new t')))
  rw [hinit] at hinitialized
  dsimp only at h
  rcases hopen : D4Link.openService bound "EPSON-CTRL" link with
    ⟨channel | error | message | _, link'⟩
  all_goals rw [hopen] at h
  case err =>
    dsimp only at h
    rcases hexit : D4Link.exit bound link' with ⟨_ | _ | _ | _, link''⟩ <;>
      rw [hexit] at h <;> cases h
  case panic | running => cases h
  cases h
  have hopened := D4Link.intake_of_steps
    (D4Link.openService_effects D4Link.crosses_intake bound "EPSON-CTRL" link)
  rw [hopen] at hopened
  exact hopened.trans hinitialized

end EpsonD4Session

/-- The wait for the reply reads the stream up to the chunk that completes it. -/
theorem waitForEntryReply_stream {t t' : StreamTransport}
    (h : waitForEntryReply t = (.ok (), t')) : ∃ chunks t'',
      Supplies (ByteTransport.read 256) chunks t t'' ∧
      Supplies (ByteTransport.read 256) (upTo epsonD4EntryReply [] chunks) t t' ∧
      epsonD4EntryReply <:+: (upTo epsonD4EntryReply [] chunks).flatten := by
  have hnone : ¬ epsonD4EntryReply <:+: [] := by decide
  obtain ⟨chunks, t'', hlength, hreads⟩ := t.exists_supplied entryReplyReadLimit
  obtain ⟨t₁, hused, hrun⟩ := entryReplyLoop_supplied hnone hreads
  rw [hlength] at hrun
  have hwait : waitForEntryReply t = (_, t₁) := hrun
  obtain ⟨hresult, rfl⟩ := Prod.mk.inj (hwait.symm.trans h)
  refine ⟨chunks, t'', hreads, hused, ?_⟩
  by_contra hmissing
  rw [if_neg fun hfound ↦ hmissing ((infix_upTo_iff hnone).2 hfound)] at hresult
  cases hresult

/-- What is left behind the wait is what follows the reply, if and only if a read ends with the
reply. -/
theorem reads_behind_reply_iff {t t' : StreamTransport} {before behind : List UInt8}
    (hstream : t.reads.flatten = before ++ (epsonD4EntryReply ++ behind))
    (hfirst : ¬ epsonD4EntryReply <:+: before ++ epsonD4EntryReply.dropLast)
    (hwait : waitForEntryReply t = (.ok (), t')) :
    t'.reads.flatten = behind ↔ ∃ used t'', Supplies (ByteTransport.read 256) used t t'' ∧
      used.flatten = before ++ epsonD4EntryReply := by
  obtain ⟨chunks, tEnd, hchunks, hused, hfound⟩ := waitForEntryReply_stream hwait
  have htaken := StreamTransport.flatten_supplied hused
  rw [hstream, ← List.append_assoc] at htaken
  constructor
  · intro hbehind
    rw [hbehind] at htaken
    exact ⟨_, t', hused, List.append_cancel_right htaken⟩
  · rintro ⟨used, t'', hreads, hends⟩
    have hholds : epsonD4EntryReply <:+: used.flatten := by
      rw [hends]
      exact (List.suffix_append _ _).isInfix
    have hshorter : upTo epsonD4EntryReply [] chunks <+: used := by
      rcases hreads.comparable hchunks with hle | hle
      · exact upTo_isPrefix_of_infix (by decide) hle hholds
      · exact (upTo_isPrefix _ _ _).trans hle
    rw [Text.eq_of_infix_of_isPrefix (by decide) hfirst hfound (hends ▸ hshorter.flatten)] at htaken
    exact List.append_cancel_left htaken

/-- **What the handover of the stream loses.** What follows the first entry reply is handed to the
packet decoder, whatever is called on the link, if and only if a read of the session ends with that
reply; else the bytes behind it in the same read are lost. -/
theorem entryHandover_iff {target t t' : StreamTransport} {before behind : List UInt8}
    (hstream : target.reads.flatten = before ++ (epsonD4EntryReply ++ behind))
    (hfirst : ¬ epsonD4EntryReply <:+: before ++ epsonD4EntryReply.dropLast)
    (hwrite : ByteTransport.writeAll epsonD4EntryCommand target = (.ok (), t))
    (hwait : waitForEntryReply t = (.ok (), t')) :
    (∀ calls, D4Link.intake (D4Link.runCalls calls (.start (D4Link.new t'))).2 = behind ↔
      ∃ used t'', Supplies (ByteTransport.read 256) used t t'' ∧
        used.flatten = before ++ epsonD4EntryReply) ∧
    ∀ bound spec session, EpsonD4Session.connectRecoverable bound target spec = .ok session →
      (D4Link.intake session.link = behind ↔
        ∃ used t'', Supplies (ByteTransport.read 256) used t t'' ∧
          used.flatten = before ++ epsonD4EntryReply) := by
  have hreads : t.reads.flatten = before ++ (epsonD4EntryReply ++ behind) := by
    cases hwrite
    exact hstream
  have hiff := reads_behind_reply_iff hreads hfirst hwait
  refine ⟨fun calls ↦ ?_, fun bound spec session hconnect ↦ ?_⟩
  · rw [D4Link.intake_runCalls]
    exact hiff
  · rw [EpsonD4Session.intake_connectRecoverable hwrite hwait hconnect]
    exact hiff

/-- A reply cut in two, and a packet in a read of its own: nothing is lost. -/
theorem entryHandover_of_boundary :
    D4Link.intake (D4Link.runCalls [⟨.initializeLink, 9⟩] (.start (D4Link.new
      ⟨[StreamTransport.packet 0 0 1 [0x00, 0x20]], [epsonD4EntryCommand]⟩))).2 =
        StreamTransport.packet 0 0 1 [0x00, 0x20] := by
  have hfirst : ¬ epsonD4EntryReply <:+: [] ++ epsonD4EntryReply.dropLast := by decide
  have hhandover := @entryHandover_iff
    (.sending [[0, 0, 0, 8], [1, 0, 0xc5, 0], StreamTransport.packet 0 0 1 [0x00, 0x20]]) _ _
    [] (StreamTransport.packet 0 0 1 [0x00, 0x20]) rfl hfirst rfl rfl
  exact (hhandover.1 [⟨.initializeLink, 9⟩]).2 ⟨[[0, 0, 0, 8], [1, 0, 0xc5, 0]], _,
    .cons rfl (.cons rfl .nil), rfl⟩

/-- The command of the peer that comes with the end of the reply is lost. -/
theorem entryHandover_loses_packet :
    let packet := StreamTransport.packet 0 0 1 [0x00, 0x20]
    let target : StreamTransport := .sending [epsonD4EntryReply ++ packet]
    let t := (ByteTransport.writeAll epsonD4EntryCommand target).2
    let t' := (waitForEntryReply t).2
    (waitForEntryReply t).1 = .ok () ∧ ¬ epsonD4EntryReply <:+: epsonD4EntryReply.dropLast ∧
      D4Link.intake (D4Link.runCalls [⟨.initializeLink, 9⟩] (.start (D4Link.new t'))).2 ≠
        packet := by
  intro packet target t t'
  refine ⟨rfl, by decide, ?_⟩
  rw [D4Link.intake_runCalls]
  decide

end Reink
