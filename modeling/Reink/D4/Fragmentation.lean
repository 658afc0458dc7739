import Reink.D4.Termination
import Reink.Library.Agreement

/-!
# Read boundaries

How the bytes of the peer are cut into reads decides which packets are in the received queue at a
time, which bytes wait in the decoder, and which are still to be read. `SameView` says of two links
that they differ in that only: together these parts are the same bytes, and all else is equal.
`next_packet` takes the first packet of the view from either (`nextPacket_view`), so two runs of the
same operations keep to the same view.

Two kinds of step depend on the cutting. A packet is put back behind those that happen to be in the
queue (`putBack`), and a push that runs into a malformed header throws away the packets before it
that happen to be in the same read (`decodeFailed`). `read_boundaries_irrelevant` says that runs
without such steps give the same results and write the same packets.
-/

namespace Reink

/-- A way of cutting the bytes into reads that deliver something and fit the buffer. -/
structure Cutting (bytes : List UInt8) where
  reads : List (List UInt8)
  nonempty : ∀ chunk ∈ reads, chunk ≠ []
  fits : ∀ chunk ∈ reads, chunk.length ≤ 4096
  flatten : reads.flatten = bytes

/-- The transport that delivers the reads. -/
def Cutting.transport {bytes : List UInt8} (cutting : Cutting bytes) : StreamTransport :=
  { reads := cutting.reads }

/-- Labels of steps that depend on where the reads end. -/
def Event.IsBoundary : Event → Prop
  | .putBack _ | .decodeFailed => True
  | _ => False

instance : DecidablePred Event.IsBoundary := fun event ↦
  match event with
  | .putBack _ | .decodeFailed => .isTrue trivial
  | .called _ | .awaiting _ | .polled _ | .answered _ _ | .read _ | .readFailed | .decoded _
  | .took _ | .credited _ | .wrote _ | .writeFailed _ | .activated _ _ | .registered _
  | .opened .. | .granted .. | .refused _ | .closed _ _ | .exitRequested | .exiting
  | .terminated => .isFalse id

namespace D4Link

open Program (Agree bind_run_ok bind_run_err)

/-- A link over given bytes. -/
abbrev StreamLink : Type := D4Link StreamTransport

/-- All bytes from the first packet in the queue to the last byte to be read. -/
def view (link : StreamLink) : List UInt8 :=
  link.received.flatMap Packet.encode ++ link.decoder.buffer ++ link.target.reads.flatten

/-- The queue holds packets that encode, the decoder no complete one, and every read delivers
something. -/
structure Sound (link : StreamLink) : Prop where
  received : ∀ packet ∈ link.received, packet.WellFormed
  buffer : PacketDecoder.Incomplete link.decoder.buffer
  nonempty : ∀ chunk ∈ link.target.reads, chunk ≠ []
  fits : ∀ chunk ∈ link.target.reads, chunk.length ≤ 4096

/-- The links differ only in how far the bytes of the view have been read and decoded. -/
structure SameView (link link' : StreamLink) : Prop where
  control : SameControl link link'
  written : link'.target.written = link.target.written
  view : view link' = view link
  sound : Sound link
  sound' : Sound link'

theorem SameControl.refl {T : Type} (link : D4Link T) : SameControl link link :=
  ⟨rfl, rfl, rfl, rfl⟩

theorem SameControl.trans {T : Type} {link link' link'' : D4Link T} (h : SameControl link link')
    (h' : SameControl link' link'') : SameControl link link'' :=
  ⟨h'.channels.trans h.channels, h'.conversation.trans h.conversation,
    h'.revision.trans h.revision, h'.exitRequested.trans h.exitRequested⟩

theorem SameControl.symm {T : Type} {link link' : D4Link T} (h : SameControl link link') :
    SameControl link' link :=
  ⟨h.channels.symm, h.conversation.symm, h.revision.symm, h.exitRequested.symm⟩

theorem SameControl.setChannel {T : Type} {link link' : D4Link T} (h : SameControl link link')
    (channel : ChannelId) (state : ChannelState) :
    SameControl (link.setChannel channel state) (link'.setChannel channel state) := by
  refine ⟨?_, h.conversation, h.revision, h.exitRequested⟩
  show Function.update link'.channels channel (some state) =
    Function.update link.channels channel (some state)
  rw [h.channels]

variable {w : LinkRun StreamTransport} {link link' : StreamLink}

/-! ### Taking a packet -/

/-- What a run of `next_packet` comes to: the first packet of the view is taken, or there is no
complete packet in the view. -/
inductive Taken (link : StreamLink) : Outcome D4Error Packet × LinkRun StreamTransport → Prop
  | packet {packet : Packet} {v : LinkRun StreamTransport} (wellFormed : packet.WellFormed)
      (control : SameControl link v.state) (written : v.state.target.written = link.target.written)
      (sound : Sound v.state) (bytes : view link = packet.encode ++ view v.state) :
      Taken link (.ok packet, v)
  | eof {v : LinkRun StreamTransport} (control : SameControl link v.state)
      (written : v.state.target.written = link.target.written) (sound : Sound v.state)
      (bytes : view link = view v.state) (incomplete : PacketDecoder.Incomplete (view link)) :
      Taken link (.err .unexpectedEof, v)

/-- Reading on does not change what there is to take. -/
theorem Taken.of_view {run : Outcome D4Error Packet × LinkRun StreamTransport}
    (hcontrol : SameControl link link') (hwritten : link'.target.written = link.target.written)
    (hview : view link' = view link) (h : Taken link' run) : Taken link run := by
  cases h with
  | packet wellFormed control written sound bytes =>
    exact .packet wellFormed (hcontrol.trans control) (written.trans hwritten) sound
      (hview.symm.trans bytes)
  | eof control written sound bytes incomplete =>
    refine .eof (hcontrol.trans control) (written.trans hwritten) sound (hview.symm.trans bytes) ?_
    rwa [hview] at incomplete

theorem readTarget_nil (h : link.target.reads = []) : readTarget 4096 link = (.ok [], link) := by
  show (Outcome.ok (link.target.read 4096).1,
    { link with target := (link.target.read 4096).2 }) = _
  unfold StreamTransport.read
  rw [h]

theorem readTarget_cons {chunk : List UInt8} {rest : List (List UInt8)}
    (h : link.target.reads = chunk :: rest) (hfits : chunk.length ≤ 4096) :
    readTarget 4096 link =
      (.ok chunk, { link with target := { link.target with reads := rest } }) := by
  show (Outcome.ok (link.target.read 4096).1,
    { link with target := (link.target.read 4096).2 }) = _
  unfold StreamTransport.read
  rw [h]
  dsimp only
  rw [if_pos hfits]

/-- The packet at the front of the queue is the first of the view. -/
theorem Taken.front {packet : Packet} {rest : List Packet} {event : Event} (hsound : Sound link)
    (hqueue : link.received = packet :: rest) :
    Taken link (.ok packet, w.push event { link with received := rest }) := by
  refine .packet (hsound.received packet (by simp [hqueue])) ⟨rfl, rfl, rfl, rfl⟩ rfl
    ⟨fun queued h ↦ hsound.received queued ?_, hsound.buffer, hsound.nonempty, hsound.fits⟩ ?_
  · rw [hqueue]
    exact List.mem_cons_of_mem _ h
  · unfold view
    rw [hqueue, List.flatMap_cons]
    simp [List.append_assoc]

/-- The link after a read that was decoded. -/
def fetched (link : StreamLink) (rest : List (List UInt8)) (decoder : PacketDecoder)
    (packets : List Packet) : StreamLink :=
  { link with
    target := { link.target with reads := rest }
    decoder := decoder
    received := packets }

theorem Sound.fetched {chunk : List UInt8} {rest : List (List UInt8)} {packets : List Packet}
    {decoder : PacketDecoder} (hsound : Sound link) (hqueue : link.received = [])
    (hreads : link.target.reads = chunk :: rest)
    (hpush : link.decoder.push chunk = (.ok packets, decoder)) :
    Sound (link.fetched rest decoder packets) ∧
      view (link.fetched rest decoder packets) = view link := by
  obtain ⟨taken, hwellFormed, hbytes, hend⟩ := PacketDecoder.push_spec link.decoder chunk
  rw [hpush] at hbytes hend
  rcases hend with ⟨heq, hincomplete⟩ | ⟨error, herror, -⟩
  case inr => cases herror
  cases heq
  have hrest : ∀ chunk' ∈ rest, chunk' ∈ link.target.reads := by
    intro chunk' h
    rw [hreads]
    exact List.mem_cons_of_mem _ h
  refine ⟨⟨hwellFormed, hincomplete, fun chunk' h ↦ hsound.nonempty chunk' (hrest chunk' h),
    fun chunk' h ↦ hsound.fits chunk' (hrest chunk' h)⟩, ?_⟩
  unfold view D4Link.fetched
  rw [hqueue, hreads, List.flatMap_nil, List.nil_append, List.flatten_cons, ← List.append_assoc,
    hbytes]

/-- The link once the chunk has been read. -/
def afterRead (link : StreamLink) (rest : List (List UInt8)) : StreamLink :=
  { link with target := { link.target with reads := rest } }

/-- What a chunk that decodes makes of the link. -/
theorem decodeReceived_afterRead {chunk : List UInt8} (rest : List (List UInt8))
    {packets : List Packet} {decoder : PacketDecoder} (hqueue : link.received = [])
    (hpush : link.decoder.push chunk = (.ok packets, decoder)) :
    decodeReceived chunk (link.afterRead rest) =
      (.ok packets, link.fetched rest decoder packets) := by
  have hpush' : (link.afterRead rest).decoder.push chunk = (.ok packets, decoder) := hpush
  have hqueue' : (link.afterRead rest).received = [] := hqueue
  unfold decodeReceived
  rw [hpush', hqueue']
  rfl

/-- When nothing is left to read, the reads are counted up to the last. -/
theorem readPacket_of_nil (bound empties : Nat) (hreads : w.state.target.reads = []) :
    readPacket (bound + 1) empties w =
      if empties + 1 = maxConsecutiveEmptyReads then
        (.err .unexpectedEof, w.push (.read []) w.state)
      else readPacket bound (empties + 1) (w.push (.read []) w.state) := by
  rw [readPacket, bind_run_ok (Program.atomic_run _ _ w (readTarget_nil hreads)), if_pos rfl]
  split <;> rfl

/-- A chunk that is left is read and decoded. -/
theorem readPacket_of_cons {chunk : List UInt8} {rest : List (List UInt8)} (bound empties : Nat)
    (hsound : Sound w.state) (hreads : w.state.target.reads = chunk :: rest) :
    readPacket (bound + 1) empties w = (do
      let _ ← Program.atomic decodeEvent (decodeReceived chunk)
      let popped ← popFront
      match popped with
      | some packet => pure packet
      | none => readPacket bound 0) (w.push (.read chunk) (w.state.afterRead rest)) := by
  have hchunk : chunk ∈ w.state.target.reads := by simp [hreads]
  have hread := Program.atomic_run (η := Event) readEvent (readTarget 4096) w
    (readTarget_cons hreads (hsound.fits chunk hchunk))
  rw [readPacket, bind_run_ok hread, if_neg (hsound.nonempty chunk hchunk)]
  rfl

/-- The first packet of the view is read, or there is none. By induction on the bound; a malformed
header is a boundary step, so the chunks all decode. -/
theorem readPacket_taken {bound empties : Nat} (hsound : Sound w.state)
    (hqueue : w.state.received = []) (hended : (readPacket bound empties w).1 ≠ .running)
    (hquiet : (readPacket bound empties w).2.Undisturbed Event.IsBoundary) :
    Taken w.state (readPacket bound empties w) := by
  induction bound generalizing w empties with
  | zero => exact absurd rfl hended
  | succ bound ih =>
    rcases hreads : w.state.target.reads with _ | ⟨chunk, rest⟩
    · rw [readPacket_of_nil bound empties hreads] at hended hquiet ⊢
      split at hended
      case isTrue hlast =>
        rw [if_pos hlast]
        refine .eof (.refl _) rfl hsound rfl ?_
        have hview : view w.state = w.state.decoder.buffer := by
          simp [view, hqueue, hreads]
        rw [hview]
        exact hsound.buffer
      case isFalse hmore =>
        rw [if_neg hmore] at hquiet ⊢
        exact ih (w := w.push (.read []) w.state) hsound hqueue hended hquiet
    · rw [readPacket_of_cons bound empties hsound hreads] at hended hquiet ⊢
      rcases hpush : w.state.decoder.push chunk with ⟨error | packets, decoder⟩
      · have hdecode : decodeReceived chunk (w.state.afterRead rest) =
            (.err (.packet error), { w.state.afterRead rest with decoder := decoder }) := by
          unfold decodeReceived afterRead
          dsimp only
          rw [hpush]
        rw [bind_run_err (Program.atomic_run decodeEvent _ _ hdecode)] at hquiet
        exact absurd trivial (Recorded.undisturbed_push_iff.1 hquiet).2
      · have hdecode := decodeReceived_afterRead rest hqueue hpush
        rw [bind_run_ok (Program.atomic_run decodeEvent _ _ hdecode)] at hended hquiet ⊢
        obtain ⟨hfetched, hview⟩ := hsound.fetched hqueue hreads hpush
        have hcontrol : SameControl w.state (w.state.fetched rest decoder packets) :=
          ⟨rfl, rfl, rfl, rfl⟩
        refine Taken.of_view hcontrol rfl hview ?_
        rcases packets with _ | ⟨front, packets⟩
        · rw [bind_run_ok (popFront_nil rfl)] at hended hquiet ⊢
          exact ih (w := (w.push (.read chunk) _).push (.decoded []) _) hfetched rfl hended hquiet
        · rw [bind_run_ok (popFront_cons (show _ = front :: packets from rfl))]
          exact Taken.front hfetched rfl

/-- **The first packet of the view is taken**, wherever it is. -/
theorem nextPacket_taken {bound : Nat} (hsound : Sound w.state)
    (hended : (nextPacket bound w).1 ≠ .running)
    (hquiet : (nextPacket bound w).2.Undisturbed Event.IsBoundary) :
    Taken w.state (nextPacket bound w) := by
  unfold nextPacket at hended hquiet ⊢
  rcases hqueue : w.state.received with _ | ⟨packet, rest⟩
  · rw [bind_run_ok (popFront_nil hqueue)] at hended hquiet ⊢
    exact readPacket_taken hsound hqueue hended hquiet
  · rw [bind_run_ok (popFront_cons hqueue)]
    exact Taken.front hsound hqueue

/-! ### Blocks of code -/

/-- A change of the control parts only. -/
theorem SameView.of_input {after after' : StreamLink} (h : SameView link link')
    (hinput : SameInput link after) (hinput' : SameInput link' after')
    (hcontrol : SameControl after after') : SameView after after' := by
  obtain ⟨htarget, hdecoder, hreceived⟩ := hinput
  obtain ⟨htarget', hdecoder', hreceived'⟩ := hinput'
  refine ⟨hcontrol, ?_, ?_, ?_, ?_⟩
  · rw [htarget, htarget', h.written]
  · unfold D4Link.view
    rw [htarget, htarget', hdecoder, hdecoder', hreceived, hreceived']
    exact h.view
  · obtain ⟨hpackets, hbuffer, hnonempty, hfits⟩ := h.sound
    exact ⟨by rwa [hreceived], by rwa [hdecoder], by rwa [htarget], by rwa [htarget]⟩
  · obtain ⟨hpackets, hbuffer, hnonempty, hfits⟩ := h.sound'
    exact ⟨by rwa [hreceived'], by rwa [hdecoder'], by rwa [htarget'], by rwa [htarget']⟩

/-- The block ends alike on links with the same view. -/
def Alike {α : Type} (body : LinkBlock StreamTransport α) : Prop :=
  ∀ link link', SameView link link' →
    (body link).1 = (body link').1 ∧ SameView (body link).2 (body link').2

namespace Alike

variable {α β : Type}

theorem pure (a : α) : Alike (Pure.pure a) := fun _ _ h ↦ ⟨rfl, h⟩

theorem orThrow (o : Option α) (error : D4Error) : Alike (Program.orThrow o error) := by
  cases o with
  | none => exact fun _ _ h ↦ ⟨rfl, h⟩
  | some a => exact .pure a

theorem orPanic (o : Option α) (message : String) : Alike (Program.orPanic o message) := by
  cases o with
  | none => exact fun _ _ h ↦ ⟨rfl, h⟩
  | some a => exact .pure a

theorem modify {f : StreamLink → StreamLink} (hf : ∀ link, SameInput link (f link))
    (hcontrol : ∀ link link', SameControl link link' → SameControl (f link) (f link')) :
    Alike (Program.modify f) :=
  fun link link' h ↦ ⟨rfl, h.of_input (hf link) (hf link') (hcontrol link link' h.control)⟩

theorem bind {body : LinkBlock StreamTransport α} {f : α → LinkBlock StreamTransport β}
    (hbody : Alike body) (hf : ∀ a, Alike (f a)) : Alike (body >>= f) := by
  intro link link' h
  obtain ⟨heq, hsame⟩ := hbody link link' h
  rcases hrun : body link with ⟨a | e | p | _, s⟩ <;> rcases hrun' : body link' with ⟨o', s'⟩ <;>
    rw [hrun, hrun'] at heq hsame <;> cases heq
  case ok =>
    rw [bind_run_ok hrun, bind_run_ok hrun']
    exact hf a s s' hsame
  case err =>
    rw [bind_run_err hrun, bind_run_err hrun']
    exact ⟨rfl, hsame⟩
  case panic =>
    rw [Program.bind_run_panic hrun, Program.bind_run_panic hrun']
    exact ⟨rfl, hsame⟩
  case running =>
    rw [Program.bind_run_running hrun, Program.bind_run_running hrun']
    exact ⟨rfl, hsame⟩

theorem setChannel (channel : ChannelId) (state : ChannelState) :
    Alike (Program.modify fun link ↦ link.setChannel channel state) :=
  .modify (fun _ ↦ ⟨rfl, rfl, rfl⟩) fun _ _ h ↦ h.setChannel channel state

theorem updateChannel {channel : ChannelId} {expectation : String}
    {f : ChannelState → LinkBlock StreamTransport ChannelState} (hf : ∀ state, Alike (f state)) :
    Alike (updateChannel channel expectation f) := by
  intro link link' h
  rcases hlookup : link.channels channel with _ | state
  · have hlookup' : link'.channels channel = none := by rw [h.control.channels, hlookup]
    rw [updateChannel_none hlookup, updateChannel_none hlookup']
    exact ⟨rfl, h⟩
  · have hlookup' : link'.channels channel = some state := by rw [h.control.channels, hlookup]
    rw [updateChannel_some hlookup, updateChannel_some hlookup']
    exact (hf state).bind (fun _ ↦ .setChannel _ _) link link' h

theorem transactionChannelMut (f : ChannelState → ChannelState) :
    Alike (transactionChannelMut f) :=
  .updateChannel fun _ ↦ .pure _

theorem beginConversation (revision : ProtocolRevision) : Alike (beginConversation revision) :=
  .bind (.modify (fun _ ↦ ⟨rfl, rfl, rfl⟩) fun _ _ h ↦
      ⟨h.channels, h.conversation, rfl, h.exitRequested⟩) fun _ ↦
    .bind (.transactionChannelMut _) fun _ ↦ .modify (fun _ ↦ ⟨rfl, rfl, rfl⟩) fun _ _ h ↦
      ⟨h.channels, rfl, h.revision, h.exitRequested⟩

theorem terminateConversation : Alike terminateConversation :=
  .bind (.modify (fun _ ↦ ⟨rfl, rfl, rfl⟩) fun _ _ h ↦
      ⟨by dsimp only; rw [h.channels], h.conversation, h.revision, h.exitRequested⟩) fun _ ↦
    .bind (.transactionChannelMut _) fun _ ↦ .modify (fun _ ↦ ⟨rfl, rfl, rfl⟩) fun _ _ h ↦
      ⟨h.channels, rfl, h.revision, h.exitRequested⟩

theorem grantCredit (channel : ChannelId) (addedCredit : UInt16) :
    Alike (grantCredit channel addedCredit) :=
  .updateChannel fun _ ↦ .bind (.orThrow _ _) fun _ ↦ .pure _

theorem writeAll (packet : Packet) : Alike (writeAll packet) := by
  intro link link' h
  obtain ⟨hchannels, hconversation, hrevision, hexit⟩ := h.control
  refine ⟨rfl, ⟨hchannels, hconversation, hrevision, hexit⟩,
    congrArg (· ++ [packet.encode]) h.written, h.view, ?_, ?_⟩
  · exact ⟨h.sound.received, h.sound.buffer, h.sound.nonempty, h.sound.fits⟩
  · exact ⟨h.sound'.received, h.sound'.buffer, h.sound'.nonempty, h.sound'.fits⟩

theorem writeAndSpend (packet : Packet) (channel : ChannelId) (consumeCredit : Bool) :
    Alike (writeAndSpend packet channel consumeCredit) := by
  refine (Alike.writeAll packet).bind fun _ ↦ ?_
  unfold Program.when
  split
  · exact .updateChannel fun _ ↦ .bind (.orPanic _ _) fun _ ↦ .pure _
  · exact .pure ()

end Alike

/-! ### The code of the link -/

theorem nextPacket_agree (bound : Nat) :
    Agree SameView Event.IsBoundary (nextPacket bound) (nextPacket bound) := by
  have hgrows : Program.Grows (nextPacket bound : LinkProgram StreamTransport Packet) :=
    fun w ↦ (Program.Follows.path_or _ (nextPacket_follows (F := Broken) (w := w) bound)).isPrefix
  refine ⟨hgrows, hgrows, fun w w' h hended hended' hquiet hquiet' ↦ ?_⟩
  have htaken := nextPacket_taken h.sound hended hquiet
  have htaken' := nextPacket_taken h.sound' hended' hquiet'
  have hview := h.view
  generalize nextPacket bound w = run at htaken ⊢
  generalize nextPacket bound w' = run' at htaken' ⊢
  cases htaken with
  | packet wellFormed control written sound bytes =>
    cases htaken' with
    | packet wellFormed' control' written' sound' bytes' =>
      -- two packets in front of the same bytes are the same
      rw [bytes, bytes'] at hview
      obtain ⟨rfl, hrest⟩ := wellFormed'.encode_append_inj wellFormed hview
      refine ⟨rfl, control.symm.trans (h.control.trans control'), ?_, hrest, sound, sound'⟩
      rw [written', written, h.written]
    | eof control' written' sound' bytes' incomplete' =>
      -- the same bytes do and do not begin with a packet
      rw [hview, bytes] at incomplete'
      exact absurd incomplete' (PacketDecoder.not_incomplete_encode wellFormed _)
  | eof control written sound bytes incomplete =>
    cases htaken' with
    | packet wellFormed' control' written' sound' bytes' =>
      rw [← hview, bytes'] at incomplete
      exact absurd incomplete (PacketDecoder.not_incomplete_encode wellFormed' _)
    | eof control' written' sound' bytes' incomplete' =>
      refine ⟨rfl, control.symm.trans (h.control.trans control'), ?_, ?_, sound, sound'⟩
      · rw [written', written, h.written]
      · rw [← bytes', ← bytes, hview]

/-- The code of the link, run on links with the same view. -/
abbrev Agrees {α : Type} (m m' : LinkProgram StreamTransport α) : Prop :=
  Agree SameView Event.IsBoundary m m'

/-- Code depends on the control parts only. -/
theorem observe_agrees {α : Type} {f f' : StreamLink → LinkProgram StreamTransport α}
    (hf : ∀ link link', SameControl link link' → Agrees (f link) (f' link')) :
    Agrees (Program.observe >>= f) (Program.observe >>= f') :=
  .observe_bind .refl (fun _ _ h ↦ h.control) hf

theorem atomic_agrees {α : Type} {event : Outcome D4Error α → Event}
    {body : LinkBlock StreamTransport α} (hbody : Alike body) :
    Agrees (Program.atomic event body) (Program.atomic event body) :=
  .atomic hbody

theorem requireActiveConversation_agrees :
    Agrees requireActiveConversation requireActiveConversation := by
  refine observe_agrees fun link link' h ↦ ?_
  rw [h.conversation]
  split
  · exact .pure ()
  all_goals exact .throw _

theorem send_agrees (channel : ChannelId) (payload : List UInt8) (consumeCredit : Bool) :
    Agrees (send channel payload consumeCredit) (send channel payload consumeCredit) := by
  refine observe_agrees fun link link' h ↦ ?_
  rw [h.conversation, h.channels]
  refine .bind (.when requireActiveConversation_agrees) fun _ ↦ .bind (.orThrow _ _) fun state ↦ ?_
  refine .bind (.rejectIf _) fun _ ↦ .bind (.rejectIf _) fun _ ↦ .bind (.rejectIf _) fun _ ↦ ?_
  refine .bind (.ofExcept _ _) fun packet ↦ ?_
  exact atomic_agrees (.writeAndSpend packet channel consumeCredit)

theorem sendTransaction_agrees (message : TransactionMessage) (consumeCredit : Bool) :
    Agrees (sendTransaction message consumeCredit) (sendTransaction message consumeCredit) := by
  refine observe_agrees fun link link' h ↦ ?_
  rw [h.revision]
  exact .bind (.ofExcept _ _) fun payload ↦ .bind (.rejectIf _) fun _ ↦ send_agrees _ _ _

theorem sendError_agrees (channel : ChannelId) (errorCode : UInt8) :
    Agrees (sendError channel errorCode) (sendError channel errorCode) := by
  refine observe_agrees fun link link' h ↦ ?_
  rw [h.revision]
  exact .bind (.ofExcept _ _) fun payload ↦ .bind (.ofExcept _ _) fun packet ↦
    atomic_agrees (.writeAll packet)

theorem applyCredit_agrees (packet : Packet) :
    Agrees (applyCredit packet) (applyCredit packet) := by
  refine observe_agrees fun link link' h ↦ ?_
  rw [h.channels]
  refine .bind (.orThrow _ _) fun state ↦ .bind (.rejectIf _) fun _ ↦ ?_
  split
  · exact .bind (sendError_agrees _ _) fun _ ↦ .throw _
  · exact atomic_agrees (.updateChannel fun _ ↦ .bind (.orPanic _ _) fun _ ↦ .pure _)

theorem handlePeerTransaction_agrees (message : TransactionMessage) :
    Agrees (handlePeerTransaction message) (handlePeerTransaction message) := by
  refine observe_agrees fun link link' h ↦ ?_
  cases message with
  | init revision =>
    dsimp only
    rw [h.conversation, h.revision]
    split
    · exact .bind (atomic_agrees (.beginConversation revision)) fun _ ↦ sendTransaction_agrees _ _
    · exact sendTransaction_agrees _ _
  | openChannel peerSocket sourceSocket maxPacketSize maxServiceSize _ _ =>
    refine observe_agrees fun link link' h ↦ ?_
    rw [h.channels]
    split
    · exact sendTransaction_agrees _ _
    · exact sendTransaction_agrees _ _
  | closeChannel peerSocket sourceSocket =>
    dsimp only
    rw [h.channels]
    refine .bind (sendTransaction_agrees _ _) fun _ ↦ .when ?_
    exact atomic_agrees (.updateChannel fun _ ↦ .pure _)
  | credit peerSocket sourceSocket addedCredit =>
    dsimp only
    rw [h.channels]
    refine .bind (.orThrow _ _) fun state ↦ .bind (.orThrow _ _) fun credit ↦ ?_
    exact .bind (atomic_agrees (.updateChannel fun _ ↦ .pure _)) fun _ ↦ sendTransaction_agrees _ _
  | exit =>
    refine .bind (sendTransaction_agrees _ _) fun _ ↦ observe_agrees fun link link' h ↦ ?_
    rw [h.exitRequested]
    split
    · exact atomic_agrees (.modify (fun _ ↦ ⟨rfl, rfl, rfl⟩) fun _ _ h ↦
        ⟨h.channels, rfl, h.revision, h.exitRequested⟩)
    · exact atomic_agrees .terminateConversation
  | creditRequest _ _ _ | getSocketId _ | getServiceName _ => exact sendTransaction_agrees _ _
  | error _ _ _ => exact .pure ()
  | _ => exact .throw _

/-- Putting a packet back is a boundary step. -/
theorem pushBack_agrees (packet : Packet) : Agrees (pushBack packet) (pushBack packet) :=
  .disturbed fun _ ↦ trivial

theorem transactionLoop_agrees (expectedReply : UInt8) (readBound bound : Nat) :
    Agrees (transactionLoop expectedReply readBound bound)
      (transactionLoop expectedReply readBound bound) := by
  induction bound with
  | zero => exact .running
  | succ bound ih =>
    refine .bind (.mark _) fun _ ↦ .bind (nextPacket_agree readBound) fun packet ↦ ?_
    split
    · refine observe_agrees fun link link' h ↦ ?_
      rw [h.conversation]
      split
      · exact ih
      · exact .bind (applyCredit_agrees packet) fun _ ↦ .bind (pushBack_agrees packet) fun _ ↦ ih
    · refine .bind (applyCredit_agrees packet) fun _ ↦ observe_agrees fun link link' h ↦ ?_
      rw [h.revision]
      refine .bind (.ofExcept _ _) fun received ↦ ?_
      split
      · exact .bind (handlePeerTransaction_agrees received) fun _ ↦ ih
      · split
        · exact .bind (.mark _) fun _ ↦ .pure received
        · exact .throw _

theorem requestLoop_agrees (channel : ChannelId) (readBound bound : Nat) :
    Agrees (requestLoop channel readBound bound) (requestLoop channel readBound bound) := by
  induction bound with
  | zero => exact .running
  | succ bound ih =>
    refine .bind (.mark _) fun _ ↦ .bind (nextPacket_agree readBound) fun packet ↦ ?_
    split
    · refine .bind (applyCredit_agrees packet) fun _ ↦ observe_agrees fun link link' h ↦ ?_
      rw [h.revision]
      refine .bind (.ofExcept _ _) fun message ↦ ?_
      split
      · refine .bind (handlePeerTransaction_agrees message) fun _ ↦
          observe_agrees fun link link' h ↦ ?_
        rw [h.conversation]
        split
        · exact .throw _
        · exact ih
      · exact .throw _
    · refine observe_agrees fun link link' h ↦ ?_
      rw [h.conversation]
      split
      · exact ih
      · refine .bind (applyCredit_agrees packet) fun _ ↦ ?_
        split
        · exact .bind (.mark _) fun _ ↦ .pure packet.payload
        · exact .bind (pushBack_agrees packet) fun _ ↦ ih

theorem transaction_agrees (bound : Nat) (message : TransactionMessage) (consumeCredit : Bool) :
    Agrees (transaction bound message consumeCredit) (transaction bound message consumeCredit) :=
  .bind (sendTransaction_agrees _ _) fun _ ↦ .bind (.mark _) fun _ ↦ transactionLoop_agrees _ _ _

theorem negotiate_agrees (bound : Nat) (revisions : List ProtocolRevision) :
    Agrees (negotiate bound revisions) (negotiate bound revisions) := by
  induction revisions with
  | nil => exact .throw _
  | cons revision revisions ih =>
    refine .bind (transaction_agrees _ _ _) fun reply ↦ ?_
    split
    · split
      · exact atomic_agrees (.beginConversation _)
      · split
        · exact .throw _
        · exact ih
    · exact .throw _

theorem initializeLink_agrees (bound : Nat) :
    Agrees (initializeLink bound) (initializeLink bound) := by
  refine observe_agrees fun link link' h ↦ ?_
  rw [h.conversation]
  exact .bind (.rejectIf _) fun _ ↦ .bind (.rejectIf _) fun _ ↦ negotiate_agrees _ _

theorem openService_agrees (bound : Nat) (name : String) :
    Agrees (openService bound name) (openService bound name) := by
  refine .bind (transaction_agrees _ _ _) fun reply ↦ ?_
  split
  · refine .bind (.rejectIf _) fun _ ↦ .bind (atomic_agrees (.setChannel _ _)) fun _ ↦ ?_
    refine .bind (transaction_agrees _ _ _) fun reply ↦ ?_
    split
    · exact .bind (.rejectIf _) fun _ ↦
        .bind (atomic_agrees (.updateChannel fun _ ↦ .pure _)) fun _ ↦ .pure _
    · exact .throw _
  · exact .throw _

theorem serviceName_agrees (bound : Nat) (socketId : UInt8) :
    Agrees (serviceName bound socketId) (serviceName bound socketId) := by
  refine .bind (transaction_agrees _ _ _) fun reply ↦ ?_
  split
  · exact .bind (.rejectIf _) fun _ ↦ .pure _
  · exact .throw _

theorem controlChannel_agrees (channel : ChannelId) :
    Agrees (controlChannel channel) (controlChannel channel) := by
  refine observe_agrees fun link link' h ↦ ?_
  rw [h.channels]
  exact .rejectIf _

theorem closeChannel_agrees (bound : Nat) (channel : ChannelId) :
    Agrees (closeChannel bound channel) (closeChannel bound channel) := by
  refine .bind (.rejectIf _) fun _ ↦ observe_agrees fun link link' h ↦ ?_
  rw [h.channels]
  refine .bind (.rejectIf _) fun _ ↦ .bind (transaction_agrees _ _ _) fun reply ↦ ?_
  split
  · refine .bind (.rejectIf _) fun _ ↦ atomic_agrees (.modify (fun _ ↦ ⟨rfl, rfl, rfl⟩) ?_)
    exact fun _ _ h ↦ ⟨by dsimp only; rw [h.channels], h.conversation, h.revision, h.exitRequested⟩
  · exact .throw _

theorem exit_agrees (bound : Nat) : Agrees (exit bound) (exit bound) := by
  refine .bind requireActiveConversation_agrees fun _ ↦ ?_
  refine .bind (atomic_agrees (.modify (fun _ ↦ ⟨rfl, rfl, rfl⟩) fun _ _ h ↦
    ⟨h.channels, h.conversation, h.revision, rfl⟩)) fun _ ↦ ?_
  refine .bind (transaction_agrees _ _ _) fun reply ↦ ?_
  split
  · split
    · exact atomic_agrees .terminateConversation
    · exact .throw _
  · exact .throw _

theorem ensureCreditLoop_agrees (bound : Nat) (channel : ChannelId) (attempts : Nat) :
    Agrees (ensureCreditLoop bound channel attempts) (ensureCreditLoop bound channel attempts) := by
  induction attempts with
  | zero =>
    refine observe_agrees fun link link' h ↦ ?_
    rw [h.channels]
    exact .bind (.orThrow _ _) fun _ ↦ .throw _
  | succ attempts ih =>
    refine observe_agrees fun link link' h ↦ ?_
    rw [h.channels]
    refine .bind (.orThrow _ _) fun state ↦ ?_
    split
    · exact .pure ()
    refine .bind (transaction_agrees _ _ _) fun reply ↦ ?_
    split
    · refine .bind (.rejectIf _) fun _ ↦ .bind (atomic_agrees (.grantCredit _ _)) fun _ ↦ ?_
      refine observe_agrees fun link link' h ↦ ?_
      rw [h.channels]
      split
      · exact .pure ()
      · exact ih
    · exact .throw _

theorem request_agrees (bound : Nat) (channel : ChannelId) (payload : List UInt8) :
    Agrees (request bound channel payload) (request bound channel payload) :=
  .bind requireActiveConversation_agrees fun _ ↦ .bind (ensureCreditLoop_agrees _ _ _) fun _ ↦
    .bind (send_agrees _ _ _) fun _ ↦ .bind (.mark _) fun _ ↦ requestLoop_agrees _ _ _

theorem runOperation_agrees (bound : Nat) (operation : Operation) :
    Agrees (runOperation bound operation) (runOperation bound operation) := by
  refine .bind (.mark _) fun _ ↦ ?_
  cases operation with
  | initializeLink => exact .bind (initializeLink_agrees bound) fun _ ↦ .pure _
  | openService name => exact .bind (openService_agrees bound name) fun _ ↦ .pure _
  | serviceName socketId => exact .bind (serviceName_agrees bound socketId) fun _ ↦ .pure _
  | controlChannel channel => exact .bind (controlChannel_agrees channel) fun _ ↦ .pure _
  | closeChannel channel => exact .bind (closeChannel_agrees bound channel) fun _ ↦ .pure _
  | exit => exact .bind (exit_agrees bound) fun _ ↦ .pure _
  | request channel payload => exact .bind (request_agrees bound channel payload) fun _ ↦ .pure _

/-! ### Runs -/

theorem runCalls_grows (calls : List Call) (w : LinkRun StreamTransport) :
    w.history <+: (runCalls calls w).2.history := by
  induction calls generalizing w with
  | nil => exact List.prefix_rfl
  | cons call calls ih =>
    have hcall := (runOperation_agrees call.bound call.operation).grows w
    by_cases hreturned : (runOperation call.bound call.operation w).1.Returned
    · rw [runCalls_returned hreturned]
      exact hcall.trans (ih _)
    · rw [runCalls_not_returned hreturned]
      exact hcall

/-- The first call is part of the run. -/
theorem runCalls_head (call : Call) (calls : List Call) (w : LinkRun StreamTransport) :
    (runOperation call.bound call.operation w).1 ∈ (runCalls (call :: calls) w).1 ∧
      (runOperation call.bound call.operation w).2.history <+:
        (runCalls (call :: calls) w).2.history := by
  by_cases hreturned : (runOperation call.bound call.operation w).1.Returned
  · rw [runCalls_returned hreturned]
    exact ⟨List.mem_cons_self, runCalls_grows calls _⟩
  · rw [runCalls_not_returned hreturned]
    exact ⟨List.mem_cons_self, List.prefix_rfl⟩

/-- With a sufficient bound every call of an undisturbed run ends. -/
theorem runCalls_ended {n : Nat} (calls : List Call)
    (hbound : ∀ call ∈ calls, enough n < call.bound) (hstock : stock w.state ≤ n)
    (hquiet : (runCalls calls w).2.Undisturbed Event.IsBoundary) :
    ∀ outcome ∈ (runCalls calls w).1, outcome ≠ .running := by
  induction calls generalizing w with
  | nil => exact fun outcome h ↦ absurd h List.not_mem_nil
  | cons call calls ih =>
    obtain ⟨hsize, -, hturns⟩ :=
      runOperation_settles call.operation (hbound call List.mem_cons_self) hstock
    have hended : (runOperation call.bound call.operation w).2.Undisturbed Event.IsBoundary →
        (runOperation call.bound call.operation w).1 ≠ .running := by
      intro hcall hrunning
      obtain ⟨⟨before, event, after⟩, hmem, hturn⟩ := hturns hrunning
      refine hcall _ hmem ?_
      cases event <;> first | exact hturn.elim | trivial
    by_cases hreturned : (runOperation call.bound call.operation w).1.Returned
    · rw [runCalls_returned hreturned] at hquiet ⊢
      rw [List.forall_mem_cons]
      exact ⟨(Outcome.returned_iff.1 hreturned).2,
        ih (fun call h ↦ hbound call (List.mem_cons_of_mem _ h)) hsize hquiet⟩
    · rw [runCalls_not_returned hreturned] at hquiet ⊢
      rw [List.forall_mem_singleton]
      exact hended hquiet

theorem runCalls_agrees (calls : List Call) {w w' : LinkRun StreamTransport}
    (h : SameView w.state w'.state) (hended : ∀ outcome ∈ (runCalls calls w).1, outcome ≠ .running)
    (hended' : ∀ outcome ∈ (runCalls calls w').1, outcome ≠ .running)
    (hquiet : (runCalls calls w).2.Undisturbed Event.IsBoundary)
    (hquiet' : (runCalls calls w').2.Undisturbed Event.IsBoundary) :
    (runCalls calls w).1 = (runCalls calls w').1 ∧
      SameView (runCalls calls w).2.state (runCalls calls w').2.state := by
  induction calls generalizing w w' with
  | nil => exact ⟨rfl, h⟩
  | cons call calls ih =>
    obtain ⟨hmem, hgrows⟩ := runCalls_head call calls w
    obtain ⟨hmem', hgrows'⟩ := runCalls_head call calls w'
    obtain ⟨heq, hsame⟩ := (runOperation_agrees call.bound call.operation).ends w w' h
      (hended _ hmem) (hended' _ hmem') (hquiet.of_isPrefix hgrows) (hquiet'.of_isPrefix hgrows')
    -- the calls end alike, so the runs go on or stop together
    by_cases hreturned : (runOperation call.bound call.operation w).1.Returned
    · have hreturned' : (runOperation call.bound call.operation w').1.Returned := heq ▸ hreturned
      rw [runCalls_returned hreturned] at hended hquiet ⊢
      rw [runCalls_returned hreturned'] at hended' hquiet' ⊢
      obtain ⟨hrest, hlast⟩ := ih hsame (fun outcome h ↦ hended outcome (List.mem_cons_of_mem _ h))
        (fun outcome h ↦ hended' outcome (List.mem_cons_of_mem _ h)) hquiet hquiet'
      exact ⟨congrArg₂ List.cons heq hrest, hlast⟩
    · have hreturned' : ¬ (runOperation call.bound call.operation w').1.Returned := heq ▸ hreturned
      rw [runCalls_not_returned hreturned, runCalls_not_returned hreturned']
      exact ⟨congrArg (fun outcome ↦ [outcome]) heq, hsame⟩

section Cuttings

variable {bytes : List UInt8}

/-- A new link has the whole stream to receive. -/
theorem stock_new (cutting : Cutting bytes) :
    stock (D4Link.new cutting.transport) = bytes.length := by
  show cutting.reads.flatten.length + 0 + 0 = _
  rw [cutting.flatten]
  rfl

theorem sound_new (cutting : Cutting bytes) : Sound (D4Link.new cutting.transport) :=
  ⟨fun packet h ↦ absurd h List.not_mem_nil, .inl (show 0 < headerLength by decide),
    cutting.nonempty, cutting.fits⟩

theorem sameView_new (cutting cutting' : Cutting bytes) :
    SameView (D4Link.new cutting.transport) (D4Link.new cutting'.transport) := by
  refine ⟨⟨rfl, rfl, rfl, rfl⟩, rfl, ?_, sound_new cutting, sound_new cutting'⟩
  show cutting'.reads.flatten = cutting.reads.flatten
  rw [cutting.flatten, cutting'.flatten]

/-- **Read boundaries do not matter** to runs that put no packet back and meet no malformed header.
The same calls on a new link, over the same bytes cut in two ways, all end, with the same results,
and the same packets are written. -/
theorem read_boundaries_irrelevant (calls : List Call) (cutting cutting' : Cutting bytes)
    (hbound : ∀ call ∈ calls, enough bytes.length < call.bound)
    (hquiet : (runNew calls cutting.transport).2.Undisturbed Event.IsBoundary)
    (hquiet' : (runNew calls cutting'.transport).2.Undisturbed Event.IsBoundary) :
    (∀ outcome ∈ (runNew calls cutting.transport).1, outcome ≠ .running) ∧
      (runNew calls cutting.transport).1 = (runNew calls cutting'.transport).1 ∧
      (runNew calls cutting.transport).2.state.target.written =
        (runNew calls cutting'.transport).2.state.target.written := by
  have hended := runCalls_ended calls hbound (stock_new cutting).le hquiet
  have hended' := runCalls_ended calls hbound (stock_new cutting').le hquiet'
  obtain ⟨hresults, hview⟩ :=
    runCalls_agrees calls (sameView_new cutting cutting') hended hended' hquiet hquiet'
  exact ⟨hended, hresults, hview.written.symm⟩

end Cuttings

/-- More than enough iterations for the examples. -/
def ampleBound : Nat := 1000000000000

/-- What the peer sends to open the conversation and a service with one credit. -/
def openingPackets : List (List UInt8) :=
  [StreamTransport.packet 0 0 1 [0x80, 0, 0x20],
    StreamTransport.packet 0 0 1 [0x89, 0, 2, 69, 80, 83, 79, 78, 45, 67, 84, 82, 76],
    StreamTransport.packet 0 0 1 [0x81, 0, 2, 2, 1, 0, 1, 0, 0, 0, 0, 1]]

/-- The calls that open a service. -/
def openingCalls : List Call :=
  [⟨.initializeLink, ampleBound⟩, ⟨.openService "EPSON-CTRL", ampleBound⟩]

/-- Every packet is a read of its own. -/
def cutAtPackets : Cutting openingPackets.flatten :=
  ⟨openingPackets, by decide, by decide, rfl⟩

/-- The first read ends inside the first packet. -/
def cutAtFourthByte : Cutting openingPackets.flatten :=
  ⟨[openingPackets.flatten.take 4, openingPackets.flatten.drop 4], by decide, by decide, by decide⟩

/-- The service is opened the same way whether its replies come packet by packet or not. -/
theorem read_boundaries_irrelevant_to_opening :
    (∀ outcome ∈ (runNew openingCalls cutAtPackets.transport).1, outcome ≠ .running) ∧
      (runNew openingCalls cutAtPackets.transport).1 =
        (runNew openingCalls cutAtFourthByte.transport).1 ∧
      (runNew openingCalls cutAtPackets.transport).2.state.target.written =
        (runNew openingCalls cutAtFourthByte.transport).2.state.target.written :=
  read_boundaries_irrelevant openingCalls cutAtPackets cutAtFourthByte (by decide)
    (by decide +kernel) (by decide +kernel)

/-- After the opening, a data packet, the reply to a lookup and another data packet. -/
def lookupPackets : List (List UInt8) :=
  [StreamTransport.packet 2 2 0 [0x52],
    StreamTransport.packet 0 0 1 [0x8a, 0, 2, 69, 80, 83, 79, 78, 45, 67, 84, 82, 76],
    StreamTransport.packet 2 2 0 [0x53]]

/-- The calls that open a service, look up a name and make a request. -/
def lookupCalls : List Call :=
  openingCalls ++ [⟨.serviceName 2, ampleBound⟩, ⟨.controlChannel ⟨2, 2⟩, ampleBound⟩,
    ⟨.request ⟨2, 2⟩ [0x71], ampleBound⟩]

/-- The three packets come in one read. -/
def cutTogether : Cutting (openingPackets ++ lookupPackets).flatten :=
  ⟨openingPackets ++ [lookupPackets.flatten], by decide, by decide, by decide⟩

/-- The last of them comes in a read of its own. -/
def cutBeforeLast : Cutting (openingPackets ++ lookupPackets).flatten :=
  ⟨openingPackets ++ [(lookupPackets.take 2).flatten, (lookupPackets.drop 2).flatten], by decide,
    by decide, by decide⟩

/-- How the reads end decides which of two data packets the request returns. -/
theorem request_depends_on_read_boundary :
    (∀ call ∈ lookupCalls, enough (openingPackets ++ lookupPackets).flatten.length < call.bound) ∧
      (runNew lookupCalls cutTogether.transport).1 ≠
        (runNew lookupCalls cutBeforeLast.transport).1 := by
  have htogether : (runNew lookupCalls cutTogether.transport).1 =
      [.ok .done, .ok (.service ⟨2, 2⟩), .ok (.name "EPSON-CTRL"), .ok .done,
        .ok (.data [0x53])] := by
    decide +kernel
  have hbefore : (runNew lookupCalls cutBeforeLast.transport).1 =
      [.ok .done, .ok (.service ⟨2, 2⟩), .ok (.name "EPSON-CTRL"), .ok .done,
        .ok (.data [0x52])] := by
    decide +kernel
  refine ⟨by decide, ?_⟩
  rw [htogether, hbefore]
  decide

end D4Link

end Reink
