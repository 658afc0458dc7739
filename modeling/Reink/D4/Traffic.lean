import Reink.D4.Exchange
import Reink.D4.Operation
import Reink.D4.Wire
import Reink.Platform.Stream

/-!
# No effect without traffic

A call that fails before anything has come or gone leaves the link as it was: every operation checks
what it can beforehand, and the first thing it changes is the transport. There is one exception.
`exit` sets the flag that makes the peer's `Exit` a confirmation of the host's own before it has
sent anything, and a send that is refused leaves the flag set.
-/

namespace Reink

/-- Labels of the steps in which bytes or packets come or go. -/
def Event.IsTraffic : Event → Prop
  | .wrote _ | .took _ => True
  | .read bytes => bytes ≠ []
  | _ => False

instance : DecidablePred Event.IsTraffic
  | .wrote _ | .took _ => .isTrue trivial
  | .read bytes => inferInstanceAs (Decidable (bytes ≠ []))
  | .called _ | .awaiting _ | .polled _ | .answered _ _ | .readFailed | .decoded _ | .decodeFailed
  | .putBack _ | .credited _ | .writeFailed _ | .activated _ _ | .registered _ | .opened _ _ _ _ _
  | .granted _ _ _ | .refused _ | .closed _ _ | .exitRequested | .exiting | .terminated =>
    .isFalse id

namespace D4Link

open Program (Moves Makes bind_run_ok bind_run_err)

variable {T α β : Type} {w w' w'' : LinkRun T}

/-! ### Traffic and effect -/

/-- Bytes or packets have come or gone between the two records. -/
def Traffic (w w' : LinkRun T) : Prop := ∃ step ∈ w'.since w, step.event.IsTraffic

instance (w w' : LinkRun T) : Decidable (Traffic w w') := by
  unfold Traffic
  infer_instance

/-- But for the transport the link is as it was. -/
def Unchanged (link after : D4Link T) : Prop := after = { link with target := after.target }

theorem Unchanged.refl (link : D4Link T) : Unchanged link link := rfl

theorem Traffic.push {event : Event} {after : D4Link T} (h : event.IsTraffic) :
    Traffic w (w.push event after) := by
  refine ⟨⟨w.state, event, after⟩, ?_, h⟩
  rw [Recorded.since_push List.prefix_rfl, Recorded.since_self]
  exact List.mem_singleton.2 rfl

/-- Later steps do not undo traffic. -/
theorem Traffic.append (h : Traffic w w') (hgrown : w'.history <+: w''.history) :
    Traffic w w'' := by
  obtain ⟨step, hmem, htraffic⟩ := h
  obtain ⟨new, hnew⟩ := hgrown
  refine ⟨step, ?_, htraffic⟩
  rw [Recorded.since, ← hnew, List.drop_append]
  exact List.mem_append_left _ hmem

/-- Nor is it undone by looking further back. -/
theorem Traffic.prepend (h : Traffic w' w'') (hgrown : w.history <+: w'.history) :
    Traffic w w'' := by
  obtain ⟨step, hmem, htraffic⟩ := h
  exact ⟨step, List.drop_subset_drop_left _ hgrown.length_le hmem, htraffic⟩

/-! ### Programs that send first -/

/-- The step is not the request for the exit. -/
def NotExit (event : Event) : Prop := event ≠ .exitRequested

theorem writes_notExit (payload : List UInt8) : Event.Writes NotExit payload :=
  fun _ _ ↦ ⟨by simp [NotExit], by simp [NotExit]⟩

theorem covers_notExit : Event.Covers NotExit where
  message payload _ := writes_notExit payload
  plain event hplain := by
    rintro rfl
    exact hplain

theorem crosses_notExit [ByteTransport T] :
    Crosses (Makes NotExit : LinkRun T → LinkRun T → Prop) :=
  crosses_makes covers_notExit

/-- The record only grows. -/
theorem Moves.grown {m : LinkProgram T α} (h : Moves (Makes NotExit) m) (w : LinkRun T) :
    w.history <+: (m w).2.history := by
  obtain ⟨new, hnew, -⟩ := Makes.history (h w)
  exact ⟨new, hnew.symm⟩

/-- The program has traffic, or fails with nothing changed. -/
def Sends (m : LinkProgram T α) (w : LinkRun T) : Prop :=
  Traffic w (m w).2 ∨ ∃ error, (m w).1 = .err error ∧ Unchanged w.state (m w).2.state

/-- The program changes something only if it has traffic. -/
def Passive (m : LinkProgram T α) (w : LinkRun T) : Prop :=
  Traffic w (m w).2 ∨ Unchanged w.state (m w).2.state

theorem Sends.congr {m m' : LinkProgram T α} (h : m w = m' w) (hm : Sends m' w) : Sends m w := by
  unfold Sends at hm ⊢
  rwa [h]

theorem Sends.passive {m : LinkProgram T α} (h : Sends m w) : Passive m w :=
  h.imp_right fun ⟨_, _, hunchanged⟩ ↦ hunchanged

/-- Whatever comes behind a program that sends is not reached without traffic. -/
theorem Sends.bind {m : LinkProgram T α} {f : α → LinkProgram T β} (hm : Sends m w)
    (hf : ∀ a, Moves (Makes NotExit) (f a)) : Sends (m >>= f) w := by
  unfold Sends at hm ⊢
  rcases Program.bind_cases m f w with ⟨a, v, hv, hb⟩ | ⟨e, v, hv, hb⟩ | ⟨p, v, hv, hb⟩ |
    ⟨v, hv, hb⟩
  · rw [hv] at hm
    rw [hb]
    rcases hm with htraffic | ⟨error, herror, -⟩
    · exact .inl (htraffic.append (Moves.grown (hf a) v))
    · cases herror
  all_goals
    rw [hv] at hm
    rw [hb]
    exact hm.imp_right fun ⟨error, herror, hunchanged⟩ ↦
      ⟨error, by cases herror <;> rfl, hunchanged⟩

/-- A program that stops at a check has changed nothing. -/
theorem Passive.of_stay {m : LinkProgram T α} {o : Outcome D4Error α} (h : m w = (o, w)) :
    Passive m w := by
  unfold Passive
  rw [h]
  exact .inr (.refl _)

theorem Passive.congr {m m' : LinkProgram T α} (h : m w = m' w) (hm : Passive m' w) :
    Passive m w := by
  unfold Passive at hm ⊢
  rwa [h]

theorem Passive.rejectIf {c : Prop} [Decidable c] {error : D4Error} :
    Passive (Program.rejectIf c error : LinkProgram T Unit) w := by
  by_cases hc : c
  · rw [Program.rejectIf_pos hc]
    exact .of_stay rfl
  · rw [Program.rejectIf_neg hc]
    exact .of_stay rfl

theorem Passive.rejectIf_bind {c : Prop} [Decidable c] {error : D4Error}
    {f : Unit → LinkProgram T β} (hf : Passive (f ()) w) :
    Passive (Program.rejectIf c error >>= f) w := by
  by_cases hc : c
  · rw [Program.rejectIf_pos hc]
    exact .of_stay rfl
  · rw [Program.rejectIf_neg hc]
    exact hf

/-- Naming the result changes nothing. -/
theorem Passive.map {m : LinkProgram T α} (g : α → β) (hm : Passive m w) :
    Passive (m >>= fun a ↦ pure (g a)) w := by
  unfold Passive at hm ⊢
  rcases Program.bind_cases m (fun a ↦ pure (g a)) w with ⟨a, v, hv, hb⟩ | ⟨e, v, hv, hb⟩ |
    ⟨p, v, hv, hb⟩ | ⟨v, hv, hb⟩
  all_goals
    rw [hv] at hm
    rw [hb]
    exact hm

section Sending

variable [ByteTransport T]

theorem send_sends (channel : ChannelId) (payload : List UInt8) (consumeCredit : Bool)
    (w : LinkRun T) : Sends (send channel payload consumeCredit) w := by
  have hsending := send_sending channel payload consumeCredit w
  unfold Sends
  generalize send channel payload consumeCredit w = result at hsending ⊢
  cases hsending with
  | refused error => exact .inr ⟨error, rfl, .refl _⟩
  | failed error target _ _ _ _ => exact .inr ⟨error, rfl, rfl⟩
  | free target => exact .inl (Traffic.push trivial)
  | paid target => exact .inl (Traffic.push trivial)

theorem sendTransaction_sends (message : TransactionMessage) (consumeCredit : Bool)
    (w : LinkRun T) : Sends (sendTransaction message consumeCredit) w := by
  unfold Sends
  rcases sendTransaction_run message consumeCredit w with ⟨error, hrun⟩ | ⟨payload, -, hrun⟩
  · rw [hrun]
    exact .inr ⟨error, rfl, .refl _⟩
  · rw [hrun]
    exact send_sends .transaction payload consumeCredit w

theorem Begins.sends {m : LinkProgram T α} (h : Begins NotExit m) (w : LinkRun T) : Sends m w := by
  obtain ⟨bound, message, consumeCredit, f, rfl, hf⟩ := h
  refine Sends.bind (Sends.bind (sendTransaction_sends message consumeCredit w) fun _ ↦ ?_) hf
  exact .bind (.mark (by simp [NotExit])) fun _ ↦ transactionLoop_effects crosses_notExit _ _ _

/-! ### The operations -/

theorem initializeLink_passive (bound : Nat) (w : LinkRun T) : Passive (initializeLink bound) w :=
  .rejectIf_bind (.rejectIf_bind (Begins.sends (negotiate_begins covers_notExit
    (negotiate_effects crosses_notExit _ _)) w).passive)

theorem closeChannel_passive (bound : Nat) (channel : ChannelId) (w : LinkRun T) :
    Passive (closeChannel bound channel) w := by
  obtain ⟨m, hm, hclose⟩ := closeChannel_begins (T := T) covers_notExit bound channel
  rw [hclose]
  exact .rejectIf_bind (.rejectIf_bind (hm.sends w).passive)

/-- With its credit at hand the request is sent, and else the credit is requested first. -/
theorem request_passive (bound : Nat) (channel : ChannelId) (payload : List UInt8)
    (w : LinkRun T) : Passive (request bound channel payload) w := by
  by_cases hactive : w.state.conversation = .active
  case neg =>
    obtain ⟨error, hgate⟩ := requireActiveConversation_of_ne hactive
    exact .of_stay (bind_run_err hgate)
  refine .congr (bind_run_ok (requireActiveConversation_of_active hactive)) ?_
  obtain ⟨m, hm, hloop⟩ := ensureCreditLoop_begins covers_notExit
    (ensureCreditLoop_effects (T := T) crosses_notExit bound channel 2)
  have hrest (u : Unit) : Moves (Makes NotExit) (send channel payload true >>= fun _ ↦
      Program.mark (.awaiting (some channel)) >>= fun _ ↦
        (requestLoop channel bound bound : LinkProgram T (List UInt8))) :=
    .bind (send_effects (crossesWrite_makes (writes_notExit _))) fun _ ↦
      .bind (.mark (by simp [NotExit])) fun _ ↦ requestLoop_effects crosses_notExit _ _ _
  rw [ensureChannelCredit, hloop]
  rcases hlookup : w.state.channels channel with _ | state
  · refine .of_stay (bind_run_err (e := .unknownChannel channel) ?_)
    rw [bind_run_ok (Program.observe_run w), hlookup]
    rfl
  by_cases hcredit : state.credit > 0
  · refine .congr (bind_run_ok (a := ()) ?_)
      ((send_sends channel payload true w).bind fun _ ↦ ?_).passive
    · rw [bind_run_ok (Program.observe_run w), hlookup, Program.orThrow_some, Program.pure_bind,
        if_pos hcredit]
      rfl
    · exact .bind (.mark (by simp [NotExit])) fun _ ↦ requestLoop_effects crosses_notExit _ _ _
  · refine (Sends.bind (.congr ?_ ((hm state).sends w)) hrest).passive
    rw [bind_run_ok (Program.observe_run w), hlookup, Program.orThrow_some, Program.pure_bind,
      if_neg hcredit]

/-- **Every operation but `exit` changes something only if it has traffic.** -/
theorem perform_passive (bound : Nat) {operation : Operation} (hexit : operation ≠ .exit)
    (w : LinkRun T) : Passive (perform bound operation) w := by
  cases operation with
  | initializeLink => exact .map _ (initializeLink_passive bound w)
  | openService name =>
    exact .map _ ((openService_begins covers_notExit bound name).sends w).passive
  | serviceName socketId => exact .map _ ((serviceName_begins bound socketId).sends w).passive
  | controlChannel channel =>
    exact .map _ (show Passive (D4Link.controlChannel channel) w from Passive.rejectIf)
  | closeChannel channel => exact .map _ (closeChannel_passive bound channel w)
  | exit => exact absurd rfl hexit
  | request channel payload => exact .map _ (request_passive bound channel payload w)

/-- Out of an active conversation `exit` stops at its check. -/
theorem exit_passive (bound : Nat) (h : w.state.conversation ≠ .active) :
    Passive (D4Link.exit bound) w := by
  obtain ⟨error, hgate⟩ := requireActiveConversation_of_ne h
  exact .of_stay (bind_run_err hgate)

/-- The record once the exit is asked for. -/
def asked (w : LinkRun T) : LinkRun T :=
  w.push .exitRequested { w.state with exitRequested := true }

/-- In an active conversation it asks for the exit, and sends then. -/
theorem exit_run (bound : Nat) (h : w.state.conversation = .active) :
    ∃ f : TransactionMessage → LinkProgram T Unit, (∀ reply, Moves (Makes NotExit) (f reply)) ∧
      D4Link.exit bound w = (transaction bound .exit true >>= f) (asked w) := by
  obtain ⟨f, hf, hexit⟩ := exit_begins (T := T) covers_notExit bound
  refine ⟨f, hf, ?_⟩
  rw [hexit, bind_run_ok (requireActiveConversation_of_active h)]
  exact bind_run_ok rfl

/-- **When a call that fails without traffic has no effect**: always, but for the `exit` that asks
for the exit. -/
theorem runOperation_unchanged_iff {bound : Nat} {operation : Operation} {error : D4Error}
    (h : runOperation bound operation w = (.err error, w')) (hquiet : ¬ Traffic w w') :
    Unchanged w.state w'.state ↔
      ¬ (operation = .exit ∧ w.state.conversation = .active ∧ w.state.exitRequested = false) := by
  have hcalled :
      perform bound operation (w.push (.called operation) w.state) = (.err error, w') := h
  have hpassive (hp : Passive (perform bound operation) (w.push (.called operation) w.state)) :
      Unchanged w.state w'.state := by
    rw [Passive, hcalled] at hp
    exact hp.resolve_left fun htraffic ↦ hquiet (htraffic.prepend (List.prefix_append _ _))
  by_cases hexit : operation = .exit
  case neg =>
    exact iff_of_true (hpassive (perform_passive bound hexit _)) fun hcondition ↦ hexit hcondition.1
  subst hexit
  by_cases hactive : w.state.conversation = .active
  case neg =>
    exact iff_of_true (hpassive (.map _ (exit_passive bound hactive)))
      fun hcondition ↦ hactive hcondition.2.1
  obtain ⟨f, hf, hrun⟩ := exit_run (w := w.push (.called .exit) w.state) bound hactive
  rcases Program.bind_eq_err.1 hcalled with hfailed | ⟨_, _, -, hpure⟩
  case inr => cases hpure
  have hsends := Begins.sends ⟨bound, .exit, true, f, rfl, hf⟩
    (asked (w.push (.called .exit) w.state))
  rw [Sends, ← hrun, hfailed] at hsends
  obtain ⟨_, -, hunchanged⟩ := hsends.resolve_left fun htraffic ↦
    hquiet (htraffic.prepend ((List.prefix_append _ _).trans (List.prefix_append _ _)))
  have hstate : w'.state =
      { w.state with exitRequested := true, target := w'.state.target } := hunchanged
  constructor
  · rintro hsame ⟨-, -, hrequested⟩
    have hkept : w'.state.exitRequested = w.state.exitRequested := by rw [hsame]
    rw [hstate, hrequested] at hkept
    cases hkept
  · intro hcondition
    have hrequested : w.state.exitRequested = true := by
      by_contra hnot
      exact hcondition ⟨rfl, hactive, by simpa using hnot⟩
    rw [Unchanged, hstate, ← hrequested]

/-! ### The exit is announced -/

/-- The packet that carries the host's `Exit`. -/
def exitPacket : Packet := ⟨⟨0, 0, 7, 1, 0⟩, [0x08]⟩

/-- The transaction channel has the credit and the limit for the packet, and the transport takes
it. -/
def ExitGoesOut (link : D4Link T) : Prop :=
  ∃ state target, link.channels .transaction = some state ∧ state.credit ≠ 0 ∧
    exitPacket.encode.length ≤ state.maxPacketSize.toNat ∧
    ByteTransport.writeAll exitPacket.encode link.target = (.ok (), target)

/-- The host has written its `Exit`. -/
def ExitWritten (w : LinkRun T) : Prop := ∃ step ∈ w.history, step.event = .wrote exitPacket

instance (w : LinkRun T) : Decidable (ExitWritten w) := by
  unfold ExitWritten
  infer_instance

omit [ByteTransport T] in
theorem ExitWritten.push {event : Event} {after : D4Link T} (h : ExitWritten w) :
    ExitWritten (w.push event after) := by
  obtain ⟨step, hmem, hwrote⟩ := h
  exact ⟨step, List.mem_append_left _ hmem, hwrote⟩

/-- The exit was asked for only with its packet, and the link has been exiting only behind it. -/
structure Announced (w : LinkRun T) : Prop where
  requested : w.state.exitRequested = true → ExitWritten w
  exiting : ∀ v, w.Passed v → v.state.conversation = .exiting → ExitWritten v

omit [ByteTransport T] in
/-- A step other than the request itself leaves the exit as it was. -/
theorem RunStep.exitRequested {event : Event} {after : D4Link T} (h : RunStep w event after)
    (hevent : NotExit event) : after.exitRequested = w.state.exitRequested := by
  rcases h with htransition | ⟨rfl, -, -⟩
  · cases htransition with
    | exitRequested _ => exact absurd rfl hevent
    | _ => rfl
  · rfl

omit [ByteTransport T] in
theorem Announced.push {event : Event} {after : D4Link T} (hw : Announced w)
    (h : RunStep w event after) (hevent : NotExit event) : Announced (w.push event after) := by
  refine ⟨fun hrequested ↦ ?_, fun v hv hexiting ↦ ?_⟩
  · rw [Recorded.push_state, h.exitRequested hevent] at hrequested
    exact (hw.requested hrequested).push
  rcases Recorded.passed_push_iff.1 hv with rfl | hearlier
  case inr => exact hw.exiting v hearlier hexiting
  rw [Recorded.push_state] at hexiting
  have hkept (hsame : after.conversation = w.state.conversation) :
      ExitWritten (w.push event after) :=
    (hw.exiting w w.passed_self (hsame.symm.trans hexiting)).push
  rcases h with htransition | ⟨rfl, -, -⟩
  case inr => exact hkept rfl
  cases htransition.conversation with
  | kept same => exact hkept same
  | begun _ _ now => cases now.symm.trans hexiting
  | ended _ now => cases now.symm.trans hexiting
  | exiting label _ _ =>
    subst label
    cases htransition with
    | marked h | transported h => exact h.elim
    | exiting _ requested => exact (hw.requested requested).push

omit [ByteTransport T] in
theorem Announced.of_trail (hw : Announced w)
    (h : Trail (fun v event after ↦ RunStep v event after ∧ NotExit event) w w') : Announced w' :=
  h.invariant (fun _ _ _ hstep hv ↦ hv.push hstep.1 hstep.2) hw

/-- No operation but `exit` asks for the exit. -/
theorem perform_moves (bound : Nat) {operation : Operation} (hexit : operation ≠ .exit) :
    Moves (Makes NotExit) (perform bound operation : LinkProgram T OperationResult) :=
  perform_effects crosses_notExit bound (fun hoperation ↦ absurd hoperation hexit)
    fun _ payload _ ↦ crossesWrite_makes (writes_notExit payload)

/-- Nor does `exit` itself out of an active conversation. -/
theorem perform_makes (bound : Nat) {operation : Operation}
    (hexit : ¬ (operation = .exit ∧ w.state.conversation = .active)) :
    Relation.ReflTransGen (Makes NotExit) w (perform bound operation w).2 := by
  by_cases hoperation : operation = .exit
  · subst hoperation
    obtain ⟨error, hgate⟩ := requireActiveConversation_of_ne (w := w)
      fun hactive ↦ hexit ⟨rfl, hactive⟩
    have hstay : D4Link.exit bound w = (.err error, w) := bind_run_err hgate
    rw [perform, bind_run_err hstay]
  · exact perform_moves bound hoperation w

omit [ByteTransport T] in
/-- An exit that is asked for is announced once its packet is written. -/
theorem Announced.written (hw : Announced w) (hactive : w.state.conversation = .active)
    (after : D4Link T) : Announced ((asked w).push (.wrote exitPacket) after) := by
  have hwritten : ExitWritten ((asked w).push (.wrote exitPacket) after) :=
    ⟨⟨_, .wrote exitPacket, after⟩, List.mem_append_right _ (List.mem_singleton.2 rfl), rfl⟩
  refine ⟨fun _ ↦ hwritten, fun v hv hexiting ↦ ?_⟩
  rcases Recorded.passed_push_iff.1 hv with rfl | hv
  · exact hwritten
  rcases Recorded.passed_push_iff.1 hv with rfl | hv
  · cases (show w.state.conversation = .exiting from hexiting).symm.trans hactive
  · exact hw.exiting v hv hexiting

/-- The host's `Exit` is written if it can go out. -/
theorem sendTransaction_exit (hactive : w.state.conversation = .active)
    (hgoes : ExitGoesOut w.state) :
    ∃ after, sendTransaction .exit true w = (.ok (), w.push (.wrote exitPacket) after) := by
  obtain ⟨state, target, hlookup, hcredit, hsize, hwrite⟩ := hgoes
  obtain ⟨credit, hdifference⟩ := UInt16.exists_checkedSub_one hcredit
  have hencode : TransactionMessage.exit.encode w.state.revision = .ok [0x08] := rfl
  have hrun : sendTransaction .exit true w = send .transaction [0x08] true w := by
    rw [sendTransaction, bind_run_ok (Program.observe_run w), hencode, Program.ofExcept_ok,
      Program.pure_bind, Program.rejectIf_neg (by simp), Program.pure_bind]
  exact ⟨_, hrun.trans
    (send_ready (.inr hactive) hlookup (absurd rfl) hdifference hsize rfl hwrite)⟩

/-- **A call keeps the exit announced**, if the exit it may ask for goes out. -/
theorem runOperation_announced {bound : Nat} {operation : Operation} (hw : Announced w)
    (hpresent : w.state.Present)
    (hgoes : ∀ v after, (runOperation bound operation w).2.Stepped v .exitRequested after →
      ExitGoesOut v.state) : Announced (runOperation bound operation w).2 := by
  have hpath := runOperation_path bound operation hpresent
  let called : LinkRun T := w.push (.called operation) w.state
  by_cases hexit : operation = .exit ∧ w.state.conversation = .active
  case neg =>
    have hmoves := perform_makes (w := called) bound hexit
    refine hw.of_trail (Makes.restrict (.head ⟨_, _, ?_, rfl⟩ hmoves) hpath)
    simp [NotExit]
  obtain ⟨rfl, hactive⟩ := hexit
  obtain ⟨f, hf, hexit⟩ := exit_run (w := called) bound hactive
  have hcalled : Announced called := hw.push (.inl (.marked trivial)) (by simp [NotExit])
  have hrun : runOperation bound .exit w =
      ((transaction bound .exit true >>= f) >>= fun _ ↦ pure .done) (asked called) :=
    Program.bind_run_congr hexit
  -- The exit is asked for in this step, so its packet goes out in the next one.
  have hasked :
      (runOperation bound .exit w).2.Stepped called .exitRequested (asked called).state := by
    refine Recorded.stepped_of_isPrefix (hrun ▸ Moves.grown ?_ (asked called))
    exact .bind (.bind (transaction_effects crosses_notExit) hf) fun _ ↦ .pure _
  have hgoes' : ExitGoesOut (asked called).state := hgoes called _ hasked
  obtain ⟨after, hsend⟩ := sendTransaction_exit (w := asked called) hactive hgoes'
  let written : LinkRun T := (asked called).push (.wrote exitPacket) after
  let rest : LinkProgram T OperationResult := ((Program.mark (.awaiting none) >>= fun _ ↦
    transactionLoop (TransactionMessage.exit).replyCode bound bound) >>= f) >>= fun _ ↦ pure .done
  have hrest : runOperation bound .exit w = rest written :=
    hrun.trans (Program.bind_run_congr (Program.bind_run_congr (bind_run_ok hsend)))
  have hmoves : Relation.ReflTransGen (Makes NotExit) written (rest written).2 := by
    refine Moves.bind (.bind (.bind (.mark (by simp [NotExit])) fun _ ↦ ?_) hf) (fun _ ↦ .pure _) _
    exact transactionLoop_effects crosses_notExit _ _ _
  have hannounced : Announced written := hcalled.written hactive after
  rw [hrest] at hpath ⊢
  exact hannounced.of_trail (Makes.restrict hmoves (hpath.of_passed (Makes.passed hmoves)
    (((List.prefix_append _ _).trans (List.prefix_append _ _)).trans (List.prefix_append _ _))))

/-- **Every run keeps the exit announced**, if every exit that is asked for goes out. By induction
on the calls. -/
theorem runCalls_announced {calls : List Call} (hw : Announced w) (hpresent : w.state.Present)
    (hgoes : ∀ v after, (runCalls calls w).2.Stepped v .exitRequested after → ExitGoesOut v.state) :
    Announced (runCalls calls w).2 := by
  induction calls generalizing w with
  | nil => exact hw
  | cons call calls ih =>
    have hpath := runOperation_path call.bound call.operation hpresent
    have hpresent' : (runOperation call.bound call.operation w).2.state.Present :=
      hpath.state_invariant (fun _ _ _ hstep ↦ hstep.present) hpresent
    by_cases hreturned : (runOperation call.bound call.operation w).1.Returned
    · rw [runCalls_returned hreturned] at hgoes ⊢
      refine ih (runOperation_announced hw hpresent fun v after hv ↦ ?_) hpresent' hgoes
      exact hgoes v after (hv.mono (runCalls_path calls hpresent').isPrefix)
    · rw [runCalls_not_returned hreturned] at hgoes ⊢
      exact runOperation_announced hw hpresent hgoes

/-- **No effect without traffic.** A call that fails before anything has come or gone leaves the
link as it was, unless it is an `exit` of an active conversation whose exit has not been asked for
before; that one never does. And in every run in which each exit that is asked for has the credit,
the limit and the transport for its packet, the link is exiting only behind its own `Exit`. -/
theorem no_effect_without_traffic_iff :
    (∀ (w w' : LinkRun T) (bound : Nat) (operation : Operation) (error : D4Error),
      runOperation bound operation w = (.err error, w') → ¬ Traffic w w' →
        (Unchanged w.state w'.state ↔ ¬ (operation = .exit ∧ w.state.conversation = .active ∧
          w.state.exitRequested = false))) ∧
    ∀ (calls : List Call) (target : T),
      (∀ v after, (runNew calls target).2.Stepped v .exitRequested after → ExitGoesOut v.state) →
        ∀ v, (runNew calls target).2.Passed v → v.state.conversation = .exiting →
          ExitWritten v := by
  refine ⟨fun w w' bound operation error ↦ runOperation_unchanged_iff, fun calls target hgoes ↦ ?_⟩
  have hnew : Announced (.start (D4Link.new target)) := by
    refine ⟨fun hrequested ↦ ?_, fun v hv hexiting ↦ ?_⟩
    · cases hrequested
    · rw [Recorded.passed_start_iff.1 hv] at hexiting
      cases hexiting
  exact (runCalls_announced hnew (present_new target) hgoes).exiting

end Sending

/-- The peer opens a service without giving back the transaction credit, and ends the conversation
during the request that follows. -/
def exitsByItself : StreamTransport :=
  .sending [StreamTransport.packet 0 0 1 [0x80, 0, 0x20],
    StreamTransport.packet 0 0 1 [0x89, 0, 2, 69, 80, 83, 79, 78, 45, 67, 84, 82, 76],
    StreamTransport.packet 0 0 0 [0x81, 0, 2, 2, 1, 0, 1, 0, 0, 0, 0, 1],
    StreamTransport.packet 0 0 1 [0x08]]

theorem exiting_without_exit_written :
    let before := (runNew [⟨.initializeLink, 9⟩, ⟨.openService "EPSON-CTRL", 9⟩] exitsByItself).2
    let failed := runOperation 9 .exit before
    let later := runOperation 9 (.request ⟨2, 2⟩ [0x71]) failed.2
    failed.1 = .err (.insufficientCredit .transaction "(transaction channel)") ∧
      ¬ Traffic before failed.2 ∧ ¬ Unchanged before.state failed.2.state ∧
      later.2.state.conversation = .exiting ∧ ¬ ExitWritten later.2 := by
  intro before failed later
  refine ⟨by decide +kernel, by decide +kernel, fun hunchanged ↦ ?_, by decide +kernel,
    by decide +kernel⟩
  have hkept : failed.2.state.exitRequested = before.state.exitRequested := by rw [hunchanged]
  revert hkept
  decide +kernel

end D4Link

end Reink
