import Reink.D4.Operation
import Reink.Platform.Stream

/-!
# In-order delivery

What `request` has returned on a channel, followed by what is still queued for it, should be what
has arrived on it. The receive loops put packets of other channels back at the end of the queue they
take packets from, so inside a loop the queue is not in the order of arrival: the packets not yet
examined come first, those examined and put back come last (`InLoop`). The order is restored if,
when the loop takes its answer, no packet of the channel is left in one of the two parts while
another is in the other (`Mixed`).

`delivered_in_order` is the result over every run in which all calls succeed. Its other condition
says that no packet of the channel was dropped; packets are dropped only while the conversation has
ended.
-/

namespace Reink

/-- The packets an event adds to the received queue. -/
def Event.arrivals : Event → List Packet
  | .decoded packets => packets
  | _ => []

/-- The packet a `request` returns. -/
def Event.deliveries : Event → List Packet
  | .answered (some _) packet => [packet]
  | _ => []

/-- Labels of steps that neither arrange the received queue nor start or end a loop. -/
def Event.IsIdle : Event → Prop
  | .awaiting _ | .answered _ _ | .decoded _ | .took _ | .putBack _ => False
  | _ => True

/-- The packets on the channel. -/
def packetsOn (channel : ChannelId) (packets : List Packet) : List Packet :=
  packets.filter (·.channel = channel)

@[simp] theorem packetsOn_nil (channel : ChannelId) : packetsOn channel [] = [] := rfl

@[simp] theorem packetsOn_append (channel : ChannelId) (packets packets' : List Packet) :
    packetsOn channel (packets ++ packets') =
      packetsOn channel packets ++ packetsOn channel packets' :=
  List.filter_append packets packets'

theorem packetsOn_eq_nil {channel : ChannelId} {packets : List Packet}
    (h : ∀ packet ∈ packets, packet.channel ≠ channel) : packetsOn channel packets = [] := by
  rw [packetsOn, List.filter_eq_nil_iff]
  intro packet hpacket
  simpa using h packet hpacket

namespace D4Link

variable {T : Type} {w w' : LinkRun T} {channel : ChannelId}

/-- All packets decoded from the transport so far. -/
def arrived (w : LinkRun T) : List Packet := (w.history.map Step.event).flatMap Event.arrivals

/-- All packets returned by requests so far. -/
def delivered (w : LinkRun T) : List Packet := (w.history.map Step.event).flatMap Event.deliveries

/-- One step of the count of examined packets. A loop that has examined the whole queue starts
over. -/
def examinedStep (count : Nat) (step : Step (D4Link T) Event) : Nat :=
  match step.event with
  | .awaiting _ => 0
  | .putBack _ => count + 1
  | .took _ => if step.before.received.length ≤ count then 0 else count
  | _ => count

/-- The number of packets at the end of the received queue that the loop has examined. -/
def examined (w : LinkRun T) : Nat := w.history.foldl examinedStep 0

@[simp] theorem arrived_push (event : Event) (after : D4Link T) :
    arrived (w.push event after) = arrived w ++ event.arrivals := by
  simp [arrived]

@[simp] theorem delivered_push (event : Event) (after : D4Link T) :
    delivered (w.push event after) = delivered w ++ event.deliveries := by
  simp [delivered]

theorem examined_push (event : Event) (after : D4Link T) :
    examined (w.push event after) = examinedStep (examined w) ⟨w.state, event, after⟩ := by
  simp [examined]

/-! ### Steps that do not concern the queue -/

/-- Nothing that delivery is about has changed. -/
structure SameDelivery (w w' : LinkRun T) : Prop where
  grows : w.history <+: w'.history
  received : w'.state.received = w.state.received
  arrived : arrived w' = arrived w
  delivered : delivered w' = delivered w
  examined : examined w' = examined w

theorem SameDelivery.refl (w : LinkRun T) : SameDelivery w w :=
  ⟨List.prefix_rfl, rfl, rfl, rfl, rfl⟩

theorem SameDelivery.trans {w'' : LinkRun T} (h : SameDelivery w w') (h' : SameDelivery w' w'') :
    SameDelivery w w'' :=
  ⟨h.grows.trans h'.grows, h'.received.trans h.received, h'.arrived.trans h.arrived,
    h'.delivered.trans h.delivered, h'.examined.trans h.examined⟩

theorem SameDelivery.push {event : Event} {after : D4Link T} (hidle : event.IsIdle)
    (hreceived : after.received = w.state.received) : SameDelivery w (w.push event after) := by
  refine ⟨List.prefix_append _ _, hreceived, ?_, ?_, ?_⟩
  · rw [arrived_push]
    cases event <;> first | exact hidle.elim | exact List.append_nil _
  · rw [delivered_push]
    cases event <;> first | exact hidle.elim | exact List.append_nil _
  · rw [examined_push]
    cases event <;> first | exact hidle.elim | rfl

theorem Event.IsQuiet.isIdle {event : Event} (h : event.IsQuiet) : event.IsIdle := by
  cases event <;> first | exact h.elim | trivial

theorem Transition.received_of_quiet {event : Event} {after : D4Link T}
    (h : Transition w event after) (hquiet : event.IsQuiet) :
    after.received = w.state.received := by
  cases h <;> first | rfl | exact hquiet.elim

/-- A path of quiet steps changes nothing that delivery is about. -/
theorem SameDelivery.of_path
    (h : Trail (fun v event after ↦ Transition v event after ∧ event.IsQuiet) w w') :
    SameDelivery w w' := by
  refine h.invariant (I := SameDelivery w) ?_ (.refl w)
  rintro v event after ⟨htransition, hquiet⟩ hv
  exact hv.trans (.push (Event.IsQuiet.isIdle hquiet) (htransition.received_of_quiet hquiet))

/-! ### Everything queued has arrived -/

/-- What is in the queue, and what a loop has in hand, has been decoded from the transport. -/
structure FromPeer (w : LinkRun T) : Prop where
  queued : ∀ packet ∈ w.state.received, packet ∈ arrived w
  taken : ∀ packet, JustTook w packet → packet ∈ arrived w
  credited : ∀ packet, JustCredited w packet → packet ∈ arrived w

theorem FromPeer.start (target : T) : FromPeer (.start (D4Link.new target)) := by
  refine ⟨fun packet h ↦ (List.not_mem_nil h).elim, ?_, ?_⟩
  · rintro packet ⟨v, rest, -, h⟩
    have hlength := congrArg (List.length ∘ Recorded.history) h
    simp at hlength
  · rintro packet ⟨v, link, -, h⟩
    have hlength := congrArg (List.length ∘ Recorded.history) h
    simp at hlength

theorem RunStep.fromPeer {event : Event} {after : D4Link T} (h : RunStep w event after)
    (hw : FromPeer w) : FromPeer (w.push event after) := by
  have hmono {packet : Packet} (hpacket : packet ∈ arrived w) :
      packet ∈ arrived (w.push event after) := by
    rw [arrived_push]
    exact List.mem_append_left _ hpacket
  refine ⟨fun packet hpacket ↦ ?_, ?_, ?_⟩
  · rw [Recorded.push_state] at hpacket
    rcases h with htransition | ⟨rfl, -, -⟩
    case inr => exact hmono (hw.queued packet hpacket)
    cases htransition with
    | decoded _ _ =>
      rw [arrived_push]
      exact List.mem_append.2 ((List.mem_append.1 hpacket).imp_left (hw.queued packet))
    | took hqueue =>
      refine hmono (hw.queued packet ?_)
      rw [hqueue]
      exact List.mem_cons_of_mem _ hpacket
    | putBack htaken _ _ =>
      rcases List.mem_append.1 hpacket with hqueued | hback
      · exact hmono (hw.queued packet hqueued)
      · rw [List.mem_singleton.1 hback]
        exact hmono (hw.credited _ htaken)
    | _ => exact hmono (hw.queued packet hpacket)
  · rintro packet ⟨v, rest, hqueue, hpush⟩
    obtain ⟨rfl, -, -⟩ := Recorded.push_inj.1 hpush
    refine hmono (hw.queued packet ?_)
    rw [hqueue]
    exact List.mem_cons_self
  · rintro packet ⟨v, link, htaken, hpush⟩
    obtain ⟨rfl, -, -⟩ := Recorded.push_inj.1 hpush
    exact hmono (hw.taken packet htaken)

/-- Only well-formed packets arrive. -/
theorem RunStep.arrived_wellFormed {event : Event} {after : D4Link T} (h : RunStep w event after)
    (hw : ∀ packet ∈ arrived w, packet.WellFormed) :
    ∀ packet ∈ arrived (w.push event after), packet.WellFormed := by
  intro packet hpacket
  rw [arrived_push] at hpacket
  rcases List.mem_append.1 hpacket with hearlier | hnew
  · exact hw packet hearlier
  rcases h with htransition | ⟨-, -, channel, hinstalls, -⟩
  case inr => cases event <;> first | exact (List.not_mem_nil hnew).elim | cases hinstalls
  cases htransition with
  | @decoded packets bytes decoder push empty =>
    obtain ⟨taken, hwellFormed, -, ⟨htaken, -⟩ | ⟨error, herror, -⟩⟩ :=
      PacketDecoder.push_spec w.state.decoder bytes
    · rw [push] at htaken
      cases htaken
      exact hwellFormed packet hnew
    · rw [push] at herror
      cases herror
  | marked h | transported h _ =>
    cases event <;> first | exact (List.not_mem_nil hnew).elim | exact h.elim
  | _ => exact (List.not_mem_nil hnew).elim

/-! ### The queue inside a loop -/

/-- At rest the queue is in the order of arrival. -/
def Settled (channel : ChannelId) (w : LinkRun T) : Prop :=
  packetsOn channel (arrived w) =
    packetsOn channel (delivered w) ++ packetsOn channel w.state.received

/-- **Inside a receive loop** the queue holds first the packets it has not examined, then those it
has put back, none of them the awaited one. The order of arrival is the other way round, with the
packet in hand, if any, between them. -/
def InLoop (awaited : Option ChannelId) (channel : ChannelId) (hand : List Packet)
    (w : LinkRun T) : Prop :=
  ∃ fresh back, w.state.received = fresh ++ back ∧ back.length = examined w ∧
    (∀ packet ∈ back, some packet.channel ≠ awaited) ∧
    packetsOn channel (arrived w) = packetsOn channel (delivered w) ++ packetsOn channel back ++
      packetsOn channel hand ++ packetsOn channel fresh

/-- Packets of the channel are in both parts of the queue. -/
def Mixed (channel : ChannelId) (w : LinkRun T) : Prop :=
  (∃ packet ∈ w.state.received.take (w.state.received.length - examined w),
      packet.channel = channel) ∧
    ∃ packet ∈ w.state.received.drop (w.state.received.length - examined w),
      packet.channel = channel

variable {awaited : Option ChannelId} {hand : List Packet}

theorem InLoop.congr (h : SameDelivery w w') (hw : InLoop awaited channel hand w) :
    InLoop awaited channel hand w' := by
  obtain ⟨fresh, back, hqueue, hlength, hback, horder⟩ := hw
  refine ⟨fresh, back, h.received.trans hqueue, hlength.trans h.examined.symm, hback, ?_⟩
  rw [h.arrived, h.delivered]
  exact horder

/-- A loop starts with nothing examined. -/
theorem Settled.inLoop (hw : Settled channel w) (event : Option ChannelId) :
    InLoop awaited channel [] (w.push (.awaiting event) w.state) := by
  refine ⟨w.state.received, [], (List.append_nil _).symm, ?_, by simp, ?_⟩
  · rw [examined_push]
    rfl
  · rw [arrived_push, delivered_push]
    simpa [Event.arrivals, Event.deliveries, Settled] using hw

/-- Fetching from the transport happens on an empty queue. -/
theorem InLoop.reads (h : Trail Reads w w') (hw : InLoop awaited channel [] w) :
    InLoop awaited channel [] w' ∧ delivered w' = delivered w := by
  refine h.invariant (I := fun v ↦ InLoop awaited channel [] v ∧ delivered v = delivered w) ?_
    ⟨hw, rfl⟩
  rintro v event after ⟨htransition, hread⟩ ⟨hv, hdelivered⟩
  cases htransition with
  | @decoded packets _ _ _ empty =>
    obtain ⟨fresh, back, hqueue, hlength, -, horder⟩ := hv
    rw [empty] at hqueue
    obtain ⟨rfl, rfl⟩ := List.append_eq_nil_iff.1 hqueue.symm
    refine ⟨⟨packets, [], ?_, ?_, by simp, ?_⟩, ?_⟩
    · rw [Recorded.push_state, empty]
      simp
    · rw [examined_push, ← hlength]
      rfl
    · rw [arrived_push, packetsOn_append, horder, delivered_push]
      simp [Event.arrivals, Event.deliveries]
    · rw [delivered_push, hdelivered]
      exact List.append_nil _
  | decodeFailed decoder =>
    have hsame : SameDelivery v (v.push .decodeFailed { v.state with decoder := decoder }) :=
      .push trivial rfl
    exact ⟨hv.congr hsame, hsame.delivered.trans hdelivered⟩
  | @transported event h target =>
    have hsame : SameDelivery v (v.push event { v.state with target := target }) :=
      .push (by cases event <;> first | exact h.elim | trivial) rfl
    exact ⟨hv.congr hsame, hsame.delivered.trans hdelivered⟩
  | marked h => cases event <;> first | exact h.elim | exact hread.elim
  | _ => exact hread.elim

/-- The packet at the front of the queue is taken in hand. -/
theorem InLoop.takes {packet : Packet} {rest : List Packet}
    (hqueue : w.state.received = packet :: rest) (hw : InLoop awaited channel [] w) :
    InLoop awaited channel [packet] (w.push (.took packet) { w.state with received := rest }) := by
  obtain ⟨fresh, back, hparts, hlength, hback, horder⟩ := hw
  have hsplit := hqueue.symm.trans hparts
  have hstep : examined (w.push (.took packet) { w.state with received := rest }) =
      if w.state.received.length ≤ examined w then 0 else examined w := by
    rw [examined_push]
    rfl
  cases fresh with
  | nil =>
    -- The whole queue has been examined: what is left of it counts as not examined again.
    rw [List.nil_append] at hsplit
    subst hsplit
    refine ⟨rest, [], (List.append_nil _).symm, ?_, by simp, ?_⟩
    · rw [hstep, hqueue, ← hlength, if_pos le_rfl]
      rfl
    · rw [arrived_push, delivered_push, packetsOn_append, horder,
        show packet :: rest = [packet] ++ rest from rfl, packetsOn_append]
      simp [Event.arrivals, Event.deliveries]
  | cons front fresh =>
    rw [List.cons_append] at hsplit
    obtain ⟨rfl, rfl⟩ := List.cons.inj hsplit
    refine ⟨fresh, back, rfl, ?_, hback, ?_⟩
    · rw [hstep, hqueue, ← hlength, if_neg]
      simp only [List.length_cons, List.length_append]
      omega
    · rw [arrived_push, delivered_push, packetsOn_append, horder,
        show packet :: fresh = [packet] ++ fresh from rfl, packetsOn_append]
      simp [Event.arrivals, Event.deliveries]

/-- The packet in hand is put back. -/
theorem InLoop.putsBack {packet : Packet} (hawaited : some packet.channel ≠ awaited)
    (hw : InLoop awaited channel [packet] w) :
    InLoop awaited channel [] (w.push (.putBack packet)
      { w.state with received := w.state.received ++ [packet] }) := by
  obtain ⟨fresh, back, hqueue, hlength, hback, horder⟩ := hw
  refine ⟨fresh, back ++ [packet], ?_, ?_, ?_, ?_⟩
  · rw [Recorded.push_state, hqueue, List.append_assoc]
  · rw [examined_push, List.length_append, hlength]
    rfl
  · intro packet' hpacket'
    rcases List.mem_append.1 hpacket' with h | h
    · exact hback packet' h
    · rw [List.mem_singleton.1 h]
      exact hawaited
  · rw [arrived_push, delivered_push, packetsOn_append, packetsOn_append, horder]
    simp [Event.arrivals, Event.deliveries]

/-- A packet of another channel may leave the loop. -/
theorem InLoop.drops {packet : Packet} (hpacket : packet.channel ≠ channel)
    (hw : InLoop awaited channel [packet] w) : InLoop awaited channel [] w := by
  obtain ⟨fresh, back, hqueue, hlength, hback, horder⟩ := hw
  have hnone : packetsOn channel [packet] = [] := packetsOn_eq_nil (by simpa using hpacket)
  rw [hnone] at horder
  exact ⟨fresh, back, hqueue, hlength, hback, horder⟩

/-- A loop on whose queue the channel's packets are not mixed leaves it in the order of arrival. -/
theorem InLoop.settled (hw : InLoop awaited channel [] w) (hmixed : ¬ Mixed channel w) :
    Settled channel w := by
  obtain ⟨fresh, back, hqueue, hlength, -, horder⟩ := hw
  have htake : w.state.received.take (w.state.received.length - examined w) = fresh := by
    rw [hqueue, ← hlength, List.length_append, Nat.add_sub_cancel]
    exact List.take_left
  have hdrop : w.state.received.drop (w.state.received.length - examined w) = back := by
    rw [hqueue, ← hlength, List.length_append, Nat.add_sub_cancel]
    exact List.drop_left
  rw [Mixed, htake, hdrop, not_and_or] at hmixed
  rw [Settled, horder, hqueue, packetsOn_append]
  rcases hmixed with hfresh | hback
  · have hnone : packetsOn channel fresh = [] :=
      packetsOn_eq_nil fun packet hpacket hchannel ↦ hfresh ⟨packet, hpacket, hchannel⟩
    simp [hnone]
  · have hnone : packetsOn channel back = [] :=
      packetsOn_eq_nil fun packet hpacket hchannel ↦ hback ⟨packet, hpacket, hchannel⟩
    simp [hnone]

/-- The awaited packet in hand is the first of its channel, and nothing of the channel has been put
back. -/
theorem InLoop.answers {packet : Packet} (hchannel : packet.channel = channel)
    (hw : InLoop (some channel) channel [packet] w) :
    packetsOn channel (arrived w) =
      packetsOn channel (delivered w) ++ [packet] ++ packetsOn channel w.state.received := by
  obtain ⟨fresh, back, hqueue, -, hback, horder⟩ := hw
  have hnone : packetsOn channel back = [] :=
    packetsOn_eq_nil fun packet hpacket hne ↦ hback packet hpacket (congrArg some hne)
  have hhand : packetsOn channel [packet] = [packet] := by
    rw [packetsOn, List.filter_singleton]
    simp [hchannel]
  rw [horder, hqueue, packetsOn_append, hnone, hhand]
  simp

/-! ### The receive loops -/

/-- The step does not end a loop in which the channel's packets are mixed, and takes none of them
after the conversation has ended. -/
def InOrder (channel : ChannelId) (v : LinkRun T) : Event → Prop
  | .answered _ _ => ¬ Mixed channel v
  | .took packet => packet.channel = channel → v.state.conversation ≠ .terminated
  | _ => True

instance (channel : ChannelId) (v : LinkRun T) : Decidable (Mixed channel v) :=
  inferInstanceAs (Decidable ((∃ packet ∈ _, _) ∧ ∃ packet ∈ _, _))

instance (channel : ChannelId) (v : LinkRun T) (event : Event) :
    Decidable (InOrder channel v event) :=
  match event with
  | .answered _ _ => inferInstanceAs (Decidable (¬ Mixed channel v))
  | .took packet =>
    inferInstanceAs (Decidable (packet.channel = channel → v.state.conversation ≠ .terminated))
  | .called _ | .awaiting _ | .polled _ | .read _ | .readFailed | .decoded _ | .decodeFailed
  | .putBack _ | .credited _ | .wrote _ | .writeFailed _ | .activated _ _ | .registered _
  | .opened .. | .granted .. | .refused _ | .closed _ _ | .exitRequested | .exiting
  | .terminated => .isTrue trivial

/-- All steps of the run are in order. -/
def Orderly (channel : ChannelId) (w : LinkRun T) : Prop :=
  ∀ v event after, w.Stepped v event after → InOrder channel v event

theorem Orderly.of_isPrefix (h : w.history <+: w'.history) (hw : Orderly channel w') :
    Orderly channel w :=
  fun v event after hv ↦ hw v event after (hv.mono h)

/-- A packet dropped from a loop is not one of the channel's. -/
theorem Orderly.channel_ne {packet : Packet} {after : D4Link T} (hw : Orderly channel w')
    (hgrows : (w.push (.took packet) after).history <+: w'.history)
    (hover : w.state.conversation = .terminated) : packet.channel ≠ channel :=
  fun hchannel ↦ hw w _ after (Recorded.stepped_of_isPrefix hgrows) hchannel hover

open Program (bind_run_ok)

section Loops

variable [ByteTransport T]

/-- Taking the next packet of a loop. -/
theorem InLoop.next {packet : Packet} {bound : Nat} {v : LinkRun T}
    (hw : InLoop awaited channel [] w) (hpolled : v = w.push (.polled awaited) w.state)
    (h : nextPacket bound v = (.ok packet, w')) :
    ∃ (u : LinkRun T) (rest : List Packet),
      w' = u.push (.took packet) { u.state with received := rest } ∧
      InLoop awaited channel [packet] w' ∧ delivered w' = delivered w := by
  subst hpolled
  have hpolled : SameDelivery w (w.push (.polled awaited) w.state) := .push trivial rfl
  obtain ⟨u, rest, hreads, hqueue, rfl⟩ := nextPacket_ok h
  obtain ⟨hu, hdelivered⟩ := (hw.congr hpolled).reads hreads
  refine ⟨u, rest, rfl, hu.takes hqueue, ?_⟩
  rw [delivered_push, hdelivered, hpolled.delivered]
  exact List.append_nil _

/-- A peer command is answered without touching the queue. -/
theorem handlePeerTransaction_sameDelivery {message : TransactionMessage} {a : Unit}
    (h : handlePeerTransaction message w = (.ok a, w')) : SameDelivery w w' :=
  .of_path (((handlePeerTransaction_follows message).path_ok h).mono fun _ _ _ h ↦ ⟨h.1.1, h.2⟩)

theorem applyCredit_sameDelivery {packet : Packet} {a : Unit}
    (h : applyCredit packet w = (.ok a, w')) : SameDelivery w w' := by
  obtain ⟨state, credit, -, -, -, rfl⟩ := applyCredit_ok h
  exact .push trivial rfl

/-- The run once the packet has been put back. -/
def afterPutBack (w : LinkRun T) (packet : Packet) : LinkRun T :=
  w.push (.putBack packet) { w.state with received := w.state.received ++ [packet] }

/-- **An iteration of the loop of `transaction`** on the way to the reply: a packet of another
channel is dropped or put back, a command of the peer is answered, and the reply ends the loop. -/
theorem transactionLoop_ok {expectedReply : UInt8} {readBound bound : Nat}
    {reply : TransactionMessage}
    (h : transactionLoop expectedReply readBound (bound + 1) w = (.ok reply, w')) :
    ∃ packet v, nextPacket readBound (w.push (.polled none) w.state) = (.ok packet, v) ∧
      ((v.state.conversation = .terminated ∧
          transactionLoop expectedReply readBound bound v = (.ok reply, w')) ∨
        ∃ u, applyCredit packet v = (.ok (), u) ∧
          (transactionLoop expectedReply readBound bound (afterPutBack u packet) = (.ok reply, w') ∨
            packet.channel = .transaction ∧
              ((∃ message t, handlePeerTransaction message u = (.ok (), t) ∧
                  transactionLoop expectedReply readBound bound t = (.ok reply, w')) ∨
                w' = u.push (.answered none packet) u.state ∧
                  TransactionMessage.decode packet.payload u.state.revision = .ok reply))) := by
  obtain ⟨_, v₀, hmark, h⟩ := Program.bind_eq_ok.1 h
  cases hmark
  obtain ⟨packet, v, hnext, h⟩ := Program.bind_eq_ok.1 h
  refine ⟨packet, v, hnext, ?_⟩
  by_cases hchannel : packet.header.channelId ≠ (0, 0)
  · rw [if_pos hchannel, bind_run_ok (Program.observe_run _)] at h
    split at h
    case isTrue hover => exact .inl ⟨hover, h⟩
    case isFalse =>
      obtain ⟨_, u, hcredit, h⟩ := Program.bind_eq_ok.1 h
      rw [bind_run_ok (pushBack_run packet u)] at h
      exact .inr ⟨u, hcredit, .inl h⟩
  · rw [if_neg hchannel] at h
    have htransaction := (Packet.channelId_eq_iff packet).1 (not_not.1 hchannel)
    obtain ⟨_, u, hcredit, h⟩ := Program.bind_eq_ok.1 h
    rw [bind_run_ok (Program.observe_run u)] at h
    obtain ⟨received, t, hdecode, h⟩ := Program.bind_eq_ok.1 h
    obtain ⟨hmessage, hsame⟩ := Program.ofExcept_eq_ok.1 hdecode
    rw [hsame] at h
    refine .inr ⟨u, hcredit, .inr ⟨htransaction, ?_⟩⟩
    split at h
    · obtain ⟨_, t, hhandle, h⟩ := Program.bind_eq_ok.1 h
      exact .inl ⟨received, t, hhandle, h⟩
    · split at h
      · obtain ⟨_, t, hanswer, h⟩ := Program.bind_eq_ok.1 h
        cases hanswer
        cases h
        exact .inr ⟨rfl, hmessage⟩
      · cases h

/-- **An iteration of the loop of `request`** on the way to the data. -/
theorem requestLoop_ok {target : ChannelId} {readBound bound : Nat} {reply : List UInt8}
    (h : requestLoop target readBound (bound + 1) w = (.ok reply, w')) :
    ∃ packet v, nextPacket readBound (w.push (.polled (some target)) w.state) = (.ok packet, v) ∧
      ((v.state.conversation = .terminated ∧
          requestLoop target readBound bound v = (.ok reply, w')) ∨
        ∃ u, applyCredit packet v = (.ok (), u) ∧
          ((packet.channel = .transaction ∧ ∃ message t,
              handlePeerTransaction message u = (.ok (), t) ∧
                t.state.conversation ≠ .terminated ∧
                requestLoop target readBound bound t = (.ok reply, w')) ∨
            (packet.channel ≠ target ∧
              requestLoop target readBound bound (afterPutBack u packet) = (.ok reply, w')) ∨
            packet.channel = target ∧ target ≠ .transaction ∧ packet.payload = reply ∧
              w' = u.push (.answered (some target) packet) u.state)) := by
  obtain ⟨_, v₀, hmark, h⟩ := Program.bind_eq_ok.1 h
  cases hmark
  obtain ⟨packet, v, hnext, h⟩ := Program.bind_eq_ok.1 h
  refine ⟨packet, v, hnext, ?_⟩
  by_cases hchannel : packet.header.channelId = (0, 0)
  · rw [if_pos hchannel] at h
    have htransaction := (Packet.channelId_eq_iff packet).1 hchannel
    obtain ⟨_, u, hcredit, h⟩ := Program.bind_eq_ok.1 h
    rw [bind_run_ok (Program.observe_run u)] at h
    obtain ⟨message, t, hdecode, h⟩ := Program.bind_eq_ok.1 h
    rw [(Program.ofExcept_eq_ok.1 hdecode).2] at h
    refine .inr ⟨u, hcredit, .inl ⟨htransaction, message, ?_⟩⟩
    split at h
    · obtain ⟨_, t, hhandle, h⟩ := Program.bind_eq_ok.1 h
      rw [bind_run_ok (Program.observe_run t)] at h
      split at h
      case isTrue => cases h
      case isFalse hrunning => exact ⟨t, hhandle, hrunning, h⟩
    · cases h
  · rw [if_neg hchannel, bind_run_ok (Program.observe_run _)] at h
    split at h
    case isTrue hover => exact .inl ⟨hover, h⟩
    case isFalse =>
      obtain ⟨_, u, hcredit, h⟩ := Program.bind_eq_ok.1 h
      refine .inr ⟨u, hcredit, .inr ?_⟩
      split at h
      case isTrue htarget =>
        obtain ⟨_, t, hanswer, h⟩ := Program.bind_eq_ok.1 h
        cases hanswer
        cases h
        refine .inr ⟨htarget, fun htransaction ↦ hchannel ?_, rfl, rfl⟩
        exact (Packet.channelId_eq_iff packet).2 (htarget.trans htransaction)
      case isFalse htarget =>
        rw [bind_run_ok (pushBack_run packet u)] at h
        exact .inl ⟨htarget, h⟩

/-- The loop of `request` ends with a packet that it has just taken and whose credit it has
applied. -/
theorem requestLoop_answered {target : ChannelId} {readBound bound : Nat} {reply : List UInt8}
    (h : requestLoop target readBound bound w = (.ok reply, w')) :
    ∃ packet v u, JustTook v packet ∧ applyCredit packet v = (.ok (), u) ∧
      packet.channel = target ∧ target ≠ .transaction ∧ packet.payload = reply ∧
        w' = u.push (.answered (some target) packet) u.state := by
  induction bound generalizing w with
  | zero => cases h
  | succ bound ih =>
    obtain ⟨packet, v, hnext, ⟨-, h⟩ | ⟨u, hcredit, hround⟩⟩ := requestLoop_ok h
    · exact ih h
    rcases hround with ⟨-, message, t, -, -, h⟩ | ⟨-, h⟩ | hend
    · exact ih h
    · exact ih h
    · exact ⟨packet, v, u, (nextPacket_ok hnext).justTook, hcredit, hend⟩

omit [ByteTransport T] in
/-- A loop that ends with a reply leaves the queue as it is: its order has to be that of arrival. -/
theorem InLoop.replied {packet : Packet} (hw : InLoop awaited channel [] w)
    (hmixed : ¬ Mixed channel w) :
    Settled channel (w.push (.answered none packet) w.state) := by
  have hsettled := hw.settled hmixed
  rw [Settled, arrived_push, delivered_push]
  simpa [Event.arrivals, Event.deliveries, Settled] using hsettled

omit [ByteTransport T] in
/-- A loop that ends with data may leave the packets of their channel mixed, as none of them has
been put back. -/
theorem InLoop.returned {target : ChannelId} {packet : Packet}
    (hw : InLoop (some target) channel [packet] w) (htarget : packet.channel = target)
    (hmixed : ¬ Mixed channel w) :
    Settled channel (w.push (.answered (some target) packet) w.state) := by
  rw [Settled, arrived_push, delivered_push]
  by_cases hown : packet.channel = channel
  · subst htarget
    subst hown
    have horder := hw.answers rfl
    have hhand : packetsOn packet.channel [packet] = [packet] := by
      simp [packetsOn]
    simpa [Event.arrivals, Event.deliveries, hhand] using horder
  · have hsettled := (hw.drops hown).settled hmixed
    have hhand : packetsOn channel [packet] = [] := packetsOn_eq_nil (by simpa using hown)
    simpa [Event.arrivals, Event.deliveries, hhand, Settled] using hsettled

omit [ByteTransport T] in
/-- Putting a packet back returns nothing. -/
theorem delivered_afterPutBack (packet : Packet) :
    delivered (afterPutBack w packet) = delivered w := by
  rw [afterPutBack, delivered_push]
  exact List.append_nil _

/-- **The loop of `transaction`** keeps the order of every service channel. By induction on the
bound, with `InLoop` as the invariant. -/
theorem transactionLoop_delivers {expectedReply : UInt8} {readBound bound : Nat}
    {reply : TransactionMessage} (hservice : channel ≠ .transaction)
    (hw : InLoop none channel [] w)
    (h : transactionLoop expectedReply readBound bound w = (.ok reply, w'))
    (hw' : Orderly channel w') : Settled channel w' ∧ delivered w' = delivered w := by
  induction bound generalizing w with
  | zero => cases h
  | succ bound ih =>
    obtain ⟨packet, v, hnext, hround⟩ := transactionLoop_ok h
    obtain ⟨u, rest, rfl, htaken, hdelivered⟩ := hw.next rfl hnext
    rcases hround with ⟨hover, h⟩ | ⟨v, hcredit, hround⟩
    · -- dropped: it is not one of the channel's
      have hgrows := ((transactionLoop_follows _ _ _).path_ok h).isPrefix
      rw [← hdelivered]
      exact ih (htaken.drops (hw'.channel_ne hgrows hover)) h
    have hcredited := applyCredit_sameDelivery hcredit
    have hsame : delivered v = delivered w := hcredited.delivered.trans hdelivered
    rcases hround with h | ⟨htransaction, hround⟩
    · -- put back: it goes to the examined part
      obtain ⟨hsettled, hback⟩ := ih ((htaken.congr hcredited).putsBack (by simp)) h
      exact ⟨hsettled, hback.trans ((delivered_afterPutBack packet).trans hsame)⟩
    have hloop : InLoop none channel [] v :=
      (htaken.drops (htransaction ▸ hservice.symm)).congr hcredited
    rcases hround with ⟨message, t, hhandle, h⟩ | ⟨rfl, -⟩
    · have hhandled := handlePeerTransaction_sameDelivery hhandle
      rw [← hsame, ← hhandled.delivered]
      exact ih (hloop.congr hhandled) h
    · refine ⟨hloop.replied ?_, ?_⟩
      · exact hw' v _ v.state (Recorded.stepped_of_isPrefix List.prefix_rfl)
      · rw [delivered_push, hsame]
        exact List.append_nil _

/-- **The loop of `request`** keeps the order of every service channel, and returns the packet that
is next on its own. -/
theorem requestLoop_delivers {target : ChannelId} {readBound bound : Nat} {reply : List UInt8}
    (hservice : channel ≠ .transaction) (hw : InLoop (some target) channel [] w)
    (h : requestLoop target readBound bound w = (.ok reply, w')) (hw' : Orderly channel w') :
    Settled channel w' ∧ ∃ packet, packet.channel = target ∧ packet.payload = reply ∧
      delivered w' = delivered w ++ [packet] := by
  induction bound generalizing w with
  | zero => cases h
  | succ bound ih =>
    obtain ⟨packet, v, hnext, hround⟩ := requestLoop_ok h
    obtain ⟨u, rest, rfl, htaken, hdelivered⟩ := hw.next rfl hnext
    rcases hround with ⟨hover, h⟩ | ⟨v, hcredit, hround⟩
    · -- dropped: it is not one of the channel's
      have hgrows := ((requestLoop_follows _ _ _).path_ok h).isPrefix
      rw [← hdelivered]
      exact ih (htaken.drops (hw'.channel_ne hgrows hover)) h
    have hcredited := applyCredit_sameDelivery hcredit
    have hsame : delivered v = delivered w := hcredited.delivered.trans hdelivered
    have hloop := htaken.congr hcredited
    rcases hround with ⟨htransaction, message, t, hhandle, -, h⟩ | ⟨hother, h⟩ |
      ⟨htarget, -, hpayload, rfl⟩
    · have hhandled := handlePeerTransaction_sameDelivery hhandle
      rw [← hsame, ← hhandled.delivered]
      exact ih ((hloop.drops (htransaction ▸ hservice.symm)).congr hhandled) h
    · have hback := hloop.putsBack fun hsame ↦ hother (Option.some.inj hsame)
      obtain ⟨hsettled, packet', hroute, hreply, hpush⟩ := ih hback h
      refine ⟨hsettled, packet', hroute, hreply, hpush.trans ?_⟩
      rw [← hsame, ← delivered_afterPutBack (w := v) packet]
      rfl
    · refine ⟨hloop.returned htarget ?_, packet, htarget, hpayload, ?_⟩
      · exact hw' v _ v.state (Recorded.stepped_of_isPrefix List.prefix_rfl)
      · rw [delivered_push, hsame]
        rfl

end Loops

/-! ### Programs that keep the order -/

theorem Settled.congr (h : SameDelivery w w') (hw : Settled channel w) : Settled channel w' := by
  rw [Settled, h.arrived, h.delivered, h.received]
  exact hw

/-- Wherever the program gives a value, it has kept the order of the channel and returned no data.
-/
def KeepsOrder {α : Type} (channel : ChannelId) (m : LinkProgram T α) : Prop :=
  ∀ w w' a, m w = (.ok a, w') → w.history <+: w'.history ∧
    (Settled channel w → Orderly channel w' → Settled channel w' ∧ delivered w' = delivered w)

namespace KeepsOrder

variable {α β : Type}

theorem of_same {m : LinkProgram T α} (h : ∀ w w' a, m w = (.ok a, w') → SameDelivery w w') :
    KeepsOrder channel m := by
  intro w w' a hm
  have hsame := h w w' a hm
  exact ⟨hsame.grows, fun hw _ ↦ ⟨hw.congr hsame, hsame.delivered⟩⟩

theorem pure (a : α) : KeepsOrder channel (Pure.pure a : LinkProgram T α) :=
  of_same fun w w' _ h ↦ by
    cases h
    exact .refl w

theorem throw (error : D4Error) : KeepsOrder channel (Program.throw error : LinkProgram T α) :=
  fun _ _ _ h ↦ by cases h

theorem bind {m : LinkProgram T α} {f : α → LinkProgram T β} (hm : KeepsOrder channel m)
    (hf : ∀ a, KeepsOrder channel (f a)) : KeepsOrder channel (m >>= f) := by
  intro w w' b h
  obtain ⟨a, v, hv, h⟩ := Program.bind_eq_ok.1 h
  obtain ⟨hgrows, horder⟩ := hm w v a hv
  obtain ⟨hgrows', horder'⟩ := hf a v w' b h
  refine ⟨hgrows.trans hgrows', fun hw hw' ↦ ?_⟩
  obtain ⟨hsettled, hdelivered⟩ := horder hw (hw'.of_isPrefix hgrows')
  obtain ⟨hsettled', hdelivered'⟩ := horder' hsettled hw'
  exact ⟨hsettled', hdelivered'.trans hdelivered⟩

theorem observe_bind {f : D4Link T → LinkProgram T α} (hf : ∀ link, KeepsOrder channel (f link)) :
    KeepsOrder channel (Program.observe >>= f) :=
  fun w _ _ h ↦ hf w.state w _ _ h

theorem rejectIf_bind {c : Prop} [Decidable c] {error : D4Error} {f : Unit → LinkProgram T α}
    (hf : KeepsOrder channel (f ())) : KeepsOrder channel (Program.rejectIf c error >>= f) := by
  by_cases hc : c
  · rw [Program.rejectIf_pos hc]
    exact throw error
  · rw [Program.rejectIf_neg hc]
    exact hf

theorem orThrow_bind {o : Option α} {error : D4Error} {f : α → LinkProgram T β}
    (hf : ∀ a, KeepsOrder channel (f a)) : KeepsOrder channel (Program.orThrow o error >>= f) := by
  cases o with
  | none => exact throw error
  | some a => exact hf a

/-- A step that leaves the queue alone. -/
theorem atomic {event : Outcome D4Error Unit → Event} {body : LinkBlock T Unit}
    (hidle : ∀ o, (event o).IsIdle) (hbody : Local body) :
    KeepsOrder channel (Program.atomic event body) :=
  of_same fun w w' a h ↦ by
    have hrun : w' = w.push (event (body w.state).1) (body w.state).2 := (Prod.mk.inj h).2.symm
    rw [hrun]
    exact .push (hidle _) (hbody w.state).1.received

end KeepsOrder

theorem grantEvent_isIdle (target : ChannelId) (addedCredit : UInt16)
    (o : Outcome D4Error Unit) : (grantEvent target addedCredit o).IsIdle := by
  cases o <;> trivial

/-! ### The operations -/

section Operations

variable [ByteTransport T]

theorem send_sameDelivery {target : ChannelId} {payload : List UInt8} {consumeCredit : Bool}
    {a : Unit} (h : send target payload consumeCredit w = (.ok a, w')) : SameDelivery w w' := by
  have hsending := send_sending target payload consumeCredit w
  rw [h] at hsending
  cases hsending with
  | free => exact .push trivial rfl
  | paid => exact .push trivial rfl

theorem sendTransaction_sameDelivery {message : TransactionMessage} {consumeCredit : Bool}
    {a : Unit} (h : sendTransaction message consumeCredit w = (.ok a, w')) : SameDelivery w w' := by
  rcases sendTransaction_run message consumeCredit w with ⟨error, hrun⟩ | ⟨payload, -, hrun⟩
  · rw [hrun] at h
    cases h
  · rw [hrun] at h
    exact send_sameDelivery h

omit [ByteTransport T] in
theorem requireActiveConversation_keepsOrder :
    KeepsOrder channel (requireActiveConversation : LinkProgram T Unit) := by
  refine .of_same fun w w' a h ↦ ?_
  obtain ⟨-, rfl⟩ := requireActiveConversation_ok h
  exact .refl w'

/-- **A transaction** keeps the order. -/
theorem transaction_keepsOrder (bound : Nat) (message : TransactionMessage) (consumeCredit : Bool)
    (hservice : channel ≠ .transaction) :
    KeepsOrder channel (transaction bound message consumeCredit : LinkProgram T _) := by
  intro w w' reply h
  obtain ⟨_, v, hsend, h⟩ := Program.bind_eq_ok.1 h
  obtain ⟨_, v', hmark, h⟩ := Program.bind_eq_ok.1 h
  cases hmark
  have hsent := sendTransaction_sameDelivery hsend
  have hloop := ((transactionLoop_follows _ _ _).path_ok h).isPrefix
  refine ⟨hsent.grows.trans ((List.prefix_append _ _).trans hloop), fun hw hw' ↦ ?_⟩
  obtain ⟨hsettled, hdelivered⟩ :=
    transactionLoop_delivers hservice ((hw.congr hsent).inLoop none) h hw'
  refine ⟨hsettled, hdelivered.trans ?_⟩
  rw [delivered_push, hsent.delivered]
  exact List.append_nil _

theorem negotiate_keepsOrder (bound : Nat) (revisions : List ProtocolRevision)
    (hservice : channel ≠ .transaction) :
    KeepsOrder channel (negotiate bound revisions : LinkProgram T Unit) := by
  induction revisions with
  | nil => exact .throw _
  | cons revision revisions ih =>
    refine (transaction_keepsOrder bound _ _ hservice).bind fun reply ↦ ?_
    split
    · split
      · exact .atomic (fun _ ↦ trivial) (.beginConversation _)
      · split
        · exact .throw _
        · exact ih
    · exact .throw _

theorem initializeLink_keepsOrder (bound : Nat) (hservice : channel ≠ .transaction) :
    KeepsOrder channel (initializeLink bound : LinkProgram T Unit) :=
  .observe_bind fun _ ↦ .rejectIf_bind (.rejectIf_bind (negotiate_keepsOrder bound _ hservice))

theorem openService_keepsOrder (bound : Nat) (name : String) (hservice : channel ≠ .transaction) :
    KeepsOrder channel (openService bound name : LinkProgram T ChannelId) := by
  refine (transaction_keepsOrder bound _ _ hservice).bind fun reply ↦ ?_
  split
  · refine .rejectIf_bind (.bind (.atomic (fun _ ↦ trivial) (.modify fun _ ↦ ⟨rfl, rfl, rfl⟩)) ?_)
    intro _
    refine (transaction_keepsOrder bound _ _ hservice).bind fun reply ↦ ?_
    split
    · refine .rejectIf_bind (.bind (.atomic (fun _ ↦ trivial) ?_) fun _ ↦ .pure _)
      exact .updateChannel fun _ ↦ .pure _
    · exact .throw _
  · exact .throw _

theorem serviceName_keepsOrder (bound : Nat) (socketId : UInt8)
    (hservice : channel ≠ .transaction) :
    KeepsOrder channel (serviceName bound socketId : LinkProgram T String) := by
  refine (transaction_keepsOrder bound _ _ hservice).bind fun reply ↦ ?_
  split
  · exact .rejectIf_bind (.pure _)
  · exact .throw _

omit [ByteTransport T] in
theorem controlChannel_keepsOrder (target : ChannelId) :
    KeepsOrder channel (controlChannel target : LinkProgram T Unit) := by
  refine .observe_bind fun link ↦ ?_
  unfold Program.rejectIf
  split
  · exact .throw _
  · exact .pure ()

theorem closeChannel_keepsOrder (bound : Nat) (target : ChannelId)
    (hservice : channel ≠ .transaction) :
    KeepsOrder channel (closeChannel bound target : LinkProgram T Unit) := by
  refine .rejectIf_bind (.observe_bind fun _ ↦ .rejectIf_bind ?_)
  refine (transaction_keepsOrder bound _ _ hservice).bind fun reply ↦ ?_
  split
  · exact .rejectIf_bind (.atomic (fun _ ↦ trivial) (.modify fun _ ↦ ⟨rfl, rfl, rfl⟩))
  · exact .throw _

theorem exit_keepsOrder (bound : Nat) (hservice : channel ≠ .transaction) :
    KeepsOrder channel (exit bound : LinkProgram T Unit) := by
  refine requireActiveConversation_keepsOrder.bind fun _ ↦ ?_
  refine .bind (.atomic (fun _ ↦ trivial) (.modify fun _ ↦ ⟨rfl, rfl, rfl⟩)) fun _ ↦ ?_
  refine (transaction_keepsOrder bound _ _ hservice).bind fun reply ↦ ?_
  split
  · split
    · exact .atomic (fun _ ↦ trivial) Local.terminateConversation
    · exact .throw _
  · exact .throw _

theorem ensureCreditLoop_keepsOrder (bound : Nat) (target : ChannelId) (attempts : Nat)
    (hservice : channel ≠ .transaction) :
    KeepsOrder channel (ensureCreditLoop bound target attempts : LinkProgram T Unit) := by
  induction attempts with
  | zero => exact .observe_bind fun _ ↦ .orThrow_bind fun _ ↦ .throw _
  | succ attempts ih =>
    refine .observe_bind fun _ ↦ .orThrow_bind fun state ↦ ?_
    split
    · exact .pure ()
    · refine (transaction_keepsOrder bound _ _ hservice).bind fun reply ↦ ?_
      split
      · refine .rejectIf_bind (.bind ?_ fun _ ↦ .observe_bind fun _ ↦ ?_)
        · exact .atomic (grantEvent_isIdle target _) (.grantCredit target _)
        · split
          · exact .pure ()
          · exact ih
      · exact .throw _

/-- **A request** keeps the order and returns the packet that is next on its channel. -/
theorem request_delivers {bound : Nat} {target : ChannelId} {payload reply : List UInt8}
    (hservice : channel ≠ .transaction)
    (h : request bound target payload w = (.ok reply, w')) :
    w.history <+: w'.history ∧ (Settled channel w → Orderly channel w' → Settled channel w' ∧
      ∃ packet, packet.channel = target ∧ packet.payload = reply ∧
        delivered w' = delivered w ++ [packet]) := by
  have hfirst : KeepsOrder channel (do
      requireActiveConversation
      ensureChannelCredit bound target
      send target payload true : LinkProgram T Unit) :=
    requireActiveConversation_keepsOrder.bind fun _ ↦
      (ensureCreditLoop_keepsOrder bound target 3 hservice).bind fun _ ↦
        .of_same fun _ _ _ hsend ↦ send_sameDelivery hsend
  obtain ⟨_, v, hv, h⟩ := Program.bind_eq_ok.1 h
  obtain ⟨_, v', hv', h⟩ := Program.bind_eq_ok.1 h
  obtain ⟨_, v'', hv'', h⟩ := Program.bind_eq_ok.1 h
  obtain ⟨_, u, hmark, h⟩ := Program.bind_eq_ok.1 h
  cases hmark
  obtain ⟨hgrows, horder⟩ := hfirst w v'' _
    (Program.bind_eq_ok.2 ⟨_, v, hv, Program.bind_eq_ok.2 ⟨_, v', hv', hv''⟩⟩)
  have hloop := ((requestLoop_follows _ _ _).path_ok h).isPrefix
  have hgrows' := (List.prefix_append v''.history _).trans hloop
  refine ⟨hgrows.trans hgrows', fun hw hw' ↦ ?_⟩
  obtain ⟨hsettled, hdelivered⟩ := horder hw (hw'.of_isPrefix hgrows')
  obtain ⟨hsettled', packet, hroute, hreply, hpush⟩ :=
    requestLoop_delivers hservice (hsettled.inLoop _) h hw'
  refine ⟨hsettled', packet, hroute, hreply, hpush.trans ?_⟩
  rw [delivered_push, hdelivered]
  simp [Event.deliveries]

/-! ### Runs -/

/-- The data that an operation with the given outcome has returned on the channel. -/
def returned (channel : ChannelId) :
    Operation → Outcome D4Error OperationResult → List (List UInt8)
  | .request target _, .ok (.data reply) => if target = channel then [reply] else []
  | _, _ => []

/-- The data that the calls with the given outcomes have returned on the channel. -/
def returnedOn (channel : ChannelId) (calls : List Call)
    (outcomes : List (Outcome D4Error OperationResult)) : List (List UInt8) :=
  (calls.zip outcomes).flatMap fun made ↦ returned channel made.1.operation made.2

/-- The payloads of the channel's packets, in the order given. -/
def payloadsOn (channel : ChannelId) (packets : List Packet) : List (List UInt8) :=
  (packetsOn channel packets).map Packet.payload

omit [ByteTransport T] in
@[simp] theorem payloadsOn_append (channel : ChannelId) (packets packets' : List Packet) :
    payloadsOn channel (packets ++ packets') =
      payloadsOn channel packets ++ payloadsOn channel packets' := by
  simp [payloadsOn]

/-- What a successful operation does to the order on a channel. -/
def Delivers (channel : ChannelId) (data : List (List UInt8)) (w w' : LinkRun T) : Prop :=
  w.history <+: w'.history ∧ (Settled channel w → Orderly channel w' → Settled channel w' ∧
    payloadsOn channel (delivered w') = payloadsOn channel (delivered w) ++ data)

omit [ByteTransport T] in
theorem KeepsOrder.delivers {α : Type} {m : LinkProgram T α} {a : α} (hm : KeepsOrder channel m)
    (h : m w = (.ok a, w')) : Delivers channel [] w w' := by
  obtain ⟨hgrows, horder⟩ := hm w w' a h
  refine ⟨hgrows, fun hw hw' ↦ ?_⟩
  obtain ⟨hsettled, hdelivered⟩ := horder hw hw'
  exact ⟨hsettled, by rw [hdelivered, List.append_nil]⟩

theorem perform_delivers {bound : Nat} {operation : Operation} {result : OperationResult}
    (hservice : channel ≠ .transaction) (h : perform bound operation w = (.ok result, w')) :
    Delivers channel (returned channel operation (.ok result)) w w' := by
  cases operation with
  | initializeLink =>
    exact ((initializeLink_keepsOrder bound hservice).bind fun _ ↦ .pure _).delivers h
  | openService name =>
    exact ((openService_keepsOrder bound name hservice).bind fun _ ↦ .pure _).delivers h
  | serviceName socketId =>
    exact ((serviceName_keepsOrder bound socketId hservice).bind fun _ ↦ .pure _).delivers h
  | controlChannel target =>
    exact ((controlChannel_keepsOrder target).bind fun _ ↦ .pure _).delivers h
  | closeChannel target =>
    exact ((closeChannel_keepsOrder bound target hservice).bind fun _ ↦ .pure _).delivers h
  | exit => exact ((exit_keepsOrder bound hservice).bind fun _ ↦ .pure _).delivers h
  | request target payload =>
    obtain ⟨reply, v, hrequest, hresult⟩ := Program.bind_eq_ok.1 h
    cases hresult
    obtain ⟨hgrows, horder⟩ := request_delivers hservice hrequest
    refine ⟨hgrows, fun hw hw' ↦ ?_⟩
    obtain ⟨hsettled, packet, hroute, hreply, hpush⟩ := horder hw hw'
    refine ⟨hsettled, ?_⟩
    rw [hpush, payloadsOn_append]
    by_cases hchannel : target = channel
    · simp [payloadsOn, packetsOn, returned, hroute, hchannel, hreply]
    · simp [payloadsOn, packetsOn, returned, hroute, hchannel]

theorem runOperation_delivers {bound : Nat} {operation : Operation} {result : OperationResult}
    (hservice : channel ≠ .transaction) (h : runOperation bound operation w = (.ok result, w')) :
    Delivers channel (returned channel operation (.ok result)) w w' := by
  obtain ⟨_, v, hmark, h⟩ := Program.bind_eq_ok.1 h
  cases hmark
  obtain ⟨hgrows, horder⟩ := perform_delivers hservice h
  have hcalled : SameDelivery w (w.push (.called operation) w.state) := .push trivial rfl
  refine ⟨hcalled.grows.trans hgrows, fun hw hw' ↦ ?_⟩
  rw [← hcalled.delivered]
  exact horder (hw.congr hcalled) hw'

/-- Successful calls keep the order, and what they return is what they deliver. -/
theorem runCalls_delivers (calls : List Call) (hservice : channel ≠ .transaction)
    (hok : ∀ outcome ∈ (runCalls calls w).1, ∃ result, outcome = .ok result) :
    Delivers channel (returnedOn channel calls (runCalls calls w).1) w (runCalls calls w).2 := by
  induction calls generalizing w with
  | nil => exact ⟨List.prefix_rfl, fun hw _ ↦ ⟨hw, (List.append_nil _).symm⟩⟩
  | cons call calls ih =>
    by_cases hreturned : (runOperation call.bound call.operation w).1.Returned
    · rw [runCalls_returned hreturned] at hok ⊢
      obtain ⟨result, hresult⟩ := hok _ (List.mem_cons_self)
      have hrun : runOperation call.bound call.operation w =
          (.ok result, (runOperation call.bound call.operation w).2) := Prod.ext hresult rfl
      obtain ⟨hgrows, horder⟩ := runOperation_delivers hservice hrun
      obtain ⟨hgrows', horder'⟩ := ih fun outcome h ↦ hok outcome (List.mem_cons_of_mem _ h)
      refine ⟨hgrows.trans hgrows', fun hw hw' ↦ ?_⟩
      obtain ⟨hsettled, hdelivered⟩ := horder hw (hw'.of_isPrefix hgrows')
      obtain ⟨hsettled', hdelivered'⟩ := horder' hsettled hw'
      refine ⟨hsettled', ?_⟩
      rw [hdelivered', hdelivered, hresult, List.append_assoc]
      rfl
    · rw [runCalls_not_returned hreturned] at hok
      obtain ⟨result, hresult⟩ := hok _ (List.mem_singleton.2 rfl)
      rw [hresult] at hreturned
      exact absurd trivial hreturned

/-- **In-order delivery.** In a run of successful calls on a new link whose steps are in order for a
service channel, what the requests have returned on it, followed by what is still queued for it, is
what has arrived on it. -/
theorem delivered_in_order (calls : List Call) (target : T) (channel : ChannelId)
    (hservice : channel ≠ .transaction)
    (hok : ∀ outcome ∈ (runNew calls target).1, ∃ result, outcome = .ok result)
    (horderly : Orderly channel (runNew calls target).2) :
    returnedOn channel calls (runNew calls target).1 ++
        payloadsOn channel (runNew calls target).2.state.received =
      payloadsOn channel (arrived (runNew calls target).2) := by
  obtain ⟨-, horder⟩ := runCalls_delivers (w := .start (D4Link.new target)) calls hservice hok
  obtain ⟨hsettled, hdelivered⟩ := horder rfl horderly
  have harrived := congrArg (List.map Packet.payload) hsettled
  rw [List.map_append] at harrived
  calc returnedOn channel calls (runNew calls target).1 ++
        payloadsOn channel (runNew calls target).2.state.received
      = payloadsOn channel (delivered (runNew calls target).2) ++
        payloadsOn channel (runNew calls target).2.state.received := by
        rw [show payloadsOn channel (delivered (runNew calls target).2) = _ from hdelivered]
        rfl
    _ = payloadsOn channel (arrived (runNew calls target).2) := harrived.symm

end Operations

/-- The peer opens a service with one credit, then sends the given packets in one read. -/
def opensServiceThenSends (packets : List (List UInt8)) : StreamTransport :=
  .sending [StreamTransport.packet 0 0 1 [0x80, 0, 0x20],
    StreamTransport.packet 0 0 1 [0x89, 0, 2, 69, 80, 83, 79, 78, 45, 67, 84, 82, 76],
    StreamTransport.packet 0 0 1 [0x81, 0, 2, 2, 1, 0, 1, 0, 0, 0, 0, 1],
    packets.flatten]

/-- The reply to a lookup of the service's name. -/
def nameReply : List UInt8 :=
  StreamTransport.packet 0 0 1 [0x8a, 0, 2, 69, 80, 83, 79, 78, 45, 67, 84, 82, 76]

/-- The peer sends data, and then the reply that is awaited. -/
def dataBeforeReply : StreamTransport :=
  opensServiceThenSends [StreamTransport.packet 2 2 0 [0x52], nameReply]

/-- The peer sends data in front of the reply that is awaited, and behind it. -/
def dataAroundReply : StreamTransport :=
  opensServiceThenSends
    [StreamTransport.packet 2 2 0 [0x52], nameReply, StreamTransport.packet 2 2 0 [0x53]]

/-- Open the service, look up its name, make a request. -/
def looksUpThenRequests : List Call :=
  [⟨.initializeLink, 9⟩, ⟨.openService "EPSON-CTRL", 9⟩, ⟨.serviceName 2, 9⟩,
    ⟨.controlChannel ⟨2, 2⟩, 9⟩, ⟨.request ⟨2, 2⟩ [0x71], 9⟩]

/-- Data that arrives before the reply is put back, and returned by the request. -/
theorem delivered_in_order_before_reply :
    returnedOn ⟨2, 2⟩ looksUpThenRequests (runNew looksUpThenRequests dataBeforeReply).1 ++
        payloadsOn ⟨2, 2⟩ (runNew looksUpThenRequests dataBeforeReply).2.state.received =
      payloadsOn ⟨2, 2⟩ (arrived (runNew looksUpThenRequests dataBeforeReply).2) := by
  have hrun : (runNew looksUpThenRequests dataBeforeReply).1 =
      [.ok .done, .ok (.service ⟨2, 2⟩), .ok (.name "EPSON-CTRL"), .ok .done,
        .ok (.data [0x52])] := by
    decide +kernel
  refine delivered_in_order _ _ _ (by decide) ?_ ?_
  · rw [hrun]
    simp
  · rw [Orderly, Recorded.forall_stepped_iff]
    decide +kernel

/-- Of two data packets, one on either side of the reply, the request returns the second. -/
theorem request_returns_later_packet :
    ¬ ((∀ outcome ∈ (runNew looksUpThenRequests dataAroundReply).1,
        ∃ result, outcome = .ok result) →
      returnedOn ⟨2, 2⟩ looksUpThenRequests (runNew looksUpThenRequests dataAroundReply).1 ++
          payloadsOn ⟨2, 2⟩ (runNew looksUpThenRequests dataAroundReply).2.state.received =
        payloadsOn ⟨2, 2⟩ (arrived (runNew looksUpThenRequests dataAroundReply).2)) := by
  have hrun : (runNew looksUpThenRequests dataAroundReply).1 =
      [.ok .done, .ok (.service ⟨2, 2⟩), .ok (.name "EPSON-CTRL"), .ok .done,
        .ok (.data [0x53])] := by
    decide +kernel
  have hqueue : payloadsOn ⟨2, 2⟩ (runNew looksUpThenRequests dataAroundReply).2.state.received =
      [[0x52]] := by
    decide +kernel
  have harrived : payloadsOn ⟨2, 2⟩ (arrived (runNew looksUpThenRequests dataAroundReply).2) =
      [[0x52], [0x53]] := by
    decide +kernel
  rw [hrun, hqueue, harrived]
  intro h
  have hreturned := h (by simp)
  revert hreturned
  decide

end D4Link

end Reink
