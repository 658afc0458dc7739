import Reink.D4.Delivery
import Reink.Platform.Stream

/-!
# Requests and their answers

Data packets carry no identifier: what a `request` returns is the first packet of its channel that
comes to its hands. Of a peer that answers the requests of a channel in their order, each with one
packet (`AnswersInOrder`), that is the answer to the request itself just if no answer to an earlier
one was outstanding when it was written (`Quiet`): all have arrived, and none is in the queue.
Otherwise it is the answer to an earlier request, which can only have failed.
-/

namespace Reink

/-- The event writes a packet on the channel. -/
def Event.requests (channel : ChannelId) : Event → Bool
  | .wrote packet => packet.channel = channel
  | _ => false

namespace D4Link

variable {T : Type} {w w' : LinkRun T} {channel : ChannelId}

/-- The number of requests written on the channel. -/
def requested (channel : ChannelId) (w : LinkRun T) : Nat :=
  (w.history.map Step.event).countP (Event.requests channel)

theorem requested_push (event : Event) (after : D4Link T) :
    requested channel (w.push event after) =
      requested channel w + if event.requests channel then 1 else 0 := by
  simp [requested, List.countP_append, List.countP_singleton]

/-- **The peer** answers each request on the channel with one packet, once it has been written, and
in the order of the requests. Any number of the answers may still be on the way. -/
def AnswersInOrder (channel : ChannelId) (answer : Nat → Packet) (w : LinkRun T) : Prop :=
  ∀ v, w.Passed v →
    packetsOn channel (arrived v) <+: (List.range (requested channel v)).map answer

/-- No answer on the channel is outstanding: all have arrived, and none waits in the queue. -/
def Quiet (channel : ChannelId) (v : LinkRun T) : Prop :=
  (packetsOn channel (arrived v)).length = requested channel v ∧
    packetsOn channel v.state.received = []

instance (v : LinkRun T) : Decidable (Quiet channel v) :=
  inferInstanceAs (Decidable (_ ∧ _))

/-! ### The loop of `request` -/

/-- While the link reads, what arrives goes to the end of the queue. -/
theorem arrived_of_reads (h : Trail Reads w w') :
    ∃ new, arrived w' = arrived w ++ new ∧ w'.state.received = w.state.received ++ new ∧
      w'.state.conversation = w.state.conversation := by
  refine h.invariant (I := fun v ↦ ∃ new, arrived v = arrived w ++ new ∧
    v.state.received = w.state.received ++ new ∧
      v.state.conversation = w.state.conversation) ?_ ⟨[], by simp⟩
  rintro v event after ⟨htransition, hread⟩ ⟨new, harrived, hqueue, hconversation⟩
  cases htransition with
  | @decoded packets _ _ _ _ =>
    refine ⟨new ++ packets, ?_, ?_, hconversation⟩
    · rw [arrived_push, harrived, List.append_assoc]
      rfl
    · rw [Recorded.push_state, hqueue, List.append_assoc]
  | marked h => cases event <;> first | exact h.elim | exact hread.elim
  | transported h _ =>
    refine ⟨new, ?_, hqueue, hconversation⟩
    rw [arrived_push, harrived]
    cases event <;> first | exact h.elim | exact List.append_nil _
  | decodeFailed _ => exact ⟨new, by rw [arrived_push, harrived]; simp [Event.arrivals], hqueue,
      hconversation⟩
  | _ => exact hread.elim

section Loop

variable [ByteTransport T]

/-- **The loop of `request`** returns the first packet of its channel, of those queued and those
that arrive. By induction on the bound; until then none of them is taken. -/
theorem requestLoop_returns {readBound bound : Nat} {reply : List UInt8}
    (hservice : channel ≠ .transaction) (hrunning : w.state.conversation ≠ .terminated)
    (h : requestLoop channel readBound bound w = (.ok reply, w')) :
    ∃ packet new, packet.payload = reply ∧
      packetsOn channel (arrived w') = packetsOn channel (arrived w) ++ new ∧
      (packetsOn channel w.state.received ++ new).head? = some packet := by
  induction bound generalizing w with
  | zero => cases h
  | succ bound ih =>
    obtain ⟨packet, v, hnext, hround⟩ := requestLoop_ok h
    obtain ⟨u, rest, hreads, hqueue, rfl⟩ := nextPacket_ok hnext
    obtain ⟨new, harrived, hgrown, hconversation⟩ := arrived_of_reads hreads
    have hpolled : SameDelivery w (w.push (.polled (some channel)) w.state) := .push trivial rfl
    rw [hpolled.arrived] at harrived
    rw [hgrown] at hqueue
    -- the loop goes on with the packets of the channel that it has found
    have hgoes {t : LinkRun T} (hsame : arrived t = arrived u)
        (hreceived : packetsOn channel t.state.received =
          packetsOn channel (w.state.received ++ new))
        (hrunning : t.state.conversation ≠ .terminated)
        (h : requestLoop channel readBound bound t = (.ok reply, w')) :
        ∃ packet new, packet.payload = reply ∧
          packetsOn channel (arrived w') = packetsOn channel (arrived w) ++ new ∧
          (packetsOn channel w.state.received ++ new).head? = some packet := by
      obtain ⟨first, later, hpayload, hlater, hhead⟩ := ih hrunning h
      refine ⟨first, packetsOn channel new ++ later, hpayload, ?_, ?_⟩
      · rw [hlater, hsame, harrived, packetsOn_append, List.append_assoc]
      · rwa [hreceived, packetsOn_append, List.append_assoc] at hhead
    have htaken :
        arrived (u.push (.took packet) { u.state with received := rest }) = arrived u := by
      simp [Event.arrivals]
    have hnone (hne : packet.channel ≠ channel) : packetsOn channel [packet] = [] :=
      packetsOn_eq_nil (by simpa using hne)
    have hother (hne : packet.channel ≠ channel) :
        packetsOn channel (w.state.received ++ new) = packetsOn channel rest := by
      rw [show w.state.received ++ new = [packet] ++ rest from hqueue, packetsOn_append, hnone hne,
        List.nil_append]
    have hcontinues : u.state.conversation ≠ .terminated := by rwa [hconversation]
    rcases hround with ⟨hover, -⟩ | ⟨t, hcredit, hround⟩
    · exact absurd hover hcontinues
    have hcredited := applyCredit_sameDelivery hcredit
    have hsame : arrived t = arrived u := hcredited.arrived.trans htaken
    have hrest : t.state.received = rest := hcredited.received
    rcases hround with ⟨htransaction, message, t', hhandle, hrunning', h⟩ | ⟨hne, h⟩ |
      ⟨hroute, -, hpayload, rfl⟩
    · have hhandled := handlePeerTransaction_sameDelivery hhandle
      refine hgoes (hhandled.arrived.trans hsame) ?_ hrunning' h
      rw [hhandled.received, hrest, hother (htransaction ▸ hservice.symm)]
    · refine hgoes ?_ ?_ ?_ h
      · rw [afterPutBack, arrived_push, hsame]
        exact List.append_nil _
      · rw [afterPutBack, Recorded.push_state, packetsOn_append, hrest, hother hne, hnone hne,
          List.append_nil]
      · obtain ⟨state, credit, -, -, -, rfl⟩ := applyCredit_ok hcredit
        exact hcontinues
    · refine ⟨packet, packetsOn channel new, hpayload, ?_, ?_⟩
      · rw [arrived_push, hsame, harrived, ← packetsOn_append]
        simp [Event.arrivals]
      · rw [← packetsOn_append, show w.state.received ++ new = [packet] ++ rest from hqueue,
          packetsOn_append]
        simp [packetsOn, hroute]

end Loop

/-! ### Answers -/

/-- What has arrived of the answers: their first ones. -/
theorem answers_of_isPrefix {answer : Nat → Packet} {packets : List Packet} {count : Nat}
    (h : packets <+: (List.range count).map answer) :
    packets.length ≤ count ∧ ∀ n packet, packets[n]? = some packet → packet = answer n := by
  refine ⟨by simpa using h.length_le, fun n packet hpacket ↦ ?_⟩
  have hlt : n < packets.length := (List.getElem?_eq_some_iff.1 hpacket).1
  obtain ⟨rest, hrest⟩ := h
  have hanswer : ((List.range count).map answer)[n]? = some packet := by
    rw [← hrest, List.getElem?_append_left hlt, hpacket]
  rw [List.getElem?_map, Option.map_eq_some_iff] at hanswer
  obtain ⟨m, hm, rfl⟩ := hanswer
  rw [(List.getElem?_eq_some_iff.1 hm).2.symm, List.getElem_range]

/-- Of the answers that are queued and those that arrive later the first is the answer to the last
request, if all earlier ones have arrived and none is queued, and one of those otherwise. -/
theorem answer_of_head {answer : Nat → Packet} {earlier queued new : List Packet}
    {count later : Nat} {packet : Packet} (hearlier : earlier <+: (List.range count).map answer)
    (hlater : earlier ++ new <+: (List.range later).map answer)
    (hqueued : ∀ packet ∈ queued, packet ∈ earlier)
    (hfirst : (queued ++ new).head? = some packet) :
    ∃ n ≤ count, packet = answer n ∧ (n = count ↔ earlier.length = count ∧ queued = []) := by
  obtain ⟨hlength, hbefore⟩ := answers_of_isPrefix hearlier
  obtain ⟨-, hafter⟩ := answers_of_isPrefix hlater
  cases queued with
  | nil =>
    -- the packet is the next one to arrive
    refine ⟨earlier.length, hlength, hafter _ _ ?_, by simp⟩
    rw [List.getElem?_append_right le_rfl, Nat.sub_self, ← List.head?_eq_getElem?]
    exact hfirst
  | cons front queue =>
    -- the packet has arrived before
    obtain rfl : front = packet := Option.some.inj hfirst
    obtain ⟨n, hn, hfront⟩ := List.getElem_of_mem (hqueued front List.mem_cons_self)
    have hne : n ≠ count := (hn.trans_le hlength).ne
    exact ⟨n, hn.le.trans hlength, hbefore n front (List.getElem?_eq_some_iff.2 ⟨hn, hfront⟩),
      by simp [hne]⟩

/-- It is enough that what arrives in a step is the next answers to requests already written. -/
theorem AnswersInOrder.of_stepped {answer : Nat → Packet} {target : T}
    (h : Trail RunStep (.start (D4Link.new target)) w)
    (hsteps : ∀ v event after, w.Stepped v event after → packetsOn channel event.arrivals <+:
      ((List.range (requested channel v)).map answer).drop
        (packetsOn channel (arrived v)).length) : AnswersInOrder channel answer w := by
  refine fun u hu ↦ h.passed (I := fun v ↦ packetsOn channel (arrived v) <+:
    (List.range (requested channel v)).map answer) ?_ List.nil_prefix hsteps hu
  rintro v event after - hnext ⟨rest, hrest⟩
  rw [← hrest, List.drop_left] at hnext
  have hgrown : (List.range (requested channel v)).map answer <+:
      (List.range (requested channel (v.push event after))).map answer := by
    rw [requested_push, List.range_add, List.map_append]
    exact List.prefix_append _ _
  refine List.IsPrefix.trans ?_ hgrown
  rw [arrived_push, packetsOn_append, ← hrest]
  exact (List.prefix_append_right_inj _).2 hnext

/-- A packet on a service channel is written in a state from which requests go on. -/
theorem Transition.running_of_wrote {packet : Packet} {after : D4Link T}
    (h : Transition w (.wrote packet) after) (hservice : packet.channel ≠ .transaction) :
    after.conversation ≠ .terminated := by
  cases h with
  | marked h | transported h => exact h.elim
  | sentFree _ _ htransaction => exact absurd htransaction hservice
  | reported _ _ htransaction => exact absurd htransaction hservice
  | sentPaid _ hmay _ _ _ _ =>
    show w.state.conversation ≠ .terminated
    rcases hmay with h | h <;> rw [h] <;> simp

section Runs

variable [ByteTransport T]

/-- **Request and answer.** Of a peer that answers in order, every successful request in every run
returns an answer to one of the requests written on its channel: to itself, if no answer was
outstanding when it was written, and to an earlier one otherwise. So where the answers tell the
requests apart, it returns its own just if none was outstanding. -/
theorem request_answered_iff (calls : List Call) (target : T) {bound : Nat}
    {payload reply : List UInt8} {answer : Nat → Packet}
    (h : runOperation bound (.request channel payload) (runNew calls target).2 =
      (.ok (.data reply), w'))
    (hanswers : AnswersInOrder channel answer w') :
    ∃ v sent after, w'.Stepped v (.wrote sent) after ∧
      (runNew calls target).2.history <+: v.history ∧
      sent.channel = channel ∧ sent.payload = payload ∧
      (∃ n ≤ requested channel v, reply = (answer n).payload ∧
        (n = requested channel v ↔ Quiet channel v)) ∧
      ((∀ n < requested channel v,
          (answer n).payload ≠ (answer (requested channel v)).payload) →
        (reply = (answer (requested channel v)).payload ↔ Quiet channel v)) := by
  obtain ⟨v, sent, after, hensured, rfl, hcontent, hsent, hloop⟩ :=
    request_ok (runOperation_request_ok h)
  obtain ⟨-, -, -, -, -, -, hservice, -⟩ := requestLoop_answered hloop
  have hserved := (requestLoop_follows _ _ _).path_ok hloop
  have hcalled : Trail RunStep (.start (D4Link.new target))
      ((runNew calls target).2.push (.called (.request sent.channel payload))
        (runNew calls target).2.state) := (runNew_path calls target).snoc (.inl (.marked trivial))
  have hpath : Trail RunStep (.start (D4Link.new target)) v :=
    hcalled.trans (hensured.mono fun _ _ _ h ↦ .inl h)
  have hstep : w'.Stepped v (.wrote sent) after :=
    Recorded.stepped_of_isPrefix ((List.prefix_append _ _).trans hserved.isPrefix)
  refine ⟨v, sent, after, hstep, ?_, rfl, hcontent, ?_⟩
  · exact (List.prefix_append _ _).trans hensured.isPrefix
  suffices hreturns : ∃ n ≤ requested sent.channel v, reply = (answer n).payload ∧
      (n = requested sent.channel v ↔ Quiet sent.channel v) by
    refine ⟨hreturns, fun hapart ↦ ?_⟩
    obtain ⟨n, hn, hreply, hquiet⟩ := hreturns
    rw [← hquiet]
    constructor
    · intro hown
      by_contra hne
      exact hapart n (hn.lt_of_ne hne) (hreply.symm.trans hown)
    · rintro rfl
      exact hreply
  obtain ⟨packet, new, rfl, hnew, hfirst⟩ :=
    requestLoop_returns hservice (hsent.running_of_wrote hservice) hloop
  have hqueue : after.received = v.state.received := hsent.received_of_quiet trivial
  have harrived : packetsOn sent.channel (arrived w') =
      packetsOn sent.channel (arrived v) ++ new := by
    rw [hnew]
    simp [Event.arrivals]
  rw [Recorded.push_state, hqueue] at hfirst
  have hfromPeer : FromPeer v :=
    hpath.invariant (fun _ _ _ hstep hv ↦ hstep.fromPeer hv) (.start target)
  have hqueued : ∀ packet ∈ packetsOn sent.channel v.state.received,
      packet ∈ packetsOn sent.channel (arrived v) := by
    intro packet hpacket
    obtain ⟨hreceived, hroute⟩ := List.mem_filter.1 hpacket
    exact List.mem_filter.2 ⟨hfromPeer.queued packet hreceived, hroute⟩
  obtain ⟨n, hn, rfl, hown⟩ := answer_of_head (hanswers v hstep.passed)
    (harrived ▸ hanswers w' w'.passed_self) hqueued hfirst
  exact ⟨n, hn, rfl, hown⟩

end Runs

/-! ### Runs against a given stream -/

/-- Answers that tell their requests apart. -/
def answerOf (n : Nat) : Packet :=
  ⟨⟨2, 2, UInt16.ofNat (headerLength + (n + 1)), 0, 0⟩, List.replicate (n + 1) 0x52⟩

/-- The peer opens a service and answers two requests, the first one after the given number of
empty reads. -/
def answersTwice (delay : Nat) : StreamTransport :=
  .sending ([StreamTransport.packet 0 0 1 [0x80, 0, 0x20],
    StreamTransport.packet 0 0 1 [0x89, 0, 2, 69, 80, 83, 79, 78, 45, 67, 84, 82, 76],
    StreamTransport.packet 0 0 1 [0x81, 0, 2, 2, 1, 0, 1, 0, 0, 0, 0, 2]] ++
    List.replicate delay [] ++ [(answerOf 0).encode, (answerOf 1).encode])

/-- Open the service and make one request. -/
def requestsOnce : List Call :=
  [⟨.initializeLink, 9⟩, ⟨.openService "EPSON-CTRL", 9⟩, ⟨.controlChannel ⟨2, 2⟩, 9⟩,
    ⟨.request ⟨2, 2⟩ [0x71], 9⟩]

/-- The first answer has arrived before the second request is written. -/
theorem request_answered_in_turn :
    ∃ v sent after, (runOperation 9 (.request ⟨2, 2⟩ [0x72])
        (runNew requestsOnce (answersTwice 0)).2).2.Stepped v (.wrote sent) after ∧
      sent.payload = [0x72] ∧
      ([0x52, 0x52] = (answerOf (requested ⟨2, 2⟩ v)).payload ↔ Quiet ⟨2, 2⟩ v) := by
  have hresult : (runOperation 9 (.request ⟨2, 2⟩ [0x72])
      (runNew requestsOnce (answersTwice 0)).2).1 = .ok (.data [0x52, 0x52]) := by
    decide +kernel
  have hanswers : AnswersInOrder ⟨2, 2⟩ answerOf (runOperation 9 (.request ⟨2, 2⟩ [0x72])
      (runNew requestsOnce (answersTwice 0)).2).2 := by
    refine .of_stepped (runNew_snoc_path ..) ?_
    rw [Recorded.forall_stepped_iff]
    decide +kernel
  obtain ⟨v, sent, after, hstep, -, -, hpayload, -, hown⟩ :=
    request_answered_iff requestsOnce (answersTwice 0) (Prod.fst_eq_iff.1 hresult) hanswers
  refine ⟨v, sent, after, hstep, hpayload, hown fun n hn heq ↦ hn.ne ?_⟩
  simpa [answerOf] using congrArg List.length heq

/-- The first request fails after seven empty reads. Its answer comes late, and is what the second
request returns. -/
theorem late_answer_returned :
    ¬ ∀ (calls : List Call) (target : StreamTransport) (bound : Nat) (payload reply : List UInt8)
      (answer : Nat → Packet) (w' : LinkRun StreamTransport),
      runOperation bound (.request ⟨2, 2⟩ payload) (runNew calls target).2 =
        (.ok (.data reply), w') → AnswersInOrder ⟨2, 2⟩ answer w' →
      reply = (answer (requested ⟨2, 2⟩ (runNew calls target).2)).payload := by
  intro h
  have hresult : (runOperation 9 (.request ⟨2, 2⟩ [0x72])
      (runNew requestsOnce (answersTwice 7)).2).1 = .ok (.data [0x52]) := by
    decide +kernel
  have hanswers : AnswersInOrder ⟨2, 2⟩ answerOf (runOperation 9 (.request ⟨2, 2⟩ [0x72])
      (runNew requestsOnce (answersTwice 7)).2).2 := by
    refine .of_stepped (runNew_snoc_path ..) ?_
    rw [Recorded.forall_stepped_iff]
    decide +kernel
  have hcount : requested ⟨2, 2⟩ (runNew requestsOnce (answersTwice 7)).2 = 1 := by
    decide +kernel
  have hown := h requestsOnce (answersTwice 7) 9 [0x72] [0x52] answerOf _
    (Prod.fst_eq_iff.1 hresult) hanswers
  rw [hcount] at hown
  cases hown

end D4Link

end Reink
