import Reink.D4.Delivery
import Reink.D4.Speech
import Reink.Platform.Stream

/-!
# Negotiated sizes

The sizes of a channel are negotiated three times: the host proposes them when it opens the channel,
the peer grants them in its reply, and the peer may ask for others in an OpenChannel of its own, to
which the host agrees in a reply. The link checks a packet against the one size it has stored.

That size is the one the peer has granted (`Stores`), so every packet respects the grant. It is
neither cut down to what the host has proposed nor changed when the host agrees to less, so the
other two bounds hold exactly as long as neither happens (`Fits`).
-/

namespace Reink

/-- The sizes that are negotiated: of the packets that the host writes, and of those it accepts. -/
inductive Size where
  | packet
  | service
deriving DecidableEq, Repr

/-- The one that is meant of the two in a message. -/
def Size.of (maxPacketSize maxServiceSize : UInt16) : Size → UInt16
  | packet => maxPacketSize
  | service => maxServiceSize

theorem Size.of_min (size : Size) (a b c d : UInt16) :
    size.of (min a b) (min c d) = min (size.of a c) (size.of b d) := by
  cases size <;> rfl

/-- The size that the entry of a channel holds. -/
def ChannelState.size (state : ChannelState) (size : Size) : UInt16 :=
  size.of state.maxPacketSize state.maxServiceSize

/-- What `open_service` proposes, of either size. -/
def proposedSize : UInt16 := 0x100

/-- The channel and the size in the payload of a successful reply to an OpenChannel. -/
def agreed (size : Size) (revision : ProtocolRevision) (payload : List UInt8) :
    Option (ChannelId × UInt16) :=
  match TransactionMessage.decode payload revision with
  | .ok (.openChannelReply result peerSocket sourceSocket maxPacketSize maxServiceSize _ _) =>
    if result = 0 then some (⟨peerSocket, sourceSocket⟩, size.of maxPacketSize maxServiceSize)
    else none
  | _ => none

/-- The packet an event writes. -/
def Event.written : Event → Option Packet
  | .wrote packet => some packet
  | _ => none

/-- The size that a reply of the peer grants when a channel is opened. -/
def Event.grants (size : Size) : Event → Option UInt16
  | .opened _ maxPacketSize maxServiceSize _ _ => some (size.of maxPacketSize maxServiceSize)
  | _ => none

namespace D4Link

open Program (Follows bind_run_ok bind_run_err)

variable {T : Type} {w w' : LinkRun T} {size : Size} {channel : ChannelId}

/-! ### What binds a channel -/

/-- The size that the peer has granted the channel, after one more event. -/
def grantedStep (size : Size) (channel : ChannelId) (granted : Option UInt16) :
    Event → Option UInt16
  | .registered channel' => if channel' = channel then none else granted
  | .opened channel' maxPacketSize maxServiceSize _ _ =>
    if channel' = channel then some (size.of maxPacketSize maxServiceSize) else granted
  | _ => granted

/-- The size the peer has granted in the last opening of the channel. -/
def granted (size : Size) (channel : ChannelId) (w : LinkRun T) : Option UInt16 :=
  (w.history.map Step.event).foldl (grantedStep size channel) none

/-- The sizes that bound the packets of the channel, after one more step. -/
def boundsStep (size : Size) (channel : ChannelId) (bounds : List UInt16)
    (step : Step (D4Link T) Event) : List UInt16 :=
  match step.event with
  | .registered channel' => if channel' = channel then [] else bounds
  | .opened channel' maxPacketSize maxServiceSize _ _ =>
    if channel' = channel then [proposedSize, size.of maxPacketSize maxServiceSize] else bounds
  | .wrote packet =>
    if packet.channel = .transaction then
      match agreed size step.before.revision packet.payload with
      | some (channel', bound) => if channel' = channel then bound :: bounds else bounds
      | none => bounds
    else bounds
  | _ => bounds

/-- **The sizes that bind the host** on a channel since it was opened: its own proposal, the grant
of the peer, and those in the successful replies to an OpenChannel that the host has written since.
-/
def bounds (size : Size) (channel : ChannelId) (w : LinkRun T) : List UInt16 :=
  w.history.foldl (boundsStep size channel) []

@[simp] theorem granted_push (event : Event) (after : D4Link T) :
    granted size channel (w.push event after) =
      grantedStep size channel (granted size channel w) event := by
  simp [granted]

theorem bounds_push (event : Event) (after : D4Link T) :
    bounds size channel (w.push event after) =
      boundsStep size channel (bounds size channel w) ⟨w.state, event, after⟩ := by
  simp [bounds]

/-- The size that an OpenChannel of the peer asks for, when it has just been heard. -/
def demanded (size : Size) (w : LinkRun T) : Option (ChannelId × UInt16) :=
  match heard w with
  | some (.openChannel peerSocket sourceSocket maxPacketSize maxServiceSize _ _) =>
    some (⟨peerSocket, sourceSocket⟩, size.of maxPacketSize maxServiceSize)
  | _ => none

/-- The size stored for the channel is no larger. -/
def Covers (size : Size) (link : D4Link T) (limit : ChannelId × UInt16) : Prop :=
  ∀ state ∈ link.channels limit.1, state.size size ≤ limit.2

/-- **The condition.** Neither side names a size below the stored one: not the peer in an
OpenChannel, nor a caller that writes a reply to one through a request on the transaction channel.
The peer grants no more than was proposed. -/
structure Fair (size : Size) (v : LinkRun T) (event : Event) : Prop where
  demanded : ∀ limit ∈ demanded size v, Covers size v.state limit
  handed : ∀ payload ∈ handed v, ∀ limit ∈ agreed size v.state.revision payload,
    Covers size v.state limit
  granted : ∀ grant ∈ event.grants size, grant ≤ proposedSize

/-! ### The stored size is the granted one -/

/-- A channel that is in the table since its opening holds what the peer has granted. -/
def Stores (size : Size) (channel : ChannelId) (w : LinkRun T) : Prop :=
  ∀ state, w.state.channels channel = some state →
    (state.isOpen = true → (granted size channel w).isSome) ∧
      ∀ grant ∈ granted size channel w, state.size size = grant

theorem grantedStep_of_not_touches {event : Event} (h : ¬ event.touches channel)
    (grant : Option UInt16) : grantedStep size channel grant event = grant := by
  cases event with
  | registered _ => exact if_neg h
  | opened _ _ _ _ _ => exact if_neg h
  | _ => rfl

theorem RunStep.stores {event : Event} {after : D4Link T} (h : RunStep w event after)
    (hservice : channel ≠ .transaction) (hw : Stores size channel w) :
    Stores size channel (w.push event after) := by
  intro state hlookup
  rw [Recorded.push_state] at hlookup
  rw [granted_push]
  rcases h with htransition | hloses
  case inr =>
    obtain ⟨hsame, huntouched | habsent⟩ := hloses.entry channel
    · rw [grantedStep_of_not_touches huntouched]
      exact hw state (hsame.symm.trans hlookup)
    · cases habsent.symm.trans hlookup
  cases htransition.entry channel with
  | kept untouched same =>
    rw [grantedStep_of_not_touches (untouched hservice)]
    exact hw state (same.symm.trans hlookup)
  | counted rule lookup now =>
    have hstored := hw _ lookup
    cases now.symm.trans hlookup
    cases rule <;> exact hstored
  | registered name label now =>
    cases now.symm.trans hlookup
    subst label
    simp [grantedStep]
  | opened label _ _ now =>
    cases now.symm.trans hlookup
    subst label
    simp [grantedStep, ChannelState.size]
  | closed label _ lookup now =>
    cases now.symm.trans hlookup
    subst label
    exact ⟨by simp, (hw _ lookup).2⟩
  | removed _ _ now => cases now.symm.trans hlookup

theorem stores_of_path {target : T} (h : Trail RunStep (.start (D4Link.new target)) w)
    (hservice : channel ≠ .transaction) : Stores size channel w := by
  refine h.invariant (fun _ _ _ hstep hv ↦ hstep.stores hservice hv) fun state hlookup ↦ ?_
  cases (if_neg hservice : (D4Link.new target).channels channel = none).symm.trans hlookup

theorem stores_of_passed {target : T} (h : Trail RunStep (.start (D4Link.new target)) w')
    (hservice : channel ≠ .transaction) {v : LinkRun T} (hv : w'.Passed v) :
    Stores size channel v :=
  h.always (I := Stores size channel) (fun _ _ _ hstep hv ↦ hstep.stores hservice hv)
    (stores_of_path .refl hservice) hv

/-! ### The stored size respects every bound -/

/-- The stored size of the channel is within all its bounds. -/
def Fits (size : Size) (channel : ChannelId) (w : LinkRun T) : Prop :=
  ∀ state, w.state.channels channel = some state →
    ∀ bound ∈ bounds size channel w, state.size size ≤ bound

/-- A message whose payload is read as an agreement is the agreement of the link. -/
theorem Says.of_agreed {message : TransactionMessage} {payload : List UInt8} {bound : UInt16}
    (h : Says w message) (hencode : message.encode w.state.revision = .ok payload)
    (hagreed : agreed size w.state.revision payload = some (channel, bound)) :
    ∃ state limit, w.state.channels channel = some state ∧ demanded size w = some (channel, limit) ∧
      bound = min (state.size size) limit := by
  rw [agreed, TransactionMessage.decode_encode hencode] at hagreed
  cases h with
  | other hcode => cases message <;> first | cases hagreed | exact absurd rfl hcode
  | refuses => simp [TransactionMessage.carried] at hagreed
  | @agrees channel' state maxPacketSize maxServiceSize _ _ hdemanded hlookup =>
    simp only [TransactionMessage.carried, if_pos, Option.some.injEq, Prod.mk.injEq] at hagreed
    obtain ⟨rfl, rfl⟩ := hagreed
    refine ⟨state, size.of maxPacketSize maxServiceSize, hlookup, ?_, size.of_min _ _ _ _⟩
    rw [demanded, hdemanded]

/-- In a fair step the host agrees to no less than it has stored. -/
theorem le_of_agreed {packet : Packet} {event : Event} {bound : UInt16} {state : ChannelState}
    (hvoices : Voices w packet) (hfair : Fair size w event)
    (htransaction : packet.channel = .transaction)
    (hagreed : agreed size w.state.revision packet.payload = some (channel, bound))
    (hlookup : w.state.channels channel = some state) : state.size size ≤ bound := by
  cases hvoices with
  | service hservice => exact absurd htransaction hservice
  | message own encodes =>
    obtain ⟨state', limit, hlookup', hdemanded, rfl⟩ := own.of_agreed encodes hagreed
    cases hlookup.symm.trans hlookup'
    exact Std.le_min_iff.2 ⟨Std.le_refl _, hfair.demanded _ hdemanded state hlookup⟩
  | request hhanded => exact hfair.handed _ hhanded _ hagreed state hlookup

/-- A step that does not open the channel adds at most an agreement to its bounds. -/
theorem mem_bounds_push {event : Event} {after : D4Link T} {bound : UInt16}
    (h : bound ∈ bounds size channel (w.push event after)) :
    (bound ∈ bounds size channel w ∨ ∃ packet, event = .wrote packet ∧
        packet.channel = .transaction ∧
        agreed size w.state.revision packet.payload = some (channel, bound)) ∨
      ∃ maxPacketSize maxServiceSize maxCredit grantedCredit,
        event = .opened channel maxPacketSize maxServiceSize maxCredit grantedCredit ∧
          (bound = proposedSize ∨ bound = size.of maxPacketSize maxServiceSize) := by
  rw [bounds_push] at h
  cases event with
  | registered channel' =>
    simp only [boundsStep] at h
    split at h
    · exact (List.not_mem_nil h).elim
    · exact .inl (.inl h)
  | opened channel' maxPacketSize maxServiceSize maxCredit grantedCredit =>
    simp only [boundsStep] at h
    split at h
    case isTrue hchannel =>
      subst hchannel
      exact .inr ⟨_, _, _, _, rfl, by simpa using h⟩
    case isFalse => exact .inl (.inl h)
  | wrote packet =>
    simp only [boundsStep] at h
    split at h
    case isFalse => exact .inl (.inl h)
    case isTrue htransaction =>
      rcases hagreed : agreed size w.state.revision packet.payload with _ | ⟨channel', bound'⟩
      · rw [hagreed] at h
        exact .inl (.inl h)
      rw [hagreed] at h
      dsimp only at h
      split at h
      case isFalse => exact .inl (.inl h)
      case isTrue hchannel =>
        subst hchannel
        rcases List.mem_cons.1 h with rfl | h
        · exact .inl (.inr ⟨packet, rfl, htransaction, hagreed⟩)
        · exact .inl (.inl h)
  | _ => exact .inl (.inl h)

theorem RunStep.fits {event : Event} {after : D4Link T} (h : RunStep w event after)
    (hvoices : ∀ packet, event = .wrote packet → Voices w packet) (hfair : Fair size w event)
    (hservice : channel ≠ .transaction) (hw : Fits size channel w) :
    Fits size channel (w.push event after) := by
  intro state hlookup bound hbound
  rw [Recorded.push_state] at hlookup
  -- Unless the step opens the channel, it keeps its size and is bound by no less than it.
  have hkept {state' : ChannelState} (hlookup' : w.state.channels channel = some state')
      (hsize : state.size size = state'.size size)
      (hevent : ∀ maxPacketSize maxServiceSize maxCredit grantedCredit,
        event ≠ .opened channel maxPacketSize maxServiceSize maxCredit grantedCredit) :
      state.size size ≤ bound := by
    rw [hsize]
    rcases mem_bounds_push hbound with (hbound | ⟨packet, rfl, htransaction, hagreed⟩) |
      ⟨_, _, _, _, hopened, -⟩
    · exact hw state' hlookup' bound hbound
    · exact le_of_agreed (hvoices packet rfl) hfair htransaction hagreed hlookup'
    · exact absurd hopened (hevent _ _ _ _)
  rcases h with htransition | hloses
  case inr =>
    obtain ⟨hsame, huntouched | habsent⟩ := hloses.entry channel
    · refine hkept (hsame.symm.trans hlookup) rfl ?_
      rintro _ _ _ _ rfl
      exact huntouched rfl
    · cases habsent.symm.trans hlookup
  cases htransition.entry channel with
  | kept untouched same =>
    refine hkept (same.symm.trans hlookup) rfl ?_
    rintro _ _ _ _ rfl
    exact untouched hservice rfl
  | counted rule lookup now =>
    cases now.symm.trans hlookup
    refine hkept lookup rfl ?_
    rintro _ _ _ _ rfl
    cases rule
  | registered name label now =>
    subst label
    simp [bounds_push, boundsStep] at hbound
  | @opened _ maxPacketSize maxServiceSize _ _ label _ _ now =>
    cases now.symm.trans hlookup
    subst label
    have hgrant : size.of maxPacketSize maxServiceSize ≤ proposedSize := hfair.granted _ rfl
    simp only [bounds_push, boundsStep, if_pos, List.mem_cons, List.not_mem_nil, or_false]
      at hbound
    rcases hbound with rfl | rfl
    · exact hgrant
    · exact Std.le_refl _
  | closed label _ lookup now =>
    cases now.symm.trans hlookup
    refine hkept lookup rfl ?_
    rintro _ _ _ _ rfl
    cases label
  | removed _ _ now => cases now.symm.trans hlookup

/-! ### Packets -/

/-- A packet is written on a service channel when it is open, and within the stored size. -/
theorem RunStep.of_wrote {packet : Packet} {after : D4Link T}
    (h : RunStep w (.wrote packet) after) (hservice : packet.channel ≠ .transaction) :
    ∃ state, w.state.channels packet.channel = some state ∧ state.isOpen = true ∧
      packet.encode.length ≤ state.maxPacketSize.toNat := by
  rcases h with htransition | hloses
  case inr => exact absurd rfl (hloses.not_packet packet).1
  cases htransition with
  | marked h | transported h => exact h.elim
  | sentFree _ _ htransaction => exact absurd htransaction hservice
  | reported _ _ htransaction => exact absurd htransaction hservice
  | sentPaid _ _ hlookup hopen hsize _ => exact ⟨_, hlookup, hopen hservice, hsize⟩

/-- Serving the peer opens nothing, so it grants nothing. -/
theorem granted_of_serves (h : Trail Serves w w') : granted size channel w' =
    granted size channel w := by
  refine h.invariant (I := fun v ↦ granted size channel v = granted size channel w) ?_ rfl
  rintro v event after ⟨-, hservice, -⟩ hv
  rw [granted_push, ← hv]
  cases event <;> first | rfl | exact hservice.elim

section Calls

variable [ByteTransport T]

/-- A request that succeeds returns no more than the entry of its channel allows, which has been
opened. -/
theorem request_size {target : T} {bound : Nat} {payload reply : List UInt8}
    (hpath : Trail RunStep (.start (D4Link.new target)) w)
    (h : request bound channel payload w = (.ok reply, w')) :
    channel ≠ .transaction ∧ (granted .service channel w').isSome ∧
      ∃ state, w'.state.channels channel = some state ∧
        headerLength + reply.length ≤ state.maxServiceSize.toNat := by
  obtain ⟨v, sent, after, hensured, rfl, -, hsent, hloop⟩ := request_ok h
  have hserved := (requestLoop_follows _ _ _).path_ok hloop
  have hv : Trail RunStep (.start (D4Link.new target)) v :=
    hpath.trans (hensured.mono fun _ _ _ h ↦ .inl h)
  have hw' : Trail RunStep (.start (D4Link.new target)) w' :=
    ((hv.snoc (.inl hsent)).snoc (.inl (.marked (by exact trivial)))).trans
      (hserved.mono fun _ _ _ h ↦ .inl h.transition)
  obtain ⟨packet, t, u, htaken, hcredit, hroute, hservice, rfl, rfl⟩ := requestLoop_answered hloop
  refine ⟨hservice, ?_, ?_⟩
  · -- the channel was open when the request was written
    obtain ⟨state, hlookup, hopen, -⟩ := RunStep.of_wrote (.inl hsent) hservice
    rw [granted_of_serves hserved, granted_push, granted_push]
    exact (stores_of_path hv hservice state hlookup).1 hopen
  · have hu : (u.push (.answered (some sent.channel) packet) u.state).Passed u :=
      Recorded.passed_push_iff.2 (.inr u.passed_self)
    have hpeer : FromPeer u :=
      hw'.always (I := FromPeer) (fun _ _ _ hstep hv ↦ hstep.fromPeer hv) (.start target) hu
    have hwellFormed : packet.WellFormed := hw'.always (I := fun v ↦ ∀ packet ∈ arrived v,
      packet.WellFormed) (fun _ _ _ hstep hv ↦ hstep.arrived_wellFormed hv)
      (fun _ h ↦ (List.not_mem_nil h).elim) hu packet
      (hpeer.credited packet (justCredited_of_applyCredit htaken hcredit))
    obtain ⟨state, credit, hlookup, hsize, -, rfl⟩ := applyCredit_ok hcredit
    refine ⟨{ state with credit := credit }, ?_, ?_⟩
    · rw [Recorded.push_state, Recorded.push_state, ← hroute, setChannel_channels_self]
    · rw [← hwellFormed.length]
      exact UInt16.le_iff_toNat_le.1 hsize

end Calls

/-! ### The transaction channel -/

/-- The transaction channel is open. -/
def Lent (link : D4Link T) : Prop :=
  ∃ state, link.channels .transaction = some state ∧ state.isOpen = true

/-- An open transaction channel has its own size. -/
def Narrow (link : D4Link T) : Prop :=
  ∀ state, link.channels .transaction = some state → state.isOpen = true →
    state.maxPacketSize = 64

theorem RunStep.narrow {event : Event} {after : D4Link T} (h : RunStep w event after)
    (hw : Narrow w.state) : Narrow after := by
  rcases h with htransition | ⟨rfl, -, -⟩
  case inr => exact hw
  intro state hlookup hopen
  cases htransition.entry .transaction with
  | kept _ same => exact hw state (same.symm.trans hlookup) hopen
  | counted _ lookup now =>
    have hbefore := hw _ lookup
    cases now.symm.trans hlookup
    exact hbefore hopen
  | registered _ _ now =>
    cases now.symm.trans hlookup
    cases hopen
  | opened _ service | closed _ service | removed _ service => exact absurd rfl service

theorem narrow_new (target : T) : Narrow (D4Link.new target) := by
  intro state hlookup _
  simp only [D4Link.new, if_pos, Option.some.injEq] at hlookup
  rw [← hlookup]

/-- Only another entry in its place takes the transaction channel away. -/
theorem Transition.lent {event : Event} {after : D4Link T} (h : Transition w event after)
    (hevent : event ≠ .registered .transaction) (hw : Lent w.state) : Lent after := by
  obtain ⟨state, hlookup, hopen⟩ := hw
  cases h.entry .transaction with
  | kept _ same => exact ⟨state, same.trans hlookup, hopen⟩
  | counted _ lookup now =>
    cases lookup.symm.trans hlookup
    exact ⟨_, now, hopen⟩
  | registered _ label => exact absurd label hevent
  | opened _ service | closed _ service | removed _ service => exact absurd rfl service

/-! ### Control channels -/

/-- The channel of the control channel at hand after the operation. A control channel borrows the
link, so it is gone with the next operation on the link itself. -/
def lend (held : Option ChannelId) :
    Operation → Outcome D4Error OperationResult → Option ChannelId
  | .request _ _, _ => held
  | .controlChannel channel, .ok _ => some channel
  | _, _ => none

/-- A request needs a control channel of its channel. -/
def MayCall (held : Option ChannelId) : Operation → Prop
  | .request channel _ => held = some channel
  | _ => True

/-- **Requests are made through control channels**, as the type of `request` has it. -/
inductive Borrowed :
    Option ChannelId → List Call → List (Outcome D4Error OperationResult) → Prop
  | done (held : Option ChannelId) (calls : List Call) : Borrowed held calls []
  | call {held : Option ChannelId} {call : Call} {calls : List Call}
      {outcome : Outcome D4Error OperationResult}
      {outcomes : List (Outcome D4Error OperationResult)}
      (may : MayCall held call.operation)
      (rest : Borrowed (lend held call.operation outcome) calls outcomes) :
      Borrowed held (call :: calls) (outcome :: outcomes)

/-- A request on the transaction channel is called only while that is open. -/
def LendsStep (w : LinkRun T) (event : Event) (_ : D4Link T) : Prop :=
  ∀ payload, event = .called (.request .transaction payload) → Lent w.state

section Borrows

variable [ByteTransport T]

/-- A request on the transaction channel enters nothing in its place. -/
theorem request_transaction_follows (bound : Nat) (payload : List UInt8) :
    Follows (fun v event after ↦ Transition v event after ∧ event ≠ .registered .transaction) Faulty
      (request bound .transaction payload) w := by
  refine follows_of_active fun _ ↦ ?_
  rcases ensureChannelCredit_transaction bound w with hensured | ⟨error, hfailed⟩
  case inr => exact Follows.of_stay (bind_run_err hfailed) (by simp)
  refine Follows.congr (bind_run_ok hensured) ?_
  refine ((send_follows (by simp)).mono ?_ fun _ _ _ h ↦ h).bind fun _ v _ ↦ ?_
  · rintro v event after ⟨htransition, packet, -, rfl | rfl⟩ <;> exact ⟨htransition, by simp⟩
  refine Follows.bind (Follows.mark ⟨.marked trivial, by simp⟩) fun _ v _ ↦ ?_
  refine (requestLoop_follows _ _ _).mono (fun v event after h ↦ ⟨h.transition, ?_⟩)
    fun _ _ _ h ↦ .inl h
  rintro rfl
  exact h.2.1

theorem lent_of_runOperation {bound : Nat} {operation : Operation} {held : Option ChannelId}
    {outcome : Outcome D4Error OperationResult} (hw : held = some .transaction → Lent w.state)
    (hmay : MayCall held operation) (h : runOperation bound operation w = (outcome, w'))
    (hreturned : outcome.Returned) (hheld : lend held operation outcome = some .transaction) :
    Lent w'.state := by
  have hpanic : ∀ message, outcome ≠ .panic message := by
    rintro message rfl
    exact hreturned
  cases operation with
  | request channel payload =>
    obtain rfl : channel = .transaction := Option.some.inj (hmay.symm.trans hheld)
    have hpath := (Follows.bind (Follows.mark ⟨.marked trivial, by simp⟩) fun _ v _ ↦
      (request_transaction_follows bound payload).bind fun _ v _ ↦ Follows.pure _).path h hpanic
    exact hpath.state_invariant (fun _ _ _ hstep hv ↦ hstep.1.lent hstep.2 hv) (hw hmay)
  | controlChannel channel =>
    obtain ⟨result, rfl⟩ : ∃ result, outcome = .ok result := by
      cases outcome <;> first | exact ⟨_, rfl⟩ | cases hheld
    obtain rfl : channel = .transaction := Option.some.inj hheld
    obtain ⟨_, v, hcalled, h⟩ := Program.bind_eq_ok.1 h
    cases hcalled
    obtain ⟨_, u, hchecked, h⟩ := Program.bind_eq_ok.1 h
    cases h
    rw [controlChannel, bind_run_ok (Program.observe_run _)] at hchecked
    obtain ⟨hopen, rfl⟩ := Program.rejectIf_eq_ok.1 hchecked
    rcases hlookup : w.state.channels .transaction with _ | state
    · simp [hlookup] at hopen
    · exact ⟨state, hlookup, by simpa [hlookup] using hopen⟩
  | _ => cases hheld

/-- **Borrowing** keeps requests off the transaction channel once another entry is in its place. -/
theorem runCalls_lends {calls : List Call} {held : Option ChannelId}
    (hw : held = some .transaction → Lent w.state)
    (hborrowed : Borrowed held calls (runCalls calls w).1) :
    Trail LendsStep w (runCalls calls w).2 := by
  induction calls generalizing w held with
  | nil => exact .refl
  | cons call calls ih =>
    have hpath (hmay : MayCall held call.operation) :
        Trail LendsStep w (runOperation call.bound call.operation w).2 := by
      refine (Trail.single ?_).trans ((runOperation_speaks call.bound call.operation).mono ?_)
      · rintro payload hcalled
        rw [Event.called.inj hcalled] at hmay
        exact hw hmay
      · rintro v event after hspeaks payload rfl
        exact hspeaks.elim
    by_cases hreturned : (runOperation call.bound call.operation w).1.Returned
    · rw [runCalls_returned hreturned] at hborrowed ⊢
      cases hborrowed with
      | call hmay hrest =>
        exact (hpath hmay).trans (ih (lent_of_runOperation hw hmay rfl hreturned) hrest)
    · rw [runCalls_not_returned hreturned] at hborrowed ⊢
      cases hborrowed with
      | call hmay _ => exact hpath hmay

omit [ByteTransport T] in
theorem called_of_handed {event : Event} {after : D4Link T} {payload : List UInt8}
    (h : handed (w.push event after) = some payload) :
    event = .called (.request .transaction payload) := by
  simp only [handed, Recorded.push_history, List.getLast?_append, List.getLast?_singleton,
    Option.some_or] at h
  split at h
  case h_2 => cases h
  case h_1 channel payload' hlast =>
    cases hlast
    split at h
    case isFalse => cases h
    case isTrue hchannel =>
      cases h
      rw [hchannel]

omit [ByteTransport T] in
/-- The transaction channel is open behind the call of a request on it. -/
theorem RunStep.lent_of_handed {event : Event} {after : D4Link T} {payload : List UInt8}
    (h : RunStep w event after) (hlends : LendsStep w event after)
    (hhanded : handed (w.push event after) = some payload) : Lent after := by
  obtain rfl := called_of_handed hhanded
  rcases h with htransition | ⟨-, -, channel, hinstalls, -⟩
  case inr => cases hinstalls
  cases htransition with
  | transported h => exact h.elim
  | marked _ => exact hlends payload rfl

omit [ByteTransport T] in
/-- **On the transaction channel** the link's own messages are short, and so is what a request may
write while the channel is open. -/
theorem length_le_of_voices {packet : Packet} {after : D4Link T}
    (h : RunStep w (.wrote packet) after) (hvoices : Voices w packet)
    (htransaction : packet.channel = .transaction) (hnarrow : Narrow w.state)
    (hlent : ∀ payload, handed w = some payload → Lent w.state) : packet.encode.length ≤ 64 := by
  rw [Packet.length_encode]
  cases hvoices with
  | service hservice => exact absurd htransaction hservice
  | message own encodes =>
    have hshort : packet.payload.length ≤ 58 := (TransactionMessage.encode_eq_ok.1 encodes).2
    exact Nat.add_le_add_left hshort 6
  | request hhanded =>
    obtain ⟨state, hlookup, hopen⟩ := hlent _ hhanded
    have hstored {state' : ChannelState} (hlookup' : w.state.channels packet.channel = some state')
        (hsize : packet.encode.length ≤ state'.maxPacketSize.toNat) :
        headerLength + packet.payload.length ≤ 64 := by
      rw [htransaction] at hlookup'
      cases hlookup.symm.trans hlookup'
      rwa [hnarrow state hlookup hopen, Packet.length_encode] at hsize
    rcases h with htransition | hloses
    case inr => exact absurd rfl (hloses.not_packet packet).1
    cases htransition with
    | marked h | transported h => exact h.elim
    | sentFree _ _ _ _ hlookup' hsize => exact hstored hlookup' hsize
    | sentPaid _ _ hlookup' _ hsize _ => exact hstored hlookup' hsize
    | reported _ _ _ hpayload => simp [hpayload, headerLength]

end Borrows

/-! ### Runs -/

/-- A run of fair steps that writes what it may keeps every bound. -/
theorem fits_of_path {target : T} (h : Trail RunStep (.start (D4Link.new target)) w')
    (hspeaks : Trail CallsOrSpeaks (.start (D4Link.new target)) w')
    (hfair : ∀ v event after, w'.Stepped v event after → Fair size v event)
    (hservice : channel ≠ .transaction) {v : LinkRun T} (hv : w'.Passed v) :
    Fits size channel v := by
  refine h.passed (I := Fits size channel)
    (Q := fun v event _ ↦ (∀ packet, event = .wrote packet → Voices v packet) ∧ Fair size v event)
    (fun v event after hstep hQ hv ↦ hstep.fits hQ.1 hQ.2 hservice hv) ?_ ?_ hv
  · intro state hlookup
    cases (if_neg hservice : (D4Link.new target).channels channel = none).symm.trans hlookup
  · rintro v event after hstepped
    refine ⟨?_, hfair v event after hstepped⟩
    rintro packet rfl
    exact voices_of_wrote hspeaks hstepped

/-- What is within the stored size of an opened channel is within the grant, and within every bound
if the steps are fair. -/
theorem within_of_stored {target : T} (h : Trail RunStep (.start (D4Link.new target)) w')
    (hspeaks : Trail CallsOrSpeaks (.start (D4Link.new target)) w')
    (hservice : channel ≠ .transaction) {v : LinkRun T} (hv : w'.Passed v) {state : ChannelState}
    (hlookup : v.state.channels channel = some state) (hgranted : (granted size channel v).isSome)
    {length : Nat} (hlength : length ≤ (state.size size).toNat) :
    (∃ grant ∈ granted size channel v, length ≤ grant.toNat) ∧
      ((∀ u event after, w'.Stepped u event after → Fair size u event) →
        ∀ limit ∈ bounds size channel v, length ≤ limit.toNat) := by
  obtain ⟨grant, hgrant⟩ := Option.isSome_iff_exists.1 hgranted
  have hstored : Stores size channel v := stores_of_passed h hservice hv
  refine ⟨⟨grant, hgrant, ?_⟩, fun hfair limit hlimit ↦ hlength.trans ?_⟩
  · rw [← (hstored state hlookup).2 grant hgrant]
    exact hlength
  · exact UInt16.le_iff_toNat_le.1
      (fits_of_path h hspeaks hfair hservice hv state hlookup limit hlimit)

variable [ByteTransport T]

/-- A packet on the transaction channel is short. -/
theorem length_le_of_transaction {calls : List Call} {target : T}
    (hborrowed : Borrowed none calls (runNew calls target).1) {v : LinkRun T} {packet : Packet}
    {after : D4Link T} (hstep : (runNew calls target).2.Stepped v (.wrote packet) after)
    (htransaction : packet.channel = .transaction) : packet.encode.length ≤ 64 := by
  have hpath := runNew_path calls target
  have hlends : Trail LendsStep (.start (D4Link.new target)) (runNew calls target).2 :=
    runCalls_lends (by simp) hborrowed
  have hnarrow : Narrow v.state := hpath.always (I := fun v ↦ Narrow v.state)
    (fun _ _ _ hstep hv ↦ hstep.narrow hv) (narrow_new target) hstep.passed
  have hlent : ∀ payload, handed v = some payload → Lent v.state :=
    hpath.passed (I := fun v ↦ ∀ payload, handed v = some payload → Lent v.state)
      (Q := LendsStep) (fun _ _ _ hstep hlends _ _ hhanded ↦ hstep.lent_of_handed hlends hhanded)
      (by simp [handed]) (fun _ _ _ hstep ↦ hlends.stepped hstep) hstep.passed
  have hvoices : Voices v packet := voices_of_wrote (runCalls_callsOrSpeaks calls) hstep
  exact length_le_of_voices (hpath.stepped hstep) hvoices htransaction hnarrow hlent

/-- **Negotiated sizes.** In every run in which requests go through control channels, a packet on
the transaction channel has at most 64 bytes, a packet on a service channel at most as many as the
peer has granted, and what a request returns came in a packet of at most the granted service size.
While every step is fair, packets also keep to what the host has proposed, and to whatever it has
agreed to since. -/
theorem sizes_respected (calls : List Call) (target : T)
    (hborrowed : Borrowed none calls (runNew calls target).1) :
    (∀ v packet after, (runNew calls target).2.Stepped v (.wrote packet) after →
      packet.channel = .transaction → packet.encode.length ≤ 64) ∧
    (∀ v packet after, (runNew calls target).2.Stepped v (.wrote packet) after →
      packet.channel ≠ .transaction →
      (∃ grant ∈ granted .packet packet.channel v, packet.encode.length ≤ grant.toNat) ∧
      ((∀ u event after, (runNew calls target).2.Stepped u event after → Fair .packet u event) →
        ∀ limit ∈ bounds .packet packet.channel v, packet.encode.length ≤ limit.toNat)) ∧
    ∀ bound channel payload reply w', runOperation bound (.request channel payload)
        (runNew calls target).2 = (.ok (.data reply), w') →
      (∃ grant ∈ granted .service channel w', headerLength + reply.length ≤ grant.toNat) ∧
      ((∀ u event after, w'.Stepped u event after → Fair .service u event) →
        ∀ limit ∈ bounds .service channel w', headerLength + reply.length ≤ limit.toNat) := by
  have hpath := runNew_path calls target
  have hspeaks : Trail CallsOrSpeaks (.start (D4Link.new target)) (runNew calls target).2 :=
    runCalls_callsOrSpeaks calls
  refine ⟨fun v packet after hstep htransaction ↦ length_le_of_transaction hborrowed hstep
    htransaction, fun v packet after hstep hservice ↦ ?_, ?_⟩
  · obtain ⟨state, hlookup, hopen, hsize⟩ := (hpath.stepped hstep).of_wrote hservice
    have hgranted : (granted .packet packet.channel v).isSome :=
      (stores_of_passed hpath hservice hstep.passed state hlookup).1 hopen
    exact within_of_stored hpath hspeaks hservice hstep.passed hlookup hgranted hsize
  · intro bound channel payload reply w' h
    have hlast : (runOperation bound (.request channel payload) (runNew calls target).2).2 = w' :=
      congrArg Prod.snd h
    have hspeaks' : Trail CallsOrSpeaks (.start (D4Link.new target)) w' := by
      rw [← hlast]
      exact hspeaks.trans (runOperation_callsOrSpeaks bound (.request channel payload))
    have hcalled : Trail RunStep (.start (D4Link.new target))
        ((runNew calls target).2.push (.called (.request channel payload))
          (runNew calls target).2.state) := hpath.snoc (.inl (.marked trivial))
    have hw' : Trail RunStep (.start (D4Link.new target)) w' := by
      rw [← hlast]
      exact runNew_snoc_path calls target bound (.request channel payload)
    obtain ⟨hservice, hgranted, state, hlookup, hsize⟩ :=
      request_size hcalled (runOperation_request_ok h)
    exact within_of_stored hw' hspeaks' hservice w'.passed_self hlookup hgranted hsize

/-! ### Runs against a given stream -/

omit [ByteTransport T] in
instance (link : D4Link T) (limit : ChannelId × UInt16) : Decidable (Covers size link limit) :=
  inferInstanceAs (Decidable (∀ state ∈ _, _))

omit [ByteTransport T] in
instance (v : LinkRun T) (event : Event) : Decidable (Fair size v event) :=
  -- the grant is looked up: without this instance every size would be tried
  have : Decidable (∀ grant ∈ event.grants size, grant ≤ proposedSize) :=
    Option.decidableForallMem _
  decidable_of_iff ((∀ limit ∈ demanded size v, Covers size v.state limit) ∧
    (∀ payload ∈ handed v, ∀ limit ∈ agreed size v.state.revision payload,
      Covers size v.state limit) ∧ ∀ grant ∈ event.grants size, grant ≤ proposedSize)
    ⟨fun ⟨h, h', h''⟩ ↦ ⟨h, h', h''⟩, fun ⟨h, h', h''⟩ ↦ ⟨h, h', h''⟩⟩

/-- The step writes no more on a service channel than binds it. -/
def Respects (v : LinkRun T) (event : Event) : Prop :=
  ∀ packet ∈ event.written, packet.channel ≠ .transaction →
    ∀ limit ∈ bounds .packet packet.channel v, packet.encode.length ≤ limit.toNat

omit [ByteTransport T] in
instance (v : LinkRun T) (event : Event) : Decidable (Respects v event) :=
  have (packet : Packet) :
      Decidable (∀ limit ∈ bounds .packet packet.channel v,
        packet.encode.length ≤ limit.toNat) := List.decidableBAll _ _
  inferInstanceAs (Decidable (∀ packet ∈ event.written, packet.channel ≠ .transaction → _))

/-- The peer opens a service with the packet size it is given, asks for another, and answers two
requests. -/
def resizes (granted asked : UInt16) : StreamTransport :=
  .sending [StreamTransport.packet 0 0 1 [0x80, 0, 0x20],
    StreamTransport.packet 0 0 1 [0x89, 0, 2, 69, 80, 83, 79, 78, 45, 67, 84, 82, 76],
    StreamTransport.packet 0 0 1
      ([0x81, 0, 2, 2] ++ granted.toBeBytes ++ [1, 0, 0, 0, 0, 2]),
    StreamTransport.packet 0 0 1 ([0x01, 2, 2] ++ asked.toBeBytes ++ [1, 0, 0, 0]),
    StreamTransport.packet 2 2 0 [0x52], StreamTransport.packet 2 2 0 [0x53]]

/-- Open the service, make a short request and a longer one. -/
def requestsTwice (payload : List UInt8) : List Call :=
  [⟨.initializeLink, 9⟩, ⟨.openService "EPSON-CTRL", 9⟩, ⟨.controlChannel ⟨2, 2⟩, 9⟩,
    ⟨.request ⟨2, 2⟩ [0x71], 9⟩, ⟨.request ⟨2, 2⟩ payload, 9⟩]

/-- The peer grants what is proposed and asks for no less: the longer request is within all. -/
theorem sizes_respected_as_granted :
    (runNew (requestsTwice [1, 2]) (resizes 0x100 0x100)).1 =
      [.ok .done, .ok (.service ⟨2, 2⟩), .ok .done, .ok (.data [0x52]), .ok (.data [0x53])] ∧
    ∀ v packet after,
      (runNew (requestsTwice [1, 2]) (resizes 0x100 0x100)).2.Stepped v (.wrote packet) after →
      packet.channel ≠ .transaction →
      ∀ limit ∈ bounds .packet packet.channel v, packet.encode.length ≤ limit.toNat := by
  have hrun : (runNew (requestsTwice [1, 2]) (resizes 0x100 0x100)).1 =
      [.ok .done, .ok (.service ⟨2, 2⟩), .ok .done, .ok (.data [0x52]), .ok (.data [0x53])] := by
    decide +kernel
  have hborrowed : Borrowed none (requestsTwice [1, 2])
      (runNew (requestsTwice [1, 2]) (resizes 0x100 0x100)).1 := by
    rw [hrun]
    exact .call trivial (.call trivial (.call trivial (.call rfl (.call rfl (.done _ _)))))
  have hfair : ∀ u event after,
      (runNew (requestsTwice [1, 2]) (resizes 0x100 0x100)).2.Stepped u event after →
        Fair .packet u event := by
    rw [Recorded.forall_stepped_iff]
    decide +kernel
  refine ⟨hrun, fun v packet after hstep hservice ↦ ?_⟩
  exact ((sizes_respected _ _ hborrowed).2.1 v packet after hstep hservice).2 hfair

omit [ByteTransport T] in
theorem respects_of_wrote (h : ∀ v packet after, w.Stepped v (.wrote packet) after →
      packet.channel ≠ .transaction → ∀ limit ∈ bounds .packet packet.channel v,
        packet.encode.length ≤ limit.toNat) :
    ∀ v event after, w.Stepped v event after → Respects v event := by
  intro v event after hstep packet hwritten
  cases event with
  | wrote written =>
    cases hwritten
    exact h v packet after hstep
  | _ => cases hwritten

/-- The host agrees to packets of 7 bytes and then writes one of 8; or it is granted more than it
has proposed, and writes it. -/
theorem sizes_exceeded :
    (¬ ∀ v packet after,
      (runNew (requestsTwice [1, 2]) (resizes 0x100 7)).2.Stepped v (.wrote packet) after →
      packet.channel ≠ .transaction →
      ∀ limit ∈ bounds .packet packet.channel v, packet.encode.length ≤ limit.toNat) ∧
    ¬ ∀ v packet after,
      (runNew (requestsTwice (List.replicate 251 1)) (resizes 0x200 0x200)).2.Stepped v
        (.wrote packet) after →
      packet.channel ≠ .transaction →
      ∀ limit ∈ bounds .packet packet.channel v, packet.encode.length ≤ limit.toNat := by
  constructor
  · have hbroken : ¬ ∀ v event after,
        (runNew (requestsTwice [1, 2]) (resizes 0x100 7)).2.Stepped v event after →
          Respects v event := by
      rw [Recorded.forall_stepped_iff]
      decide +kernel
    exact fun h ↦ hbroken (respects_of_wrote h)
  · have hbroken : ¬ ∀ v event after,
        (runNew (requestsTwice (List.replicate 251 1)) (resizes 0x200 0x200)).2.Stepped v event
          after → Respects v event := by
      rw [Recorded.forall_stepped_iff]
      decide +kernel
    exact fun h ↦ hbroken (respects_of_wrote h)

end D4Link

end Reink
