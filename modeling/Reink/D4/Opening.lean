import Reink.D4.Credit

/-!
# An opening that fails

`open_service` makes two transactions, and enters the channel between them: as soon as the peer has
named a socket, and before it has agreed to open it. What the peer names may be the socket of a
channel that is open. If the second transaction fails nothing takes the entry back.

Nor does a transaction tell the packets that it receives from those that were received before: it
adds the credit of whatever it takes from the queue, and adds it again if it has put the packet
back.

So a failed opening leaves the other channels alone exactly if the peer has refused the lookup, or
has named a channel that was in the table without being open, and if no credit is added but once and
for a packet that has arrived meanwhile. Whatever else happens during the two transactions changes
no channel, as long as the peer asks for the end of nothing.
-/

namespace Reink

namespace D4Link

open Program (Follows)

variable {T : Type} {w₀ w w' : LinkRun T} {channel : ChannelId}

/-! ### What is received during a call -/

/-- The ledger of the channel over the steps since the record `w`. What is in the queue of `w` was
received before, and is marked like a packet that has been put back. -/
def ledgerSince (channel : ChannelId) (w w' : LinkRun T) : Ledger :=
  ((w'.since w).map Step.event).foldl (Ledger.step channel)
    { marks := { queued := w.state.received.map fun _ ↦ true, taken := true } }

theorem ledgerSince_self : (ledgerSince channel w w).accepted = 0 := by
  rw [ledgerSince, Recorded.since_self]
  rfl

theorem ledgerSince_push (h : w.history <+: w'.history) (event : Event) (after : D4Link T) :
    ledgerSince channel w (w'.push event after) =
      (ledgerSince channel w w').step channel event := by
  rw [ledgerSince, Recorded.since_push h, List.map_append, List.foldl_append]
  rfl

/-- A credit other than zero is added for a packet of the channel that has not arrived since the
record `w`, or that has been put back since. -/
def CreditsStale (channel : ChannelId) (w v : LinkRun T) (event : Event) : Prop :=
  (∃ packet, event = .credited packet ∧ packet.channel = channel ∧
    packet.header.credit.toNat ≠ 0) ∧ (ledgerSince channel w v).marks.taken = true

/-! ### The steps of a transaction -/

/-- A step of a transaction: it ends something only at the peer's request. -/
structure Exchanges (w₀ v : LinkRun T) (event : Event) (after : D4Link T) : Prop where
  transition : Transition v event after
  service : event.IsService
  route : ∀ packet, event = .wrote packet → packet.channel = .transaction
  ending : event.IsEnding → HeardEnd w₀ v

theorem Heeds.exchanges {event : Event} {after : D4Link T} (h : Heeds w₀ w event after) :
    Exchanges w₀ w event after :=
  ⟨h.1.1, h.1.2.1, fun packet hevent ↦ (h.1.2.2 packet hevent).1,
    fun hending ↦ (h.2 hending).mono fun _ ↦ TransactionMessage.ends_of_endedBy⟩

/-- Writing a message is a step of its transaction. -/
theorem Writes.exchanges {code : UInt8} {event : Event} {after : D4Link T}
    (h : Writes (Carries code) w event after) : Exchanges w₀ w event after := by
  refine ⟨h.1, ?_, ?_, fun hending ↦ absurd hending h.not_isEnding⟩
  · obtain ⟨-, packet, -, rfl | rfl⟩ := h <;> trivial
  · rintro written rfl
    obtain ⟨-, packet, hcarries, hevent | hevent⟩ := h <;> cases hevent
    exact hcarries.1

section Transaction

variable [ByteTransport T]

/-- **A transaction** ends nothing unless the peer asks for it. -/
theorem transaction_exchanges {bound : Nat} {message : TransactionMessage}
    (hgrown : w₀.history <+: w.history) :
    Follows (Exchanges w₀) Broken (transaction bound message true) w := by
  have hsend : Follows (Exchanges w₀) Broken (sendTransaction message true) w :=
    (sendTransaction_follows (by simp)).mono (fun _ _ _ h ↦ h.exchanges) fun _ _ _ h ↦ h
  refine hsend.bind fun _ v hsent ↦ ?_
  have hv : w₀.history <+: v.history := hgrown.trans (hsend.path_ok hsent).isPrefix
  refine Follows.bind (Follows.mark ?_) fun _ v' hmark ↦ ?_
  · exact Heeds.exchanges (.quiet (.marked trivial) trivial (by simp) id)
  · cases hmark
    exact (transactionLoop_heeds _ _ _ (hv.trans (List.prefix_append _ _))).mono
      (fun _ _ _ h ↦ h.exchanges) fun _ _ _ h ↦ h

/-- The record once the channel that the peer has named is in the table. -/
def enter (v : LinkRun T) (socket : UInt8) (name : String) : LinkRun T :=
  v.push (.registered ⟨socket, socket⟩)
    (v.state.setChannel ⟨socket, socket⟩ ⟨name, 0, 0x100, 0x100, 0, false⟩)

/-- A failure behind a transaction, where what follows the reply fails with nothing changed. -/
theorem exchanges_of_err {α : Type} {bound : Nat} {message : TransactionMessage}
    {f : TransactionMessage → LinkProgram T α} {error : D4Error}
    (hf : ∀ reply v error v', f reply v = (.err error, v') → v' = v)
    (hgrown : w₀.history <+: w.history)
    (h : (transaction bound message true >>= f) w = (.err error, w')) :
    Trail (Exchanges w₀) w w' := by
  have hfollows : Follows (Exchanges w₀) Broken (transaction bound message true) w :=
    transaction_exchanges hgrown
  rcases Program.bind_eq_err.1 h with hfailed | ⟨reply, v, hreply, h⟩
  · exact hfollows.path hfailed (by simp)
  · rw [hf reply v error w' h]
    exact hfollows.path_ok hreply

/-- **How an opening fails**: with nothing entered, or behind the entry of the channel that the peer
has named. -/
theorem openService_err {bound : Nat} {name : String} {error : D4Error}
    (h : openService bound name w = (.err error, w')) :
    (Trail (Exchanges w) w w' ∧ ∀ socket v,
      transaction bound (.getSocketId name) true w ≠ (.ok (.getSocketIdReply 0 socket name), v)) ∨
    ∃ socket v, transaction bound (.getSocketId name) true w =
        (.ok (.getSocketIdReply 0 socket name), v) ∧
      Trail (Exchanges w) w v ∧ Trail (Exchanges w) (enter v socket name) w' := by
  have hfirst : Follows (Exchanges w) Broken (transaction bound (.getSocketId name) true) w :=
    transaction_exchanges List.prefix_rfl
  rcases Program.bind_eq_err.1 h with hlookup | ⟨reply, v, hlookup, h⟩
  · refine .inl ⟨hfirst.path hlookup (by simp), fun socket v hok ↦ ?_⟩
    cases hlookup.symm.trans hok
  have hpath : Trail (Exchanges w) w v := hfirst.path_ok hlookup
  have hrefused (hreply : ∀ socket, reply ≠ .getSocketIdReply 0 socket name) (hw' : w' = v) :
      Trail (Exchanges w) w w' ∧ ∀ socket v, transaction bound (.getSocketId name) true w ≠
        (.ok (.getSocketIdReply 0 socket name), v) := by
    refine ⟨hw' ▸ hpath, fun socket v hok ↦ ?_⟩
    cases hlookup.symm.trans hok
    exact hreply socket rfl
  split at h
  case h_2 hother =>
    cases h
    exact .inl (hrefused (fun socket hreply ↦ hother _ _ _ hreply) rfl)
  case h_1 result socket returnedName =>
    by_cases hresult : result ≠ 0 ∨ returnedName ≠ name
    · rw [Program.rejectIf_pos hresult] at h
      cases h
      refine .inl (hrefused (fun socket hreply ↦ ?_) rfl)
      cases hreply
      simp at hresult
    rw [Program.rejectIf_neg hresult, Program.pure_bind] at h
    obtain ⟨rfl, hname⟩ : result = 0 ∧ name = returnedName := by simpa [eq_comm] using hresult
    subst hname
    refine .inr ⟨socket, v, hlookup, hpath, ?_⟩
    -- From here on every failure is one of the second transaction, or of its reply.
    rcases Program.bind_eq_err.1 h with hregister | ⟨_, u, hregister, h⟩
    · cases hregister
    cases hregister
    have hgrown : w.history <+: (enter v socket name).history :=
      hpath.isPrefix.trans (List.prefix_append _ _)
    refine exchanges_of_err (fun reply u error u' h ↦ ?_) hgrown h
    split at h
    case h_2 =>
      cases h
      rfl
    case h_1 result _ _ maxPacketSize maxServiceSize maxCredit grantedCredit =>
      by_cases hresult : result ≠ 0
      · rw [Program.rejectIf_pos hresult] at h
        cases h
        rfl
      -- storing the result gives the channel or panics, and does not fail
      rw [Program.rejectIf_neg hresult, Program.pure_bind] at h
      rcases hlookup : u.state.channels ⟨socket, socket⟩ with _ | state
      · rw [Program.bind_run_panic (Program.atomic_run _ _ u (updateChannel_none hlookup))] at h
        cases h
      · rw [Program.bind_run_ok (Program.atomic_run _ _ u (updateChannel_pure hlookup))] at h
        cases h

end Transaction

/-! ### What the steps do to a channel -/

/-- Across the step the channel keeps its entry but for the credit, and that changes by the rules.
-/
def Recounts (channel : ChannelId) (step : Step (D4Link T) Event) : Prop :=
  ∀ state, step.before.channels channel = some state →
    ∃ credit, step.after.channels channel = some { state with credit := credit } ∧
      (credit = state.credit ∨ CreditRule channel step.event state.credit credit)

/-- A step that enters nothing under the channel, opens nothing and ends nothing. -/
structure Spares (channel : ChannelId) (w : LinkRun T) (event : Event) (after : D4Link T) :
    Prop where
  transition : Transition w event after
  service : event.IsService ∨ ∃ other, other ≠ channel ∧ event = .registered other
  route : ∀ packet, event = .wrote packet → packet.channel = .transaction
  ending : ¬ event.IsEnding

/-- While the peer asks for no end, the steps of a transaction spare every channel. -/
theorem spares_of_exchanges (h : Trail (Exchanges w₀) w w') (hquiet : ¬ HeardEnd w₀ w') :
    Trail (Spares channel) w w' := by
  induction h with
  | refl => exact .refl
  | snoc _ step ih =>
    have hearlier : ¬ HeardEnd w₀ _ := fun hheard ↦ hquiet hheard.push
    exact (ih hearlier).snoc
      ⟨step.transition, .inl step.service, step.route, fun h ↦ hearlier (step.ending h)⟩

/-- A spared channel keeps its entry but for the credit. -/
theorem Spares.entry {event : Event} {after : D4Link T} (h : Spares channel w event after) :
    (w.state.channels channel = none → after.channels channel = none) ∧
    ∀ state, w.state.channels channel = some state →
      ∃ credit, after.channels channel = some { state with credit := credit } ∧
        (credit = state.credit ∧ (channel ≠ .transaction → ¬ event.touches channel) ∨
          CreditRule channel event state.credit credit) := by
  cases h.transition.entry channel with
  | kept untouched same =>
    exact ⟨same.trans, fun state hlookup ↦
      ⟨state.credit, same.trans hlookup, .inl ⟨rfl, untouched⟩⟩⟩
  | @counted state credit rule lookup now =>
    refine ⟨fun habsent ↦ ?_, fun state' hlookup ↦ ?_⟩
    · cases habsent.symm.trans lookup
    cases hlookup.symm.trans lookup
    exact ⟨credit, now, .inr rule⟩
  | registered name label now =>
    rcases h.service with hservice | ⟨other, hother, hevent⟩
    · rw [label] at hservice
      exact hservice.elim
    · cases hevent.symm.trans label
      exact absurd rfl hother
  | opened label _ _ _ =>
    rcases h.service with hservice | ⟨other, -, hevent⟩
    · rw [label] at hservice
      exact hservice.elim
    · cases hevent.symm.trans label
  | closed label _ _ _ => exact absurd (by rw [label]; rfl) h.ending
  | removed label _ _ =>
    rcases label with rfl | rfl
    · rcases h.service with hservice | ⟨other, -, hevent⟩
      · cases hservice
      · cases hevent
    · exact absurd trivial h.ending

/-- On a service channel nothing is written, so the credit grows by what is accepted, and by the
credit of a packet that was received before. -/
theorem Spares.account {event : Event} {after : D4Link T} {v : LinkRun T} {state : ChannelState}
    (h : Spares channel v event after) (hservice : channel ≠ .transaction)
    (hlookup : v.state.channels channel = some state) :
    ∃ credit excess, after.channels channel = some { state with credit := credit } ∧
      credit.toNat + (ledgerSince channel w v).accepted =
        state.credit.toNat + (ledgerSince channel w v).accept channel event + excess ∧
      (excess = 0 ↔ ¬ CreditsStale channel w v event) := by
  obtain ⟨credit, hnow, hrule⟩ := h.entry.2 state hlookup
  -- but for the credit of a header there is no excess
  have hnone (hevent : ∀ packet, event = .credited packet → packet.channel ≠ channel) :
      ¬ CreditsStale channel w v event :=
    fun ⟨⟨packet, hpacket, hroute, _⟩, _⟩ ↦ hevent packet hpacket hroute
  rcases hrule with ⟨rfl, huntouched⟩ | hrule
  · refine ⟨_, 0, hnow, ?_, ?_⟩
    · rw [Ledger.accept_of_not_touches _ (huntouched hservice), Nat.add_zero]
    refine iff_of_true rfl (hnone ?_)
    rintro packet rfl hroute
    exact huntouched hservice hroute
  cases hrule with
  | initialization _ htransaction | termination _ htransaction => exact absurd htransaction hservice
  | send hroute _ => exact absurd (hroute.symm.trans (h.route _ rfl)) hservice
  | grant _ hsum =>
    refine ⟨credit, 0, hnow, ?_, iff_of_true rfl (hnone (by simp))⟩
    rw [Ledger.accept, if_pos rfl, hsum]
    omega
  | @header packet _ _ hroute hsum =>
    cases htaken : (ledgerSince channel w v).marks.taken with
    | false =>
      refine ⟨credit, 0, hnow, ?_, iff_of_true rfl fun hstale ↦ ?_⟩
      · rw [Ledger.accept, if_pos ⟨hroute, htaken⟩, hsum]
        omega
      · cases htaken.symm.trans hstale.2
    | true =>
      refine ⟨credit, packet.header.credit.toNat, hnow, ?_, ?_⟩
      · rw [Ledger.accept, if_neg (by simp [htaken]), hsum]
        omega
      · refine ⟨fun hzero hstale ↦ ?_, fun hquiet ↦ ?_⟩
        · obtain ⟨⟨packet', hpacket, -, hcredit⟩, -⟩ := hstale
          cases hpacket
          exact hcredit hzero
        · by_contra hcredit
          exact hquiet ⟨⟨packet, rfl, hroute, hcredit⟩, htaken⟩

/-- Adding the credit of a header changes the entry of the channel, unless it is zero. -/
theorem Transition.credited_changes_iff {packet : Packet} {after : D4Link T}
    (h : Transition w (.credited packet) after) :
    after.channels channel ≠ w.state.channels channel ↔
      packet.channel = channel ∧ packet.header.credit.toNat ≠ 0 := by
  cases h with
  | marked h | transported h => exact h.elim
  | @credited _ state credit _ lookup _ sum _ =>
    have hsum : credit.toNat = state.credit.toNat + packet.header.credit.toNat :=
      UInt16.toNat_of_checkedAdd sum
    by_cases hroute : packet.channel = channel
    · subst hroute
      rw [setChannel_channels_self, lookup, and_iff_right rfl]
      refine not_congr ⟨fun hsame ↦ ?_, fun hzero ↦ ?_⟩
      · have hcredit : credit = state.credit := congrArg ChannelState.credit (Option.some.inj hsame)
        rw [hcredit] at hsum
        omega
      · rw [hzero, Nat.add_zero] at hsum
        rw [UInt16.toNat_inj.1 hsum]
    · rw [setChannel_channels_of_ne _ _ (Ne.symm hroute)]
      exact iff_of_false (fun h ↦ h rfl) fun h ↦ hroute h.1

/-- A step of a call credits a channel stale exactly if it changes the entry for a packet that is
not fresh. -/
theorem not_creditsStale_iff {v : LinkRun T} {event : Event} {after : D4Link T}
    (h : Transition v event after) : ¬ CreditsStale channel w v event ↔
      ∀ packet, event = .credited packet → after.channels channel ≠ v.state.channels channel →
        (ledgerSince channel w v).marks.taken = false := by
  constructor
  · rintro hfresh packet rfl hchanged
    obtain ⟨hroute, hcredit⟩ := h.credited_changes_iff.1 hchanged
    exact Bool.eq_false_iff.2 fun htaken ↦ hfresh ⟨⟨packet, rfl, hroute, hcredit⟩, htaken⟩
  · rintro hall ⟨⟨packet, rfl, hroute, hcredit⟩, htaken⟩
    cases (hall packet rfl (h.credited_changes_iff.2 ⟨hroute, hcredit⟩)).symm.trans htaken

/-- What has become of a spared channel since the record `w`. -/
structure Spared (channel : ChannelId) (w w' : LinkRun T) : Prop where
  absent : w.state.channels channel = none → w'.state.channels channel = none
  kept : ∀ state, w.state.channels channel = some state →
    ∃ credit, w'.state.channels channel = some { state with credit := credit }
  recounts : ∀ step ∈ w'.since w, Recounts channel step

/-- By induction on the steps. -/
theorem spared_of_trail (h : Trail (Spares channel) w w') : Spared channel w w' := by
  induction h with
  | refl =>
    refine ⟨id, fun state hlookup ↦ ⟨state.credit, hlookup⟩, ?_⟩
    rw [Recorded.since_self]
    exact fun step hmem ↦ absurd hmem List.not_mem_nil
  | @snoc v event after path step ih =>
    obtain ⟨hnone, hsome⟩ := step.entry
    refine ⟨fun habsent ↦ hnone (ih.absent habsent), fun state hlookup ↦ ?_, fun last hmem ↦ ?_⟩
    · obtain ⟨credit, hnow⟩ := ih.kept state hlookup
      obtain ⟨credit', hafter, -⟩ := hsome _ hnow
      exact ⟨credit', hafter⟩
    · rw [Recorded.since_push path.isPrefix, List.mem_append, List.mem_singleton] at hmem
      rcases hmem with hmem | rfl
      · exact ih.recounts last hmem
      · intro state hlookup
        obtain ⟨credit, hafter, hrule⟩ := hsome state hlookup
        exact ⟨credit, hafter, hrule.imp_left And.left⟩

/-- **The account of a spared channel.** Its credit has grown by what was received, and by nothing
else exactly if no step has added the credit of a packet that was received before. By induction on
the steps, each with its own excess. -/
theorem account_of_trail {state : ChannelState} (h : Trail (Spares channel) w w')
    (hservice : channel ≠ .transaction) (hlookup : w.state.channels channel = some state) :
    ∃ credit excess, w'.state.channels channel = some { state with credit := credit } ∧
      credit.toNat = state.credit.toNat + (ledgerSince channel w w').accepted + excess ∧
      (excess = 0 ↔ ∀ v event after, w.history <+: v.history → w'.Stepped v event after →
        ¬ CreditsStale channel w v event) := by
  induction h with
  | refl =>
    refine ⟨state.credit, 0, hlookup, by rw [ledgerSince_self]; rfl, iff_of_true rfl ?_⟩
    exact fun v event after hgrown hv ↦ absurd hv (Recorded.not_stepped_of_isPrefix hgrown)
  | @snoc v event after path step ih =>
    obtain ⟨credit, excess, hnow, hsum, hexcess⟩ := ih
    obtain ⟨credit', excess', hafter, hsum', hexcess'⟩ := step.account (w := w) hservice hnow
    refine ⟨credit', excess + excess', hafter, ?_, ?_⟩
    · rw [ledgerSince_push path.isPrefix]
      show credit'.toNat = _ + (ledgerSince channel w v).accept channel event + _
      have hcredit : ({ state with credit := credit } : ChannelState).credit = credit := rfl
      rw [hcredit] at hsum'
      omega
    · rw [Nat.add_eq_zero_iff, hexcess, hexcess']
      simp only [Recorded.stepped_push_iff]
      constructor
      · rintro ⟨hall, hlast⟩ u event' after' hgrown (hu | ⟨rfl, rfl, -⟩)
        · exact hall u event' after' hgrown hu
        · exact hlast
      · exact fun hall ↦ ⟨fun u event' after' hgrown hu ↦ hall u event' after' hgrown (.inl hu),
          hall v event after path.isPrefix (.inr ⟨rfl, rfl, rfl⟩)⟩

/-! ### Failed openings -/

/-- **The other channels were left alone**: every channel that was open is spared, so it is still
open, with its limits, and only counted on; a service channel has the credit that was received
meanwhile, and no other, besides its own; the transaction channel, from which the call pays for what
it writes, was given no credit for what had been received before; and the table holds no channel it
did not hold before. -/
structure LeftAlone (w w' : LinkRun T) : Prop where
  spared : ∀ channel state, w.state.channels channel = some state → state.isOpen = true →
    Spared channel w w'
  received : ∀ channel state, w.state.channels channel = some state → state.isOpen = true →
    channel ≠ .transaction → ∀ state', w'.state.channels channel = some state' →
      state'.credit.toNat = state.credit.toNat + (ledgerSince channel w w').accepted
  transaction : ∀ state, w.state.channels .transaction = some state → state.isOpen = true →
    ∀ v packet after, w.history <+: v.history → w'.Stepped v (.credited packet) after →
      after.channels .transaction ≠ v.state.channels .transaction →
        (ledgerSince .transaction w v).marks.taken = false
  absent : ∀ channel, w.state.channels channel = none → w'.state.channels channel = none

/-- No credit is added to a channel that was open in `w` but for a packet that has arrived since,
and has not been put back. -/
def CreditsFresh (w w' : LinkRun T) : Prop :=
  ∀ channel state, w.state.channels channel = some state → state.isOpen = true →
    ∀ v event after, w.history <+: v.history → w'.Stepped v event after →
      ¬ CreditsStale channel w v event

/-- Where all steps spare the channels that are there, these were left alone exactly if no credit
was added to them but for fresh packets. -/
theorem leftAlone_iff_creditsFresh
    (hspares : ∀ channel state, w.state.channels channel = some state → state.isOpen = true →
      Trail (Spares channel) w w')
    (habsent : ∀ channel, w.state.channels channel = none → w'.state.channels channel = none) :
    LeftAlone w w' ↔ CreditsFresh w w' := by
  constructor
  · intro halone channel state hlookup hopen
    by_cases hservice : channel = .transaction
    · subst hservice
      intro v event after hgrown hv
      have hstep := (hspares _ state hlookup hopen).stepped_since hgrown hv
      refine (not_creditsStale_iff hstep.transition).2 ?_
      rintro packet rfl
      exact halone.transaction state hlookup hopen v packet after hgrown hv
    obtain ⟨credit, excess, hnow, hsum, hexcess⟩ :=
      account_of_trail (hspares channel state hlookup hopen) hservice hlookup
    have hreceived : credit.toNat = _ := halone.received channel state hlookup hopen hservice _ hnow
    exact hexcess.1 (by omega)
  · refine fun hfresh ↦ ⟨fun channel state hlookup hopen ↦
      spared_of_trail (hspares channel state hlookup hopen), ?_, ?_, habsent⟩
    · intro channel state hlookup hopen hservice state' hnow'
      obtain ⟨credit, excess, hnow, hsum, hexcess⟩ :=
        account_of_trail (hspares channel state hlookup hopen) hservice hlookup
      cases hnow'.symm.trans hnow
      have hnone : excess = 0 := hexcess.2 (hfresh channel state hlookup hopen)
      rw [hnone, Nat.add_zero] at hsum
      exact hsum
    · intro state hlookup hopen v packet after hgrown hv
      have hstep := (hspares _ state hlookup hopen).stepped_since hgrown hv
      exact (not_creditsStale_iff hstep.transition).1
        (hfresh .transaction state hlookup hopen v _ after hgrown hv) packet rfl

variable [ByteTransport T]

/-- **When a failed opening leaves the other channels alone.** The peer asking for no end meanwhile,
it does so exactly if the answer to the lookup, where it is a success, names a socket whose channel
was in the table and not open, and if no credit is added to an open channel but for packets that
arrive meanwhile, once each. -/
theorem openService_leftAlone_iff {bound : Nat} {name : String} {error : D4Error}
    (h : openService bound name w = (.err error, w')) (hquiet : ¬ HeardEnd w w') :
    LeftAlone w w' ↔ (∀ socket v, transaction bound (.getSocketId name) true w =
        (.ok (.getSocketIdReply 0 socket name), v) →
      ∃ state, w.state.channels ⟨socket, socket⟩ = some state ∧ state.isOpen = false) ∧
      CreditsFresh w w' := by
  rcases openService_err h with ⟨hpath, hrefused⟩ | ⟨socket, v, hlookup, hpath, hpath'⟩
  · have hspares (channel : ChannelId) : Trail (Spares channel) w w' :=
      spares_of_exchanges hpath hquiet
    rw [leftAlone_iff_creditsFresh (fun channel _ _ _ ↦ hspares channel)
      fun channel ↦ (spared_of_trail (hspares channel)).absent]
    exact (and_iff_right fun socket v hok ↦ absurd hok (hrefused socket v)).symm
  have hbefore : ¬ HeardEnd w v := fun hheard ↦ hquiet (hheard.push.of_trail hpath')
  -- The entry of the named channel is new, and not open.
  have hentered : Spared ⟨socket, socket⟩ (enter v socket name) w' :=
    spared_of_trail (spares_of_exchanges hpath' hquiet)
  obtain ⟨credit, hpending⟩ := hentered.kept _ (setChannel_channels_self _ _ _)
  -- Every other channel is spared all the way.
  have hother (channel : ChannelId) (hne : ⟨socket, socket⟩ ≠ channel) :
      Trail (Spares channel) w w' := by
    refine ((spares_of_exchanges hpath hbefore).snoc ?_).trans (spares_of_exchanges hpath' hquiet)
    exact ⟨.registered name, .inr ⟨_, hne, rfl⟩, by simp, id⟩
  have hnamed (halone : LeftAlone w w') : ∃ state,
      w.state.channels ⟨socket, socket⟩ = some state ∧ state.isOpen = false := by
    rcases hentry : w.state.channels ⟨socket, socket⟩ with _ | state
    · cases (halone.absent _ hentry).symm.trans hpending
    refine ⟨state, rfl, ?_⟩
    by_contra hopen
    rw [Bool.not_eq_false] at hopen
    obtain ⟨credit', hkept⟩ := (halone.spared _ state hentry hopen).kept state hentry
    rw [hpending, Option.some.injEq, ChannelState.mk.injEq] at hkept
    cases hopen.symm.trans hkept.2.2.2.2.2.symm
  have hiff (hshut : ∃ state, w.state.channels ⟨socket, socket⟩ = some state ∧
      state.isOpen = false) : LeftAlone w w' ↔ CreditsFresh w w' := by
    obtain ⟨named, hentry, hshut⟩ := hshut
    refine leftAlone_iff_creditsFresh (fun channel state hstate hopen ↦ hother channel ?_)
      fun channel hnone ↦ (spared_of_trail (hother channel ?_)).absent hnone
    · rintro rfl
      cases hentry.symm.trans hstate
      cases hopen.symm.trans hshut
    · rintro rfl
      cases hnone.symm.trans hentry
  constructor
  · intro halone
    refine ⟨fun socket' v' hok ↦ ?_, (hiff (hnamed halone)).1 halone⟩
    cases hlookup.symm.trans hok
    exact hnamed halone
  · rintro ⟨hshut, hfresh⟩
    exact (hiff (hshut socket v hlookup)).2 hfresh

/-- The peer refuses the lookup, and gives no credit. -/
def refusesLookup : StreamTransport :=
  .sending [StreamTransport.packet 0 0 1 [0x80, 0, 0x20],
    StreamTransport.packet 0 0 0 [0x89, 0x0a, 0]]

theorem openService_leftAlone_of_refused :
    let w := (runNew [⟨.initializeLink, 9⟩] refusesLookup).2
    let run := openService 9 "EPSON-DATA" w
    run.1 = .err (.deviceRejected 0x0a) ∧ LeftAlone w run.2 := by
  intro w run
  have hfailed : run.1 = .err (.deviceRejected 0x0a) := by decide +kernel
  have hrun : openService 9 "EPSON-DATA" w = (.err (.deviceRejected 0x0a), run.2) :=
    Prod.ext hfailed rfl
  have hreply : (transaction 9 (.getSocketId "EPSON-DATA") true w).1 =
      .ok (.getSocketIdReply 0x0a 0 "") := by decide +kernel
  have hcredited : ∀ packet ∈ (run.2.since w).filterMap (·.event.creditedPacket?),
      packet.header.credit = 0 := by decide +kernel
  refine ⟨hfailed,
    (openService_leftAlone_iff hrun (by decide +kernel)).2 ⟨fun socket v hok ↦ ?_, ?_⟩⟩
  · rw [hok] at hreply
    cases hreply
  · rintro channel state - - v event after ⟨earlier, hv⟩ ⟨future, hsplit⟩
      ⟨⟨packet, rfl, -, hcredit⟩, -⟩
    have hmem : (⟨v.state, .credited packet, after⟩ : Step _ _) ∈ run.2.since w := by
      rw [Recorded.since, hsplit, ← hv]
      simp
    exact hcredit (congrArg UInt8.toNat
      (hcredited packet (List.mem_filterMap.2 ⟨_, hmem, rfl⟩)))

/-- The peer opens a service on socket 2, and names that socket again for another service, which it
then refuses to open. -/
def namesOpenSocket : StreamTransport :=
  .sending [StreamTransport.packet 0 0 1 [0x80, 0, 0x20],
    StreamTransport.packet 0 0 1 [0x89, 0, 2, 69, 80, 83, 79, 78, 45, 67, 84, 82, 76],
    StreamTransport.packet 0 0 1 [0x81, 0, 2, 2, 1, 0, 1, 0, 0, 0, 0, 0],
    StreamTransport.packet 0 0 1 [0x89, 0, 2, 69, 80, 83, 79, 78, 45, 68, 65, 84, 65],
    StreamTransport.packet 0 0 1 [0x81, 0x0d, 2, 2, 0, 0, 0, 0, 0, 0, 0, 0]]

theorem failed_opening_shuts_open_channel :
    let w := (runNew [⟨.initializeLink, 9⟩, ⟨.openService "EPSON-CTRL", 9⟩] namesOpenSocket).2
    let run := openService 9 "EPSON-DATA" w
    run.1 = .err (.deviceRejected 0x0d) ∧ ¬ HeardEnd w run.2 ∧
      w.state.channels ⟨2, 2⟩ = some ⟨"EPSON-CTRL", 0, 0x100, 0x100, 0, true⟩ ∧
      run.2.state.channels ⟨2, 2⟩ = some ⟨"EPSON-DATA", 0, 0x100, 0x100, 0, false⟩ ∧
      ¬ LeftAlone w run.2 := by
  intro w run
  have hopen : w.state.channels ⟨2, 2⟩ = some ⟨"EPSON-CTRL", 0, 0x100, 0x100, 0, true⟩ := by
    decide +kernel
  have hshut : run.2.state.channels ⟨2, 2⟩ = some ⟨"EPSON-DATA", 0, 0x100, 0x100, 0, false⟩ := by
    decide +kernel
  refine ⟨by decide +kernel, by decide +kernel, hopen, hshut, fun halone ↦ ?_⟩
  obtain ⟨credit, hkept⟩ := (halone.spared _ _ hopen rfl).kept _ hopen
  simp [hshut] at hkept

/-- The peer opens a service with a large credit, and answers a lookup late, behind a data packet
with more of it. -/
def sendsCreditBeforeReply : StreamTransport :=
  .sending [StreamTransport.packet 0 0 1 [0x80, 0, 0x20],
    StreamTransport.packet 0 0 1 [0x89, 0, 2, 69, 80, 83, 79, 78, 45, 67, 84, 82, 76],
    StreamTransport.packet 0 0 1 [0x81, 0, 2, 2, 1, 0, 1, 0, 0, 0, 0xfe, 0],
    StreamTransport.packet 2 2 255 [0x52] ++
      StreamTransport.packet 0 0 1 [0x8a, 0, 2, 69, 80, 83, 79, 78, 45, 67, 84, 82, 76]]

/-- A packet that was put back before the call is credited again until the sum overflows, and
nothing is read during the call. -/
example :
    let w := (runNew [⟨.initializeLink, 9⟩, ⟨.openService "EPSON-CTRL", 9⟩, ⟨.serviceName 2, 9⟩]
      sendsCreditBeforeReply).2
    let run := openService 9 "EPSON-DATA" w
    run.1 = .err (.creditOverflow ⟨2, 2⟩) ∧ ¬ LeftAlone w run.2 := by
  intro w run
  have hbefore : w.state.channels ⟨2, 2⟩ = some ⟨"EPSON-CTRL", 0xfeff, 0x100, 0x100, 0, true⟩ := by
    decide +kernel
  have hafter : run.2.state.channels ⟨2, 2⟩ =
      some ⟨"EPSON-CTRL", 0xfffe, 0x100, 0x100, 0, true⟩ := by
    decide +kernel
  have hreceived : (ledgerSince ⟨2, 2⟩ w run.2).accepted = 0 := by decide +kernel
  refine ⟨by decide +kernel, fun halone ↦ ?_⟩
  have hcredit := halone.received _ _ hbefore rfl (by decide) _ hafter
  rw [hreceived] at hcredit
  revert hcredit
  decide

end D4Link

end Reink
