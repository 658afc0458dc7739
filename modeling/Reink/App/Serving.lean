import Reink.App.Dialogue
import Reink.Core.Request

/-!
# The control service in the dialogue

The open control channel between two turns. A read request finds one credit on it or asks for one,
spends it, and is answered by a record; the credit that the record brings back is what the printer
says. So the two sides agree on the credit after any number of requests, however it came.
-/

namespace Reink

open D4Link (AtRest)
open Program (atomic bind_run_ok)

variable {p : Printer}

/-- The entry of the control channel with the given credit. -/
def controlState (p : Printer) (credit : UInt16) : ChannelState :=
  ⟨"EPSON-CTRL", credit, p.maxPacketSize, p.maxServiceSize, p.maxCredit, true⟩

section Service

variable {T : Type} [ByteTransport T] {peer : ConformingPeer p T} {w : LinkRun T} {bound : Nat}

/-- The host between two turns with the control channel open. -/
structure Serving (peer : ConformingPeer p T) (credit : UInt16) (link : D4Link T) : Prop where
  talking : Talking peer (.serving credit) link
  control : link.channels p.channel = some (controlState p credit)
  credit_le : credit ≤ 1

/-! ### Opening -/

/-- **The control service is opened**, with the credit that the printer grants. -/
theorem Talking.openService (h : Talking peer .active w.state) (hbound : 65536 ≤ bound) :
    ∃ credit v, D4Link.openService bound "EPSON-CTRL" w = (.ok p.channel, v) ∧
      Serving peer credit v.state := by
  obtain ⟨stage₁, reply₁, v₁, hanswers₁, hrun₁, htalking₁, -⟩ :=
    h.command .getSocketId (by decide) hbound
  cases hanswers₁
  -- between the two commands the channel is entered, which the dialogue does not notice
  set v₂ := v₁.push (.registered p.channel) (v₁.state.setChannel p.channel
    ⟨"EPSON-CTRL", 0, 0x100, 0x100, 0, false⟩) with hv₂
  have hregister : atomic (fun _ ↦ .registered p.channel) (Program.modify fun link ↦
      link.setChannel p.channel ⟨"EPSON-CTRL", 0, 0x100, 0x100, 0, false⟩) v₁ =
        ((.ok (), v₂) : Outcome D4Error Unit × _) :=
    Program.atomic_run _ _ v₁ (Program.modify_run _ _)
  have htalking₂ : Talking peer .active v₂.state := htalking₁.setChannel p.channel_ne
  have hopen : p.Answers .active (.openChannel p.socket p.socket 0x100 0x100 0 (some 0)) _ _ :=
    .openChannel (show (0 : UInt16) ≤ 1 by decide)
  obtain ⟨stage₃, reply₃, v₃, hanswers₃, hrun₃, htalking₃, hkept₃⟩ :=
    htalking₂.command hopen (by decide) hbound
  have hlookup : v₃.state.channels p.channel =
      some ⟨"EPSON-CTRL", 0, 0x100, 0x100, 0, false⟩ := by
    rw [hkept₃ _ p.channel_ne, hv₂, Recorded.push_state, D4Link.setChannel_channels_self]
  cases hanswers₃ with
  | @openChannel _ _ _ granted _ hgranted =>
    -- the reply of revision 1.0 carries no credit
    set credit : UInt16 := if p.revision = .v10 then 0 else granted with hcredit
    refine ⟨credit, v₃.push (.opened p.channel p.maxPacketSize p.maxServiceSize p.maxCredit credit)
      (v₃.state.setChannel p.channel (controlState p credit)), ?_,
      htalking₃.setChannel p.channel_ne, D4Link.setChannel_channels_self _ _ _, ?_⟩
    · rw [D4Link.openService, bind_run_ok hrun₁]
      simp only [TransactionMessage.carried]
      rw [Program.rejectIf_neg (by simp), Program.pure_bind]
      refine (bind_run_ok hregister).trans ((bind_run_ok hrun₃).trans ?_)
      simp only [TransactionMessage.carried]
      rw [Program.rejectIf_neg (by simp), Program.pure_bind]
      exact bind_run_ok (Program.atomic_run _ _ v₃ (D4Link.updateChannel_pure hlookup))
    · rw [hcredit]
      split
      · decide
      · exact hgranted

/-! ### Requests -/

/-- The printer grants the credit that it is asked for. -/
theorem Serving.ensureChannelCredit (h : Serving peer 0 w.state) (hbound : 65536 ≤ bound) :
    ∃ v, D4Link.ensureChannelCredit bound p.channel w = (.ok (), v) ∧ Serving peer 1 v.state := by
  have hasked : p.Answers (.serving 0) (.creditRequest p.socket p.socket p.maxCredit) _ _ :=
    .creditRequest
  obtain ⟨stage, reply, v, hanswers, hrun, htalking, hkept⟩ :=
    h.talking.command hasked (by decide) hbound
  have hlookup : v.state.channels p.channel = some (controlState p 0) := by
    rw [hkept _ p.channel_ne, h.control]
  cases hanswers
  exact ⟨_, D4Link.ensureChannelCredit_granted h.control rfl hrun hlookup
    (UInt16.checkedAdd_zero_left 1) (by decide), htalking.setChannel p.channel_ne,
    D4Link.setChannel_channels_self _ _ _, by decide⟩

/-- The printer can answer a read request. -/
theorem Printer.exists_exchange {address : UInt16}
    (haddress : p.spec.readAddressWidth = .one → address ≤ 0xff) :
    ∃ stage sent, p.Exchange (.serving 1) (.read address) stage sent := by
  set response := record p.spec.readAddressWidth ⟨address, p.memory address⟩ with hresponse
  have hlength : response.length = 10 := length_record _ _
  obtain ⟨answer, hanswer⟩ := Packet.exists_new p.socket p.socket 0
    (show headerLength + response.length < 65536 by rw [hlength]; decide)
  obtain ⟨-, -, -, -, hheader, -⟩ := packet_of_new hanswer
  have hfits : answer.header.length ≤ p.maxServiceSize := by
    rw [UInt16.le_iff_toNat_le, hheader, hlength]
    exact p.reply_fits
  exact ⟨_, _, .record (by decide) (holdsRecord_record haddress) hanswer hfits⟩

/-- A request with the credit at hand is answered by the record of the memory. -/
theorem Serving.request_of_credit {address : UInt16} {request : List UInt8}
    (h : Serving peer 1 w.state) (hencode : encodeEepromRead p.spec address = .ok request)
    (hlength : request.length = 9 + p.spec.readAddressWidth.byteLen)
    (haddress : p.spec.readAddressWidth = .one → address ≤ 0xff) (hbound : 65536 ≤ bound) :
    ∃ credit response v, D4Link.request bound p.channel request w = (.ok response, v) ∧
      HoldsRecord p.spec.readAddressWidth ⟨address, p.memory address⟩ response ∧
      Serving peer credit v.state := by
  have hsize : headerLength + request.length ≤ p.maxPacketSize.toNat := by
    rw [hlength, ← Nat.add_assoc]
    exact p.request_fits
  obtain ⟨packet, hpacket⟩ := Packet.exists_new p.socket p.socket 1
    (Nat.lt_of_le_of_lt hsize p.maxPacketSize.toNat_lt)
  -- the printer has some answer, and which one it gives is its choice
  obtain ⟨stage₀, sent₀, hexpected⟩ := Printer.exists_exchange haddress
  rw [← h.talking.stage] at hexpected
  obtain ⟨target, hwrite, hexchange⟩ :=
    peer.answers h.talking.rest.outbox (.read hencode hpacket) hexpected
  rw [h.talking.stage] at hexchange
  generalize hsent : peer.outbox target = sent at hexchange
  generalize hnext : peer.stage target = stage at hexchange
  cases hexchange with
  | @record _ response answer piggyback control hpiggyback hrecord hanswer hfits =>
    obtain ⟨hwellFormed, hroute, hpayload, hcredit, -, hshort⟩ := Printer.packet_of_new hanswer
    have hspent : (controlState p 1).credit.checkedSub 1 = some 0 :=
      show UInt16.checkedSub 1 1 = some 0 by decide
    have hsum : UInt16.checkedAdd 0 answer.header.credit.toUInt16 = some piggyback.toUInt16 := by
      rw [hcredit, UInt16.checkedAdd_zero_left]
    obtain ⟨v, target', hrun, hstate, hstage, hrest⟩ := D4Link.request_prompt peer.toPromptPeer
      h.talking.rest h.talking.conversation p.channel_ne h.control rfl hspent hsize hpacket hwrite
      hsent hwellFormed hroute hfits hsum (show answer.encode.length < bound by omega)
    rw [hpayload] at hrun
    refine ⟨piggyback.toUInt16, response, v, hrun, hrecord, ⟨hrest, ?_, ?_, ?_, ?_⟩, ?_, ?_⟩
    · rw [hstate]
      exact hstage.trans hnext
    · rw [hstate]
      exact h.talking.revision
    · rw [hstate]
      exact h.talking.conversation
    · rw [hstate, D4Link.setChannel_channels_of_ne _ _ p.channel_ne.symm]
      exact h.talking.transaction
    · rw [hstate, D4Link.setChannel_channels_self]
      rfl
    · rw [UInt16.le_iff_toNat_le, UInt8.toNat_toUInt16]
      exact UInt8.le_iff_toNat_le.1 hpiggyback

/-- **A read request is answered by the record of the memory**, whether the credit for it is there
or has to be asked for. -/
theorem Serving.request {credit : UInt16} {address : UInt16} {request : List UInt8}
    (h : Serving peer credit w.state) (hencode : encodeEepromRead p.spec address = .ok request)
    (hlength : request.length = 9 + p.spec.readAddressWidth.byteLen)
    (haddress : p.spec.readAddressWidth = .one → address ≤ 0xff) (hbound : 65536 ≤ bound) :
    ∃ credit' response v, D4Link.request bound p.channel request w = (.ok response, v) ∧
      HoldsRecord p.spec.readAddressWidth ⟨address, p.memory address⟩ response ∧
      Serving peer credit' v.state := by
  have hcases : credit = 0 ∨ credit = 1 := by
    have hle := UInt16.le_iff_toNat_le.1 h.credit_le
    simp only [← UInt16.toNat_inj, UInt16.reduceToNat] at hle ⊢
    omega
  rcases hcases with rfl | rfl
  · obtain ⟨v, hensure, hserving⟩ := h.ensureChannelCredit hbound
    rw [D4Link.request_of_ensured h.talking.conversation hensure hserving.talking.conversation
      hserving.control (show (1 : UInt16) > 0 by decide)]
    exact hserving.request_of_credit hencode hlength haddress hbound
  · exact h.request_of_credit hencode hlength haddress hbound

/-! ### Closing -/

/-- **The channel is closed and the conversation ended.** -/
theorem Serving.closeChannel {credit : UInt16} (h : Serving peer credit w.state)
    (hbound : 65536 ≤ bound) :
    ∃ v, D4Link.closeChannel bound p.channel w = (.ok (), v) ∧ Talking peer .active v.state := by
  have hasked : p.Answers (.serving credit) (.closeChannel p.socket p.socket) _ _ := .closeChannel
  obtain ⟨stage, reply, v, hanswers, hrun, htalking, -⟩ :=
    h.talking.command hasked nofun hbound
  have hopen : (w.state.channels p.channel).any (·.isOpen) = true := by
    rw [h.control]
    rfl
  cases hanswers
  refine ⟨v.push (.closed p.channel .host)
    { v.state with channels := Function.update v.state.channels p.channel none }, ?_, ?_⟩
  · rw [D4Link.closeChannel, Program.rejectIf_neg p.channel_ne, Program.pure_bind,
      bind_run_ok (Program.observe_run w), Program.rejectIf_neg (not_not.2 hopen),
      Program.pure_bind]
    refine (bind_run_ok hrun).trans ?_
    simp only [TransactionMessage.carried]
    rw [Program.rejectIf_neg (by simp [Printer.channel]), Program.pure_bind]
    exact Program.atomic_run _ _ v (Program.modify_run _ _)
  · refine ⟨⟨htalking.rest.outbox, htalking.rest.received, htalking.rest.decoder⟩, htalking.stage,
      htalking.revision, htalking.conversation, ?_⟩
    show Function.update v.state.channels p.channel none .transaction = _
    rw [Function.update_of_ne p.channel_ne.symm, htalking.transaction]

/-- **The conversation is ended**, on both sides. -/
theorem Talking.exit (h : Talking peer .active w.state) (hbound : 65536 ≤ bound) :
    ∃ v, D4Link.exit bound w = (.ok (), v) ∧ v.state.conversation = .terminated ∧
      peer.stage v.state.target = .ended := by
  set v₁ := w.push .exitRequested { w.state with exitRequested := true } with hv₁
  have hrequested : atomic (fun _ ↦ .exitRequested) (Program.modify fun link : D4Link T ↦
      { link with exitRequested := true }) w = ((.ok (), v₁) : Outcome D4Error Unit × _) :=
    Program.atomic_run _ _ w (Program.modify_run _ _)
  have h₁ : Talking peer .active v₁.state :=
    ⟨⟨h.rest.outbox, h.rest.received, h.rest.decoder⟩, h.stage, h.revision, h.conversation,
      h.transaction⟩
  obtain ⟨stage, reply, v, hanswers, hrun, htalking, -⟩ := h₁.command .exit (by decide) hbound
  cases hanswers
  refine ⟨v.push .terminated (v.state.ended (transactionState 1)), ?_, rfl, htalking.stage⟩
  rw [D4Link.exit, bind_run_ok (D4Link.requireActiveConversation_of_active h.conversation),
    bind_run_ok hrequested]
  refine (bind_run_ok hrun).trans ?_
  simp only [TransactionMessage.carried]
  rw [if_pos trivial]
  exact Program.atomic_run _ _ v (D4Link.terminateConversation_run htalking.transaction)

end Service

end Reink
