import Reink.App.Printer

/-!
# The link in the dialogue

The host's side of each turn of the dialogue. `Talking` is the state between two turns: nothing is
pending, the conversation is active in the printer's revision, and the transaction channel has its
one credit. Every command of the dialogue leads from there to there, whatever the printer chooses.
-/

namespace Reink

open D4Link (AtRest IsReply)
open Program (atomic bind_run_ok)
open Printer (Stage)

variable {p : Printer}

/-! ### Replies -/

namespace Printer

/-- A packet that is built around a payload has its length and the given credit. -/
theorem packet_of_new {peerSocket sourceSocket credit control : UInt8} {payload : List UInt8}
    {packet : Packet}
    (h : Packet.new peerSocket sourceSocket payload credit control = .ok packet) :
    packet.WellFormed ∧ packet.channel = ⟨peerSocket, sourceSocket⟩ ∧ packet.payload = payload ∧
      packet.header.credit = credit ∧ packet.header.length.toNat = headerLength + payload.length ∧
      packet.encode.length < 65536 := by
  obtain ⟨hwellFormed, hchannel, rfl, hcredit⟩ := Packet.of_new h
  refine ⟨hwellFormed, ?_, rfl, hcredit, hwellFormed.length, ?_⟩
  · exact ChannelId.mk.injEq .. ▸ Prod.mk.inj hchannel
  · rw [Packet.length_encode, ← hwellFormed.length]
    exact packet.header.length.toNat_lt

/-- The packet of a reply is one that the host takes as the reply, on the limit of the transaction
channel. -/
theorem isReply_of_encode {message reply : TransactionMessage} {revision : ProtocolRevision}
    {payload : List UInt8} {packet : Packet} {credit control : UInt8}
    (hencode : reply.encode revision = .ok payload)
    (hpacket : Packet.new 0 0 payload credit control = .ok packet)
    (hcode : (reply.carried revision).code = message.replyCode)
    (hreply : 0x80 ≤ message.replyCode) :
    IsReply revision message (reply.carried revision) packet ∧ packet.header.length ≤ 64 := by
  obtain ⟨hwellFormed, hchannel, hpayload, -, hlength, -⟩ := packet_of_new hpacket
  refine ⟨⟨hwellFormed, hchannel, ?_, ?_, hcode⟩, ?_⟩
  · rw [hpayload]
    exact TransactionMessage.decode_encode hencode
  · rw [TransactionMessage.isCommand, hcode]
    exact decide_eq_false (UInt8.not_lt.2 hreply)
  · rw [UInt16.le_iff_toNat_le, hlength]
    exact TransactionMessage.length_of_encode hencode

namespace Answers

variable {stage stage' : Stage} {message reply : TransactionMessage}

/-- Every reply has the code of one to its command. -/
theorem code (h : p.Answers stage message stage' reply) (revision : ProtocolRevision) :
    (reply.carried revision).code = message.replyCode ∧ 0x80 ≤ message.replyCode := by
  cases h <;> simp only [TransactionMessage.replyCode, TransactionMessage.code,
    TransactionMessage.carried] <;> decide

/-- Every command and every reply of the dialogue can be encoded. -/
theorem encodes (h : p.Answers stage message stage' reply) (revision : ProtocolRevision) :
    (∃ payload, message.encode revision = .ok payload) ∧
      ∃ payload, reply.encode revision = .ok payload := by
  cases h <;> cases revision <;> exact ⟨⟨_, rfl⟩, ⟨_, rfl⟩⟩

/-- What can be answered is answered by a packet. -/
theorem exchange (h : p.Answers stage message stage' reply) :
    ∃ sent, p.Exchange stage (.transact message) stage' sent := by
  obtain ⟨-, payload, hencode⟩ := h.encodes p.revision
  obtain ⟨packet, hpacket⟩ := Packet.exists_new 0 0 1
    (Nat.lt_of_le_of_lt (TransactionMessage.length_of_encode hencode) (by decide))
  exact ⟨_, .answer h hencode hpacket⟩

end Answers

namespace Exchange

variable {stage' : Stage} {sent : List UInt8}

/-- What the printer sends when its own revision is offered. -/
theorem of_init (h : p.Exchange .entered (.transact (.init p.revision)) stage' sent) :
    stage' = .active ∧ ∃ replyPayload answer control, sent = Packet.encode answer ∧
      (TransactionMessage.initReply 0 p.revision).encode p.revision = .ok replyPayload ∧
      Packet.new 0 0 replyPayload 1 control = .ok answer := by
  generalize hmessage : TransactionMessage.init p.revision = message at h
  cases h with
  | decline hrevision =>
    exact absurd (hrevision.symm.trans (TransactionMessage.init.inj hmessage)) (by decide)
  | answer hanswers hencode hpacket =>
    cases hanswers with
    | init => exact ⟨rfl, _, _, _, rfl, hencode, hpacket⟩

/-- What a printer of revision 1.0 sends when revision 2.0 is offered. -/
theorem of_declined (h : p.Exchange .entered (.transact (.init .v20)) stage' sent)
    (hrevision : p.revision = .v10) :
    stage' = .entered ∧ ∃ offered added replyPayload answer control, sent = Packet.encode answer ∧
      (TransactionMessage.initReply 2 offered).encode p.revision = .ok replyPayload ∧
      Packet.new 0 0 replyPayload added control = .ok answer := by
  generalize hmessage : TransactionMessage.init .v20 = message at h
  cases h with
  | decline _ hencode hpacket => exact ⟨rfl, _, _, _, _, _, rfl, hencode, hpacket⟩
  | answer hanswers =>
    cases hanswers with
    | init => exact absurd ((TransactionMessage.init.inj hmessage).trans hrevision) (by decide)

end Exchange

end Printer

/-! ### Commands -/

/-- A command that the printer can answer at this stage is sent, and answered. -/
theorem ConformingPeer.answers_command {T : Type} [ByteTransport T] (peer : ConformingPeer p T)
    {t : T} {message : TransactionMessage} {payload : List UInt8} (houtbox : peer.outbox t = [])
    (hencode : message.encode p.revision = .ok payload)
    (hanswered : ∃ stage' sent, p.Exchange (peer.stage t) (.transact message) stage' sent) :
    ∃ packet target, Packet.new 0 0 payload 1 0 = .ok packet ∧
      ByteTransport.writeAll packet.encode t = (.ok (), target) ∧
      p.Exchange (peer.stage t) (.transact message) (peer.stage target) (peer.outbox target) := by
  obtain ⟨stage', sent, hexpected⟩ := hanswered
  obtain ⟨packet, hpacket⟩ := Packet.exists_new 0 0 1
    (Nat.lt_of_le_of_lt (TransactionMessage.length_of_encode hencode) (by decide))
  obtain ⟨target, hwrite, hexchange⟩ :=
    peer.answers houtbox (.transact hencode hpacket) hexpected
  exact ⟨packet, target, hpacket, hwrite, hexchange⟩

/-- The entry of the transaction channel with the given credit. -/
def transactionState (credit : UInt16) : ChannelState :=
  ⟨"(transaction channel)", credit, 64, 64, 1, true⟩

section Turns

variable {T : Type} [ByteTransport T] (peer : ConformingPeer p T) {w : LinkRun T} {bound : Nat}

/-- The host between two turns of an active conversation. -/
structure Talking (stage : Stage) (link : D4Link T) : Prop where
  rest : AtRest peer.toPromptPeer link
  stage : peer.stage link.target = stage
  revision : link.revision = p.revision
  conversation : link.conversation = .active
  transaction : link.channels .transaction = some (transactionState 1)

variable {peer}

/-- **A command of the dialogue succeeds.** It leads to the next turn, with the reply of the
printer's choice, and leaves the other channels alone. -/
theorem Talking.command {stage stage₀ : Stage} {message reply₀ : TransactionMessage}
    (h : Talking peer stage w.state) (hanswers : p.Answers stage message stage₀ reply₀)
    (hstage : stage ≠ .entered) (hbound : 65536 ≤ bound) :
    ∃ stage' reply v, p.Answers stage message stage' reply ∧
      D4Link.transaction bound message true w = (.ok (reply.carried p.revision), v) ∧
      Talking peer stage' v.state ∧
      ∀ channel ≠ .transaction, v.state.channels channel = w.state.channels channel := by
  obtain ⟨⟨payload, hencode⟩, -⟩ := hanswers.encodes p.revision
  obtain ⟨packet, target, hpacket, hwrite, hexchange⟩ := peer.answers_command h.rest.outbox hencode
    ⟨stage₀, by rw [h.stage]; exact hanswers.exchange⟩
  rw [h.stage] at hexchange
  generalize hsent : peer.outbox target = sent at hexchange
  generalize hnext : peer.stage target = stage' at hexchange
  cases hexchange with
  | decline => exact absurd rfl hstage
  | @answer _ _ _ reply replyPayload answer control hanswers' hreply hanswer =>
    obtain ⟨hcode, hcommand⟩ := hanswers'.code p.revision
    obtain ⟨hisReply, hservice⟩ := Printer.isReply_of_encode hreply hanswer hcode hcommand
    obtain ⟨-, -, -, hcredit, -, hlength⟩ := Printer.packet_of_new hanswer
    -- the command costs the only credit, and the reply brings it back
    have hspent : D4Link.spent true (transactionState 1).credit = some 0 := by decide
    have hsum : UInt16.checkedAdd 0 answer.header.credit.toUInt16 = some 1 := by
      rw [hcredit]
      decide
    obtain ⟨v, target', hrun, hstate, hstage', hrest⟩ := D4Link.transaction_prompt
      peer.toPromptPeer h.rest (.inr h.conversation) h.transaction le_rfl
      (by rw [h.revision]; exact hencode) hpacket hspent hwrite hsent
      (by rw [h.revision]; exact hisReply) hservice hsum
      (show answer.encode.length < bound by omega)
    refine ⟨stage', reply, v, hanswers', hrun, ⟨hrest, ?_, ?_, ?_, ?_⟩, fun channel hne ↦ ?_⟩
    · rw [hstate]
      exact hstage'.trans hnext
    · rw [hstate]
      exact h.revision
    · rw [hstate]
      exact h.conversation
    · rw [hstate, D4Link.setChannel_channels_self]
      rfl
    · rw [hstate, D4Link.setChannel_channels_of_ne _ _ hne]

/-- A service channel may enter the table between two turns. -/
theorem Talking.setChannel {stage : Stage} {link : D4Link T} {channel : ChannelId}
    {state : ChannelState} (h : Talking peer stage link) (hchannel : channel ≠ .transaction) :
    Talking peer stage (link.setChannel channel state) where
  rest := ⟨h.rest.outbox, h.rest.received, h.rest.decoder⟩
  stage := h.stage
  revision := h.revision
  conversation := h.conversation
  transaction := by rw [D4Link.setChannel_channels_of_ne _ _ hchannel.symm, h.transaction]

/-! ### The greeting -/

/-- The host while it negotiates the revision, with what the printer has declined so far to credit.
-/
structure Greeting (peer : ConformingPeer p T) (stage : Stage) (credit : UInt16)
    (link : D4Link T) : Prop where
  rest : AtRest peer.toPromptPeer link
  stage : peer.stage link.target = stage
  conversation : link.conversation = .inactive
  transaction : link.channels .transaction = some (transactionState credit)

/-- An offer is answered, and costs no credit. The messages of the negotiation have the same layout
in both revisions. -/
theorem Greeting.offer {credit credit' : UInt16} {offered negotiated : ProtocolRevision}
    {result added control : UInt8} {payload replyPayload : List UInt8} {packet answer : Packet}
    {target : T} (h : Greeting peer .entered credit w.state)
    (hencode : (TransactionMessage.init offered).encode p.revision = .ok payload)
    (hpacket : Packet.new 0 0 payload 1 0 = .ok packet)
    (hwrite : ByteTransport.writeAll packet.encode w.state.target = (.ok (), target))
    (hsent : peer.outbox target = answer.encode)
    (hreply : (TransactionMessage.initReply result negotiated).encode p.revision =
      .ok replyPayload)
    (hanswer : Packet.new 0 0 replyPayload added control = .ok answer)
    (hsum : credit.checkedAdd added.toUInt16 = some credit') (hbound : 65536 ≤ bound) :
    ∃ v, D4Link.transaction bound (.init offered) false w =
        (.ok (.initReply result negotiated), v) ∧
      Greeting peer (peer.stage target) credit' v.state := by
  have hreply' : (TransactionMessage.initReply result negotiated).encode w.state.revision =
      .ok replyPayload := hreply
  have hcode : (TransactionMessage.init offered).replyCode = 0x80 := by
    show (0x00 : UInt8) ||| 0x80 = 0x80
    decide
  obtain ⟨hisReply, hservice⟩ := Printer.isReply_of_encode hreply' hanswer hcode.symm
    (by rw [hcode]; decide)
  obtain ⟨-, -, -, hcredit, -, hlength⟩ := Printer.packet_of_new hanswer
  obtain ⟨v, target', hrun, hstate, hstage, hrest⟩ := D4Link.transaction_prompt
    peer.toPromptPeer h.rest (.inl h.conversation) h.transaction le_rfl hencode hpacket
    (show D4Link.spent false (transactionState credit).credit = some credit from rfl) hwrite hsent
    hisReply hservice (by rw [hcredit]; exact hsum) (show answer.encode.length < bound by omega)
  refine ⟨v, hrun, hrest, ?_, ?_, ?_⟩
  · rw [hstate]
    exact hstage
  · rw [hstate]
    exact h.conversation
  · rw [hstate, D4Link.setChannel_channels_self]
    rfl

/-- An accepted revision begins the conversation. -/
theorem Greeting.begin {credit : UInt16} (h : Greeting peer .active credit w.state) :
    ∃ v, atomic (fun _ ↦ .activated p.revision .host) (D4Link.beginConversation p.revision) w =
        (.ok (), v) ∧ Talking peer .active v.state := by
  refine ⟨_, Program.atomic_run _ _ w (D4Link.beginConversation_run p.revision h.transaction),
    ⟨h.rest.outbox, h.rest.received, h.rest.decoder⟩, h.stage, rfl, rfl, ?_⟩
  rw [Recorded.push_state, D4Link.begun_channels, D4Link.setChannel_channels_self]
  rfl

/-- The printer's own revision is accepted. -/
theorem Greeting.accept {credit credit' : UInt16} (h : Greeting peer .entered credit w.state)
    (hsum : credit.checkedAdd 1 = some credit') (hbound : 65536 ≤ bound) :
    ∃ v, D4Link.transaction bound (.init p.revision) false w =
        (.ok (.initReply 0 p.revision), v) ∧ Greeting peer .active credit' v.state := by
  obtain ⟨⟨payload, hencode⟩, -⟩ := (Printer.Answers.init).encodes p.revision
  obtain ⟨packet, target, hpacket, hwrite, hexchange⟩ := peer.answers_command h.rest.outbox hencode
    ⟨.active, by rw [h.stage]; exact Printer.Answers.init.exchange⟩
  rw [h.stage] at hexchange
  obtain ⟨hnext, replyPayload, answer, control, hsent, hreply, hanswer⟩ := hexchange.of_init
  obtain ⟨v, hrun, hgreeting⟩ := h.offer hencode hpacket hwrite hsent hreply hanswer hsum hbound
  exact ⟨v, hrun, hnext ▸ hgreeting⟩

/-- Revision 2.0 is declined by a printer of revision 1.0. -/
theorem Greeting.decline (h : Greeting peer .entered 0 w.state) (hrevision : p.revision = .v10)
    (hbound : 65536 ≤ bound) :
    ∃ offered added v, D4Link.transaction bound (.init .v20) false w =
        (.ok (.initReply 2 offered), v) ∧
      Greeting peer .entered (added : UInt8).toUInt16 v.state := by
  have hencode : (TransactionMessage.init .v20).encode p.revision = .ok [0x00, 0x20] := rfl
  have hdeclined : ∃ sent, p.Exchange .entered (.transact (.init .v20)) .entered sent := by
    obtain ⟨payload, hreply⟩ : ∃ payload,
      (TransactionMessage.initReply 2 .v10).encode p.revision = .ok payload := ⟨_, rfl⟩
    obtain ⟨answer, hanswer⟩ := Packet.exists_new 0 0 1
      (Nat.lt_of_le_of_lt (TransactionMessage.length_of_encode hreply) (by decide))
    exact ⟨_, .decline hrevision hreply hanswer⟩
  obtain ⟨packet, target, hpacket, hwrite, hexchange⟩ := peer.answers_command h.rest.outbox hencode
    ⟨.entered, by rw [h.stage]; exact hdeclined⟩
  rw [h.stage] at hexchange
  obtain ⟨hnext, offered, added, replyPayload, answer, control, hsent, hreply, hanswer⟩ :=
    hexchange.of_declined hrevision
  obtain ⟨v, hrun, hgreeting⟩ :=
    h.offer hencode hpacket hwrite hsent hreply hanswer (UInt16.checkedAdd_zero_left _) hbound
  exact ⟨offered, added, v, hrun, hnext ▸ hgreeting⟩

/-- **The revision is agreed on**, and the conversation is active in it. -/
theorem Greeting.negotiate (h : Greeting peer .entered 0 w.state) (hbound : 65536 ≤ bound) :
    ∃ v, D4Link.negotiate bound [.v20, .v10] w = (.ok (), v) ∧ Talking peer .active v.state := by
  rcases hrevision : p.revision with _ | _
  · obtain ⟨offered, added, v, hdeclined, h₁⟩ := h.decline hrevision hbound
    obtain ⟨credit, hsum⟩ := UInt16.exists_checkedAdd_one added
    obtain ⟨v₁, haccepted, h₂⟩ := h₁.accept hsum hbound
    obtain ⟨v₂, hbegin, htalking⟩ := h₂.begin
    rw [hrevision] at haccepted hbegin
    refine ⟨v₂, ?_, htalking⟩
    rw [D4Link.negotiate, bind_run_ok hdeclined]
    dsimp only
    rw [if_neg (by decide), if_neg (by decide), D4Link.negotiate, bind_run_ok haccepted]
    exact hbegin
  · obtain ⟨v₁, haccepted, h₁⟩ := h.accept (show UInt16.checkedAdd 0 1 = some 1 by decide) hbound
    obtain ⟨v₂, hbegin, htalking⟩ := h₁.begin
    rw [hrevision] at haccepted hbegin
    refine ⟨v₂, ?_, htalking⟩
    rw [D4Link.negotiate, bind_run_ok haccepted]
    exact hbegin

end Turns

end Reink
