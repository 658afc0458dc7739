import Reink.App.EndToEnd
import Reink.App.StoringSession

/-!
# A printer that is written to

The dialogue of a printer has a fixed memory. A `WritablePeer` goes through the dialogues of all
memories: between two writes it is a conforming peer with the memory that it has, and a write leads
from one dialogue to the other. So the control channel of a session with it stores.
-/

namespace Reink

open Printer (Stage)
open Program (Moves bind_run_ok)

/-- The printer with another memory. -/
def Printer.withMemory (p : Printer) (memory : UInt16 → UInt8) : Printer :=
  { p with memory := memory }

/-- What is in the outbox is a packet on the control channel with a payload of the kind. It brings
back at most one credit. -/
def PromptPeer.HasReplied {T : Type} [ByteTransport T] (peer : PromptPeer T Stage) (p : Printer)
    (P : List UInt8 → Prop) (t : T) : Prop :=
  ∃ response answer piggyback control, P response ∧ piggyback ≤ 1 ∧
    Packet.new p.socket p.socket response piggyback control = .ok answer ∧
    answer.header.length ≤ p.maxServiceSize ∧ peer.outbox t = answer.encode ∧
    peer.stage t = .serving piggyback.toUInt16

/-- A transport with a printer behind it that tells its identity and stores what it is told to. The
memory of the printer itself is not used. -/
structure WritablePeer (p : Printer) (T : Type) [ByteTransport T] extends
    PromptPeer T Stage where
  memory : T → UInt16 → UInt8
  identity : PrinterIdentity
  /-- A write request fits the packets that the printer takes. -/
  write_fits : ∀ {address : UInt16} {value : UInt8} {request : List UInt8},
    encodeEepromWrite p.spec address value = .ok request →
      headerLength + request.length ≤ p.maxPacketSize.toNat
  memory_of_read : ∀ size t, memory (ByteTransport.read size t).2 = memory t
  /-- What carries no EEPROM write changes no memory. -/
  memory_of_other : ∀ {data : List UInt8}, WritesWithin p.spec [] (data.drop headerLength) →
    ∀ t, memory (ByteTransport.writeAll data t).2 = memory t
  /-- What is asked within the dialogue is answered within it. -/
  answers : ∀ {t : T} {ask : Printer.Ask} {data : List UInt8} {stage' : Stage} {sent : List UInt8},
    outbox t = [] → (p.withMemory (memory t)).Asks ask data →
    (p.withMemory (memory t)).Exchange (stage t) ask stage' sent →
      ∃ t', ByteTransport.writeAll data t = (.ok (), t') ∧
        (p.withMemory (memory t)).Exchange (stage t) ask (stage t') (outbox t')
  /-- The identity is told. -/
  identifies : ∀ {t : T} {request : List UInt8} {packet : Packet}, outbox t = [] →
    stage t = .serving 1 → encodeCommand (Text.ascii "di") [1] = .ok request →
    Packet.new p.socket p.socket request 1 0 = .ok packet →
      ∃ t', ByteTransport.writeAll packet.encode t = (.ok (), t') ∧
        toPromptPeer.HasReplied p (fun response ↦ identityOfReply response = .ok identity) t'
  /-- A value is stored, and that confirmed. -/
  stores : ∀ {t : T} {address : UInt16} {value : UInt8} {request : List UInt8} {packet : Packet},
    outbox t = [] → stage t = .serving 1 → encodeEepromWrite p.spec address value = .ok request →
    Packet.new p.socket p.socket request 1 0 = .ok packet →
      ∃ t', ByteTransport.writeAll packet.encode t = (.ok (), t') ∧
        toPromptPeer.HasReplied p
          (fun response ↦ Text.contains (Text.ascii ":OK;") response = true) t' ∧
        memory t' = Function.update (memory t) address value
  /-- The entry reply takes no more reads than the host makes for it. -/
  entry : ∀ {t t' : T}, stage t = .idle → outbox t = [] →
    ByteTransport.writeAll epsonD4EntryCommand t = (.ok (), t') →
      toPromptPeer.DeliveredWithin entryReplyReadLimit t'

/-- No ask of the dialogue is an EEPROM write. -/
theorem Printer.Asks.writesWithin {p : Printer} {ask : Printer.Ask} {data : List UInt8}
    {addresses : List UInt16} (h : p.Asks ask data) :
    WritesWithin p.spec addresses (data.drop headerLength) := by
  cases h with
  | enter =>
    intro address value hwrite
    exact absurd (head?_of_encodeEepromWrite hwrite) (by decide)
  | transact hencode hpacket =>
    rw [drop_encode, (Printer.packet_of_new hpacket).2.2.1]
    exact writesWithin_of_encodes ⟨_, _, hencode⟩
  | read hencode hpacket =>
    rw [drop_encode, (Printer.packet_of_new hpacket).2.2.1]
    exact writesWithin_of_read hencode

/-- Within how many reads something is delivered depends on the outbox only. -/
theorem PromptPeer.DeliveredWithin.of_outbox {T σ τ : Type} [ByteTransport T]
    {peer : PromptPeer T σ} {peer' : PromptPeer T τ} (houtbox : peer'.outbox = peer.outbox)
    {reads : Nat} {t : T} (h : peer.DeliveredWithin reads t) : peer'.DeliveredWithin reads t := by
  induction reads generalizing t with
  | zero => exact (congrFun houtbox t).trans h
  | succ reads ih =>
    rcases h with hempty | hlater
    · exact .inl ((congrFun houtbox t).trans hempty)
    · exact .inr fun bytes t' hread ↦ ih (hlater bytes t' hread)

namespace WritablePeer

variable {p : Printer} {T : Type} [ByteTransport T] (peer : WritablePeer p T)

/-- The peer as one with a fixed memory, as long as that is what it holds. -/
noncomputable def withMemory (memory : UInt16 → UInt8) :
    ConformingPeer (p.withMemory memory) T where
  -- whether it holds that is never computed
  stage t := @ite _ (peer.memory t = memory) (Classical.dec _) (peer.stage t) .ended
  outbox := peer.outbox
  read := by
    intro size t hsize hne
    obtain ⟨bytes, t', hread, hbytes, hrest, hstage⟩ := peer.read hsize hne
    have hmemory := peer.memory_of_read size t
    rw [hread] at hmemory
    exact ⟨bytes, t', hread, hbytes, hrest, by rw [hmemory, hstage]⟩
  answers := by
    intro t ask data stage' sent hquiet hasks hexchange
    by_cases hmemory : peer.memory t = memory
    · subst hmemory
      rw [if_pos rfl] at hexchange ⊢
      obtain ⟨t', hwrite, hexchange'⟩ := peer.answers hquiet hasks hexchange
      have hkept := peer.memory_of_other hasks.writesWithin t
      rw [hwrite] at hkept
      exact ⟨t', hwrite, by rwa [if_pos hkept]⟩
    · rw [if_neg hmemory] at hexchange
      cases hexchange with
      | answer hanswers => cases hanswers
  entry := by
    intro t t' hidle hquiet hwrite
    split at hidle
    · exact .of_outbox rfl (peer.entry hidle hquiet hwrite)
    · cases hidle

variable {peer} {memory : UInt16 → UInt8} {t : T}

theorem serving_withMemory {credit : UInt16} :
    (peer.withMemory memory).stage t = .serving credit ↔
      peer.memory t = memory ∧ peer.stage t = .serving credit := by
  unfold withMemory
  dsimp only
  split
  case isTrue h => exact ⟨fun hs ↦ ⟨h, hs⟩, fun hs ↦ hs.2⟩
  case isFalse h => exact ⟨nofun, fun hs ↦ absurd hs.1 h⟩

/-! ### Requests -/

variable {w : LinkRun T} {bound : Nat}

/-- A request with the credit at hand is answered. What the peer does with it leads to the dialogue
of the memory that it has then. -/
theorem request_of_credit {memory' : UInt16 → UInt8} {request : List UInt8}
    {P : List UInt8 → Prop} (h : Serving (peer.withMemory memory) 1 w.state)
    (hfits : headerLength + request.length ≤ p.maxPacketSize.toNat)
    (hpeer : ∀ packet, Packet.new p.socket p.socket request 1 0 = .ok packet →
      ∃ target, ByteTransport.writeAll packet.encode w.state.target = (.ok (), target) ∧
        peer.HasReplied p P target ∧ peer.memory target = memory') (hbound : 65536 ≤ bound) :
    ∃ credit response v, D4Link.request bound p.channel request w = (.ok response, v) ∧
      P response ∧ Serving (peer.withMemory memory') credit v.state := by
  obtain ⟨packet, hpacket⟩ := Packet.exists_new p.socket p.socket 1
    (Nat.lt_of_le_of_lt hfits p.maxPacketSize.toNat_lt)
  obtain ⟨target, hwrite, ⟨response, answer, piggyback, control, hresponse, hpiggyback, hanswer,
    hshort, hsent, hstage⟩, hmemory⟩ := hpeer packet hpacket
  obtain ⟨hwellFormed, hroute, hpayload, hcredit, -, hlong⟩ := Printer.packet_of_new hanswer
  have hspent : (controlState (p.withMemory memory) 1).credit.checkedSub 1 = some 0 :=
    show UInt16.checkedSub 1 1 = some 0 by decide
  have hsum : UInt16.checkedAdd 0 answer.header.credit.toUInt16 = some piggyback.toUInt16 := by
    rw [hcredit, UInt16.checkedAdd_zero_left]
  have hrest : D4Link.AtRest (peer.withMemory memory').toPromptPeer w.state :=
    ⟨h.talking.rest.outbox, h.talking.rest.received, h.talking.rest.decoder⟩
  obtain ⟨v, target', hrun, hstate, hsame, hrest'⟩ := D4Link.request_prompt
    (peer.withMemory memory').toPromptPeer hrest h.talking.conversation p.channel_ne h.control rfl
    hspent hfits hpacket hwrite hsent hwellFormed hroute hshort hsum
    (show answer.encode.length < bound by omega)
  rw [hpayload] at hrun
  refine ⟨piggyback.toUInt16, response, v, hrun, hresponse, ⟨hrest', ?_, ?_, ?_, ?_⟩, ?_, ?_⟩
  · rw [hstate]
    exact hsame.trans (serving_withMemory.2 ⟨hmemory, hstage⟩)
  · rw [hstate]
    exact h.talking.revision
  · rw [hstate]
    exact h.talking.conversation
  · rw [hstate, D4Link.setChannel_channels_of_ne _ _ p.channel_ne.symm]
    exact h.talking.transaction
  · rw [hstate]
    exact D4Link.setChannel_channels_self _ _ _
  · rw [UInt16.le_iff_toNat_le, UInt8.toNat_toUInt16]
    exact UInt8.le_iff_toNat_le.1 hpiggyback

/-- **A request is answered**, whether the credit for it is there or has to be asked for. -/
theorem request {credit : UInt16} {memory' : UInt16 → UInt8} {request : List UInt8}
    {P : List UInt8 → Prop} (h : Serving (peer.withMemory memory) credit w.state)
    (hfits : headerLength + request.length ≤ p.maxPacketSize.toNat)
    (hpeer : ∀ packet t, peer.outbox t = [] → peer.stage t = .serving 1 → peer.memory t = memory →
      Packet.new p.socket p.socket request 1 0 = .ok packet →
        ∃ target, ByteTransport.writeAll packet.encode t = (.ok (), target) ∧
          peer.HasReplied p P target ∧ peer.memory target = memory') (hbound : 65536 ≤ bound) :
    ∃ credit response v, D4Link.request bound p.channel request w = (.ok response, v) ∧
      P response ∧ Serving (peer.withMemory memory') credit v.state := by
  have hserved {w : LinkRun T} (h : Serving (peer.withMemory memory) 1 w.state) :
      ∃ credit response v, D4Link.request bound p.channel request w = (.ok response, v) ∧
        P response ∧ Serving (peer.withMemory memory') credit v.state := by
    obtain ⟨hmemory, hstage⟩ := serving_withMemory.1 h.talking.stage
    exact request_of_credit h hfits
      (fun packet ↦ hpeer packet _ h.talking.rest.outbox hstage hmemory) hbound
  have hcases : credit = 0 ∨ credit = 1 := by
    have hle := UInt16.le_iff_toNat_le.1 h.credit_le
    simp only [← UInt16.toNat_inj, UInt16.reduceToNat] at hle ⊢
    omega
  rcases hcases with rfl | rfl
  · obtain ⟨v, hensure, hserving⟩ := h.ensureChannelCredit hbound
    have hensured : D4Link.ensureChannelCredit bound p.channel w = (.ok (), v) := hensure
    rw [D4Link.request_of_ensured h.talking.conversation hensured hserving.talking.conversation
      hserving.control (show (1 : UInt16) > 0 by decide)]
    exact hserved hserving
  · exact hserved h

/-! ### The control channel -/

/-- The printer serves on the control channel, in the dialogue of the memory that it has. -/
def Ready (peer : WritablePeer p T) (control : D4ControlChannel T bound) : Prop :=
  (∃ credit, Serving (peer.withMemory (peer.memory control.link.state.target)) credit
    control.link.state) ∧ control.channel = p.channel

theorem Ready.of_serving {credit : UInt16} {v : LinkRun T}
    (h : Serving (peer.withMemory memory) credit v.state) :
    peer.Ready (⟨v, p.channel⟩ : D4ControlChannel T bound) ∧
      peer.memory v.state.target = memory := by
  obtain ⟨hmemory, -⟩ := serving_withMemory.1 h.talking.stage
  exact ⟨⟨⟨credit, hmemory.symm ▸ h⟩, rfl⟩, hmemory⟩

/-- **The control channel stores**, and shows what it has stored. -/
noncomputable def storing (peer : WritablePeer p T) (hbound : 65536 ≤ bound) :
    StoringSession p.spec T bound where
  Ready := peer.Ready
  memory control := peer.memory control.link.state.target
  identity := peer.identity
  answers := by
    rintro address request ⟨link, channel⟩ ⟨⟨credit, hserving⟩, hchannel⟩ hencode
    obtain rfl : channel = p.channel := hchannel
    obtain ⟨response, ⟨v, channel⟩, hrun, hrecord, ⟨⟨credit', hserving'⟩, hchannel'⟩, -⟩ :=
      ((peer.withMemory _).faithful hbound).answers
        (c := (⟨link, p.channel⟩ : D4ControlChannel T bound)) ⟨⟨credit, hserving⟩, rfl⟩ hencode
    obtain rfl : channel = p.channel := hchannel'
    obtain ⟨hready, hmemory⟩ := Ready.of_serving hserving'
    exact ⟨response, _, hrun, hrecord, hready, hmemory⟩
  isOpen := by
    rintro ⟨link, channel⟩ ⟨⟨credit, hserving⟩, hchannel⟩
    obtain rfl : channel = p.channel := hchannel
    have hcontrol : link.state.channels p.channel = _ := hserving.control
    show (link.state.channels p.channel).any _ = true
    rw [hcontrol]
    rfl
  stores := by
    rintro address value payload ⟨link, channel⟩ ⟨⟨credit, hserving⟩, hchannel⟩ hencode
    obtain rfl : channel = p.channel := hchannel
    obtain ⟨credit', response, v, hrun, hresponse, hserving'⟩ := request hserving
      (peer.write_fits hencode) (fun packet t hquiet hstage hmemory hpacket ↦
        hmemory ▸ peer.stores hquiet hstage hencode hpacket) hbound
    obtain ⟨hready, hmemory⟩ := Ready.of_serving hserving'
    refine ⟨response, _, ?_, hresponse, hready, hmemory⟩
    simp only [ControlChannel.request, hrun]
    rfl
  identifies := by
    rintro payload ⟨link, channel⟩ ⟨⟨credit, hserving⟩, hchannel⟩ hencode
    obtain rfl : channel = p.channel := hchannel
    have hfits : headerLength + payload.length ≤ p.maxPacketSize.toNat := by
      refine Nat.le_trans ?_ p.request_fits
      cases hencode
      show headerLength + 5 ≤ _
      omega
    have hother {packet : Packet}
        (hpacket : Packet.new p.socket p.socket payload 1 0 = .ok packet) :
        WritesWithin p.spec [] (packet.encode.drop headerLength) := by
      rw [drop_encode, (Printer.packet_of_new hpacket).2.2.1]
      exact writesWithin_of_encodeCommand (by decide) (by decide) hencode
    obtain ⟨credit', response, v, hrun, hresponse, hserving'⟩ := request hserving hfits
      (fun packet t hquiet hstage hmemory hpacket ↦ by
        obtain ⟨t', hwrite, hreplied⟩ := peer.identifies hquiet hstage hencode hpacket
        have hkept := peer.memory_of_other (hother hpacket) t
        rw [hwrite] at hkept
        exact ⟨t', hwrite, hreplied, hkept.trans hmemory⟩) hbound
    obtain ⟨hready, hmemory⟩ := Ready.of_serving hserving'
    refine ⟨response, _, ?_, hresponse, hready, hmemory⟩
    simp only [ControlChannel.request, hrun]
    rfl

/-! ### Whole sessions -/

/-- The memory before and after. -/
def Keeps (peer : WritablePeer p T) (w w' : LinkRun T) : Prop :=
  peer.memory w'.state.target = peer.memory w.state.target

theorem Keeps.of_moves {w w' : LinkRun T} (h : Relation.ReflTransGen peer.Keeps w w') :
    peer.Keeps w w' := by
  induction h with
  | refl => rfl
  | tail _ hstep ih => exact Eq.trans hstep ih

/-- The messages of the link change no memory. -/
theorem crosses_keeps : D4Link.Crosses peer.Keeps where
  message payload hpayload := by
    rintro w packet outcome after rfl htarget
    show peer.memory after.target = _
    rw [htarget]
    refine peer.memory_of_other ?_ _
    rw [drop_encode]
    exact writesWithin_of_encodes hpayload
  read w := by
    have htarget : (D4Link.readTarget 4096 w.state).2.target =
        (ByteTransport.read 4096 w.state.target).2 := by
      rw [D4Link.readTarget]
      rcases ByteTransport.read 4096 w.state.target with ⟨_ | _, _⟩ <;> rfl
    show peer.memory (D4Link.readTarget 4096 w.state).2.target = _
    rw [htarget, peer.memory_of_read]
  internal w event after _ htarget := congrArg peer.memory htarget

variable (peer bound) in
/-- Shutting down changes no memory. -/
theorem memory_of_shutdown (session : EpsonD4Session T) :
    peer.memory (EpsonD4Session.shutdown bound session).2.link.state.target =
      peer.memory session.link.state.target := by
  have honLink {m : LinkProgram T Unit} (hm : Moves peer.Keeps m) :
      Moves (fun s s' : EpsonD4Session T ↦ peer.Keeps s.link s'.link) (EpsonD4Session.onLink m) :=
    fun session ↦ .single (Keeps.of_moves (hm session.link))
  have hmoves : Moves (fun s s' : EpsonD4Session T ↦ peer.Keeps s.link s'.link)
      (EpsonD4Session.shutdown bound) := by
    intro session
    refine Moves.bind (.attempt (honLink (D4Link.closeChannel_effects crosses_keeps bound _)))
      (fun close ↦ .bind (.attempt (honLink (D4Link.exit_effects crosses_keeps bound ?_)))
        fun exit ↦ ?_) session
    · exact fun w after htarget ↦ congrArg peer.memory htarget
    · split
      · exact .pure _
      · exact .throw _
  have hpath := hmoves session
  generalize (EpsonD4Session.shutdown bound session).2 = session' at hpath ⊢
  induction hpath with
  | refl => rfl
  | tail _ hstep ih => exact Eq.trans hstep ih

/-- A session is opened, with the memory that there is. -/
theorem connectRecoverable_ok (hidle : peer.stage t = .idle) (hquiet : peer.outbox t = [])
    (hbound : 65536 ≤ bound) :
    ∃ session, EpsonD4Session.connectRecoverable bound t p.spec = .ok session ∧
      (peer.storing hbound).Holds (peer.memory t) session := by
  have hidle' : (peer.withMemory (peer.memory t)).stage t = .idle := (if_pos rfl).trans hidle
  obtain ⟨⟨link, channel, spec⟩, hconnect, ⟨credit, hserving⟩, hchannel, hspec⟩ :=
    EpsonD4Session.connectRecoverable_ok hidle' hquiet hbound
  obtain rfl : channel = p.channel := hchannel
  obtain ⟨hready, hmemory⟩ := Ready.of_serving hserving
  exact ⟨_, hconnect, hready, hspec, hmemory⟩

/-- A session is shut down, and the memory stays. -/
theorem shutdown_ok {session : EpsonD4Session T} {hbound : 65536 ≤ bound}
    (h : (peer.storing hbound).Holds memory session) :
    ∃ session', EpsonD4Session.shutdown bound session = (.ok (), session') ∧
      peer.memory session'.link.state.target = memory ∧
      peer.stage session'.link.state.target = .ended := by
  obtain ⟨⟨credit, hserving⟩, hchannel⟩ := h.ready
  have hheld : peer.memory session.link.state.target = memory := h.memory
  have hservice : InService (peer.withMemory memory) session :=
    ⟨⟨credit, hheld ▸ hserving⟩, hchannel, h.spec⟩
  obtain ⟨session', hshutdown, -, hended⟩ := EpsonD4Session.shutdown_ok hservice hbound
  have hkept := memory_of_shutdown peer bound session
  rw [hshutdown, hheld] at hkept
  exact ⟨session', hshutdown, hkept, (if_pos hkept).symm.trans hended⟩

variable {F : Type} [FileSystem F] [CharTables] {files files' : F} {kind : MutationKind}
  {verify : PrinterIdentity → Except String Unit} {updates : List (UInt16 × UInt8)}
  {backupFile : String}

variable (kind verify) in
/-- **A command that writes, from end to end**: a session with the printer is opened, the memory
saved, the updates stored, and the session shut down. -/
theorem runSession_mutateEeprom_ok (hidle : peer.stage t = .idle) (hquiet : peer.outbox t = [])
    (hbound : 65536 ≤ bound) (hspec : p.spec.Writable) (hupdates : ValidUpdates p.spec updates)
    (hverify : verify peer.identity = .ok ())
    (hfile : writeNewBinaryFile backupFile (p.spec.image (peer.memory t)).bytes kind.backupKind
      files = (.ok (), files')) :
    ∃ t', runSession bound t p.spec (mutateEeprom kind verify updates backupFile) files =
        .ok (.finished (.ok ()) (.ok ()) t' files') ∧
      peer.memory t' = overwrite (peer.memory t) updates ∧ peer.stage t' = .ended := by
  obtain ⟨session, hconnect, hholds⟩ := connectRecoverable_ok hidle hquiet hbound
  obtain ⟨session', hrun, hholds'⟩ :=
    StoringSession.mutateEeprom_ok hholds hspec hupdates hverify hfile
  obtain ⟨session'', hshutdown, hmemory, hended⟩ := shutdown_ok hholds'
  refine ⟨session''.link.state.target, ?_, hmemory, hended⟩
  have hoperation : Program.attempt ((mutateEeprom kind verify updates backupFile).run
      (Host.serve bound)) ⟨session, files⟩ =
        ((.ok (.ok ()), ⟨session', files'⟩) : Outcome Empty _ × _) :=
    Program.attempt_eq_ok.2 hrun
  have hend : Program.attempt (Host.onSession (EpsonD4Session.shutdown bound))
      (⟨session', files'⟩ : Host T F) =
        ((.ok (.ok ()), ⟨session'', files'⟩) : Outcome Empty _ × _) := by
    refine Program.attempt_eq_ok.2 ?_
    rw [Host.onSession, Program.zoom, hshutdown]
    rfl
  rw [runSession, hconnect]
  dsimp only
  rw [runOpened, bind_run_ok hoperation, bind_run_ok hend]
  rfl

end WritablePeer

end Reink
