import Reink.App.Control
import Reink.App.Serving
import Reink.App.SimulatedPrinter

/-!
# A session from end to end

Connecting to a conforming printer, reading its memory, and shutting down. Between the calls the
session serves: its link is at rest with the control channel open.
-/

namespace Reink

open Program (bind_run_ok)

variable {p : Printer} {T : Type} [ByteTransport T] {peer : ConformingPeer p T} {bound : Nat}

/-! ### The entry -/

/-- The entry reply is received, in as many reads as there are left for it. By induction on these.
-/
theorem entryReplyLoop_delivered {limit : Nat} {reply : List UInt8} (receivedData : Bool) {t : T}
    (hreply : reply ++ peer.outbox t = epsonD4EntryReply) (hpending : peer.outbox t ≠ [])
    (hreads : peer.DeliveredWithin limit t) :
    ∃ t', entryReplyLoop limit reply receivedData t = (.ok (), t') ∧
      peer.stage t' = peer.stage t ∧ peer.outbox t' = [] := by
  induction limit generalizing reply receivedData t with
  | zero => exact absurd hreads hpending
  | succ limit ih =>
    obtain ⟨bytes, t', hread, hne, hrest, hstage⟩ := peer.read (le_refl 256) hpending
    have hentry : readEntry 256 t = (.ok bytes, t') := by
      rw [readEntry, hread]
    rw [← hrest, ← List.append_assoc] at hreply
    rw [entryReplyLoop, bind_run_ok hentry, if_neg hne]
    by_cases hlast : peer.outbox t' = []
    · rw [hlast, List.append_nil] at hreply
      refine ⟨t', ?_, hstage, hlast⟩
      rw [hreply, if_pos (by decide)]
      rfl
    · -- A proper part of the reply is too short to contain it.
      have hmissing : ¬ Text.contains epsonD4EntryReply (reply ++ bytes) = true := by
        intro hcontains
        have hlong := (of_decide_eq_true hcontains).length_le
        have hlength := congrArg List.length hreply
        have hpos := List.length_pos_of_ne_nil hlast
        rw [List.length_append] at hlength
        omega
      have hreads' : peer.DeliveredWithin limit t' := hreads.resolve_left hpending bytes t' hread
      obtain ⟨t'', hrun, hstage', houtbox⟩ := ih true hreply hlast hreads'
      rw [if_neg hmissing]
      exact ⟨t'', hrun, hstage'.trans hstage, houtbox⟩

/-- **The packet mode is entered.** -/
theorem ConformingPeer.enters {t : T} (hidle : peer.stage t = .idle)
    (hquiet : peer.outbox t = []) :
    ∃ t₁ t₂, ByteTransport.writeAll epsonD4EntryCommand t = (.ok (), t₁) ∧
      waitForEntryReply t₁ = (.ok (), t₂) ∧ peer.stage t₂ = .entered ∧ peer.outbox t₂ = [] := by
  have hexpected : p.Exchange (peer.stage t) .enter .entered epsonD4EntryReply := by
    rw [hidle]
    exact .enter
  obtain ⟨t₁, hwrite, hexchange⟩ := peer.answers hquiet .enter hexpected
  rw [hidle] at hexchange
  generalize hsent : peer.outbox t₁ = sent at hexchange
  generalize hnext : peer.stage t₁ = stage at hexchange
  cases hexchange
  have hreply : [] ++ peer.outbox t₁ = epsonD4EntryReply := hsent
  obtain ⟨t₂, hwait, hstage, houtbox⟩ := entryReplyLoop_delivered false hreply
    (by rw [hsent]; decide) (peer.entry hidle hquiet hwrite)
  exact ⟨t₁, t₂, hwrite, hwait, hstage.trans hnext, houtbox⟩

/-! ### The session -/

/-- The session between two calls. -/
structure InService (peer : ConformingPeer p T) (session : EpsonD4Session T) : Prop where
  serving : ∃ credit, Serving peer credit session.link.state
  channel : session.controlChannel = p.channel
  spec : session.spec = p.spec

/-- **Connecting succeeds.** -/
theorem EpsonD4Session.connectRecoverable_ok {t : T} (hidle : peer.stage t = .idle)
    (hquiet : peer.outbox t = []) (hbound : 65536 ≤ bound) :
    ∃ session, connectRecoverable bound t p.spec = .ok session ∧ InService peer session := by
  obtain ⟨t₁, t₂, hwrite, hwait, hstage, houtbox⟩ := peer.enters hidle hquiet
  have hgreeting : Greeting peer .entered 0 (Recorded.start (D4Link.new t₂) : LinkRun T).state :=
    ⟨⟨houtbox, rfl, rfl⟩, hstage, rfl, rfl⟩
  obtain ⟨v, hnegotiate, htalking⟩ := hgreeting.negotiate hbound
  obtain ⟨credit, v', hopen, hserving⟩ := htalking.openService hbound
  have hlink : D4Link.initializeLink bound (.start (D4Link.new t₂)) = (.ok (), v) := by
    rw [D4Link.initializeLink, bind_run_ok (Program.observe_run _),
      Program.rejectIf_neg (by simp [D4Link.new]), Program.pure_bind,
      Program.rejectIf_neg (by simp [D4Link.new]), Program.pure_bind, hnegotiate]
  refine ⟨⟨v', p.channel, p.spec⟩, ?_, ⟨credit, hserving⟩, rfl, rfl⟩
  rw [connectRecoverable, hwrite]
  dsimp only
  rw [hwait]
  dsimp only
  rw [hlink]
  dsimp only
  rw [hopen]

/-! ### Reading -/

section Reading

/-- The control channel of a session in service is faithful to the memory of the printer. -/
def ConformingPeer.faithful (peer : ConformingPeer p T) (hbound : 65536 ≤ bound) :
    FaithfulSession p.spec T bound where
  Ready control :=
    (∃ credit, Serving peer credit control.link.state) ∧ control.channel = p.channel
  memory _ := p.memory
  answers := by
    rintro address request control ⟨⟨credit, hserving⟩, hchannel⟩ hencode
    obtain ⟨payload, haddress, -⟩ := encodeEepromRead_eq_ok.1 hencode
    have hfits : p.spec.readAddressWidth = .one → address ≤ 0xff := le_of_encodeAddress haddress
    obtain ⟨request', hencode', hlength⟩ := exists_encodeEepromRead hfits
    cases hencode.symm.trans hencode'
    obtain ⟨credit', response, v, hrun, hrecord, hserving'⟩ :=
      hserving.request hencode hlength hfits hbound
    refine ⟨response, { control with link := v }, ?_, hrecord,
      ⟨⟨credit', hserving'⟩, hchannel⟩, rfl⟩
    simp only [ControlChannel.request, hchannel, hrun]
    rfl
  isOpen := by
    rintro control ⟨⟨credit, hserving⟩, hchannel⟩
    rw [hchannel, hserving.control]
    rfl

/-- A session is in service when its channel is ready. -/
theorem inService_iff {session : EpsonD4Session T} (hbound : 65536 ≤ bound) :
    InService peer session ↔
      (peer.faithful hbound).Ready (session.control bound) ∧ session.spec = p.spec :=
  ⟨fun h ↦ ⟨⟨h.serving, h.channel⟩, h.spec⟩, fun h ↦ ⟨h.1.1, h.1.2, h.2⟩⟩

variable [CharTables]

/-- **Reading succeeds with the memory of the printer**, and may be repeated. -/
theorem EpsonD4Session.readEeprom_ok {session : EpsonD4Session T} {addresses : List UInt16}
    (h : InService peer session)
    (haddresses : ∀ address ∈ addresses, p.spec.readAddressWidth = .one → address ≤ 0xff)
    (hbound : 65536 ≤ bound) :
    ∃ session', readEeprom bound addresses session =
        (.ok (addresses.map fun address ↦ ⟨address, p.memory address⟩), session') ∧
      InService peer session' := by
  obtain ⟨hready, hspec⟩ := (inService_iff hbound).1 h
  obtain ⟨link, hread, hready', -⟩ :=
    (peer.faithful hbound).readEeprom_ok hready hspec haddresses
  exact ⟨_, hread, (inService_iff hbound).2 ⟨hready', hspec⟩⟩

end Reading

/-! ### The end -/

/-- **Shutting down succeeds**, and ends the conversation on both sides. -/
theorem EpsonD4Session.shutdown_ok {session : EpsonD4Session T} (h : InService peer session)
    (hbound : 65536 ≤ bound) :
    ∃ session', shutdown bound session = (.ok (), session') ∧
      session'.link.state.conversation = .terminated ∧
      peer.stage session'.link.state.target = .ended := by
  obtain ⟨⟨credit, hserving⟩, hchannel, -⟩ := h
  obtain ⟨v, hclose, htalking⟩ := hserving.closeChannel hbound
  obtain ⟨v', hexit, hend⟩ := htalking.exit hbound
  refine ⟨{ session with link := v' }, ?_, hend⟩
  have hclosed : Program.attempt (ε := ApplicationError)
      (onLink (D4Link.closeChannel bound session.controlChannel)) session =
        (.ok (.ok ()), { session with link := v }) := by
    refine Program.attempt_eq_ok.2 ?_
    rw [onLink, Program.zoom, hchannel, hclose]
  have hexited : Program.attempt (ε := ApplicationError) (onLink (D4Link.exit bound))
      { session with link := v } = (.ok (.ok ()), { session with link := v' }) := by
    refine Program.attempt_eq_ok.2 ?_
    rw [onLink, Program.zoom, hexit]
  rw [shutdown, bind_run_ok hclosed, bind_run_ok hexited]
  rfl

/-- **A conforming printer is read correctly.** Connecting succeeds; reading any addresses that the
width can encode gives what the memory holds at them, in their order; and shutting down succeeds. -/
theorem EpsonD4Session.reads_memory [CharTables] {t : T} {addresses : List UInt16}
    (hidle : peer.stage t = .idle) (hquiet : peer.outbox t = [])
    (haddresses : ∀ address ∈ addresses, p.spec.readAddressWidth = .one → address ≤ 0xff)
    (hbound : 65536 ≤ bound) :
    ∃ session session' session'',
      connectRecoverable bound t p.spec = .ok session ∧
      readEeprom bound addresses session =
        (.ok (addresses.map fun address ↦ ⟨address, p.memory address⟩), session') ∧
      shutdown bound session' = (.ok (), session'') ∧
      session''.link.state.conversation = .terminated ∧
      peer.stage session''.link.state.target = .ended := by
  obtain ⟨session, hconnect, hservice⟩ := connectRecoverable_ok hidle hquiet hbound
  obtain ⟨session', hread, hservice'⟩ := readEeprom_ok hservice haddresses hbound
  obtain ⟨session'', hshutdown, hend⟩ := shutdown_ok hservice' hbound
  exact ⟨session, session', session'', hconnect, hread, hshutdown, hend⟩

/-- A printer of revision 1.0 that returns the credit with every reply. -/
theorem SimulatedPrinter.reads_memory_of_c90 :
    letI := CharTables.ascii
    let p : Printer := ⟨.c90, fun a ↦ a.toUInt8 + 1, .v10, 2, 0x100, 0x100, 0, by decide, by decide,
      by decide⟩
    let printer : SimulatedPrinter p := ⟨.idle, [], 1, 1, by decide, by decide⟩
    ∃ session session' session'',
      EpsonD4Session.connectRecoverable 65536 printer p.spec = .ok session ∧
      EpsonD4Session.readEeprom 65536 [0x0c, 0xff, 0x0c] session =
        (.ok [⟨0x0c, 0x0d⟩, ⟨0xff, 0x00⟩, ⟨0x0c, 0x0d⟩], session') ∧
      EpsonD4Session.shutdown 65536 session' = (.ok (), session'') ∧
      session''.link.state.conversation = .terminated ∧
      session''.link.state.target.stage = .ended := by
  let _ := CharTables.ascii
  intro p printer
  have hidle : (SimulatedPrinter.peer p).stage printer = .idle := rfl
  have haddresses : ∀ a ∈ ([0x0c, 0xff, 0x0c] : List UInt16),
      p.spec.readAddressWidth = .one → a ≤ 0xff := by
    simp
  exact EpsonD4Session.reads_memory hidle rfl haddresses le_rfl

end Reink
