import Reink.App.UsbSession
import Reink.D4.Handed

/-!
# What a session hands to its transport

The entry command, and packets. An EEPROM write stands in a packet only if a plan is applied, and
then it is to an address of the plan.
-/

namespace Reink

open Program (Moves)
open TransactionMessage (Encodes)

variable {T : Type} {calls : T → List TransportCall} {addresses : List UInt16}

/-! ### Requests that write nowhere -/

section Requests

variable {spec : EpsonSpec} {request command payload : List UInt8}

/-- A request begins as its command does. -/
theorem head?_of_encodeCommand (hne : command ≠ [])
    (h : encodeCommand command payload = .ok request) : request.head? = command.head? := by
  obtain ⟨first, rest, rfl⟩ := List.exists_cons_of_ne_nil hne
  unfold encodeCommand at h
  split at h <;> cases h
  rfl

/-- A write begins with a bar. -/
theorem head?_of_encodeEepromWrite {address : UInt16} {value : UInt8}
    (h : encodeEepromWrite spec address value = .ok request) : request.head? = some 0x7c := by
  obtain ⟨writeKey, payload, -, -, hfactory⟩ := encodeEepromWrite_eq_ok.1 h
  exact head?_of_encodeCommand (by decide) hfactory

/-- A command that begins otherwise writes nowhere. -/
theorem writesWithin_of_encodeCommand (hne : command ≠ []) (hbar : command.head? ≠ some 0x7c)
    (h : encodeCommand command payload = .ok request) : WritesWithin spec addresses request := by
  intro address value hwrite
  exact absurd ((head?_of_encodeCommand hne h).symm.trans (head?_of_encodeEepromWrite hwrite)) hbar

end Requests

/-! ### The control channel -/

section Control

variable [ByteTransport T] (hcalls : KeepsJournal calls) {bound : Nat} {spec : EpsonSpec}

include hcalls

/-- What requests of the kind hand to the transport. -/
theorem D4ControlChannel.hands_of_requests {control control' : D4ControlChannel T bound}
    (h : Relation.ReflTransGen (Requests (WritesWithin spec addresses)) control control') :
    D4Link.Hands calls (WritesWithin spec addresses) control.link control'.link := by
  induction h with
  | refl => exact .refl _
  | @tail control₁ _ _ hstep ih =>
    obtain ⟨request, hrequest, rfl⟩ := hstep
    exact ih.trans (.of_moves (D4Link.request_hands hcalls (fun _ ↦ writesWithin_of_encodes) bound
      control₁.channel hrequest control₁.link))

end Control

/-! ### The methods of a session -/

namespace EpsonD4Session

/-- The session goes on with the same specification, and its calls hand the transport packets whose
EEPROM writes are to the addresses. -/
def Hands (calls : T → List TransportCall) (addresses : List UInt16)
    (session session' : EpsonD4Session T) : Prop :=
  session'.spec = session.spec ∧
    D4Link.Hands calls (WritesWithin session.spec addresses) session.link session'.link

theorem Hands.refl (session : EpsonD4Session T) : Hands calls addresses session session :=
  ⟨rfl, .refl _⟩

theorem Hands.trans {s₁ s₂ s₃ : EpsonD4Session T} (h : Hands calls addresses s₁ s₂)
    (h' : Hands calls addresses s₂ s₃) : Hands calls addresses s₁ s₃ :=
  ⟨h'.1.trans h.1, h.2.trans (h.1 ▸ h'.2)⟩

theorem Hands.of_moves {session session' : EpsonD4Session T}
    (h : Relation.ReflTransGen (Hands calls addresses) session session') :
    Hands calls addresses session session' := by
  induction h with
  | refl => exact .refl session
  | tail _ hstep ih => exact ih.trans hstep

variable [ByteTransport T] (hcalls : KeepsJournal calls) {bound : Nat}

include hcalls

theorem onControl_hands {α : Type} {m : EpsonSpec → Program (D4ControlChannel T bound) EpsonError α}
    (hm : ∀ spec, Moves (Requests (WritesWithin spec addresses)) (m spec)) :
    Moves (Hands calls addresses) (onControl bound m) := by
  intro session
  refine .single ⟨onControl_spec m, ?_⟩
  rcases onControl_cases m session with ⟨e, h⟩ | h
  · rw [h]
    exact .refl _
  · rw [h]
    exact D4ControlChannel.hands_of_requests hcalls (hm session.spec _)

omit [ByteTransport T] hcalls in
/-- Messages of the link write nowhere. -/
theorem onLink_hands {α : Type} {m : LinkProgram T α}
    (hm : ∀ spec, Moves (D4Link.Hands calls (WritesWithin spec addresses)) m) :
    Moves (Hands calls addresses) (onLink m) :=
  fun session ↦ .single ⟨rfl, .of_moves (hm session.spec session.link)⟩

theorem readIdentity_hands : Moves (Hands calls addresses) (readIdentity (T := T) bound) := by
  refine .bind (.mapErr (onControl_hands hcalls fun spec ↦ ?_)) fun response ↦ ?_
  · refine .ofExcept_bind fun request hrequest ↦ .mapErr (EpsonController.request_moves ?_)
    exact writesWithin_of_encodeCommand (by decide) (by decide) hrequest
  · rcases identityOfReply response with error | identity
    · exact .throw _
    · exact .pure _

theorem readStatus_hands : Moves (Hands calls addresses) (readStatus (T := T) bound) := by
  refine onControl_hands hcalls fun spec ↦ .ofExcept_bind fun request hrequest ↦
    .mapErr (EpsonController.request_moves ?_)
  exact writesWithin_of_encodeCommand (by decide) (by decide) hrequest

variable [CharTables]

theorem readEeprom_hands (asked : List UInt16) :
    Moves (Hands calls addresses) (readEeprom (T := T) bound asked) :=
  onControl_hands hcalls fun _ ↦
    EpsonController.readEeprom_moves fun _ _ _ ↦ writesWithin_of_read

theorem dumpLoop_hands (asked : List UInt16) (bytes : List UInt8) :
    Moves (Hands calls addresses) (dumpLoop (T := T) bound asked bytes) := by
  induction asked generalizing bytes with
  | nil => exact .pure _
  | cons address asked ih =>
    refine .bind (readEeprom_hands hcalls [address]) fun replies ↦ ?_
    rcases replies.getLast? with _ | reply
    · exact fun _ ↦ .refl
    · exact ih _

theorem dumpEeprom_hands : Moves (Hands calls addresses) (dumpEeprom (T := T) bound) :=
  fun session ↦
    Moves.bind (dumpLoop_hands hcalls session.spec.addresses []) (fun _ ↦ .pure _) session

theorem prepareEepromWrite_hands (updates : List (UInt16 × UInt8)) :
    Moves (Hands calls addresses) (prepareEepromWrite (T := T) bound updates) :=
  fun session ↦ Moves.ofExcept_bind (fun _ _ ↦ .bind (dumpEeprom_hands hcalls) fun _ ↦ .pure _)
    session

/-- **Applying a plan** writes to none but its addresses. -/
theorem applyEepromWrite_hands {plan : EepromWritePlan}
    (hplan : plan.updates.map Prod.fst ⊆ addresses) :
    Moves (Hands calls addresses) (applyEepromWrite (T := T) bound plan) := by
  intro session
  refine Moves.bind (.rejectIf _) (fun _ ↦ .ofExcept_bind fun _ _ ↦ .ofExcept_bind fun _ _ ↦
    onControl_hands hcalls fun spec ↦ ?_) session
  intro control
  refine Relation.ReflTransGen.mono ?_ _ _ (writeEepromWithOriginals_writesWithin control)
  rintro _ _ ⟨request, hrequest, rfl⟩
  exact ⟨request, fun address value hwrite ↦ hplan (hrequest address value hwrite), rfl⟩

/-- **What a method hands to the transport.** -/
theorem perform_hands {call : SessionCall}
    (hcall : ∀ plan, call = .applyEepromWrite plan → plan.updates.map Prod.fst ⊆ addresses) :
    Moves (Hands calls addresses) (perform (T := T) bound call) := by
  cases call with
  | readIdentity => exact readIdentity_hands hcalls
  | readStatus => exact .mapErr (readStatus_hands hcalls)
  | readEeprom asked => exact .mapErr (readEeprom_hands hcalls asked)
  | dumpEeprom => exact .mapErr (dumpEeprom_hands hcalls)
  | prepareEepromWrite updates => exact .mapErr (prepareEepromWrite_hands hcalls updates)
  | applyEepromWrite plan => exact .mapErr (applyEepromWrite_hands hcalls (hcall plan rfl))

theorem serve_hands {ε : Type} {call : SessionCall}
    (hcall : ∀ plan, call = .applyEepromWrite plan → plan.updates.map Prod.fst ⊆ addresses) :
    Moves (Hands calls addresses) (serve (T := T) (ε := ε) bound call) := by
  refine .bind (.attempt (perform_hands hcalls hcall)) fun result ↦ ?_
  rcases result with error | reply
  · exact .bind (.ofOutcome _) fun _ ↦ .pure _
  · exact .pure _

omit [CharTables] in
theorem shutdown_hands : Moves (Hands calls addresses) (shutdown (T := T) bound) := by
  intro session
  have hmessages (spec : EpsonSpec) :
      ∀ payload, Encodes payload → WritesWithin spec addresses payload :=
    fun _ ↦ writesWithin_of_encodes
  refine Moves.bind (.attempt (onLink_hands fun spec ↦ D4Link.closeChannel_effects
    (D4Link.crosses_hands hcalls (hmessages spec)) bound _)) (fun close ↦ .bind (.attempt
      (onLink_hands fun spec ↦ D4Link.exit_hands hcalls (hmessages spec) bound))
        fun exit ↦ ?_) session
  split
  · exact .pure _
  · exact .throw _

end EpsonD4Session

/-! ### Whole sessions -/

/-- What was handed to the transport is the entry command or a packet with such a payload. -/
def TransportCall.Speaks (P : List UInt8 → Prop) (call : TransportCall) : Prop :=
  ∀ bytes, call.handed = some bytes → bytes = epsonD4EntryCommand ∨
    ∃ packet : Packet, packet.encode = bytes ∧ P packet.payload

theorem TransportCall.Carries.speaks {P : List UInt8 → Prop} {call : TransportCall}
    (h : call.Carries P) : call.Speaks P := fun bytes hbytes ↦ .inr (h bytes hbytes)

/-- The calls made on the transport meanwhile are of the kind. -/
def Speaks (calls : T → List TransportCall) (P : List UInt8 → Prop) (target target' : T) : Prop :=
  ∃ new, calls target' = calls target ++ new ∧ ∀ call ∈ new, call.Speaks P

section Sessions

variable {P : List UInt8 → Prop}

theorem Speaks.refl (target : T) : Speaks calls P target target := ⟨[], by simp⟩

theorem Speaks.trans {t₁ t₂ t₃ : T} (h : Speaks calls P t₁ t₂) (h' : Speaks calls P t₂ t₃) :
    Speaks calls P t₁ t₃ := by
  obtain ⟨new, hnew, hall⟩ := h
  obtain ⟨new', hnew', hall'⟩ := h'
  refine ⟨new ++ new', by rw [hnew', hnew, List.append_assoc], fun call hcall ↦ ?_⟩
  exact (List.mem_append.1 hcall).elim (hall call) (hall' call)

theorem Speaks.of_moves {target target' : T}
    (h : Relation.ReflTransGen (Speaks calls P) target target') :
    Speaks calls P target target' := by
  induction h with
  | refl => exact .refl target
  | tail _ hstep ih => exact ih.trans hstep

/-- The same for runs of a link. -/
theorem Speaks.of_link_moves {w w' : LinkRun T}
    (h : Relation.ReflTransGen
      (fun w w' : LinkRun T ↦ Speaks calls P w.state.target w'.state.target) w w') :
    Speaks calls P w.state.target w'.state.target := by
  induction h with
  | refl => exact .refl _
  | tail _ hstep ih => exact ih.trans hstep

theorem Speaks.of_hands {w w' : LinkRun T} (h : D4Link.Hands calls P w w') :
    Speaks calls P w.state.target w'.state.target := by
  obtain ⟨new, hnew, hall⟩ := h
  exact ⟨new, hnew, fun call hcall ↦ (hall call hcall).speaks⟩

variable [ByteTransport T] (hcalls : KeepsJournal calls)

include hcalls

theorem writeEntry_speaks (target : T) :
    Speaks calls P target (EpsonD4Session.writeEntry target).2 := by
  have hwrite := hcalls.write epsonD4EntryCommand target
  rw [EpsonD4Session.writeEntry]
  rcases hrun : ByteTransport.writeAll epsonD4EntryCommand target with ⟨_ | _, target'⟩ <;>
    rw [hrun] at hwrite <;> refine ⟨_, hwrite, fun call hcall bytes hbytes ↦ .inl ?_⟩ <;>
    rw [List.mem_singleton.1 hcall] at hbytes <;> exact (Option.some.inj hbytes).symm

theorem readEntry_speaks (size : Nat) (target : T) :
    Speaks calls P target (readEntry size target).2 := by
  have hread := hcalls.read size target
  rw [readEntry]
  rcases hrun : ByteTransport.read size target with ⟨_ | _, target'⟩ <;>
    rw [hrun] at hread <;> refine ⟨_, hread, fun call hcall bytes hbytes ↦ ?_⟩ <;>
    rw [List.mem_singleton.1 hcall] at hbytes <;> cases hbytes

/-- The reads of the entry, by induction on their limit. -/
theorem entryReplyLoop_speaks (limit : Nat) (reply : List UInt8) (receivedData : Bool) :
    Moves (Speaks calls P) (entryReplyLoop (T := T) limit reply receivedData) := by
  induction limit generalizing reply receivedData with
  | zero => exact .throw _
  | succ limit ih =>
    refine .bind (fun target ↦ .single (readEntry_speaks hcalls 256 target)) fun bytes ↦ ?_
    split
    · exact ih _ _
    · split
      · exact .pure _
      · exact ih _ _

omit [ByteTransport T] hcalls in
theorem onTarget_speaks {ε α : Type} {m : Program T ε α} (hm : Moves (Speaks calls P) m) :
    Moves (fun w w' : LinkRun T ↦ Speaks calls P w.state.target w'.state.target)
      (EpsonD4Session.onTarget m) :=
  fun w ↦ .single (Speaks.of_moves (hm w.state.target))

/-- **What a setup hands to the transport**: the entry command, and transaction messages. -/
theorem setUp_speaks (bound : Nat) (hmessages : ∀ payload, Encodes payload → P payload) :
    Moves (fun w w' : LinkRun T ↦ Speaks calls P w.state.target w'.state.target)
      (EpsonD4Session.setUp bound) := by
  have hlink {α : Type} {m : LinkProgram T α} (hm : Moves (D4Link.Hands calls P) m) :
      Moves (fun w w' : LinkRun T ↦ Speaks calls P w.state.target w'.state.target) m :=
    fun w ↦ .single (.of_hands (.of_moves (hm w)))
  have hcrosses := D4Link.crosses_hands hcalls hmessages
  refine .bind (onTarget_speaks fun target ↦ .single (writeEntry_speaks hcalls target)) fun _ ↦
    .bind (onTarget_speaks (entryReplyLoop_speaks hcalls _ _ _)) fun _ ↦
    .bind (.mapErr (hlink (D4Link.initializeLink_effects hcrosses bound))) fun _ ↦
    .bind (.attempt (hlink (D4Link.openService_effects hcrosses bound _))) fun opened ↦ ?_
  rcases opened with setup | controlChannel
  · refine .bind (.attempt (hlink (D4Link.exit_hands hcalls hmessages bound))) fun exited ↦ ?_
    rcases exited with recovery | ⟨⟩ <;> exact .throw _
  · exact .pure _

end Sessions

section Operations

variable {F : Type} [ByteTransport T] [FileSystem F] [CharTables] (hcalls : KeepsJournal calls)
  (bound : Nat)

/-- Calls that write to none but the addresses. -/
def OperationCall.Within (addresses : List UInt16) (call : OperationCall) : Prop :=
  ∀ plan, call = .session (.applyEepromWrite plan) → plan.updates.map Prod.fst ⊆ addresses

/-- The hands of a host are those of its session. -/
def Host.Hands (calls : T → List TransportCall) (addresses : List UInt16)
    (host host' : Host T F) : Prop :=
  EpsonD4Session.Hands calls addresses host.session host'.session

omit [ByteTransport T] [FileSystem F] [CharTables] in
theorem Host.Hands.of_moves {host host' : Host T F}
    (h : Relation.ReflTransGen (Host.Hands calls addresses) host host') :
    Host.Hands calls addresses host host' := by
  induction h with
  | refl => exact .refl _
  | tail _ hstep ih => exact EpsonD4Session.Hands.trans ih hstep

omit [ByteTransport T] [FileSystem F] [CharTables] in
theorem Host.onSession_hands {ε α : Type} {m : Program (EpsonD4Session T) ε α}
    (hm : Moves (EpsonD4Session.Hands calls addresses) m) :
    Moves (Host.Hands calls addresses) (Host.onSession m : Program (Host T F) ε α) :=
  fun host ↦ .single (EpsonD4Session.Hands.of_moves (hm host.session))

include hcalls

theorem Host.serve_hands {ε : Type} {call : OperationCall} (hcall : call.Within addresses) :
    Moves (Host.Hands calls addresses) (Host.serve (T := T) (F := F) (ε := ε) bound call) := by
  cases call with
  | session call =>
    exact Host.onSession_hands (EpsonD4Session.serve_hands hcalls fun plan hplan ↦
      hcall plan (congrArg _ hplan))
  | writeNewBinaryFile path bytes kind => exact fun host ↦ .single (.refl host.session)

theorem runOpened_hands {α : Type} {operation : SessionOperation α}
    (hoperation : operation.Calls (OperationCall.Within addresses)) :
    Moves (Host.Hands calls addresses) (runOpened (T := T) (F := F) bound operation) :=
  .bind (.attempt (Client.moves (fun _ ↦ Host.serve_hands hcalls bound) hoperation)) fun _ ↦
    .bind (.attempt (Host.onSession_hands (EpsonD4Session.shutdown_hands hcalls))) fun _ ↦ .pure _

/-- **What a session hands to its transport**, wherever it stands: the entry command, and packets in
which the only EEPROM writes are to addresses that the operation may write to. -/
theorem sessionStand_speaks {α : Type} {operation : SessionOperation α} (target : T)
    (spec : EpsonSpec) (files : F)
    (hoperation : operation.Calls (OperationCall.Within addresses)) :
    Speaks calls (WritesWithin spec addresses) target
      (sessionStand bound target spec operation files).1.state.target := by
  have hsetUp : Speaks calls (WritesWithin spec addresses) target
      (EpsonD4Session.setUp bound (.start (D4Link.new target))).2.state.target :=
    Speaks.of_link_moves
      (setUp_speaks hcalls bound (fun _ ↦ writesWithin_of_encodes) (.start (D4Link.new target)))
  rcases sessionStand_cases bound target spec operation files with ⟨w, rfl, hstand⟩ |
    ⟨controlChannel, w, host, hs, rfl, hstand⟩ <;> rw [hstand]
  · exact hsetUp
  · have hopened := Host.Hands.of_moves (runOpened_hands (F := F) hcalls bound hoperation
      ⟨⟨w, controlChannel, spec⟩, files⟩)
    rw [hs] at hsetUp
    exact hsetUp.trans (.of_hands hopened.2)

end Operations

/-! ### EEPROM writes on the wire -/

/-- The packet that was handed to the transport carries an EEPROM write to the address. -/
def TransportCall.WritesTo (spec : EpsonSpec) (address : UInt16) (call : TransportCall) : Prop :=
  ∃ bytes value, call.handed = some bytes ∧
    encodeEepromWrite spec address value = .ok (bytes.drop headerLength)

theorem drop_encode (packet : Packet) : packet.encode.drop headerLength = packet.payload := by
  rw [Packet.encode, List.drop_left' (PacketHeader.length_encode _)]

/-- A session that hands over writes within the addresses writes to none other. -/
theorem TransportCall.Speaks.mem_of_writesTo {spec : EpsonSpec} {call : TransportCall}
    {address : UInt16} (h : call.Speaks (WritesWithin spec addresses))
    (hwrites : call.WritesTo spec address) : address ∈ addresses := by
  obtain ⟨bytes, value, hhanded, hencode⟩ := hwrites
  rcases h bytes hhanded with rfl | ⟨packet, rfl, hpayload⟩
  · exact absurd (head?_of_encodeEepromWrite hencode) (by decide)
  · rw [drop_encode] at hencode
    exact hpayload address value hencode

/-- The calls of a read-only view of a session, and writing files. -/
def OperationCall.IsRead : OperationCall → Prop
  | .session call => call.IsRead
  | .writeNewBinaryFile _ _ _ => True

theorem OperationCall.IsRead.within {call : OperationCall} (h : call.IsRead) :
    call.Within addresses := by
  rintro plan rfl
  exact h.elim

/-- Closing the transport writes nothing. -/
theorem TransportCall.WritesTo.mem_of_close {T : Type} [UsbTransport T] {spec : EpsonSpec}
    {address : UInt16} {call : TransportCall} (hwrites : call.WritesTo spec address)
    {journal : Journaled T} (hcall : call ∈ (UsbTransport.close journal).2.calls) :
    call ∈ journal.calls := by
  rcases List.mem_append.1 hcall with hmem | hmem
  · exact hmem
  · obtain ⟨bytes, value, hhanded, -⟩ := hwrites
    rw [List.mem_singleton.1 hmem] at hhanded
    cases hhanded

/-- Nor does dropping it. -/
theorem TransportCall.WritesTo.mem_of_drop {T : Type} [UsbTransport T] {spec : EpsonSpec}
    {address : UInt16} {call : TransportCall} (hwrites : call.WritesTo spec address)
    {journal : Journaled T}
    (hcall : call ∈ (UsbTransport.drop (UsbTransport.close journal).2).calls) :
    call ∈ journal.calls :=
  hwrites.mem_of_close (hwrites.mem_of_close hcall)

/-- **A read-only operation writes nothing.** No packet with an EEPROM write of the model is handed
to the transport, under any transport, whatever the printer answers and whatever fails: not before
any point at which the session stands, still running or stopped by a panic, its setup and its
shutdown included, and not in a session that has returned, its close and its drop included. -/
theorem withEpsonSession_readOnly {T F α : Type} [UsbTransport T] [FileSystem F] [CharTables]
    {bound : Nat} {openFailure : String} {transport : T} {spec : EpsonSpec} {recordTraffic : Bool}
    {operation : SessionOperation α} {files : F} (hread : operation.Calls OperationCall.IsRead) :
    (∀ call ∈ (sessionStand bound
        (RecordingTransport.newWithRecording (Journaled.start transport) recordTraffic) spec
          operation files).1.state.target.inner.calls,
      ∀ address, ¬ call.WritesTo spec address) ∧
    ∀ run journal, withEpsonSession bound openFailure (.ok (Journaled.start transport)) spec
        recordTraffic operation files = .ok run → run.transport = some journal →
      ∀ call ∈ journal.calls, ∀ address, ¬ call.WritesTo spec address := by
  have hwithin : operation.Calls (OperationCall.Within []) :=
    hread.mono fun _ ↦ OperationCall.IsRead.within
  obtain ⟨new, hnew, hall⟩ := sessionStand_speaks Journaled.keepsJournal.recording bound
    (RecordingTransport.newWithRecording (Journaled.start transport) recordTraffic) spec files
    hwithin
  have hstand : ∀ call ∈ (sessionStand bound
      (RecordingTransport.newWithRecording (Journaled.start transport) recordTraffic) spec
        operation files).1.state.target.inner.calls,
      ∀ address, ¬ call.WritesTo spec address := by
    intro call hcall address hwrites
    have hmem : call ∈ new := (show _ = new from hnew) ▸ hcall
    exact absurd ((hall call hmem).mem_of_writesTo hwrites) List.not_mem_nil
  refine ⟨hstand, fun run journal h hleft call hcall address hwrites ↦ ?_⟩
  obtain ⟨last, result, status, hrun, -, -, rfl⟩ := withEpsonSession_ok h
  obtain rfl := Option.some.inj hleft
  have hcall' := hwrites.mem_of_drop hcall
  rw [← (runSession_stand hrun).1] at hcall'
  exact hstand call hcall' address hwrites

/-- A cell of the simulated C90 is read, and nothing is written. -/
theorem withEpsonSession_readOnly_of_c90 :
    letI := CharTables.ascii
    ∃ run journal, withEpsonSession 300 "" (.ok (Journaled.start SimulatedPrinter.c90)) .c90 false
        (SessionOperation.session (.readEeprom [0x0c]) "") (⟨[]⟩ : MemoryFiles) = .ok run ∧
      run.outcome.operation = .ok [⟨0x0c, 0x0d⟩] ∧ run.transport = some journal ∧
      0 < journal.calls.length ∧
      ∀ call ∈ journal.calls, ∀ address, ¬ call.WritesTo .c90 address := by
  let _ := CharTables.ascii
  have hread : (withEpsonSession 300 "" (.ok (Journaled.start SimulatedPrinter.c90)) .c90 false
      (SessionOperation.session (.readEeprom [0x0c]) "") (⟨[]⟩ : MemoryFiles)).any
        (fun run ↦ run.outcome.operation = .ok [⟨0x0c, 0x0d⟩] ∧
          run.transport.any fun journal ↦ 0 < journal.calls.length) = true := by decide +kernel
  obtain ⟨run, hrun, hdone⟩ := Outcome.any_iff.1 hread
  obtain ⟨hvalue, hleft⟩ := of_decide_eq_true hdone
  obtain ⟨journal, htransport, hcalled⟩ := (Option.any_eq_true _ _).1 hleft
  have hcalls : (SessionOperation.session (.readEeprom [0x0c]) "").Calls OperationCall.IsRead :=
    ⟨trivial, fun reply ↦ by cases reply <;> trivial⟩
  exact ⟨run, journal, hrun, hvalue, htransport, of_decide_eq_true hcalled,
    (withEpsonSession_readOnly hcalls).2 run journal hrun htransport⟩

end Reink
