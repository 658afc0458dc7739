import Reink.App.Mutation
import Reink.App.Restore
import Reink.Core.Storing

/-!
# Changing the EEPROM over a session that stores

Over a control channel that shows its memory and stores in it the operation of the commands that
write succeeds. The backup it saves is the image of the memory as it was, and the memory afterwards
is the old one with the updates stored, in their order.
-/

namespace Reink

open EpsonController
open Program (Moves bind_run_ok)

namespace EpsonD4Session

variable {T α : Type} [ByteTransport T] {bound : Nat} {session : EpsonD4Session T}

/-- An operation of the controller that succeeds on the open control channel of a session. -/
theorem onControl_ok {m : EpsonSpec → Program (D4ControlChannel T bound) EpsonError α} {a : α}
    {control : D4ControlChannel T bound}
    (hopen : (session.link.state.channels session.controlChannel).any (·.isOpen) = true)
    (hm : Moves (Requests fun _ ↦ True) (m session.spec))
    (h : m session.spec (session.control bound) = (.ok a, control)) :
    ∃ link, onControl bound m session = (.ok a, { session with link := link }) ∧
      control = { session with link := link }.control bound := by
  have hmoves := hm (session.control bound)
  rw [h] at hmoves
  have hchannel : control.channel = session.controlChannel :=
    D4ControlChannel.channel_of_requests hmoves
  refine ⟨control.link, ?_, ?_⟩
  · have hrun : m session.spec ⟨session.link, session.controlChannel⟩ = (.ok a, control) := h
    rw [onControl_of_open m hopen, hrun]
    rfl
  · rw [EpsonD4Session.control, ← hchannel]

end EpsonD4Session

/-- Every address in the range of the model can be read and written. -/
structure EpsonSpec.Writable (spec : EpsonSpec) : Prop where
  range : spec.memoryLow ≤ spec.memoryHigh
  read : ∀ address, spec.Contains address → spec.CanRead address
  write : ∀ address, spec.Contains address → spec.CanWrite address

/-- The control channel of a session that shows its memory and stores in it. -/
structure StoringSession (spec : EpsonSpec) (T : Type) [ByteTransport T] (bound : Nat) extends
    StoringChannel spec (D4ControlChannel T bound), FaithfulSession spec T bound

namespace StoringSession

variable {spec : EpsonSpec} {T : Type} [ByteTransport T] {bound : Nat}
  (storing : StoringSession spec T bound) {session : EpsonD4Session T}

/-- The session is of the model, its channel ready, and this is what the memory holds. -/
structure Holds (memory : UInt16 → UInt8) (session : EpsonD4Session T) : Prop where
  ready : storing.Ready (session.control bound)
  spec : session.spec = spec
  memory : storing.memory (session.control bound) = memory

variable {storing} {memory : UInt16 → UInt8}

/-- The identity of the printer is read. -/
theorem Holds.readIdentity (h : storing.Holds memory session) :
    ∃ session', EpsonD4Session.readIdentity bound session = (.ok storing.identity, session') ∧
      storing.Holds memory session' := by
  obtain ⟨response, control, hrun, hidentity, hready, hmemory⟩ :=
    storing.requestIdentity_ok h.ready
  have hmoves : Moves (Requests fun _ ↦ True)
      (requestIdentity : Program (D4ControlChannel T bound) EpsonError (List UInt8)) :=
    .ofExcept_bind fun request _ ↦ .mapErr (request_moves trivial)
  obtain ⟨link, hcontrol, rfl⟩ := EpsonD4Session.onControl_ok (m := fun _ ↦ requestIdentity)
    (storing.isOpen h.ready) hmoves hrun
  refine ⟨_, ?_, hready, h.spec, hmemory.trans h.memory⟩
  rw [EpsonD4Session.readIdentity, bind_run_ok (Program.mapErr_eq_ok.2 hcontrol)]
  exact Program.ofExcept_eq_ok.2 ⟨hidentity, rfl⟩

variable [CharTables] {updates : List (UInt16 × UInt8)}

/-- A write is prepared with the image of the memory. -/
theorem Holds.prepareEepromWrite (h : storing.Holds memory session) (hspec : spec.Writable)
    (hupdates : ValidUpdates spec updates) :
    ∃ session', EpsonD4Session.prepareEepromWrite bound updates session =
        (.ok ⟨spec.image memory, updates⟩, session') ∧ storing.Holds memory session' := by
  obtain ⟨link, hdump, hready, hmemory⟩ :=
    storing.toFaithfulSession.dumpEeprom_ok h.ready h.spec hspec.read
  have hvalid : validateEepromUpdates session.spec updates = .ok () := by
    rw [h.spec]
    exact validateEepromUpdates_eq_ok.2 hupdates
  refine ⟨_, ?_, hready, h.spec, hmemory.trans h.memory⟩
  unfold EpsonD4Session.prepareEepromWrite
  rw [hvalid, Program.ofExcept_ok, Program.pure_bind, bind_run_ok hdump, h.memory]
  rfl

omit [ByteTransport T] [CharTables] in
/-- A plan with the image of a memory matches the model. -/
theorem matches_image (hspec : spec.Writable) (hupdates : ValidUpdates spec updates) :
    EepromWritePlan.Matches ⟨spec.image memory, updates⟩ spec := by
  refine ⟨rfl, rfl, ?_, hupdates⟩
  rw [EpsonSpec.image, List.length_map, EpsonSpec.length_addresses hspec.range]

/-- **A plan with the image of a memory is applied**, and its updates are stored. -/
theorem Holds.applyEepromWrite (saved : UInt16 → UInt8) (h : storing.Holds memory session)
    (hspec : spec.Writable) (hupdates : ValidUpdates spec updates) :
    ∃ session', EpsonD4Session.applyEepromWrite bound ⟨spec.image saved, updates⟩ session =
        (.ok (), session') ∧ storing.Holds (overwrite memory updates) session' := by
  have hmatches : EepromWritePlan.Matches ⟨spec.image saved, updates⟩ session.spec :=
    h.spec.symm ▸ matches_image hspec hupdates
  obtain ⟨originals, horiginals, hsame, -⟩ := EpsonD4Session.exists_originalsOf hmatches.start
    hmatches.length hmatches.updates.contains
  have hnames : updates.map Prod.fst ⊆ originals.map Prod.fst := by
    rw [hsame]
    exact List.Subset.refl _
  obtain ⟨control, hrun, hready, hmemory⟩ := storing.writeEepromWithOriginals_ok ⟨true, true⟩
    h.ready hnames fun update hmem ↦
      ⟨hspec.read _ (hupdates.contains update hmem), hspec.write _ (hupdates.contains update hmem)⟩
  obtain ⟨link, hcontrol, rfl⟩ := EpsonD4Session.onControl_ok
    (m := fun spec ↦ writeEepromWithOriginals spec updates (some originals) ⟨true, true⟩)
    (storing.isOpen h.ready) (fun control ↦ Relation.ReflTransGen.mono
      (fun _ _ ⟨request, _, hrequest⟩ ↦ ⟨request, trivial, hrequest⟩) _ _
      (writeEepromWithOriginals_writesWithin control)) (h.spec.symm ▸ hrun)
  refine ⟨_, ?_, hready, h.spec, hmemory.trans (by rw [h.memory])⟩
  rw [EpsonD4Session.applyEepromWrite_of_matches hmatches horiginals]
  exact hcontrol

end StoringSession

/-! ### The operation -/

section Operation

variable {T F α : Type} [ByteTransport T] [FileSystem F] [CharTables] {bound : Nat}

namespace SessionOperation

/-- A call of a method that succeeds. -/
theorem session_run_ok (call : SessionCall) (text : String) (host : Host T F) {reply : call.Reply}
    {session' : EpsonD4Session T}
    (h : EpsonD4Session.perform bound call host.session = (.ok reply, session')) :
    (session call text).run (Host.serve bound) host = (.ok reply, host.withSession session') := by
  have hserve : (Host.serve bound (.session call) : Program (Host T F) String _) host =
      (.ok (.ok reply), host.withSession session') := by
    show (((EpsonD4Session.serve bound call) host.session).1, _) = _
    rw [EpsonD4Session.serve_of_perform_ok h]
  have hrun : (session call text).run (Host.serve (T := T) (F := F) bound) =
      Host.serve bound (.session call) >>= fun reply : Except String call.Reply ↦
        (Client.ofExcept (reply.mapError (text ++ ·))).run (Host.serve bound) := rfl
  rw [hrun, bind_run_ok hserve]
  rfl

/-- A file that is written. -/
theorem newFile_run_ok {path kind : String} {bytes : List UInt8} {files' : F} (host : Host T F)
    (h : writeNewBinaryFile path bytes kind host.files = (.ok (), files')) :
    (newFile path bytes kind).run (Host.serve bound) host = (.ok (), host.withFiles files') := by
  have hserve : (Host.serve bound (.writeNewBinaryFile path bytes kind) :
      Program (Host T F) String _) host = (.ok (.ok ()), host.withFiles files') := by
    show ((Program.attempt (writeNewBinaryFile path bytes kind) host.files).1, _) = _
    rw [Program.attempt_eq_ok.2 h]
  have hrun : (newFile path bytes kind).run (Host.serve (T := T) (F := F) bound) =
      Host.serve bound (.writeNewBinaryFile path bytes kind) >>= fun answer ↦
        (Client.ofExcept answer).run (Host.serve bound) := rfl
  rw [hrun, bind_run_ok hserve]
  rfl

end SessionOperation

/-- **The operation of the commands that write succeeds**, where its identity is accepted and the
backup can be saved: the backup is the image of the memory as it was, and the updates are stored. -/
theorem StoringSession.mutateEeprom_ok {spec : EpsonSpec} {storing : StoringSession spec T bound}
    {memory : UInt16 → UInt8} {session : EpsonD4Session T} {files : F} {kind : MutationKind}
    {verify : PrinterIdentity → Except String Unit} {updates : List (UInt16 × UInt8)}
    {backupFile : String} {files' : F} (h : storing.Holds memory session)
    (hspec : spec.Writable) (hupdates : ValidUpdates spec updates)
    (hverify : verify storing.identity = .ok ())
    (hfile : writeNewBinaryFile backupFile (spec.image memory).bytes kind.backupKind files =
      (.ok (), files')) :
    ∃ session', (mutateEeprom kind verify updates backupFile).run (Host.serve bound)
        ⟨session, files⟩ = (.ok (), ⟨session', files'⟩) ∧
          storing.Holds (overwrite memory updates) session' := by
  obtain ⟨session₁, hidentity, h₁⟩ := h.readIdentity
  obtain ⟨session₂, hprepare, h₂⟩ := h₁.prepareEepromWrite hspec hupdates
  obtain ⟨session₃, happly, h₃⟩ := h₂.applyEepromWrite memory hspec hupdates
  refine ⟨session₃, ?_, h₃⟩
  have hidentified : (SessionOperation.session .readIdentity "").run (Host.serve bound)
      ⟨session, files⟩ = (.ok storing.identity, ⟨session₁, files⟩) :=
    SessionOperation.session_run_ok _ _ _ hidentity
  have hprepared : (SessionOperation.session (.prepareEepromWrite updates) kind.prepareFailure).run
      (Host.serve bound) ⟨session₁, files⟩ =
        (.ok ⟨spec.image memory, updates⟩, ⟨session₂, files⟩) :=
    SessionOperation.session_run_ok _ _ _ (Program.mapErr_eq_ok.2 hprepare)
  have hsaved : (SessionOperation.newFile backupFile (spec.image memory).bytes
      kind.backupKind).run (Host.serve bound) ⟨session₂, files⟩ = (.ok (), ⟨session₂, files'⟩) :=
    SessionOperation.newFile_run_ok _ hfile
  have happlied : (SessionOperation.session (.applyEepromWrite ⟨spec.image memory, updates⟩)
      kind.applyFailure).run (Host.serve bound) ⟨session₂, files'⟩ =
        (.ok (), ⟨session₃, files'⟩) :=
    SessionOperation.session_run_ok _ _ _ (Program.mapErr_eq_ok.2 happly)
  rw [mutateEeprom, Client.run_bind, bind_run_ok hidentified, hverify, Client.ofExcept_ok,
    Client.done_bind, Client.run_bind, bind_run_ok hprepared, Client.run_bind]
  exact (bind_run_ok hsaved).trans happlied

end Operation

end Reink
