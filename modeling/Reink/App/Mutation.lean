import Reink.App.SessionTraffic

/-!
# Changing the EEPROM

Every caller that writes has the same operation: the identity of the printer is read and compared,
a complete backup is read and saved to a new file, and only then is the plan applied. So an EEPROM
write on the wire tells that all of that has been done. The callers differ in their words, and in
what they look at in the plan and report (`GuardedMutation`).
-/

namespace Reink

open Program (attempt)

/-- What tells the commands that write from each other. -/
structure MutationKind where
  confirmation : String
  command : String
  backupKind : String
  prepareFailure : String
  applyFailure : String
deriving DecidableEq, Repr

open SessionOperation in
/-- The operation of a command that writes. -/
def mutateEeprom (kind : MutationKind) (verify : PrinterIdentity → Except String Unit)
    (updates : List (UInt16 × UInt8)) (backupFile : String) : SessionOperation Unit := do
  let identity ← session .readIdentity ""
  Client.ofExcept (verify identity)
  let plan ← session (.prepareEepromWrite updates) kind.prepareFailure
  newFile backupFile plan.backup.bytes kind.backupKind
  session (.applyEepromWrite plan) kind.applyFailure

/-- What tells the callers that write from each other: what they make of the plan before they save
its backup, and what they report behind the write. -/
structure GuardedMutation (β α : Type) where
  prepareFailure : String
  inspect : EepromWritePlan → Except String β
  backupKind : String
  saveFailure : β → String → String
  applyFailure : β → String
  report : EepromWritePlan → β → α

open SessionOperation in
/-- The operation of a caller that writes. -/
def GuardedMutation.operation {β α : Type} (mutation : GuardedMutation β α)
    (verify : PrinterIdentity → Except String Unit) (updates : List (UInt16 × UInt8))
    (backupFile : String) : SessionOperation α := do
  let identity ← session .readIdentity ""
  Client.ofExcept (verify identity)
  let plan ← session (.prepareEepromWrite updates) mutation.prepareFailure
  let inspected ← Client.ofExcept (mutation.inspect plan)
  saveNewFile (mutation.saveFailure inspected) backupFile plan.backup.bytes mutation.backupKind
  session (.applyEepromWrite plan) (mutation.applyFailure inspected)
  return mutation.report plan inspected

section Calls

variable {T F α : Type} [ByteTransport T] [FileSystem F] [CharTables] {bound : Nat}

namespace EpsonD4Session

/-- A method that is answered without an error. -/
theorem serve_of_perform_ok {ε : Type} {call : SessionCall} {reply : call.Reply}
    {session session' : EpsonD4Session T} (h : perform bound call session = (.ok reply, session')) :
    serve (ε := ε) bound call session = (.ok (.ok reply), session') := by
  rw [serve, texted, Program.bind_run_ok (Program.attempt_eq_ok.2 h)]
  rfl

end EpsonD4Session

namespace SessionOperation

variable (bound)

variable {bound}

/-- A method call that the operation goes on behind was answered. -/
theorem of_session_run {call : SessionCall} {text : String} {host host' : Host T F}
    {reply : call.Reply}
    (h : (session call text).run (Host.serve bound) host = (.ok reply, host')) :
    ∃ session', EpsonD4Session.perform bound call host.session = (.ok reply, session') ∧
      host' = host.withSession session' := by
  obtain ⟨answer, host₁, hserve, hlast⟩ := Program.bind_eq_ok.1 h
  rcases answer with error | reply'
  · cases hlast
  cases hlast
  obtain ⟨houtcome, hhost⟩ := Prod.mk.inj hserve
  obtain ⟨result, session₁, hattempt, hrest⟩ := Program.bind_eq_ok.1 (Prod.ext houtcome rfl)
  rcases result with error | reply'
  · obtain ⟨text, session₂, -, htext⟩ := Program.bind_eq_ok.1 hrest
    cases htext
  · obtain ⟨hreply, hsession⟩ := Prod.mk.inj hrest
    cases hreply
    refine ⟨session₁, Program.attempt_eq_ok.1 hattempt, ?_⟩
    rw [← hhost, hsession]
    rfl

/-- A file that the operation goes on behind was written. -/
theorem of_saveNewFile_run {failure : String → String} {path kind : String} {bytes : List UInt8}
    {host host' : Host T F}
    (h : (saveNewFile failure path bytes kind).run (Host.serve bound) host = (.ok (), host')) :
    ∃ files', writeNewBinaryFile path bytes kind host.files = (.ok (), files') ∧
      host' = host.withFiles files' := by
  obtain ⟨answer, host₁, hserve, hlast⟩ := Program.bind_eq_ok.1 h
  rcases answer with error | ⟨⟩
  · cases hlast
  cases hlast
  obtain ⟨houtcome, hhost⟩ := Prod.mk.inj hserve
  exact ⟨_, Program.attempt_eq_ok.1 (Prod.ext houtcome rfl), hhost.symm⟩

end SessionOperation

end Calls

/-! ### The operation -/

section Operation

variable {T F α : Type} [ByteTransport T] [FileSystem F] [CharTables]
  {calls : T → List TransportCall} {bound : Nat}
  {verify : PrinterIdentity → Except String Unit} {updates : List (UInt16 × UInt8)}
  {backupFile : String}

omit [ByteTransport T] [FileSystem F] [CharTables] in
theorem Host.Hands.refl {addresses : List UInt16} (host : Host T F) :
    Host.Hands calls addresses host host := EpsonD4Session.Hands.refl host.session

omit [ByteTransport T] [FileSystem F] [CharTables] in
/-- Calls among which none writes outside the addresses. -/
theorem Speaks.mem_of_writesTo {P : List UInt16} {spec : EpsonSpec} {target target' : T}
    (h : Speaks calls (WritesWithin spec P) target target') (hstart : calls target = [])
    {call : TransportCall} (hcall : call ∈ calls target') {address : UInt16}
    (hwrites : call.WritesTo spec address) : address ∈ P := by
  obtain ⟨new, hnew, hall⟩ := h
  rw [hstart, List.nil_append] at hnew
  exact (hall call (hnew ▸ hcall)).mem_of_writesTo hwrites

end Operation

section Reports

variable {T F α : Type} [FileSystem F] [CharTables] {bound : Nat}

variable [UsbTransport T]

end Reports

end Reink
