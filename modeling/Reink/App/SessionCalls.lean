import Reink.App.CounterReset
import Reink.App.WritePlan
import Reink.Core.IdentityReply
import Reink.Library.Client

/-!
# Operations on a session

An operation of a caller is handed the session and reaches it through its methods, and the file that
it may have to write through `write_new_binary_file`. It is the tree of these calls. A failed call
is answered by the text of its error: callers put words in front of it and hand it on.
-/

namespace Reink

open Program (attempt mapErr ofExcept ofOutcome)

/-- Failure of a method of the session. -/
inductive SessionError where
  | application (error : ApplicationError)
  | identity (error : IdentityReadError)
deriving DecidableEq, Repr

/-- The displayed text of a failure, that of an application error. -/
def SessionError.display {ε : Type} : SessionError → Outcome ε String
  | application error => error.display
  | identity error => return "Epson error: " ++ error.display

namespace EpsonD4Session

variable {T : Type} [ByteTransport T] (bound : Nat)

/-- Reads the printer's identity. -/
def readIdentity : Program (EpsonD4Session T) SessionError PrinterIdentity := do
  let response ← mapErr .application (onControl bound fun _ ↦ EpsonController.requestIdentity)
  ofExcept .identity (identityOfReply response)

end EpsonD4Session

/-- The methods of a session. -/
inductive SessionCall where
  | readIdentity
  | readStatus
  | readEeprom (addresses : List UInt16)
  | dumpEeprom
  | prepareEepromWrite (updates : List (UInt16 × UInt8))
  | applyEepromWrite (plan : EepromWritePlan)
deriving DecidableEq, Repr

/-- What a method gives. -/
abbrev SessionCall.Reply : SessionCall → Type
  | .readIdentity => PrinterIdentity
  | .readStatus => List UInt8
  | .readEeprom _ => List EepromReadReply
  | .dumpEeprom => EepromImage
  | .prepareEepromWrite _ => EepromWritePlan
  | .applyEepromWrite _ => Unit

/-- The methods of a read-only view of a session. -/
def SessionCall.IsRead : SessionCall → Prop
  | .prepareEepromWrite _ | .applyEepromWrite _ => False
  | _ => True

/-- Run a method and answer an error by its text. -/
def texted {σ ε α : Type} (m : Program σ SessionError α) : Program σ ε (Except String α) := do
  match ← attempt m with
  | .ok a => return .ok a
  | .error error =>
    let text ← ofOutcome id error.display
    return .error text

namespace EpsonD4Session

variable {T : Type} [ByteTransport T] [CharTables] (bound : Nat)

/-- The program of a call of the session. -/
def perform : (call : SessionCall) → Program (EpsonD4Session T) SessionError call.Reply
  | .readIdentity => readIdentity bound
  | .readStatus => mapErr .application (readStatus bound)
  | .readEeprom addresses => mapErr .application (readEeprom bound addresses)
  | .dumpEeprom => mapErr .application (dumpEeprom bound)
  | .prepareEepromWrite updates => mapErr .application (prepareEepromWrite bound updates)
  | .applyEepromWrite plan => mapErr .application (applyEepromWrite bound plan)

/-- The session as a service. -/
def serve {ε : Type} (call : SessionCall) :
    Program (EpsonD4Session T) ε (Except String call.Reply) :=
  texted (perform bound call)

end EpsonD4Session

/-! ### Files -/

/-- The operations of the file system that the program uses. A failure is its text. -/
class FileSystem (F : Type) where
  /-- Open files. -/
  File : Type
  /-- Opens a new file for writing. It is an error if the path exists. -/
  createNew : String → F → Except String File × F
  writeAll : File → List UInt8 → F → Except String Unit × F
  syncAll : File → F → Except String Unit × F
  syncParentDirectory : String → F → Except String Unit × F
  read : String → F → Except String (List UInt8)
  pathExists : String → F → Bool
  isDirectory : String → F → Bool
  /-- The path without its last component. -/
  parent : String → Option String

/-- One operation, with words in front of its error. -/
def fileOperation {F α : Type} (message : String) (operation : F → Except String α × F) :
    Program F String α := fun files ↦
  match operation files with
  | (.ok a, files) => (.ok a, files)
  | (.error error, files) => (.err (message ++ error), files)

theorem fileOperation_eq_ok {F α : Type} {message : String} {operation : F → Except String α × F}
    {files files' : F} {a : α} :
    fileOperation message operation files = (.ok a, files') ↔
      operation files = (.ok a, files') := by
  unfold fileOperation
  rcases operation files with ⟨error | a', files₁⟩ <;> simp

/-- Creates and durably synchronizes a new private binary file without overwriting an existing
path. -/
def writeNewBinaryFile {F : Type} [FileSystem F] (path : String) (bytes : List UInt8)
    (kind : String) : Program F String Unit := do
  let file ← fileOperation ("could not create " ++ kind ++ " " ++ path ++ ": ")
    (FileSystem.createNew path)
  fileOperation ("could not persist " ++ kind ++ " " ++ path ++ ": ")
    (FileSystem.writeAll file bytes)
  fileOperation ("could not persist " ++ kind ++ " " ++ path ++ ": ") (FileSystem.syncAll file)
  fileOperation ("could not durably persist " ++ kind ++ " " ++ path ++ ": ")
    (FileSystem.syncParentDirectory path)

/-- Whether a file of the kind can be created at the path. -/
def validateNewFilePath {F : Type} [FileSystem F] (path kind : String) (files : F) :
    Except String Unit :=
  if FileSystem.pathExists path files then
    .error ("refusing to overwrite existing " ++ kind ++ ": " ++ path)
  else
    match FileSystem.parent F path with
    | none | some "" => .ok ()
    | some parent =>
      if FileSystem.isDirectory parent files then .ok ()
      else .error (kind ++ " parent directory does not exist: " ++ parent)

/-- What has been written to a new file can be read from it. -/
def KeepsNewFiles (F : Type) [FileSystem F] : Prop :=
  ∀ (path kind : String) (bytes : List UInt8) (files files' : F),
    writeNewBinaryFile path bytes kind files = (.ok (), files') →
      FileSystem.read path files' = .ok bytes

/-- The same without a synchronization. -/
def KeepsWritten (F : Type) [FileSystem F] : Prop :=
  ∀ (path : String) (file : FileSystem.File F) (bytes : List UInt8) (files files₁ files₂ : F),
    FileSystem.createNew path files = (.ok file, files₁) →
      FileSystem.writeAll file bytes files₁ = (.ok (), files₂) →
        FileSystem.read path files₂ = .ok bytes

/-- Files held in memory, all of them in one directory. -/
structure MemoryFiles where
  contents : List (String × List UInt8)
deriving DecidableEq, Repr

namespace MemoryFiles

/-- A file is a place in the list. -/
instance : FileSystem MemoryFiles where
  File := String
  createNew path files :=
    if path ∈ files.contents.map Prod.fst then (.error "File exists (os error 17)", files)
    else (.ok path, ⟨(path, []) :: files.contents⟩)
  writeAll path bytes files :=
    (.ok (), ⟨(path, bytes) :: files.contents.filter (·.1 ≠ path)⟩)
  syncAll _ files := (.ok (), files)
  syncParentDirectory _ files := (.ok (), files)
  read path files :=
    Except.okOr "No such file or directory (os error 2)" (files.contents.lookup path)
  pathExists path files := files.contents.any (·.1 = path)
  isDirectory _ _ := false
  parent _ := some ""

theorem keepsWritten : KeepsWritten MemoryFiles := by
  intro path file bytes files files₁ files₂ hcreate hwrite
  change (if path ∈ files.contents.map Prod.fst then _ else _) = _ at hcreate
  split at hcreate
  all_goals cases hcreate
  cases hwrite
  simp [FileSystem.read, Except.okOr]

theorem keepsNewFiles : KeepsNewFiles MemoryFiles := by
  intro path kind bytes files files' h
  obtain ⟨file, files₁, hcreate, hwritten⟩ := Program.bind_eq_ok.1 h
  rcases hnew : FileSystem.createNew path files with ⟨error | file', files₁'⟩
  all_goals
    rw [fileOperation, hnew] at hcreate
    cases hcreate
  change (if path ∈ files.contents.map Prod.fst then _ else _) = _ at hnew
  split at hnew
  all_goals cases hnew
  cases hwritten
  simp [FileSystem.read, Except.okOr]

end MemoryFiles

/-! ### The operations of callers -/

/-- What an operation may call. -/
inductive OperationCall where
  | session (call : SessionCall)
  | writeNewBinaryFile (path : String) (bytes : List UInt8) (kind : String)
deriving DecidableEq, Repr

/-- What a call gives back to the operation. -/
abbrev OperationCall.Answer : OperationCall → Type
  | .session call => Except String call.Reply
  | .writeNewBinaryFile _ _ _ => Except String Unit

/-- An operation of a caller on the session it is handed. -/
abbrev SessionOperation (α : Type) : Type :=
  Client OperationCall OperationCall.Answer String α

namespace SessionOperation

/-- A call of a method, with words in front of its error. -/
def session (call : SessionCall) (text : String) : SessionOperation call.Reply :=
  Client.ask (.session call) >>= fun reply : Except String call.Reply ↦
    Client.ofExcept (reply.mapError (text ++ ·))

/-- A new file. -/
def newFile (path : String) (bytes : List UInt8) (kind : String) : SessionOperation Unit :=
  Client.ask (.writeNewBinaryFile path bytes kind) >>= Client.ofExcept

/-- A new file, with the caller's words around its error. -/
def saveNewFile (failure : String → String) (path : String) (bytes : List UInt8) (kind : String) :
    SessionOperation Unit :=
  Client.ask (.writeNewBinaryFile path bytes kind) >>= fun answer : Except String Unit ↦
    Client.ofExcept (answer.mapError failure)

theorem newFile_eq (path : String) (bytes : List UInt8) (kind : String) :
    newFile path bytes kind = saveNewFile id path bytes kind := by
  show Client.call _ _ = Client.call _ _
  congr 1
  funext answer
  rcases answer with error | ⟨⟩ <;> rfl

end SessionOperation

/-- A session, and the files beside it. -/
structure Host (T F : Type) where
  session : EpsonD4Session T
  files : F

namespace Host

variable {T F : Type}

/-- The host with another session. -/
def withSession (host : Host T F) (session : EpsonD4Session T) : Host T F :=
  { host with session := session }

/-- The host with other files. -/
def withFiles (host : Host T F) (files : F) : Host T F := { host with files := files }

/-- Run a program on the session. -/
def onSession {ε α : Type} (m : Program (EpsonD4Session T) ε α) : Program (Host T F) ε α :=
  Program.zoom session withSession m

/-- A program on the files of the host. -/
def onFiles {ε α : Type} (m : Program F ε α) : Program (Host T F) ε α :=
  Program.zoom files withFiles m

variable [ByteTransport T] [FileSystem F] [CharTables] (bound : Nat)

/-- What the calls of an operation come to. -/
def serve {ε : Type} : (call : OperationCall) → Program (Host T F) ε call.Answer
  | .session call => onSession (EpsonD4Session.serve bound call)
  | .writeNewBinaryFile path bytes kind =>
    onFiles (attempt (writeNewBinaryFile path bytes kind))

end Host

end Reink
