import Reink.Platform.Recording

/-!
# Journals of transports

A transport together with every call that was made on it, the failed ones included. It does what the
transport inside does, so what a journal shows of the code that runs over it holds of any transport.
-/

namespace Reink

/-- A transport that is closed after its use. A failure is its text. -/
class UsbTransport (T : Type) extends ByteTransport T where
  close : T → Except String Unit × T

/-- Dropping a transport closes it once more, and what that close returns is not used. -/
def UsbTransport.drop {T : Type} [UsbTransport T] (transport : T) : T :=
  (UsbTransport.close transport).2

/-- A call on a transport, and what came of it. -/
inductive TransportCall where
  | wrote (bytes : List UInt8)
  | writeFailed (bytes : List UInt8)
  | read (bytes : List UInt8)
  | readFailed
  | closed
deriving DecidableEq, Repr

namespace TransportCall

/-- What a call has transferred. -/
def transfer : TransportCall → Option TransportEvent
  | wrote bytes => some (.tx bytes)
  | read bytes => some (.rx bytes)
  | _ => none

/-- The bytes that were handed to the transport. -/
def handed : TransportCall → Option (List UInt8)
  | wrote bytes | writeFailed bytes => some bytes
  | _ => none

end TransportCall

/-- A transport with its journal. -/
structure Journaled (T : Type) where
  inner : T
  calls : List TransportCall
deriving DecidableEq, Repr

namespace Journaled

variable {T : Type}

/-- The transport with nothing recorded. -/
def start (inner : T) : Journaled T := ⟨inner, []⟩

/-- One more call. -/
def push (journal : Journaled T) (call : TransportCall) (inner : T) : Journaled T :=
  ⟨inner, journal.calls ++ [call]⟩

/-- How a write is recorded. -/
def writeCall (data : List UInt8) (result : Except TransportError Unit) : TransportCall :=
  match result with
  | .ok () => .wrote data
  | .error _ => .writeFailed data

/-- How a read is recorded. -/
def readCall (result : Except TransportError (List UInt8)) : TransportCall :=
  match result with
  | .ok bytes => .read bytes
  | .error _ => .readFailed

instance [ByteTransport T] : ByteTransport (Journaled T) where
  writeAll data journal :=
    let (result, inner) := ByteTransport.writeAll data journal.inner
    (result, journal.push (writeCall data result) inner)
  read size journal :=
    let (result, inner) := ByteTransport.read size journal.inner
    (result, journal.push (readCall result) inner)
  length_le_of_read := by
    intro size journal journal' bytes h
    exact ByteTransport.length_le_of_read (Prod.ext (Prod.mk.inj h).1 rfl)

instance [UsbTransport T] : UsbTransport (Journaled T) where
  close journal :=
    let (result, inner) := UsbTransport.close journal.inner
    (result, journal.push .closed inner)

variable [ByteTransport T]

theorem writeAll_run {data : List UInt8} {journal : Journaled T} {inner : T}
    {result : Except TransportError Unit}
    (h : ByteTransport.writeAll data journal.inner = (result, inner)) :
    ByteTransport.writeAll data journal = (result, journal.push (writeCall data result) inner) := by
  rw [← show _ = inner from congrArg Prod.snd h, ← show _ = result from congrArg Prod.fst h]
  rfl

theorem read_run {size : Nat} {journal : Journaled T} {inner : T}
    {result : Except TransportError (List UInt8)}
    (h : ByteTransport.read size journal.inner = (result, inner)) :
    ByteTransport.read size journal = (result, journal.push (readCall result) inner) := by
  rw [← show _ = inner from congrArg Prod.snd h, ← show _ = result from congrArg Prod.fst h]
  rfl

theorem calls_of_writeAll {data : List UInt8} {result : Except TransportError Unit}
    {journal journal' : Journaled T}
    (h : ByteTransport.writeAll data journal = (result, journal')) :
    journal'.calls = journal.calls ++ [writeCall data result] := by
  rw [← show _ = journal' from congrArg Prod.snd h, ← show _ = result from congrArg Prod.fst h]
  rfl

theorem calls_of_read {size : Nat} {result : Except TransportError (List UInt8)}
    {journal journal' : Journaled T} (h : ByteTransport.read size journal = (result, journal')) :
    journal'.calls = journal.calls ++ [readCall result] := by
  rw [← show _ = journal' from congrArg Prod.snd h, ← show _ = result from congrArg Prod.fst h]
  rfl

/-- **No caller can tell** a transport with a journal from the one inside. -/
theorem simulation : TransportSimulation (fun t (journal : Journaled T) ↦ journal.inner = t)
    fun _ ↦ True where
  allowed_write _ _ _ := trivial
  allowed_read _ _ _ := trivial
  write := by
    rintro data t journal rfl -
    exact ⟨rfl, rfl⟩
  read := by
    rintro size t journal - rfl -
    exact ⟨rfl, rfl⟩

end Journaled

/-! ### Reading the journal -/

/-- The calls made on a transport can be read off it. -/
structure KeepsJournal {T : Type} [ByteTransport T] (calls : T → List TransportCall) : Prop where
  write : ∀ data t, calls (ByteTransport.writeAll data t).2 =
    calls t ++ [Journaled.writeCall data (ByteTransport.writeAll data t).1]
  read : ∀ size t, calls (ByteTransport.read size t).2 =
    calls t ++ [Journaled.readCall (ByteTransport.read size t).1]

section Recording

variable {T : Type} {recordTraffic : Bool}

theorem Journaled.keepsJournal [ByteTransport T] :
    KeepsJournal (Journaled.calls : Journaled T → List TransportCall) :=
  ⟨fun _ _ ↦ rfl, fun _ _ ↦ rfl⟩

/-- A journal behind a recording transport. -/
theorem KeepsJournal.recording [ByteTransport T] {calls : T → List TransportCall}
    (h : KeepsJournal calls) :
    KeepsJournal fun recording : RecordingTransport T ↦ calls recording.inner where
  write data recording := by
    have hwrite := h.write data recording.inner
    rw [RecordingTransport.writeAll_eq]
    rcases hrun : ByteTransport.writeAll data recording.inner with ⟨_ | _, inner⟩ <;>
      rw [hrun] at hwrite <;> simpa using hwrite
  read size recording := by
    have hread := h.read size recording.inner
    rw [RecordingTransport.read_eq]
    rcases hrun : ByteTransport.read size recording.inner with ⟨_ | _, inner⟩ <;>
      rw [hrun] at hread <;> simpa using hread

/-- What a recording transport has on record is what the journal behind it shows. -/
structure RecordsJournal (recordTraffic : Bool) (recording : RecordingTransport (Journaled T)) :
    Prop where
  notClosed : TransportCall.closed ∉ recording.inner.calls
  enabled : recording.recordingEnabled = recordTraffic
  events : recording.events =
    if recordTraffic then recording.inner.calls.filterMap TransportCall.transfer else []

theorem RecordsJournal.writeAll [ByteTransport T] (data : List UInt8)
    {recording : RecordingTransport (Journaled T)} (h : RecordsJournal recordTraffic recording) :
    RecordsJournal recordTraffic (ByteTransport.writeAll data recording).2 := by
  obtain ⟨hclosed, henabled, hevents⟩ := h
  rw [RecordingTransport.writeAll_eq]
  rcases hrun : ByteTransport.writeAll data recording.inner with ⟨_ | _, inner⟩
  all_goals
    have hcalls := Journaled.calls_of_writeAll hrun
    refine ⟨?_, by simpa using henabled, ?_⟩
    · simpa [hcalls, Journaled.writeCall] using hclosed
    · cases recordTraffic <;> simp [RecordingTransport.push_events, hcalls, hevents, henabled,
        Journaled.writeCall, TransportCall.transfer]

theorem RecordsJournal.read [ByteTransport T] (size : Nat)
    {recording : RecordingTransport (Journaled T)} (h : RecordsJournal recordTraffic recording) :
    RecordsJournal recordTraffic (ByteTransport.read size recording).2 := by
  obtain ⟨hclosed, henabled, hevents⟩ := h
  rw [RecordingTransport.read_eq]
  rcases hrun : ByteTransport.read size recording.inner with ⟨_ | _, inner⟩
  all_goals
    have hcalls := Journaled.calls_of_read hrun
    refine ⟨?_, by simpa using henabled, ?_⟩
    · simpa [hcalls, Journaled.readCall] using hclosed
    · cases recordTraffic <;> simp [RecordingTransport.push_events, hcalls, hevents, henabled,
        Journaled.readCall, TransportCall.transfer]

end Recording

end Reink
