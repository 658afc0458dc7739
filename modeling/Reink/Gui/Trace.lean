import Reink.Gui.DebugTraffic
import Reink.Library.Text

/-!
# The traffic of a window

What the window shows of recorded transfers: a bounded list, each of whose entries is one
reassembled transfer. The decoders are those of one operation, so an entry never mixes the bytes of
two of them.
-/

namespace Reink

open Text (upperHexadecimal)

/-- A displayed transfer. Its summary is left out. -/
structure DebugTrafficEntry where
  id : UInt64
  direction : DebugTrafficDirection
  hexBytes : String
deriving DecidableEq, Repr

/-- The entries that the trace keeps. -/
def debugTrafficMaxEntries : Nat := 1000

/-- Bounded, in-memory debug traffic for the current GUI session. -/
structure DebugTrafficTrace where
  captureEnabled : Bool := false
  entries : List DebugTrafficEntry := []
  txDecoder : DebugTrafficDecoder := {}
  rxDecoder : DebugTrafficDecoder := {}
  nextEntryId : UInt64 := 0
deriving DecidableEq, Repr

/-- The bytes in hexadecimal, with spaces between them. -/
def formatHexBytes (bytes : List UInt8) : String :=
  String.intercalate " " (bytes.map fun byte ↦ upperHexadecimal 2 byte.toNat)

/-- The direction of a transfer, and its bytes. -/
def TransportEvent.transferred : TransportEvent → DebugTrafficDirection × List UInt8
  | tx bytes => (.tx, bytes)
  | rx bytes => (.rx, bytes)

namespace DebugTrafficTrace

/-- Turn the recording of later operations on or off. -/
def setCaptureEnabled (trace : DebugTrafficTrace) (enabled : Bool) : DebugTrafficTrace :=
  { trace with captureEnabled := enabled }

/-- Forget the bytes that wait in both decoders. -/
def resetDecoderState (trace : DebugTrafficTrace) : DebugTrafficTrace :=
  { trace with txDecoder := {}, rxDecoder := {} }

/-- Begins a newly captured operation without removing already displayed traffic. -/
def beginOperation (trace : DebugTrafficTrace) : DebugTrafficTrace := trace.resetDecoderState

/-- Forget everything that was captured. -/
def clear (trace : DebugTrafficTrace) : DebugTrafficTrace :=
  { trace with entries := [] }.resetDecoderState

/-- The number of entries. -/
def count (trace : DebugTrafficTrace) : Nat := trace.entries.length

/-- Append a transfer, in the place of the oldest where the trace is full. -/
def appendTransfer (trace : DebugTrafficTrace) (transfer : ReassembledTransfer) :
    DebugTrafficTrace :=
  let entries :=
    if trace.entries.length = debugTrafficMaxEntries then trace.entries.tail else trace.entries
  { trace with
    entries := entries ++ [⟨trace.nextEntryId, transfer.direction, formatHexBytes transfer.bytes⟩]
    nextEntryId := trace.nextEntryId + 1 }

/-- The decoder of a direction. -/
def decoder (trace : DebugTrafficTrace) : DebugTrafficDirection → DebugTrafficDecoder
  | .tx => trace.txDecoder
  | .rx => trace.rxDecoder

/-- The trace with another decoder in the direction. -/
def setDecoder (trace : DebugTrafficTrace) (direction : DebugTrafficDirection)
    (decoder : DebugTrafficDecoder) : DebugTrafficTrace :=
  match direction with
  | .tx => { trace with txDecoder := decoder }
  | .rx => { trace with rxDecoder := decoder }

/-- Append the transfers that the event completes. -/
def appendCaptured (trace : DebugTrafficTrace) (event : TransportEvent) : DebugTrafficTrace :=
  let (direction, bytes) := event.transferred
  let (transfers, decoder) := (trace.decoder direction).push direction bytes
  transfers.foldl appendTransfer (trace.setDecoder direction decoder)

/-- Appends one event when capture is enabled, returning whether it was kept. -/
def append (trace : DebugTrafficTrace) (event : TransportEvent) : Bool × DebugTrafficTrace :=
  if ¬ trace.captureEnabled then (false, trace) else (true, trace.appendCaptured event)

/-- Appends the events of an operation that started with capture enabled. -/
def appendCapturedEvents (trace : DebugTrafficTrace) (events : List TransportEvent) :
    Nat × DebugTrafficTrace :=
  (events.length, events.foldl appendCaptured trace)

/-! ### What is shown -/

/-- The decoders have seen nothing yet. -/
structure Fresh (trace : DebugTrafficTrace) : Prop where
  tx : trace.txDecoder = {}
  rx : trace.rxDecoder = {}

theorem Fresh.decoder {trace : DebugTrafficTrace} (h : trace.Fresh)
    (direction : DebugTrafficDirection) : trace.decoder direction = {} := by
  cases direction with
  | tx => exact h.tx
  | rx => exact h.rx

theorem fresh_resetDecoderState (trace : DebugTrafficTrace) : trace.resetDecoderState.Fresh :=
  ⟨rfl, rfl⟩

end DebugTrafficTrace

/-- The chunks of a direction among the events. -/
def chunksOf (direction : DebugTrafficDirection) (events : List TransportEvent) :
    List (List UInt8) :=
  (events.filter fun event ↦ event.transferred.1 = direction).map fun event ↦ event.transferred.2

theorem chunksOf_cons_self {event : TransportEvent} {direction : DebugTrafficDirection}
    {bytes : List UInt8} (h : event.transferred = (direction, bytes))
    (events : List TransportEvent) :
    chunksOf direction (event :: events) = bytes :: chunksOf direction events := by
  simp [chunksOf, h]

theorem chunksOf_cons_of_ne {event : TransportEvent} {direction : DebugTrafficDirection}
    (h : event.transferred.1 ≠ direction) (events : List TransportEvent) :
    chunksOf direction (event :: events) = chunksOf direction events := by
  simp [chunksOf, h]

/-- The transfers of a record in a direction, which new decoders take from it. -/
def transfersOf (direction : DebugTrafficDirection) (events : List TransportEvent) :
    List ReassembledTransfer :=
  (DebugTrafficDecoder.feed direction {} (chunksOf direction events)).1

/-- The entry shows the transfer. -/
structure DebugTrafficEntry.Shows (entry : DebugTrafficEntry) (transfer : ReassembledTransfer) :
    Prop where
  direction : entry.direction = transfer.direction
  hexBytes : entry.hexBytes = formatHexBytes transfer.bytes

namespace DebugTrafficTrace

variable {trace : DebugTrafficTrace} {entry : DebugTrafficEntry}

/-- A new entry may take the place of the oldest. -/
theorem count_appendTransfer (transfer : ReassembledTransfer)
    (h : trace.count ≤ debugTrafficMaxEntries) :
    (trace.appendTransfer transfer).count ≤ debugTrafficMaxEntries := by
  unfold count at h
  simp only [count, appendTransfer, List.length_append, List.length_singleton]
  split
  case isTrue hfull =>
    rw [List.length_tail, hfull]
    decide
  case isFalse hroom => omega

theorem mem_appendTransfer {transfer : ReassembledTransfer}
    (h : entry ∈ (trace.appendTransfer transfer).entries) :
    entry ∈ trace.entries ∨ entry.Shows transfer := by
  rcases List.mem_append.1 h with hold | hnew
  · split at hold
    · exact .inl (List.mem_of_mem_tail hold)
    · exact .inl hold
  · obtain rfl := List.mem_singleton.1 hnew
    exact .inr ⟨rfl, rfl⟩

@[simp] theorem decoder_appendTransfer (transfer : ReassembledTransfer)
    (direction : DebugTrafficDirection) :
    (trace.appendTransfer transfer).decoder direction = trace.decoder direction := by
  cases direction <;> rfl

/-- What is appended is bounded, shown, and does not touch the decoders. -/
theorem appended (trace : DebugTrafficTrace) (transfers : List ReassembledTransfer) :
    (trace.count ≤ debugTrafficMaxEntries →
        (transfers.foldl appendTransfer trace).count ≤ debugTrafficMaxEntries) ∧
      (∀ entry ∈ (transfers.foldl appendTransfer trace).entries,
        entry ∈ trace.entries ∨ ∃ transfer ∈ transfers, entry.Shows transfer) ∧
      ∀ direction, (transfers.foldl appendTransfer trace).decoder direction =
        trace.decoder direction := by
  induction transfers generalizing trace with
  | nil => exact ⟨id, fun _ ↦ .inl, fun _ ↦ rfl⟩
  | cons transfer transfers ih =>
    obtain ⟨hcount, hmem, hdecoder⟩ := ih (trace.appendTransfer transfer)
    refine ⟨fun h ↦ hcount (count_appendTransfer transfer h), fun entry h ↦ ?_,
      fun direction ↦ ?_⟩
    · rcases hmem entry h with hold | ⟨shown, hshown, hshows⟩
      · rcases mem_appendTransfer hold with hold | hshows
        · exact .inl hold
        · exact .inr ⟨transfer, List.mem_cons_self, hshows⟩
      · exact .inr ⟨shown, List.mem_cons_of_mem transfer hshown, hshows⟩
    · exact (hdecoder direction).trans (decoder_appendTransfer transfer direction)

theorem decoder_setDecoder (direction other : DebugTrafficDirection)
    (decoder : DebugTrafficDecoder) :
    (trace.setDecoder direction decoder).decoder other =
      if other = direction then decoder else trace.decoder other := by
  cases direction <;> cases other <;> rfl

theorem entries_setDecoder (direction : DebugTrafficDirection) (decoder : DebugTrafficDecoder) :
    (trace.setDecoder direction decoder).entries = trace.entries := by
  cases direction <;> rfl

/-- **A record is shown transfer by transfer.** The list stays bounded, and what is new in it are
the transfers that the decoders take from the events. -/
theorem appendCapturedEvents_shows (trace : DebugTrafficTrace) (events : List TransportEvent) :
    (trace.count ≤ debugTrafficMaxEntries →
        (trace.appendCapturedEvents events).2.count ≤ debugTrafficMaxEntries) ∧
      (∀ entry ∈ (trace.appendCapturedEvents events).2.entries,
        entry ∈ trace.entries ∨ ∃ direction, ∃ transfer ∈
          (DebugTrafficDecoder.feed direction (trace.decoder direction)
            (chunksOf direction events)).1, entry.Shows transfer) := by
  unfold appendCapturedEvents
  induction events generalizing trace with
  | nil => exact ⟨id, fun _ ↦ .inl⟩
  | cons event events ih =>
    rcases hevent : event.transferred with ⟨direction, bytes⟩
    obtain ⟨hcount, hmem⟩ := ih (trace.appendCaptured event)
    let pushed := (trace.decoder direction).push direction bytes
    obtain ⟨hbounded, hshown, hdecoder⟩ := trace.setDecoder direction pushed.2 |>.appended
      pushed.1
    have hcaptured : trace.appendCaptured event =
        pushed.1.foldl appendTransfer (trace.setDecoder direction pushed.2) := by
      rw [appendCaptured, hevent]
    rw [count, entries_setDecoder] at hbounded
    rw [entries_setDecoder] at hshown
    rw [← hcaptured] at hbounded hshown hdecoder
    -- An entry is of the transfers of this event, or of those of the events behind it.
    refine ⟨fun h ↦ hcount (hbounded h), fun entry h ↦ ?_⟩
    rcases hmem entry h with hbefore | ⟨other, transfer, htransfer, hshows⟩
    · rcases hshown entry hbefore with hold | ⟨transfer, htransfer, hshows⟩
      · exact .inl hold
      · refine .inr ⟨direction, transfer, ?_, hshows⟩
        rw [chunksOf_cons_self hevent]
        exact List.mem_append_left _ htransfer
    · refine .inr ⟨other, transfer, ?_, hshows⟩
      rw [hdecoder, decoder_setDecoder] at htransfer
      by_cases hsame : other = direction
      · subst hsame
        rw [if_pos rfl] at htransfer
        rw [chunksOf_cons_self hevent]
        exact List.mem_append_right _ htransfer
      · rw [if_neg hsame] at htransfer
        rwa [chunksOf_cons_of_ne (by rw [hevent]; exact Ne.symm hsame)]

end DebugTrafficTrace

end Reink
