import Reink.D4.Simulation

/-!
# Recording transports

The wrapper that records successful transfers. It is transparent: whatever runs over it does the
same over the transport inside. What it has recorded are the transfers of the run, in their order
and with the boundaries of the reads, and nothing of those that failed.
-/

namespace Reink

/-- A transparent wrapper that records successful transfers. -/
structure RecordingTransport (T : Type) where
  inner : T
  events : List TransportEvent
  recordingEnabled : Bool
deriving DecidableEq, Repr

namespace RecordingTransport

variable {T : Type}

/-- Wraps a transport while retaining successful transfers only when enabled. -/
def newWithRecording (inner : T) (recordingEnabled : Bool) : RecordingTransport T :=
  ⟨inner, [], recordingEnabled⟩

/-- A transport that records. -/
def new (inner : T) : RecordingTransport T := newWithRecording inner true

/-- Returns the wrapped transport and the ordered transfer record. -/
def intoParts (transport : RecordingTransport T) : T × List TransportEvent :=
  (transport.inner, transport.events)

/-- One more event, if the transport records. -/
def push (transport : RecordingTransport T) (event : TransportEvent) : RecordingTransport T :=
  if transport.recordingEnabled then { transport with events := transport.events ++ [event] }
  else transport

@[simp] theorem push_inner (transport : RecordingTransport T) (event : TransportEvent) :
    (transport.push event).inner = transport.inner := by
  unfold push
  split <;> rfl

@[simp] theorem push_recordingEnabled (transport : RecordingTransport T) (event : TransportEvent) :
    (transport.push event).recordingEnabled = transport.recordingEnabled := by
  unfold push
  split <;> rfl

theorem push_events (transport : RecordingTransport T) (event : TransportEvent) :
    (transport.push event).events =
      transport.events ++ if transport.recordingEnabled then [event] else [] := by
  unfold push
  split <;> simp

instance [ByteTransport T] : ByteTransport (RecordingTransport T) where
  writeAll data transport :=
    match ByteTransport.writeAll data transport.inner with
    | (.error error, inner) => (.error error, { transport with inner := inner })
    | (.ok (), inner) => (.ok (), { transport with inner := inner }.push (.tx data))
  read size transport :=
    match ByteTransport.read size transport.inner with
    | (.error error, inner) => (.error error, { transport with inner := inner })
    | (.ok bytes, inner) => (.ok bytes, { transport with inner := inner }.push (.rx bytes))
  length_le_of_read := by
    intro size transport transport' bytes h
    rcases hrun : ByteTransport.read size transport.inner with ⟨error | bytes', inner⟩ <;>
      rw [hrun] at h <;> cases h
    exact ByteTransport.length_le_of_read hrun

variable [ByteTransport T]

theorem writeAll_eq (data : List UInt8) (transport : RecordingTransport T) :
    ByteTransport.writeAll data transport =
      match ByteTransport.writeAll data transport.inner with
      | (.error error, inner) => (.error error, { transport with inner := inner })
      | (.ok (), inner) => (.ok (), { transport with inner := inner }.push (.tx data)) := rfl

theorem read_eq (size : Nat) (transport : RecordingTransport T) :
    ByteTransport.read size transport =
      match ByteTransport.read size transport.inner with
      | (.error error, inner) => (.error error, { transport with inner := inner })
      | (.ok bytes, inner) => (.ok bytes, { transport with inner := inner }.push (.rx bytes)) := rfl

/-- What a write does to the transport inside. -/
theorem inner_writeAll (data : List UInt8) (transport : RecordingTransport T) :
    (ByteTransport.writeAll data transport).2.inner =
      (ByteTransport.writeAll data transport.inner).2 := by
  rw [writeAll_eq]
  rcases ByteTransport.writeAll data transport.inner with ⟨error | _, inner⟩
  · rfl
  · exact push_inner _ _

/-- What a read does to the transport inside. -/
theorem inner_read (size : Nat) (transport : RecordingTransport T) :
    (ByteTransport.read size transport).2.inner = (ByteTransport.read size transport.inner).2 := by
  rw [read_eq]
  rcases ByteTransport.read size transport.inner with ⟨error | bytes, inner⟩
  · rfl
  · exact push_inner _ _

/-- **No caller can tell** a recording transport from the one it wraps. -/
theorem simulation : TransportSimulation (fun t (r : RecordingTransport T) ↦ r.inner = t)
    fun _ ↦ True where
  allowed_write _ _ _ := trivial
  allowed_read _ _ _ := trivial
  write := by
    rintro data t r rfl -
    rw [writeAll_eq]
    rcases ByteTransport.writeAll data r.inner with ⟨error | _, inner⟩
    · exact ⟨rfl, rfl⟩
    · exact ⟨rfl, push_inner _ _⟩
  read := by
    rintro size t r - rfl -
    rw [read_eq]
    rcases ByteTransport.read size r.inner with ⟨error | bytes, inner⟩
    · exact ⟨rfl, rfl⟩
    · exact ⟨rfl, push_inner _ _⟩

/-- Nor can it tell two recording transports with the same one inside. -/
theorem simulation_of_inner :
    TransportSimulation (fun r r' : RecordingTransport T ↦ r.inner = r'.inner) fun _ ↦ True where
  allowed_write _ _ _ := trivial
  allowed_read _ _ _ := trivial
  write data r r' h _ := by
    obtain ⟨hfirst, hinner⟩ := simulation.write data r.inner r rfl trivial
    obtain ⟨hfirst', hinner'⟩ := simulation.write data r'.inner r' rfl trivial
    rw [h] at hfirst hinner
    exact ⟨hfirst.symm.trans hfirst', hinner.trans hinner'.symm⟩
  read size r r' hsize h _ := by
    obtain ⟨hfirst, hinner⟩ := simulation.read size r.inner r hsize rfl trivial
    obtain ⟨hfirst', hinner'⟩ := simulation.read size r'.inner r' hsize rfl trivial
    rw [h] at hfirst hinner
    exact ⟨hfirst.symm.trans hfirst', hinner.trans hinner'.symm⟩

/-! ### The record -/

/-- The record of the transport is what stood in it before the run, and the transfers of the run if
it records. -/
def HasRecorded (before : List TransportEvent) (recordingEnabled : Bool)
    (w : LinkRun (RecordingTransport T)) : Prop :=
  w.state.target.recordingEnabled = recordingEnabled ∧
    w.state.target.events = before ++ if recordingEnabled then D4Link.transfers w else []

variable {before : List TransportEvent} {recordingEnabled : Bool}
  {w : LinkRun (RecordingTransport T)}

omit [ByteTransport T] in
/-- A step that transfers nothing. -/
theorem HasRecorded.push_none (h : HasRecorded before recordingEnabled w) {event : Event}
    {after : D4Link (RecordingTransport T)} (hevent : event.transfer = none)
    (henabled : after.target.recordingEnabled = w.state.target.recordingEnabled)
    (hevents : after.target.events = w.state.target.events) :
    HasRecorded before recordingEnabled (w.push event after) := by
  refine ⟨henabled.trans h.1, ?_⟩
  rw [D4Link.transfers_push, hevent, Option.toList_none, List.append_nil]
  exact hevents.trans h.2

omit [ByteTransport T] in
/-- A step whose transfer the transport has recorded. -/
theorem HasRecorded.push_some (h : HasRecorded before recordingEnabled w) {event : Event}
    {after : D4Link (RecordingTransport T)} {transfer : TransportEvent} {inner : T}
    (hevent : event.transfer = some transfer)
    (htarget : after.target = { w.state.target with inner := inner }.push transfer) :
    HasRecorded before recordingEnabled (w.push event after) := by
  obtain ⟨henabled, hevents⟩ := h
  refine ⟨?_, ?_⟩
  · show after.target.recordingEnabled = recordingEnabled
    rw [htarget, push_recordingEnabled, ← henabled]
  · show after.target.events = _
    rw [htarget, push_events, D4Link.transfers_push, hevent, hevents, henabled]
    cases recordingEnabled <;> simp

/-- A write that succeeded is recorded. -/
theorem target_of_writeAll_ok {data : List UInt8} {r r' : RecordingTransport T}
    (h : ByteTransport.writeAll data r = (.ok (), r')) :
    ∃ inner, r' = { r with inner := inner }.push (.tx data) := by
  rw [writeAll_eq] at h
  rcases hrun : ByteTransport.writeAll data r.inner with ⟨_ | _, inner⟩ <;> rw [hrun] at h
  · exact absurd (Prod.mk.inj h).1 nofun
  · exact ⟨inner, (Prod.mk.inj h).2.symm⟩

/-- A write that failed is not. -/
theorem target_of_writeAll_error {data : List UInt8} {error : TransportError}
    {r r' : RecordingTransport T} (h : ByteTransport.writeAll data r = (.error error, r')) :
    ∃ inner, r' = { r with inner := inner } := by
  rw [writeAll_eq] at h
  rcases hrun : ByteTransport.writeAll data r.inner with ⟨_ | _, inner⟩ <;> rw [hrun] at h
  · exact ⟨inner, (Prod.mk.inj h).2.symm⟩
  · exact absurd (Prod.mk.inj h).1 nofun

/-- A read that succeeded is recorded with the bytes it gave. -/
theorem target_of_read_ok {size : Nat} {bytes : List UInt8} {r r' : RecordingTransport T}
    (h : ByteTransport.read size r = (.ok bytes, r')) :
    ∃ inner, r' = { r with inner := inner }.push (.rx bytes) := by
  rw [read_eq] at h
  rcases hrun : ByteTransport.read size r.inner with ⟨_ | bytes', inner⟩ <;> rw [hrun] at h
  · exact absurd (Prod.mk.inj h).1 nofun
  · obtain ⟨hbytes, htarget⟩ := Prod.mk.inj h
    rw [Except.ok.inj hbytes] at htarget
    exact ⟨inner, htarget.symm⟩

/-- A read that failed is not. -/
theorem target_of_read_error {size : Nat} {error : TransportError} {r r' : RecordingTransport T}
    (h : ByteTransport.read size r = (.error error, r')) :
    ∃ inner, r' = { r with inner := inner } := by
  rw [read_eq] at h
  rcases hrun : ByteTransport.read size r.inner with ⟨_ | _, inner⟩ <;> rw [hrun] at h
  · exact ⟨inner, (Prod.mk.inj h).2.symm⟩
  · exact absurd (Prod.mk.inj h).1 nofun

/-- What has been recorded so far is kept by every step of the link. -/
theorem accounts_hasRecorded (before : List TransportEvent) (recordingEnabled : Bool) :
    D4Link.Accounts (HasRecorded (T := T) before recordingEnabled) where
  quiet := by
    intro w event after h hevent htarget
    refine h.push_none ?_ (by rw [htarget]) (by rw [htarget])
    cases event <;> first | rfl | exact absurd trivial hevent
  wrote := by
    intro w packet after h hwrite
    obtain ⟨inner, htarget⟩ := target_of_writeAll_ok hwrite
    exact h.push_some rfl htarget
  writeFailed := by
    intro w packet error after h hwrite
    obtain ⟨inner, htarget⟩ := target_of_writeAll_error hwrite
    exact h.push_none rfl (by rw [htarget]) (by rw [htarget])
  read := by
    intro w bytes after h hread
    obtain ⟨inner, htarget⟩ := target_of_read_ok hread
    exact h.push_some rfl htarget
  readFailed := by
    intro w error after h hread
    obtain ⟨inner, htarget⟩ := target_of_read_error hread
    exact h.push_none rfl (by rw [htarget]) (by rw [htarget])

/-- **A recorded run is the run itself**, whatever the calls and the peer: the same results and the
same steps, and at its end the transport inside, with the transfers of the run as the record if it
was enabled. -/
theorem runNew_recorded (calls : List Call) (inner : T) (recordingEnabled : Bool) :
    (D4Link.runNew calls (newWithRecording inner recordingEnabled)).1 =
        (D4Link.runNew calls inner).1 ∧
      (D4Link.runNew calls (newWithRecording inner recordingEnabled)).2.history.map Step.event =
        (D4Link.runNew calls inner).2.history.map Step.event ∧
      (D4Link.runNew calls (newWithRecording inner recordingEnabled)).2.state.target.intoParts =
        ((D4Link.runNew calls inner).2.state.target,
          if recordingEnabled then D4Link.transfers (D4Link.runNew calls inner).2 else []) := by
  have : Nonempty (RecordingTransport T) := ⟨newWithRecording inner recordingEnabled⟩
  have hstart : Recorded.Beside (D4Link.Over fun t (r : RecordingTransport T) ↦ r.inner = t)
      (HasRecorded [] recordingEnabled) (.start (D4Link.new inner))
      (.start (D4Link.new (newWithRecording inner recordingEnabled))) := by
    refine ⟨.new rfl, rfl, rfl, ?_⟩
    cases recordingEnabled <;> rfl
  obtain ⟨hresults, hbeside⟩ :=
    D4Link.runCalls_beside simulation (accounts_hasRecorded [] recordingEnabled) calls
      hstart trivial
  refine ⟨hresults.symm, hbeside.events.symm, Prod.ext hbeside.state.target ?_⟩
  have hrecord := hbeside.kept.2
  rw [List.nil_append, D4Link.transfers_eq, ← hbeside.events, ← D4Link.transfers_eq] at hrecord
  exact hrecord

end RecordingTransport

end Reink
