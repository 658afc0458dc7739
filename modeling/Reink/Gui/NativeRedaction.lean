import Reink.Platform.Transport
import Reink.Usb.Redaction

/-!
# Redacting a recorded exchange

A debug capture holds what was sent and received as it was cut into transfers. Its serial numbers
are looked for in the stream of all received bytes, and each byte of a value is overwritten in the
stream and in the transfer that it came with. The events stay as they are but for that, and the
received bytes are those that the redaction of one buffer leaves.
-/

namespace Reink

/-! ### The redaction -/

/-- The bytes that the event received. -/
def TransportEvent.received : TransportEvent → List UInt8
  | .tx _ => []
  | .rx bytes => bytes

/-- All received bytes, in their order. -/
def receivedStream (events : List TransportEvent) : List UInt8 :=
  events.flatMap TransportEvent.received

/-- For each received byte the index of its event, from `first` on, and its index in it. -/
def receivedPositions (events : List TransportEvent) (first : Nat) : List (Nat × Nat) :=
  (events.zipIdx first).flatMap fun (event, eventIndex) ↦
    event.received.zipIdx.map fun (_, byteIndex) ↦ (eventIndex, byteIndex)

/-- An assignment to a byte of a buffer. -/
def redactByte (bytes : List UInt8) (index : Nat) : Option (List UInt8) :=
  if index < bytes.length then some (bytes.set index 0x58) else none

/-- The byte is overwritten in the stream, and in its event. -/
def redactPosition (positions : List (Nat × Nat)) (state : List UInt8 × List TransportEvent)
    (position : Nat) : Option (List UInt8 × List TransportEvent) := do
  let stream ← redactByte state.1 position
  let (eventIndex, byteIndex) ← positions[position]?
  match ← state.2[eventIndex]? with
  | .tx _ => return (stream, state.2)
  | .rx bytes =>
    let bytes ← redactByte bytes byteIndex
    return (stream, state.2.set eventIndex (.rx bytes))

/-- The positions from `start` to before `stop`, one after the other. -/
def redactPositions (positions : List (Nat × Nat)) (state : List UInt8 × List TransportEvent)
    (start stop : Nat) : Option (List UInt8 × List TransportEvent) :=
  (List.range' start (stop - start)).foldlM (redactPosition positions) state

theorem length_of_redactPosition {positions : List (Nat × Nat)}
    {state state' : List UInt8 × List TransportEvent} {position : Nat}
    (h : redactPosition positions state position = some state') :
    state'.1.length = state.1.length := by
  obtain ⟨stream, hstream, h⟩ := Option.bind_eq_some_iff.1 h
  have hlength : stream.length = state.1.length := by
    obtain ⟨-, heq⟩ := Option.ite_none_right_eq_some.1 hstream
    rw [← Option.some.inj heq, List.length_set]
  obtain ⟨⟨eventIndex, byteIndex⟩, -, h⟩ := Option.bind_eq_some_iff.1 h
  obtain ⟨event, -, h⟩ := Option.bind_eq_some_iff.1 h
  rcases event with bytes | bytes
  case tx =>
    cases h
    exact hlength
  case rx =>
    obtain ⟨bytes', -, h⟩ := Option.bind_eq_some_iff.1 h
    cases h
    exact hlength

theorem length_of_redactPositions {positions : List (Nat × Nat)}
    {state state' : List UInt8 × List TransportEvent} {start stop : Nat}
    (h : redactPositions positions state start stop = some state') :
    state'.1.length = state.1.length := by
  unfold redactPositions at h
  generalize List.range' start (stop - start) = range at h
  induction range generalizing state with
  | nil =>
    cases h
    rfl
  | cons position rest ih =>
    rw [List.foldlM_cons] at h
    obtain ⟨next, hnext, h⟩ := Option.bind_eq_some_iff.1 h
    rw [ih h, length_of_redactPosition hnext]

/-- The pass for one marker, from the offset on. -/
def redactNativeMarker (positions : List (Nat × Nat)) (marker : List UInt8)
    (state : List UInt8 × List TransportEvent) (offset : Nat) :
    Option (List UInt8 × List TransportEvent) :=
  match _hvalue : nextSerialValue marker state.1 offset with
  | none => none
  | some none => some state
  | some (some (valueStart, valueEnd)) =>
    match _hredact : redactPositions positions state valueStart valueEnd with
    | none => none
    | some state' =>
      if state'.1.length ≤ valueEnd + 1 then some state'
      else redactNativeMarker positions marker state' (valueEnd + 1)
termination_by state.1.length - offset
decreasing_by
  have hlength := length_of_redactPositions _hredact
  have hlt := lt_of_nextSerialValue _hvalue
  omega

/-- Mask the serial numbers in the received bytes, marker by marker. -/
def redactNativeIdentitySerials (events : List TransportEvent) : Option (List TransportEvent) := do
  let positions := receivedPositions events 0
  let state ← serialMarkers.foldlM
    (fun state marker ↦ redactNativeMarker positions marker.text state 0)
    (receivedStream events, events)
  return state.2

/-! ### The stream and its events -/

/-- What the redaction leaves of an event: what was sent, or how many bytes were received. -/
def TransportEvent.shape : TransportEvent → List UInt8 ⊕ Nat
  | .tx bytes => .inl bytes
  | .rx bytes => .inr bytes.length

section Stream

variable {events events' : List TransportEvent} {event : TransportEvent} {first : Nat}

@[simp] theorem receivedStream_cons :
    receivedStream (event :: events) = event.received ++ receivedStream events := rfl

theorem length_received : event.received.length = event.shape.elim (fun _ ↦ 0) id := by
  cases event with
  | tx bytes => rfl
  | rx bytes => rfl

theorem receivedPositions_cons : receivedPositions (event :: events) first =
    (List.range event.received.length).map (fun byteIndex ↦ (first, byteIndex)) ++
      receivedPositions events (first + 1) := by
  have hindices : event.received.zipIdx.map Prod.snd = List.range event.received.length := by
    rw [List.zipIdx_map_snd, List.range_eq_range']
  rw [← hindices, List.map_map]
  rfl

/-- Where the bytes of the stream come from depends only on the shape of the events. -/
theorem receivedPositions_congr (h : events'.map TransportEvent.shape =
    events.map TransportEvent.shape) :
    receivedPositions events' first = receivedPositions events first := by
  induction events generalizing events' first with
  | nil =>
    obtain rfl := List.map_eq_nil_iff.1 h
    rfl
  | cons event rest ih =>
    obtain ⟨event', rest', rfl, hevent, hrest⟩ := List.map_eq_cons_iff.1 h
    rw [receivedPositions_cons, receivedPositions_cons, ih hrest, length_received, hevent,
      ← length_received]

/-- Each byte of the stream is one of a received event, and replacing it there replaces it in the
stream. -/
theorem exists_receivedPosition (first : Nat) (b : UInt8) {position : Nat}
    (hlt : position < (receivedStream events).length) :
    ∃ eventIndex byteIndex bytes,
      (receivedPositions events first)[position]? = some (first + eventIndex, byteIndex) ∧
      events[eventIndex]? = some (.rx bytes) ∧ byteIndex < bytes.length ∧
      receivedStream (events.set eventIndex (.rx (bytes.set byteIndex b))) =
        (receivedStream events).set position b := by
  induction events generalizing first position with
  | nil => exact absurd hlt (Nat.not_lt_zero _)
  | cons event rest ih =>
    rw [receivedPositions_cons]
    rcases Nat.lt_or_ge position event.received.length with hhere | hbehind
    · rcases event with bytes | bytes
      case tx => exact absurd hhere (Nat.not_lt_zero _)
      refine ⟨0, position, bytes, ?_, rfl, hhere, ?_⟩
      · rw [List.getElem?_append_left (by simpa using hhere), List.getElem?_map,
          List.getElem?_range hhere]
        rfl
      · exact (List.set_append_left position b hhere).symm
    · rw [receivedStream_cons, List.length_append] at hlt
      have hlt' : position - event.received.length < (receivedStream rest).length := by omega
      obtain ⟨eventIndex, byteIndex, bytes, hposition, hevent, hbyte, hset⟩ := ih (first + 1) hlt'
      refine ⟨eventIndex + 1, byteIndex, bytes, ?_, hevent, hbyte, ?_⟩
      · rw [List.getElem?_append_right (by simpa using hbehind), List.length_map,
          List.length_range, hposition]
        simp only [Nat.add_assoc, Nat.add_comm 1]
      · rw [List.set_cons_succ, receivedStream_cons, receivedStream_cons, hset,
          List.set_append_right position b hbehind]

end Stream

/-! ### The passes -/

/-- The stream is that of the events, which have kept their shape. -/
structure TracksStream (events : List TransportEvent)
    (state : List UInt8 × List TransportEvent) : Prop where
  stream_eq : state.1 = receivedStream state.2
  shape : state.2.map TransportEvent.shape = events.map TransportEvent.shape

section Passes

variable {events : List TransportEvent} {state : List UInt8 × List TransportEvent}
variable {bytes : List UInt8} {marker : serialSyntax.Marker} {offset : Nat}

/-- One byte is overwritten in both. -/
theorem redactPosition_tracks (h : TracksStream events state) {position : Nat}
    (hlt : position < state.1.length) :
    ∃ state', redactPosition (receivedPositions events 0) state position = some state' ∧
      TracksStream events state' ∧ state'.1 = state.1.set position 0x58 := by
  obtain ⟨eventIndex, byteIndex, bytes, hposition, hevent, hbyte, hset⟩ :=
    exists_receivedPosition 0 0x58 (h.stream_eq ▸ hlt)
  refine ⟨(state.1.set position 0x58, state.2.set eventIndex (.rx (bytes.set byteIndex 0x58))),
    ?_, ⟨?_, ?_⟩, rfl⟩
  · rw [redactPosition, redactByte, if_pos hlt, ← receivedPositions_congr h.shape, hposition]
    simp [hevent, redactByte, hbyte]
  · rw [hset, h.stream_eq]
  · have hshape : (state.2.map TransportEvent.shape)[eventIndex]? = some (.inr bytes.length) := by
      rw [List.getElem?_map, hevent]
      rfl
    rw [List.map_set, TransportEvent.shape, List.length_set, ← h.shape]
    obtain ⟨hlt', hget⟩ := List.getElem?_eq_some_iff.1 hshape
    rw [← hget, List.set_getElem_self]

/-- The bytes of an interval are overwritten in both. -/
theorem redactPositions_tracks (h : TracksStream events state) {start stop : Nat}
    (hle : start ≤ stop) (hstop : stop ≤ state.1.length) :
    ∃ state', redactPositions (receivedPositions events 0) state start stop = some state' ∧
      TracksStream events state' ∧
      Masked 0x58 (fun i ↦ start ≤ i ∧ i < stop) state.1 state'.1 := by
  obtain ⟨count, rfl⟩ := Nat.exists_eq_add_of_le hle
  unfold redactPositions
  rw [Nat.add_sub_cancel_left]
  clear hle
  induction count generalizing state start with
  | zero => exact ⟨state, rfl, h, .of_forall_not fun i hi ↦ by omega⟩
  | succ count ih =>
    have hlt : start < state.1.length := by omega
    obtain ⟨next, hrun, hnext, hset⟩ := redactPosition_tracks h hlt
    have hlength : next.1.length = state.1.length := by rw [hset, List.length_set]
    have hrest : start + 1 + count ≤ next.1.length := by omega
    obtain ⟨final, hfinal, htracks, hmasked⟩ := ih hnext hrest
    have hone : Masked 0x58 (fun i ↦ i = start) state.1 next.1 := by
      rw [hset]
      refine ⟨List.length_set, fun i hlt hi ↦ ?_, fun i hi ↦ ?_⟩
      · rw [hi, List.getElem?_set_self (hi ▸ hlt)]
      · rw [List.getElem?_set_ne (Ne.symm hi)]
    refine ⟨final, ?_, htracks, (hone.trans hmasked).congr fun i _ ↦ ?_⟩
    · rw [List.range'_succ, List.foldlM_cons, hrun]
      exact hfinal
    · constructor <;> omega

/-- A pass over the stream masks the values of its marker there, and the events follow. -/
theorem redactNativeMarker_passed (hne : marker.text ≠ []) (h : TracksStream events state)
    (hpassed : serialSyntax.Passed marker bytes state.1 offset) (hle : offset ≤ state.1.length) :
    ∃ final, redactNativeMarker (receivedPositions events 0) marker.text state offset =
        some final ∧ TracksStream events final ∧
      Masked 0x58 (serialSyntax.Covered [marker] bytes) bytes final.1 := by
  fun_induction redactNativeMarker (receivedPositions events 0) marker.text state offset with
  | case1 state offset hvalue => exact absurd hvalue (nextSerialValue_ne_none hne hle)
  | case2 state offset hvalue =>
    exact ⟨state, rfl, h, hpassed.done fun p ↦ not_occurs_of_nextSerialValue hne hle hvalue⟩
  | case3 state offset start stop hvalue hredact =>
    obtain ⟨⟨hstart, hstop⟩, -⟩ := passed_of_nextSerialValue hne hle hpassed hvalue
    obtain ⟨next, hnext, -⟩ := redactPositions_tracks h hstart hstop
    rw [hredact] at hnext
    cases hnext
  | case4 state offset start stop hvalue next hredact hlast =>
    obtain ⟨⟨hstart, hstop⟩, hstep⟩ := passed_of_nextSerialValue hne hle hpassed hvalue
    obtain ⟨next', hnext, htracks, hmasked⟩ := redactPositions_tracks h hstart hstop
    obtain rfl := Option.some.inj (hredact.symm.trans hnext)
    refine ⟨next, rfl, htracks, (hstep next.1 hmasked).finish ?_⟩
    rwa [← hpassed.masked.length_eq, ← hmasked.length_eq]
  | case5 state offset start stop hvalue next hredact hmore ih =>
    obtain ⟨⟨hstart, hstop⟩, hstep⟩ := passed_of_nextSerialValue hne hle hpassed hvalue
    obtain ⟨next', hnext, htracks, hmasked⟩ := redactPositions_tracks h hstart hstop
    obtain rfl := Option.some.inj (hredact.symm.trans hnext)
    exact ih htracks (hstep next.1 hmasked) (by omega)

/-- What the redaction leaves of an exchange has its shape. By induction on the markers. -/
theorem shape_of_redactNativeIdentitySerials {redacted : List TransportEvent}
    (h : redactNativeIdentitySerials events = some redacted) :
    redacted.map TransportEvent.shape = events.map TransportEvent.shape := by
  obtain ⟨final, hrun, hlast⟩ := Option.bind_eq_some_iff.1 h
  cases hlast
  have hmarkers {markers : List serialSyntax.Marker} {state : List UInt8 × List TransportEvent}
      (hsub : markers ⊆ serialMarkers) (htracks : TracksStream events state)
      (hrun : markers.foldlM (fun state marker ↦
        redactNativeMarker (receivedPositions events 0) marker.text state 0) state = some final) :
      TracksStream events final := by
    induction markers generalizing state with
    | nil =>
      cases hrun
      exact htracks
    | cons marker rest ih =>
      obtain ⟨hmarker, hrest⟩ := List.cons_subset.1 hsub
      obtain ⟨next, hnext, hrun⟩ := Option.bind_eq_some_iff.1 hrun
      obtain ⟨next', hpass, htracks', -⟩ := redactNativeMarker_passed
        (serialMarkers_ne_nil marker hmarker) htracks (.zero marker state.1) (Nat.zero_le _)
      cases hpass.symm.trans hnext
      exact ih hrest htracks' hrun
  exact (hmarkers (List.Subset.refl _) ⟨rfl, rfl⟩ hrun).shape

end Passes

/-! ### The result -/

/-- **Redacting an exchange is redacting its received stream.** However the stream is cut into
events, and whatever is sent in between, the events keep their number, order, directions, lengths
and sent bytes, and what they received is what the redaction of one buffer leaves. -/
theorem redactNativeIdentitySerials_stream (events : List TransportEvent) :
    ∃ redacted, redactNativeIdentitySerials events = some redacted ∧
      redacted.map TransportEvent.shape = events.map TransportEvent.shape ∧
      redactIdentitySerialFields (receivedStream events) = some (receivedStream redacted) := by
  have hpass : ∀ marker ∈ serialMarkers, ∀ state, TracksStream events state → ∃ next,
      redactNativeMarker (receivedPositions events 0) marker.text state 0 = some next ∧
        TracksStream events next ∧
        Masked serialSyntax.filler (serialSyntax.Covered [marker] state.1) state.1 next.1 :=
    fun marker hmem state h ↦ redactNativeMarker_passed (serialMarkers_ne_nil marker hmem) h
      (.zero marker state.1) (Nat.zero_le _)
  have hstart : Masked serialSyntax.filler (serialSyntax.Covered [] (receivedStream events))
      (receivedStream events) (receivedStream events) :=
    .of_forall_not fun _ ↦ not_covered_nil
  have htracks : TracksStream events (receivedStream events, events) := ⟨rfl, rfl⟩
  obtain ⟨final, hrun, htracks, hmasked⟩ := ValueSyntax.foldlM_masked Prod.fst _
    (fun state marker ↦ redactNativeMarker (receivedPositions events 0) marker.text state 0)
    hpass htracks hstart
  obtain ⟨out, hout, hmasked'⟩ := redactIdentitySerialFields_masked (receivedStream events)
  refine ⟨final.2, ?_, htracks.shape, ?_⟩
  · rw [redactNativeIdentitySerials, hrun]
    rfl
  · rw [hout, ← htracks.stream_eq, hmasked'.unique hmasked]

end Reink
