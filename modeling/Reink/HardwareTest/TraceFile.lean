import Reink.Library.Checked
import Reink.Library.Json
import Reink.Library.Radix
import Reink.Platform.Transport

/-!
# Trace files

The JSON file in which the hardware test keeps the transfers of a run, and the strict reader that
turns a reviewed file back into events. How a JSON text is parsed is a parameter; in the value that
parsing gives, objects are maps.
-/

namespace Reink

/-- An event of a trace file. -/
structure SanitizedTraceEvent where
  isWrite : Bool
  bytes : List UInt8
deriving DecidableEq, Repr

/-! ### Reading -/

/-- The refusal of an event, which names its position. -/
def traceEventError (index : Nat) (reason : String) : String :=
  "invalid trace event " ++ toString index ++ ": " ++ reason

/-- The refusal of the file outside its events. -/
def traceSchemaError (reason : String) : String := "invalid trace schema: " ++ reason

/-- The two bytes at every second offset. -/
def hexSlices (hex : List UInt8) : List (List UInt8) :=
  (List.range' 0 ((hex.length + 1) / 2) 2).map fun offset ↦ (hex.drop offset).take 2

/-- The bytes of an event. Past the second check the text is ASCII, so that every slice of it can be
taken. -/
def parseTraceBytes (index : Nat) (hex : List UInt8) : Except String (List UInt8) :=
  if hex.length % 2 ≠ 0 then
    .error (traceEventError index "bytes must contain an even number of hexadecimal characters")
  else if ¬ hex.all Text.isUpperHexDigit then
    .error (traceEventError index "bytes must be uppercase hexadecimal")
  else
    (hexSlices hex).mapM fun slice ↦
      Except.okOr (traceEventError index "bytes must be valid hexadecimal")
        (Text.u8FromStrRadix slice 16)

/-- Whether an event is a write. -/
def parseTraceDirection (index : Nat) (direction : Option String) : Except String Bool :=
  match direction with
  | some "tx" => .ok true
  | some "rx" => .ok false
  | _ => .error (traceEventError index "direction must be tx or rx")

/-- The event of a JSON object with exactly its two fields. -/
def parseTraceEvent (index : Nat) (event : Json) : Except String SanitizedTraceEvent := do
  let object ← Except.okOr (traceEventError index "must be an object") event.asObject
  if object.length ≠ 2 ∨ (object.lookup "direction").isNone ∨ (object.lookup "bytes").isNone then
    .error (traceEventError index "expected only direction and bytes")
  else do
    let isWrite ← parseTraceDirection index ((object.lookup "direction").bind Json.asStr)
    let hex ← Except.okOr (traceEventError index "bytes must be a string")
      ((object.lookup "bytes").bind Json.asStr)
    let bytes ← parseTraceBytes index (Text.utf8 hex)
    return ⟨isWrite, bytes⟩

/-- The check that every required field is there. -/
def requireTraceFields (object : List (String × Json)) (keys : List String) : Except String Unit :=
  forM keys fun required ↦
    if (object.lookup required).isNone then .error (traceSchemaError ("missing " ++ required))
    else .ok ()

/-- The events of a parsed file. -/
def readTrace (trace : Json) : Except String (List SanitizedTraceEvent) := do
  let object ← Except.okOr (traceSchemaError "root must be an object") trace.asObject
  requireTraceFields object ["schema_version", "mode", "command", "events"]
  if object.length ≠ 4 then .error (traceSchemaError "root has unexpected fields")
  else if (object.lookup "schema_version").bind Json.asU64 ≠ some 1 then
    .error (traceSchemaError "schema_version must be 1")
  else if (object.lookup "mode").bind Json.asStr ≠ some "read_only" then
    .error (traceSchemaError "mode must be read_only")
  else if ((object.lookup "command").bind Json.asStr).all (· = "") then
    .error (traceSchemaError "command must be a non-empty string")
  else do
    let events ← Except.okOr (traceSchemaError "events must be an array")
      ((object.lookup "events").bind Json.asArray)
    events.zipIdx.mapM fun (event, index) ↦ parseTraceEvent index event

/-- The events of a trace file. -/
def parseTraceEvents (fromStr : String → Except String JsonValue) (source : String) :
    Except String (List SanitizedTraceEvent) := do
  let trace ← (fromStr source).mapError ("invalid trace JSON: " ++ ·)
  readTrace trace.json

/-! ### Writing -/

/-- The bytes in upper-case hexadecimal. -/
def traceHex (bytes : List UInt8) : String :=
  String.join (bytes.map fun byte ↦ Text.upperHexadecimal 2 byte.toNat)

/-- The JSON object of an event. -/
def traceEventJson : TransportEvent → Json
  | .tx bytes => .ofFields [("direction", .string "tx"), ("bytes", .string (traceHex bytes))]
  | .rx bytes => .ofFields [("direction", .string "rx"), ("bytes", .string (traceHex bytes))]

/-- The fields of a trace file. -/
def traceFields (command : String) (events : List TransportEvent) : List (String × Json) :=
  [("schema_version", .number (.posInt 1)), ("mode", .string "read_only"),
    ("command", .string command), ("events", .array (events.map traceEventJson))]

theorem nodup_traceEventKeys : ["direction", "bytes"].Nodup := by decide

theorem nodup_traceKeys : ["schema_version", "mode", "command", "events"].Nodup := by decide

theorem wellFormed_traceEventJson (event : TransportEvent) : (traceEventJson event).WellFormed := by
  cases event with
  | tx bytes | rx bytes =>
    refine Json.wellFormed_ofFields (fun entry hentry ↦ ?_) nodup_traceEventKeys
    simp only [List.mem_cons, List.not_mem_nil, or_false] at hentry
    rcases hentry with rfl | rfl
    · exact .string _
    · exact .string _

theorem wellFormed_traceFields (command : String) (events : List TransportEvent) :
    (Json.ofFields (traceFields command events)).WellFormed := by
  refine Json.wellFormed_ofFields (fun entry hentry ↦ ?_) nodup_traceKeys
  simp only [traceFields, List.mem_cons, List.not_mem_nil, or_false] at hentry
  rcases hentry with rfl | rfl | rfl | rfl
  · exact .number _
  · exact .string _
  · exact .string _
  · refine .array fun item hitem ↦ ?_
    obtain ⟨event, -, rfl⟩ := List.mem_map.1 hitem
    exact wellFormed_traceEventJson event

/-- The file for the transfers of a command. -/
def traceJson (command : String) (events : List TransportEvent) : JsonValue where
  json := .ofFields (traceFields command events)
  wellFormed := wellFormed_traceFields command events

/-! ### The bytes of an event -/

section Bytes

variable {index : Nat} {hex bytes : List UInt8}

theorem hexSlices_cons_cons (first second : UInt8) (rest : List UInt8) :
    hexSlices (first :: second :: rest) = [first, second] :: hexSlices rest := by
  have hcount : (rest.length + 1 + 1 + 1) / 2 = (rest.length + 1) / 2 + 1 := by omega
  have hshift (n : Nat) : List.range' (0 + 2) n 2 = (List.range' 0 n 2).map (2 + ·) :=
    (List.map_add_range' 0 n 2).symm
  rw [hexSlices, List.length_cons, List.length_cons, hcount, List.range'_succ, hshift,
    List.map_cons, List.map_map]
  congr 1
  refine List.map_congr_left fun offset _ ↦ ?_
  show ((first :: second :: rest).drop (2 + offset)).take 2 = _
  rw [Nat.add_comm]
  rfl

theorem utf8_traceHex (bytes : List UInt8) : Text.utf8 (traceHex bytes) =
    bytes.flatMap fun byte ↦ Text.utf8 (Text.upperHexadecimal 2 byte.toNat) := by
  rw [traceHex, Text.utf8_join, List.flatMap_map]

/-- Two digits are written for each byte. -/
theorem length_utf8_traceHex : (Text.utf8 (traceHex bytes)).length = 2 * bytes.length := by
  rw [utf8_traceHex]
  induction bytes with
  | nil => rfl
  | cons byte rest ih =>
    rw [List.flatMap_cons, List.length_append, ih, Text.utf8_upperHexadecimal, List.length_cons]
    simp only [List.length_cons, List.length_nil]
    omega

theorem all_isUpperHexDigit_traceHex :
    (Text.utf8 (traceHex bytes)).all Text.isUpperHexDigit = true := by
  rw [utf8_traceHex, List.all_eq_true]
  intro digit hdigit
  obtain ⟨byte, -, hdigit⟩ := List.mem_flatMap.1 hdigit
  rw [Text.utf8_upperHexadecimal] at hdigit
  have hbyte := byte.toNat_lt
  rcases List.mem_pair.1 hdigit with rfl | rfl
  · exact Text.isUpperHexDigit_iff.2 ⟨_, by omega, rfl⟩
  · exact Text.isUpperHexDigit_iff.2 ⟨_, Nat.mod_lt _ (by decide), rfl⟩

theorem utf8_traceHex_cons (byte : UInt8) (rest : List UInt8) :
    Text.utf8 (traceHex (byte :: rest)) =
      Text.upperDigit (byte.toNat / 16) :: Text.upperDigit (byte.toNat % 16) ::
        Text.utf8 (traceHex rest) := by
  rw [utf8_traceHex, List.flatMap_cons, Text.utf8_upperHexadecimal, utf8_traceHex]
  rfl

/-- Digits in pairs are read as the bytes that they are written for. -/
theorem forall₂_hexSlices_iff (hlength : hex.length % 2 = 0)
    (hdigits : hex.all Text.isUpperHexDigit = true) :
    List.Forall₂ (fun slice byte ↦ Text.u8FromStrRadix slice 16 = some byte) (hexSlices hex) bytes ↔
      hex = Text.utf8 (traceHex bytes) := by
  induction hex using List.twoStepInduction generalizing bytes with
  | nil =>
    show List.Forall₂ _ [] bytes ↔ _
    rw [List.forall₂_nil_left_iff]
    cases bytes with
    | nil => exact iff_of_true rfl rfl
    | cons byte rest =>
      rw [utf8_traceHex_cons]
      exact iff_of_false (List.cons_ne_nil _ _) fun h ↦ nomatch h
  | singleton digit => cases hlength
  | cons_cons first second rest ih _ =>
    rw [hexSlices_cons_cons]
    cases bytes with
    | nil => exact iff_of_false (fun h ↦ nomatch h) (List.cons_ne_nil _ _)
    | cons byte bytes =>
      simp only [List.all_cons, Bool.and_eq_true] at hdigits
      obtain ⟨hfirst, hsecond, hrest⟩ := hdigits
      have hrestLength : rest.length % 2 = 0 := by
        simpa only [List.length_cons, Nat.add_assoc, Nat.add_mod_right] using hlength
      rw [List.forall₂_cons, Text.u8FromStrRadix_eq_some_iff hfirst hsecond,
        ih hrestLength hrest, utf8_traceHex_cons, Text.utf8_upperHexadecimal]
      simp only [List.cons.injEq, and_true, and_assoc, eq_comm]

/-- **The bytes of an event** are read from the text that they are written as, and from no other. -/
theorem parseTraceBytes_eq_ok_iff :
    parseTraceBytes index hex = .ok bytes ↔ hex = Text.utf8 (traceHex bytes) := by
  rw [parseTraceBytes, Except.ite_eq_ok, Except.ite_eq_ok, Except.mapM_eq_ok, not_not, not_not]
  simp only [Except.okOr_eq_ok_iff]
  constructor
  · rintro ⟨hlength, hdigits, hslices⟩
    exact (forall₂_hexSlices_iff hlength hdigits).1 hslices
  · intro h
    have hlength : hex.length % 2 = 0 := by
      rw [h, length_utf8_traceHex, Nat.mul_mod_right]
    have hdigits : hex.all Text.isUpperHexDigit = true := h ▸ all_isUpperHexDigit_traceHex
    exact ⟨hlength, hdigits, (forall₂_hexSlices_iff hlength hdigits).2 h⟩

end Bytes

/-! ### Events -/

/-- The event that reading gives for a transfer. -/
def SanitizedTraceEvent.ofTransport : TransportEvent → SanitizedTraceEvent
  | .tx bytes => ⟨true, bytes⟩
  | .rx bytes => ⟨false, bytes⟩

/-- The event as the transport has recorded it. -/
def SanitizedTraceEvent.toTransport (event : SanitizedTraceEvent) : TransportEvent :=
  if event.isWrite then .tx event.bytes else .rx event.bytes

@[simp] theorem SanitizedTraceEvent.toTransport_ofTransport (event : TransportEvent) :
    (ofTransport event).toTransport = event := by
  cases event with
  | tx bytes | rx bytes => rfl

/-- The direction that is written for an event. -/
def SanitizedTraceEvent.direction (event : SanitizedTraceEvent) : String :=
  if event.isWrite then "tx" else "rx"

theorem traceEventJson_toTransport (event : SanitizedTraceEvent) :
    traceEventJson event.toTransport = .ofFields [("direction", .string event.direction),
      ("bytes", .string (traceHex event.bytes))] := by
  rcases event with ⟨_ | _, bytes⟩
  · rfl
  · rfl

theorem parseTraceDirection_eq_ok_iff {index : Nat} {direction : Option String} {isWrite : Bool} :
    parseTraceDirection index direction = .ok isWrite ↔
      direction = some (if isWrite then "tx" else "rx") := by
  unfold parseTraceDirection
  split
  case h_1 => cases isWrite <;> simp
  case h_2 => cases isWrite <;> simp
  case h_3 htx hrx =>
    refine iff_of_false (fun h ↦ nomatch h) fun h ↦ ?_
    cases isWrite
    · exact hrx h
    · exact htx h

theorem eq_traceEventJson_iff {event : Json} {parsed : SanitizedTraceEvent} (h : event.WellFormed) :
    event = traceEventJson parsed.toTransport ↔ ∃ object, event.asObject = some object ∧
      object.length = 2 ∧ object.lookup "direction" = some (.string parsed.direction) ∧
      object.lookup "bytes" = some (.string (traceHex parsed.bytes)) := by
  rw [traceEventJson_toTransport]
  refine (Json.eq_ofFields_iff h ?_).trans ?_
  · exact nodup_traceEventKeys
  · simp only [List.length_cons, List.length_nil, List.forall_mem_cons, List.not_mem_nil,
      false_imp_iff, implies_true, and_true, Nat.zero_add, Nat.reduceAdd]

/-- **An event is read from the object that is written for it**, and from no other. -/
theorem parseTraceEvent_eq_ok_iff {index : Nat} {event : Json} {parsed : SanitizedTraceEvent}
    (h : event.WellFormed) :
    parseTraceEvent index event = .ok parsed ↔ event = traceEventJson parsed.toTransport := by
  rw [eq_traceEventJson_iff h, parseTraceEvent, Except.bind_eq_ok]
  refine exists_congr fun object ↦ and_congr Except.okOr_eq_ok_iff ?_
  rw [Except.ite_eq_ok, Except.bind_eq_ok]
  simp only [parseTraceDirection_eq_ok_iff, Except.bind_eq_ok, Except.okOr_eq_ok_iff,
    Json.bind_eq_some_iff Json.asStr_eq_some_iff, parseTraceBytes_eq_ok_iff]
  constructor
  · rintro ⟨hshape, isWrite, hdirection, hex, hhex, bytes, hbytes, hparsed⟩
    cases hparsed
    obtain rfl := Text.utf8_inj.1 hbytes
    have hlength : object.length = 2 := by_contra fun hne ↦ hshape (.inl hne)
    exact ⟨hlength, hdirection, hhex⟩
  · rintro ⟨hlength, hdirection, hhex⟩
    have hshape : ¬ (object.length ≠ 2 ∨ (object.lookup "direction").isNone ∨
        (object.lookup "bytes").isNone) := by
      simp [hlength, hdirection, hhex]
    exact ⟨hshape, parsed.isWrite, hdirection, _, hhex, parsed.bytes, rfl, rfl⟩

/-! ### Files -/

/-- Every required field is there. -/
theorem requireTraceFields_eq_ok_iff {object : List (String × Json)} {keys : List String}
    {u : Unit} : requireTraceFields object keys = .ok u ↔
      ∀ key ∈ keys, (object.lookup key).isSome := by
  rw [requireTraceFields, Except.forM_eq_ok]
  simp only [Except.ite_eq_ok, and_true, Bool.not_eq_true, Option.isNone_eq_false_iff]

theorem eq_traceFields_iff {trace : Json} {command : String} {events : List TransportEvent}
    (h : trace.WellFormed) : trace = .ofFields (traceFields command events) ↔
      ∃ object, trace.asObject = some object ∧ object.length = 4 ∧
        object.lookup "schema_version" = some (.number (.posInt 1)) ∧
        object.lookup "mode" = some (.string "read_only") ∧
        object.lookup "command" = some (.string command) ∧
        object.lookup "events" = some (.array (events.map traceEventJson)) := by
  refine (Json.eq_ofFields_iff h ?_).trans ?_
  · exact nodup_traceKeys
  · simp only [traceFields, List.length_cons, List.length_nil, List.forall_mem_cons,
      List.not_mem_nil, false_imp_iff, implies_true, and_true, Nat.zero_add, Nat.reduceAdd]

/-- The events are read from the array that is written for them. -/
theorem mapM_parseTraceEvent_eq_ok_iff {items : List Json} {events : List SanitizedTraceEvent}
    (h : ∀ item ∈ items, item.WellFormed) :
    (items.zipIdx.mapM fun (event, index) ↦ parseTraceEvent index event) = .ok events ↔
      items = (events.map SanitizedTraceEvent.toTransport).map traceEventJson := by
  have hread : ∀ item ∈ items.zipIdx, ∀ parsed, parseTraceEvent item.2 item.1 = .ok parsed ↔
      item.1 = traceEventJson parsed.toTransport := by
    intro item hitem parsed
    exact parseTraceEvent_eq_ok_iff (h item.1 (List.fst_mem_of_mem_zipIdx hitem))
  rw [Except.mapM_eq_ok_iff_map_eq hread, List.zipIdx_map_fst, List.map_map]
  rfl

/-- The field that holds a non-empty text. -/
theorem not_all_asStr_iff {value : Option Json} :
    ¬ (value.bind Json.asStr).all (· = "") = true ↔
      ∃ text, text ≠ "" ∧ value = some (.string text) := by
  simp only [← Json.bind_eq_some_iff Json.asStr_eq_some_iff]
  rcases value.bind Json.asStr with _ | text
  · exact iff_of_false (fun h ↦ h rfl) fun ⟨_, _, h⟩ ↦ nomatch h
  · simp

/-- What the reader checks of a file. -/
theorem readTrace_eq_ok_iff_checks {trace : Json} {events : List SanitizedTraceEvent} :
    readTrace trace = .ok events ↔ ∃ object, trace.asObject = some object ∧
      (∀ key ∈ ["schema_version", "mode", "command", "events"], (object.lookup key).isSome) ∧
      object.length = 4 ∧ object.lookup "schema_version" = some (.number (.posInt 1)) ∧
      object.lookup "mode" = some (.string "read_only") ∧
      (∃ command, command ≠ "" ∧ object.lookup "command" = some (.string command)) ∧
      ∃ items, object.lookup "events" = some (.array items) ∧
        (items.zipIdx.mapM fun (event, index) ↦ parseTraceEvent index event) = .ok events := by
  rw [readTrace, Except.bind_eq_ok]
  refine exists_congr fun object ↦ and_congr Except.okOr_eq_ok_iff ?_
  rw [Except.bind_eq_ok]
  simp only [requireTraceFields_eq_ok_iff, exists_and_left, exists_const, Except.ite_eq_ok, not_not,
    not_all_asStr_iff, Json.bind_eq_some_iff Json.asU64_eq_some_iff,
    Json.bind_eq_some_iff Json.asStr_eq_some_iff, Except.bind_eq_ok, Except.okOr_eq_ok_iff,
    Json.bind_eq_some_iff Json.asArray_eq_some_iff]

/-- The values in an array of a file are well formed. -/
theorem wellFormed_of_lookup_eq_array {trace : Json} {object : List (String × Json)} {key : String}
    {items : List Json} (h : trace.WellFormed) (hobject : trace.asObject = some object)
    (hitems : object.lookup key = some (.array items)) : ∀ item ∈ items, item.WellFormed := by
  obtain rfl := Json.asObject_eq_some_iff.1 hobject
  cases h with
  | object hkeys hfields =>
    cases hfields _ (hkeys.lookup_eq_some_iff.1 hitems) with
    | array hitem => exact hitem

/-- **The reader accepts what is written for some command and events**, and gives these events. -/
theorem readTrace_eq_ok_iff {trace : Json} {events : List SanitizedTraceEvent}
    (h : trace.WellFormed) : readTrace trace = .ok events ↔ ∃ command, command ≠ "" ∧
      trace = .ofFields (traceFields command (events.map SanitizedTraceEvent.toTransport)) := by
  rw [readTrace_eq_ok_iff_checks]
  simp only [eq_traceFields_iff h]
  constructor
  · rintro ⟨object, hobject, -, hlength, hversion, hmode, ⟨command, hne, hcommand⟩, items, hitems,
      hevents⟩
    have hitem := wellFormed_of_lookup_eq_array h hobject hitems
    rw [(mapM_parseTraceEvent_eq_ok_iff hitem).1 hevents] at hitems
    exact ⟨command, hne, object, hobject, hlength, hversion, hmode, hcommand, hitems⟩
  · rintro ⟨command, hne, object, hobject, hlength, hversion, hmode, hcommand, hitems⟩
    have hrequired : ∀ key ∈ ["schema_version", "mode", "command", "events"],
        (object.lookup key).isSome := by
      simp only [List.forall_mem_cons, hversion, hmode, hcommand, hitems, Option.isSome_some,
        List.not_mem_nil, false_imp_iff, implies_true, and_self]
    have hitem := wellFormed_of_lookup_eq_array h hobject hitems
    exact ⟨object, hobject, hrequired, hlength, hversion, hmode, ⟨command, hne, hcommand⟩, _,
      hitems, (mapM_parseTraceEvent_eq_ok_iff hitem).2 rfl⟩

/-- The command that a file names. -/
def traceCommand (trace : JsonValue) : Option String :=
  (trace.json.asObject.bind (·.lookup "command")).bind Json.asStr

theorem traceCommand_traceJson (command : String) (events : List TransportEvent) :
    traceCommand (traceJson command events) = some command := by
  obtain ⟨object, hobject, -, -, -, hcommand, -⟩ :=
    (eq_traceFields_iff (wellFormed_traceFields command events)).1 rfl
  show ((Json.ofFields (traceFields command events)).asObject.bind (·.lookup "command")).bind
    Json.asStr = _
  rw [hobject, Option.bind_some, hcommand]
  rfl

theorem parseTraceEvents_eq_ok_iff {fromStr : String → Except String JsonValue} {source : String}
    {events : List SanitizedTraceEvent} : parseTraceEvents fromStr source = .ok events ↔
      ∃ trace, fromStr source = .ok trace ∧ ∃ command, command ≠ "" ∧
        trace = traceJson command (events.map SanitizedTraceEvent.toTransport) := by
  unfold parseTraceEvents
  rcases fromStr source with error | trace
  · exact iff_of_false (fun h ↦ nomatch h) fun ⟨_, h, _⟩ ↦ nomatch h
  · show readTrace trace.json = _ ↔ _
    rw [readTrace_eq_ok_iff trace.wellFormed]
    constructor
    · rintro ⟨command, hne, htrace⟩
      exact ⟨trace, rfl, command, hne, JsonValue.ext htrace⟩
    · rintro ⟨_, heq, command, hne, rfl⟩
      cases heq
      exact ⟨command, hne, rfl⟩

/-- **A trace file gives back its events, and its events give back the file.** What the reader is
given of the JSON text is the value that was written; of an accepted text it is the value that is
written for the command and the events. -/
theorem traceFile_roundTrip (fromStr : String → Except String JsonValue)
    (print : JsonValue → String) :
    (∀ command events, command ≠ "" →
      fromStr (print (traceJson command events)) = .ok (traceJson command events) →
      parseTraceEvents fromStr (print (traceJson command events)) =
        .ok (events.map SanitizedTraceEvent.ofTransport)) ∧
    ∀ source events, parseTraceEvents fromStr source = .ok events →
      ∃ trace command, fromStr source = .ok trace ∧ traceCommand trace = some command ∧
        traceJson command (events.map SanitizedTraceEvent.toTransport) = trace := by
  constructor
  · intro command events hne hfaithful
    refine parseTraceEvents_eq_ok_iff.2 ⟨_, hfaithful, command, hne, ?_⟩
    rw [List.map_map]
    congr 1
    symm
    exact (List.map_congr_left fun event _ ↦
      SanitizedTraceEvent.toTransport_ofTransport event).trans (List.map_id events)
  · intro source events h
    obtain ⟨trace, htrace, command, -, rfl⟩ := parseTraceEvents_eq_ok_iff.1 h
    exact ⟨_, command, htrace, traceCommand_traceJson _ _, rfl⟩

/-- The text that is printed for a request and an empty answer. -/
def requestTraceText : String :=
  "\x7b\"command\":\"d4-identity\",\"events\":[" ++
    "\x7b\"bytes\":\"1B40\",\"direction\":\"tx\"\x7d," ++
    "\x7b\"bytes\":\"\",\"direction\":\"rx\"\x7d],\"mode\":\"read_only\",\"schema_version\":1\x7d"

/-- A request and an empty answer are read from the text. -/
theorem traceFile_roundTrip_of_request :
    parseTraceEvents
      (fun source ↦
        if source = requestTraceText then .ok (traceJson "d4-identity" [.tx [0x1B, 0x40], .rx []])
        else .error "expected value at line 1 column 1")
      requestTraceText = .ok [⟨true, [0x1B, 0x40]⟩, ⟨false, []⟩] :=
  (traceFile_roundTrip _ fun _ ↦ requestTraceText).1 "d4-identity" [.tx [0x1B, 0x40], .rx []]
    (by decide) (if_pos rfl)

end Reink
