import RustZap.Database.Publishing
import RustZap.Lib.JsonPaths

open serde_json
open rustzap.models

namespace rustzap

namespace eventbus

/-- The keys that a payload must not have at any depth. -/
def raw_media_keys : List String :=
  ["bytes", "file_bytes", "raw_media", "body"]

def HasRawMedia (payload : Value) : Prop :=
  ∃ key ∈ raw_media_keys, payload.HasKey key

def contains_bytes : Value → Bool
  | .object fields => any_field fields
  | .array items => any_item items
  | _ => false
where
  any_field : List (String × Value) → Bool
    | [] => false
    | (key, value) :: fields =>
      (key = "bytes" || key = "file_bytes" || key = "raw_media" || key = "body") || contains_bytes value ||
        any_field fields
  any_item : List Value → Bool
    | [] => false
    | item :: items => contains_bytes item || any_item items

def event_has_raw_media_bytes (event : CommonEvent) : Bool :=
  contains_bytes event.payload

section Detectors

theorem mem_raw_media_keys {key : String} : key ∈ raw_media_keys ↔
    (key = "bytes" || key = "file_bytes" || key = "raw_media" || key = "body") = true := by
  simp [raw_media_keys, or_assoc]

theorem hasRawMedia_array_iff {items : List Value} :
    HasRawMedia (.array items) ↔ ∃ item ∈ items, HasRawMedia item := by
  simp only [HasRawMedia, Value.hasKey_array_iff]
  exact ⟨fun ⟨key, hkey, item, hitem, h⟩ => ⟨item, hitem, key, hkey, h⟩,
    fun ⟨item, hitem, key, hkey, h⟩ => ⟨key, hkey, item, hitem, h⟩⟩

theorem hasRawMedia_object_iff {fields : List (String × Value)} :
    HasRawMedia (.object fields) ↔ ∃ field ∈ fields, field.1 ∈ raw_media_keys ∨ HasRawMedia field.2 := by
  simp only [HasRawMedia, Value.hasKey_object_iff]
  constructor
  · rintro ⟨key, hkey, field, hfield, rfl | h⟩
    · exact ⟨field, hfield, Or.inl hkey⟩
    · exact ⟨field, hfield, Or.inr ⟨key, hkey, h⟩⟩
  · rintro ⟨field, hfield, hkey | ⟨key, hkey, h⟩⟩
    · exact ⟨field.1, hkey, field, hfield, Or.inl rfl⟩
    · exact ⟨key, hkey, field, hfield, Or.inr h⟩

theorem not_hasRawMedia_of_scalar {value : Value} (harray : ∀ items, value ≠ .array items)
    (hobject : ∀ fields, value ≠ .object fields) : ¬ HasRawMedia value := by
  rintro ⟨key, -, h⟩
  exact Value.not_hasKey_of_scalar harray hobject key h

theorem any_item_eq (items : List Value) : contains_bytes.any_item items = items.any contains_bytes := by
  induction items with
  | nil => rfl
  | cons item items ih => rw [contains_bytes.any_item, ih, List.any_cons]

theorem any_field_iff (fields : List (String × Value)) :
    contains_bytes.any_field fields = true ↔
      ∃ field ∈ fields, field.1 ∈ raw_media_keys ∨ contains_bytes field.2 = true := by
  induction fields with
  | nil => simp [contains_bytes.any_field]
  | cons field fields ih =>
    obtain ⟨key, value⟩ := field
    rw [contains_bytes.any_field, Bool.or_eq_true, ih, Bool.or_eq_true, ← mem_raw_media_keys]
    simp

/-- The detector of a boolean finds the keys at every depth. -/
theorem contains_bytes_iff (value : Value) : contains_bytes value = true ↔ HasRawMedia value := by
  induction value using Value.cases_induction with
  | scalar value harray hobject =>
    refine iff_of_false ?_ (not_hasRawMedia_of_scalar harray hobject)
    cases value with
    | array items => exact absurd rfl (harray items)
    | object fields => exact absurd rfl (hobject fields)
    | _ => exact Bool.false_ne_true
  | array items ih =>
    rw [contains_bytes, any_item_eq, List.any_eq_true, hasRawMedia_array_iff]
    exact exists_congr fun item => and_congr_right (ih item)
  | object fields ih =>
    rw [contains_bytes, any_field_iff, hasRawMedia_object_iff]
    exact exists_congr fun field => and_congr_right fun hfield => or_congr_right (ih field hfield)

theorem find_item_iff {items : List Value}
    (ih : ∀ item ∈ items, ∀ path, (raw_media_field.find path item).isSome ↔ HasRawMedia item) :
    ∀ path index, (raw_media_field.find_item path index items).isSome ↔ ∃ item ∈ items, HasRawMedia item := by
  induction items with
  | nil => simp [raw_media_field.find_item]
  | cons item items ih' =>
    intro path index
    obtain ⟨hitem, hitems⟩ := List.forall_mem_cons.mp ih
    rw [raw_media_field.find_item, Option.isSome_or, Bool.or_eq_true, hitem, ih' hitems]
    simp

theorem find_field_iff {fields : List (String × Value)}
    (ih : ∀ field ∈ fields, ∀ path, (raw_media_field.find path field.2).isSome ↔ HasRawMedia field.2) :
    ∀ path, (raw_media_field.find_field path fields).isSome ↔
      ∃ field ∈ fields, field.1 ∈ raw_media_keys ∨ HasRawMedia field.2 := by
  induction fields with
  | nil => simp [raw_media_field.find_field]
  | cons field fields ih' =>
    intro path
    obtain ⟨hfield, hfields⟩ := List.forall_mem_cons.mp ih
    obtain ⟨key, value⟩ := field
    rw [raw_media_field.find_field]
    split
    · next hkey => exact iff_of_true rfl ⟨_, List.mem_cons_self, Or.inl (mem_raw_media_keys.mpr hkey)⟩
    · next hkey =>
      have hother : key ∉ raw_media_keys := fun hmem => hkey (mem_raw_media_keys.mp hmem)
      rw [Option.isSome_or, Bool.or_eq_true, hfield, ih' hfields]
      simp [hother]

/-- The detector that says where the first one is finds them as well. -/
theorem find_iff (value : Value) : ∀ path, (raw_media_field.find path value).isSome ↔ HasRawMedia value := by
  induction value using Value.cases_induction with
  | scalar value harray hobject =>
    refine fun path => iff_of_false ?_ (not_hasRawMedia_of_scalar harray hobject)
    cases value with
    | array items => exact absurd rfl (harray items)
    | object fields => exact absurd rfl (hobject fields)
    | _ => exact Bool.false_ne_true
  | array items ih =>
    intro path
    rw [raw_media_field.find, find_item_iff ih, hasRawMedia_array_iff]
  | object fields ih =>
    intro path
    rw [raw_media_field.find, find_field_iff ih, hasRawMedia_object_iff]

end Detectors

end eventbus

namespace models

namespace serde_time_compat

/-- What the code leaves to the crate that knows dates: the RFC 3339 texts, and the
instant that the numbers of a calendar and of an offset name. -/
structure TimeCodec where
  format : OffsetDateTime → Except String String
  parse : String → Except String OffsetDateTime
  assume_offset : (year ordinal hour minute second nanos offset_hour offset_minute offset_second : Int) →
    Except String OffsetDateTime

variable (codec : TimeCodec)

/-- A number that is to fit a narrower type. -/
def try_from (low high : Int) (complaint : String) (part : Int) : Except String Int :=
  if low ≤ part ∧ part < high then .ok part else .error complaint

def legacy_array_to_offset_datetime : List Int → Except String OffsetDateTime
  | [year, ordinal, hour, minute, second, nanos, offset_hour, offset_minute, offset_second] => do
    let year ← try_from (-2 ^ 31) (2 ^ 31) "year out of range" year
    let ordinal ← try_from 0 (2 ^ 16) "ordinal out of range" ordinal
    let hour ← try_from 0 (2 ^ 8) "hour out of range" hour
    let minute ← try_from 0 (2 ^ 8) "minute out of range" minute
    let second ← try_from 0 (2 ^ 8) "second out of range" second
    let nanos ← try_from 0 (2 ^ 32) "nanoseconds out of range" nanos
    let offset_hour ← try_from (-2 ^ 7) (2 ^ 7) "offset hour out of range" offset_hour
    let offset_minute ← try_from (-2 ^ 7) (2 ^ 7) "offset minute out of range" offset_minute
    let offset_second ← try_from (-2 ^ 7) (2 ^ 7) "offset second out of range" offset_second
    codec.assume_offset year ordinal hour minute second nanos offset_hour offset_minute offset_second
  | parts => .error ("legacy OffsetDateTime array must have 9 values, got " ++ toString parts.length)

def from_json_value : Value → Except String OffsetDateTime
  | .string value => codec.parse value
  | .array values => do
    let parts ← values.mapM fun value =>
      (value.as_i64.elim (.error "legacy OffsetDateTime array contains non-integer") .ok : Except String Int)
    legacy_array_to_offset_datetime codec parts
  | _ => .error "expected RFC3339 string or legacy OffsetDateTime array"

end serde_time_compat

open serde_time_compat

namespace CommonEvent

variable (codec : TimeCodec)

def names : List String :=
  ["event_id", "event_type", "project_id", "company_id", "channel_id", "conversation_id", "message_id",
    "conversation_seq", "trace_id", "causation_id", "correlation_id", "occurred_at", "produced_at", "payload"]

/-- What is written of an event whose times have been written. -/
def fields (event : CommonEvent) (occurred_at produced_at : String) : List (String × Value) := [
    ("event_id", .string event.event_id),
    ("event_type", .string event.event_type),
    ("project_id", .string event.project_id),
    ("company_id", .string event.company_id),
    ("channel_id", .of_option event.channel_id),
    ("conversation_id", .of_option event.conversation_id),
    ("message_id", .of_option event.message_id),
    ("conversation_seq", event.conversation_seq.elim .null .number),
    ("trace_id", .string event.trace_id),
    ("causation_id", .of_option event.causation_id),
    ("correlation_id", .string event.correlation_id),
    ("occurred_at", .string occurred_at),
    ("produced_at", .string produced_at),
    ("payload", event.payload)]

def serialize (event : CommonEvent) : Except String Value := do
  let occurred_at ← codec.format event.occurred_at
  let produced_at ← codec.format event.produced_at
  .ok (.object (event.fields occurred_at produced_at))

/-- What an object has under a name. A name that comes twice is refused. -/
def field (fields : List (String × Value)) (name : String) : Option (Option Value) :=
  match fields.filter fun field => field.1 = name with
  | [] => some none
  | [(_, value)] => some (some value)
  | _ => none

def required {A : Type} (read : Value → Option A) (fields : List (String × Value)) (name : String) :
    Option A :=
  (field fields name).bind fun value => value.bind read

/-- A field that may be missing or null. -/
def optional {A : Type} (read : Value → Option A) (fields : List (String × Value)) (name : String) :
    Option (Option A) :=
  (field fields name).bind fun value =>
    match value with
    | none => some none
    | some .null => some none
    | some value => (read value).map some

def visit_map (fields : List (String × Value)) : Option CommonEvent := do
  let event_id ← required Value.as_str fields "event_id"
  let event_type ← required Value.as_str fields "event_type"
  let project_id ← required Value.as_str fields "project_id"
  let company_id ← required Value.as_str fields "company_id"
  let channel_id ← optional Value.as_str fields "channel_id"
  let conversation_id ← optional Value.as_str fields "conversation_id"
  let message_id ← optional Value.as_str fields "message_id"
  let conversation_seq ← optional Value.as_i64 fields "conversation_seq"
  let trace_id ← required Value.as_str fields "trace_id"
  let causation_id ← optional Value.as_str fields "causation_id"
  let correlation_id ← required Value.as_str fields "correlation_id"
  let occurred_at ← required (fun value => (from_json_value codec value).toOption) fields "occurred_at"
  let produced_at ← required (fun value => (from_json_value codec value).toOption) fields "produced_at"
  let payload ← required some fields "payload"
  return {
    event_id, event_type, project_id, company_id, channel_id, conversation_id, message_id
    conversation_seq, trace_id, causation_id, correlation_id, occurred_at, produced_at, payload }

/-- An event is read from an object, or from an array of all its fields in their order. -/
def deserialize : Value → Option CommonEvent
  | .object fields => visit_map codec fields
  | .array items => if items.length = names.length then visit_map codec (names.zip items) else none
  | _ => none

section RoundTrip

variable {codec : TimeCodec} {event : CommonEvent} {doc : Value}

theorem serialize_eq_ok (hdoc : event.serialize codec = .ok doc) :
    ∃ occurred_at produced_at, codec.format event.occurred_at = .ok occurred_at ∧
      codec.format event.produced_at = .ok produced_at ∧
      doc = .object (event.fields occurred_at produced_at) := by
  rw [serialize] at hdoc
  cases hoccurred : codec.format event.occurred_at with
  | error err => rw [hoccurred] at hdoc; cases hdoc
  | ok occurred_at =>
    cases hproduced : codec.format event.produced_at with
    | error err => rw [hoccurred, hproduced] at hdoc; cases hdoc
    | ok produced_at =>
      rw [hoccurred, hproduced] at hdoc
      exact ⟨occurred_at, produced_at, rfl, rfl, (Except.ok.inj hdoc).symm⟩

/-- Floats occur in the payload alone. -/
theorem map_floats_fields (f : UInt64 → UInt64) (event : CommonEvent) (occurred_at produced_at : String) :
    (Value.object (event.fields occurred_at produced_at)).map_floats f =
      .object ({ event with payload := event.payload.map_floats f }.fields occurred_at produced_at) := by
  have htext (value : Option String) : (Value.of_option value).map_floats f = .of_option value := by
    cases value <;> rfl
  have hnumber (value : Option Int) :
      (value.elim .null .number : Value).map_floats f = value.elim .null .number := by
    cases value <;> rfl
  simp only [fields, Value.map_floats, Value.map_floats.map_fields, htext, hnumber]

section Fields

variable {A : Type} {fields : List (String × Value)} {name : String} {value : Value}

theorem field_of_mem (hnames : (fields.map Prod.fst).Nodup) (hmem : (name, value) ∈ fields) :
    field fields name = some (some value) := by
  have hfilter : fields.filter (fun field => field.1 = name) = [(name, value)] := by
    induction fields with
    | nil => cases hmem
    | cons head fields ih =>
      rw [List.map_cons, List.nodup_cons] at hnames
      rcases List.mem_cons.mp hmem with rfl | hmem
      · have hnone : fields.filter (fun field => field.1 = name) = [] := by
          rw [List.filter_eq_nil_iff]
          intro field hfield
          have hne : field.1 ≠ name := fun heq =>
            hnames.1 (List.mem_map.mpr ⟨field, hfield, heq⟩)
          simpa using hne
        rw [List.filter_cons_of_pos (by simp), hnone]
      · have hne : head.1 ≠ name := fun heq =>
          hnames.1 (List.mem_map.mpr ⟨(name, value), hmem, heq.symm⟩)
        rw [List.filter_cons_of_neg (by simpa using hne), ih hnames.2 hmem]
  rw [field, hfilter]

theorem required_of_mem {read : Value → Option A} {a : A} (hnames : (fields.map Prod.fst).Nodup)
    (value : Value) (hmem : (name, value) ∈ fields) (hread : read value = some a) :
    required read fields name = some a := by
  rw [required, field_of_mem hnames hmem]
  exact hread

theorem required_text_of_mem (hnames : (fields.map Prod.fst).Nodup) (text : String)
    (hmem : (name, .string text) ∈ fields) : required Value.as_str fields name = some text :=
  required_of_mem hnames _ hmem rfl

theorem required_time_of_mem {text : String} {time : OffsetDateTime} (hnames : (fields.map Prod.fst).Nodup)
    (hparse : codec.parse text = .ok time) (hmem : (name, .string text) ∈ fields) :
    required (fun value => (from_json_value codec value).toOption) fields name = some time := by
  refine required_of_mem hnames _ hmem ?_
  rw [from_json_value, hparse]
  rfl

theorem optional_text_of_mem (hnames : (fields.map Prod.fst).Nodup) (text : Option String)
    (hmem : (name, .of_option text) ∈ fields) : optional Value.as_str fields name = some text := by
  rw [optional, field_of_mem hnames hmem]
  cases text <;> rfl

theorem optional_number_of_mem (hnames : (fields.map Prod.fst).Nodup) (number : Option Int)
    (hmem : (name, number.elim .null .number) ∈ fields)
    (hfits : ∀ n, number = some n → -2 ^ 63 ≤ n ∧ n < 2 ^ 63) :
    optional Value.as_i64 fields name = some number := by
  rw [optional, field_of_mem hnames hmem]
  cases number with
  | none => rfl
  | some n =>
    have hread : Value.as_i64 (.number n) = some n := if_pos (hfits n rfl)
    exact congrArg (Option.map some) hread

end Fields

theorem visit_map_fields {occurred_at produced_at : String}
    (hoccurred : codec.parse occurred_at = .ok event.occurred_at)
    (hproduced : codec.parse produced_at = .ok event.produced_at)
    (hseq : ∀ seq, event.conversation_seq = some seq → -2 ^ 63 ≤ seq ∧ seq < 2 ^ 63) :
    visit_map codec (event.fields occurred_at produced_at) = some event := by
  have hnames : ((event.fields occurred_at produced_at).map Prod.fst).Nodup := (by decide : names.Nodup)
  rw [visit_map, required_text_of_mem hnames event.event_id (by simp [fields]),
    required_text_of_mem hnames event.event_type (by simp [fields]),
    required_text_of_mem hnames event.project_id (by simp [fields]),
    required_text_of_mem hnames event.company_id (by simp [fields]),
    optional_text_of_mem hnames event.channel_id (by simp [fields]),
    optional_text_of_mem hnames event.conversation_id (by simp [fields]),
    optional_text_of_mem hnames event.message_id (by simp [fields]),
    optional_number_of_mem hnames event.conversation_seq (by simp [fields]) hseq,
    required_text_of_mem hnames event.trace_id (by simp [fields]),
    optional_text_of_mem hnames event.causation_id (by simp [fields]),
    required_text_of_mem hnames event.correlation_id (by simp [fields]),
    required_time_of_mem hnames hoccurred (by simp [fields]),
    required_time_of_mem hnames hproduced (by simp [fields]),
    required_of_mem hnames event.payload (by simp [fields]) rfl]
  rfl

/-- What is written of an event is read as the event, up to the floats of its payload. -/
theorem deserialize_serialize (hdoc : event.serialize codec = .ok doc)
    (hoccurred : ∀ text, codec.format event.occurred_at = .ok text → codec.parse text = .ok event.occurred_at)
    (hproduced : ∀ text, codec.format event.produced_at = .ok text → codec.parse text = .ok event.produced_at)
    (hseq : ∀ seq, event.conversation_seq = some seq → -2 ^ 63 ≤ seq ∧ seq < 2 ^ 63) (f : UInt64 → UInt64) :
    deserialize codec (doc.map_floats f) = some { event with payload := event.payload.map_floats f } := by
  obtain ⟨occurred_at, produced_at, hformat, hformat', rfl⟩ := serialize_eq_ok hdoc
  rw [map_floats_fields, deserialize]
  exact visit_map_fields (hoccurred occurred_at hformat) (hproduced produced_at hformat') hseq

end RoundTrip

end CommonEvent

end models

namespace eventbus

open models.serde_time_compat

/-- What the code leaves to the crates that know JSON and dates. A text that is refused
has one complaint. -/
structure EventCodec extends TimeCodec where
  to_vec : Value → List UInt8
  from_slice : List UInt8 → Option Value
  complaint : List UInt8 → String

structure DeadLetterEnvelope where
  event : CommonEvent
  retry_count : Nat
  first_failed_at : String
  last_failed_at : String
  error_code : String

section Encoding

variable (codec : EventCodec) (kafka : config.KafkaConfig)

def DeadLetterEnvelope.serialize (envelope : DeadLetterEnvelope) : Except String Value := do
  let event ← envelope.event.serialize codec.toTimeCodec
  .ok (.object [
    ("event", event),
    ("retry_count", .number envelope.retry_count),
    ("first_failed_at", .string envelope.first_failed_at),
    ("last_failed_at", .string envelope.last_failed_at),
    ("error_code", .string envelope.error_code)])

/-- A bus that writes events with the codec. -/
def EventCodec.bus : KafkaEventBus where
  config := kafka
  to_vec event := (event.serialize codec.toTimeCodec).map codec.to_vec

def encode_deadletter_for_kafka (envelope : DeadLetterEnvelope) : Except String (List UInt8) :=
  match raw_media_field envelope.event.payload with
  | some field =>
    .error ("event " ++ envelope.event.event_id ++ " contains raw media bytes in payload field " ++ field)
  | none =>
    match (envelope.serialize codec).map codec.to_vec with
    | .error err => .error ("event codec failed: " ++ err)
    | .ok bytes =>
      if kafka.message_max_bytes < bytes.length then
        .error ("event " ++ envelope.event.event_id ++ " encoded payload is " ++ toString bytes.length ++
          " bytes, above limit " ++ toString kafka.message_max_bytes)
      else .ok bytes

def decode_event_from_kafka (bytes : List UInt8) : Except String CommonEvent :=
  match (codec.from_slice bytes).bind (CommonEvent.deserialize codec.toTimeCodec) with
  | some event => .ok event
  | none => .error ("event codec failed: " ++ codec.complaint bytes)

end Encoding

section Guarded

variable {codec : EventCodec} {kafka : config.KafkaConfig}

theorem encode_event_ok_iff (bus : KafkaEventBus) (event : CommonEvent) (bytes : List UInt8) :
    encode_event_for_kafka bus event = .ok bytes ↔
      ¬ HasRawMedia event.payload ∧ bus.to_vec event = .ok bytes ∧
        bytes.length ≤ bus.config.message_max_bytes := by
  rw [encode_event_for_kafka, ← find_iff event.payload "", raw_media_field]
  cases raw_media_field.find "" event.payload with
  | some field => exact iff_of_false nofun fun h => h.1 rfl
  | none =>
    cases bus.to_vec event with
    | error err => exact iff_of_false nofun fun h => nomatch h.2.1
    | ok written =>
      dsimp only
      split
      · next hlong =>
        refine iff_of_false nofun fun ⟨_, hwritten, hshort⟩ => ?_
        cases hwritten
        omega
      · next hshort =>
        constructor
        · rintro ⟨⟩
          exact ⟨nofun, rfl, Nat.le_of_not_lt hshort⟩
        · exact fun h => h.2.1

/-- A dead letter is encoded as its event is, with more written around it. -/
theorem encode_deadletter_eq (envelope : DeadLetterEnvelope) :
    encode_deadletter_for_kafka codec kafka envelope =
      encode_event_for_kafka
        { config := kafka, to_vec _ := (envelope.serialize codec).map codec.to_vec } envelope.event :=
  rfl

/-- How a written document is read again: nesting has a limit, and the digits of a float
may name another one. -/
def EventCodec.ReadsBack (codec : EventCodec) (reread : UInt64 → UInt64) (doc : Value) : Prop :=
  codec.from_slice (codec.to_vec doc) = if doc.depth < 128 then some (doc.map_floats reread) else none

/-- An event that the types of the program allow, and crates that read what they write. -/
structure EventCodec.Keeps (codec : EventCodec) (reread : UInt64 → UInt64) (event : CommonEvent) : Prop where
  document : ∀ doc, event.serialize codec.toTimeCodec = .ok doc → codec.ReadsBack reread doc
  occurred_at : ∀ text, codec.format event.occurred_at = .ok text → codec.parse text = .ok event.occurred_at
  produced_at : ∀ text, codec.format event.produced_at = .ok text → codec.parse text = .ok event.produced_at
  conversation_seq : ∀ seq, event.conversation_seq = some seq → -2 ^ 63 ≤ seq ∧ seq < 2 ^ 63

theorem fields_depth (event : CommonEvent) (occurred_at produced_at : String) :
    (Value.object (event.fields occurred_at produced_at)).depth = event.payload.depth + 1 := by
  have htext (value : Option String) : (Value.of_option value).depth = 0 := by
    cases value <;> rfl
  have hnumber (value : Option Int) : (value.elim .null .number : Value).depth = 0 := by
    cases value <;> rfl
  simp [CommonEvent.fields, Value.depth, Value.depth.fields_depth, htext, hnumber]

/-- What is decoded of an encoded event. -/
theorem decode_encoded {reread : UInt64 → UInt64} {event : CommonEvent} {bytes : List UInt8}
    (hkeeps : codec.Keeps reread event) (hbytes : (codec.bus kafka).to_vec event = .ok bytes) :
    decode_event_from_kafka codec bytes =
      if event.payload.depth ≤ 126 then .ok { event with payload := event.payload.map_floats reread }
      else .error ("event codec failed: " ++ codec.complaint bytes) := by
  change (event.serialize codec.toTimeCodec).map codec.to_vec = .ok bytes at hbytes
  cases hdoc : event.serialize codec.toTimeCodec with
  | error err => rw [hdoc] at hbytes; cases hbytes
  | ok doc =>
    rw [hdoc] at hbytes
    cases hbytes
    rw [decode_event_from_kafka, hkeeps.document doc hdoc]
    have hdepth : doc.depth = event.payload.depth + 1 := by
      obtain ⟨occurred_at, produced_at, -, -, rfl⟩ := CommonEvent.serialize_eq_ok hdoc
      exact fields_depth event occurred_at produced_at
    rw [hdepth]
    by_cases hshallow : event.payload.depth ≤ 126
    · rw [if_pos (by omega), if_pos hshallow, Option.bind_some,
        CommonEvent.deserialize_serialize hdoc hkeeps.occurred_at hkeeps.produced_at hkeeps.conversation_seq]
    · rw [if_neg (by omega), if_neg hshallow]
      rfl

theorem decode_eq_ok_iff {reread : UInt64 → UInt64} {event : CommonEvent} {bytes : List UInt8}
    (hkeeps : codec.Keeps reread event) (hbytes : (codec.bus kafka).to_vec event = .ok bytes) :
    decode_event_from_kafka codec bytes = .ok event ↔
      event.payload.depth ≤ 126 ∧ event.payload.FloatsKept reread := by
  rw [decode_encoded hkeeps hbytes, ← Value.map_floats_eq_self_iff]
  split
  · next hshallow =>
    rw [Except.ok.injEq]
    constructor
    · exact fun heq => ⟨hshallow, congrArg CommonEvent.payload heq⟩
    · rintro ⟨-, heq⟩
      rw [heq]
  · next hdeep => exact iff_of_false nofun fun h => hdeep h.1

/-- A dead letter is no event, whatever it holds. -/
theorem decode_deadletter {reread : UInt64 → UInt64} {envelope : DeadLetterEnvelope} {doc : Value}
    (hdoc : envelope.serialize codec = .ok doc) (hreads : codec.ReadsBack reread doc) :
    ∃ err, decode_event_from_kafka codec (codec.to_vec doc) = .error err := by
  rw [DeadLetterEnvelope.serialize] at hdoc
  cases hevent : envelope.event.serialize codec.toTimeCodec with
  | error err => rw [hevent] at hdoc; cases hdoc
  | ok event =>
    rw [hevent] at hdoc
    cases hdoc
    have hnone (fields : List (String × Value)) (hmissing : ∀ field ∈ fields, field.1 ≠ "event_id") :
        CommonEvent.visit_map codec.toTimeCodec fields = none := by
      have hfilter : fields.filter (fun field => field.1 = "event_id") = [] := by
        simpa [List.filter_eq_nil_iff] using hmissing
      rw [CommonEvent.visit_map, CommonEvent.required, CommonEvent.field, hfilter]
      rfl
    rw [decode_event_from_kafka, hreads]
    split
    · next event hsome =>
      split at hsome
      · rw [Option.bind_some, Value.map_floats, CommonEvent.deserialize, hnone] at hsome
        · cases hsome
        · simp [Value.map_floats.map_fields]
      · cases hsome
    · exact ⟨_, rfl⟩

end Guarded

/-- What the bus promises of an event's payload and of the bytes that it makes of the event:
both detectors find raw media at every depth, an encoder refuses exactly raw media and long
texts, and an encoded event is read again where its nesting and its floats are. -/
structure CodecGuarded (codec : EventCodec) (reread : UInt64 → UInt64) (kafka : config.KafkaConfig)
    (event : CommonEvent) : Prop where
  found : (raw_media_field event.payload).isSome ↔ HasRawMedia event.payload
  detected : event_has_raw_media_bytes event = true ↔ HasRawMedia event.payload
  event_encoded : ∀ bytes, (codec.bus kafka).to_vec event = .ok bytes →
    ((∃ encoded, encode_event_for_kafka (codec.bus kafka) event = .ok encoded) ↔
      ¬ HasRawMedia event.payload ∧ bytes.length ≤ kafka.message_max_bytes)
  deadletter_encoded : ∀ envelope doc, envelope.event = event → envelope.serialize codec = .ok doc →
    ((∃ encoded, encode_deadletter_for_kafka codec kafka envelope = .ok encoded) ↔
      ¬ HasRawMedia event.payload ∧ (codec.to_vec doc).length ≤ kafka.message_max_bytes)
  event_decoded : codec.Keeps reread event →
    ∀ bytes, encode_event_for_kafka (codec.bus kafka) event = .ok bytes →
      (decode_event_from_kafka codec bytes = .ok event ↔
        event.payload.depth ≤ 126 ∧ event.payload.FloatsKept reread)
  deadletter_refused : ∀ (envelope : DeadLetterEnvelope) doc, envelope.event = event →
    envelope.serialize codec = .ok doc →
    codec.ReadsBack reread doc → ∃ err, decode_event_from_kafka codec (codec.to_vec doc) = .error err

theorem codec_guarded (codec : EventCodec) (reread : UInt64 → UInt64) (kafka : config.KafkaConfig)
    (event : CommonEvent) : CodecGuarded codec reread kafka event := by
  constructor
  case found => exact find_iff event.payload ""
  case detected => exact contains_bytes_iff event.payload
  case event_encoded =>
    intro bytes hbytes
    simp only [encode_event_ok_iff, hbytes]
    constructor
    · rintro ⟨encoded, hmedia, hencoded, hshort⟩
      cases hencoded
      exact ⟨hmedia, hshort⟩
    · exact fun ⟨hmedia, hshort⟩ => ⟨bytes, hmedia, rfl, hshort⟩
  case deadletter_encoded =>
    rintro envelope doc rfl hdoc
    simp only [encode_deadletter_eq, encode_event_ok_iff, hdoc]
    constructor
    · rintro ⟨encoded, hmedia, hencoded, hshort⟩
      cases hencoded
      exact ⟨hmedia, hshort⟩
    · exact fun ⟨hmedia, hshort⟩ => ⟨_, hmedia, rfl, hshort⟩
  case event_decoded =>
    intro hkeeps bytes hencoded
    obtain ⟨-, hbytes, -⟩ := (encode_event_ok_iff ..).mp hencoded
    exact decode_eq_ok_iff hkeeps hbytes
  case deadletter_refused =>
    rintro envelope doc rfl hdoc hreads
    exact decode_deadletter hdoc hreads

namespace sample

/-- What is written of a document whose texts need no escapes and that has no floats. -/
def to_json : Value → String
  | .null => "null"
  | .bool value => toString value
  | .number value => toString value
  | .float _ => ""
  | .string value => "\"" ++ value ++ "\""
  | .array items => "[" ++ ",".intercalate (items_to_json items) ++ "]"
  | .object fields => "\x7b" ++ ",".intercalate (fields_to_json fields) ++ "\x7d"
where
  items_to_json : List Value → List String
    | [] => []
    | item :: items => to_json item :: items_to_json items
  fields_to_json : List (String × Value) → List String
    | [] => []
    | (key, value) :: fields => ("\"" ++ key ++ "\":" ++ to_json value) :: fields_to_json fields

/-- A codec for one second of 1970 that reads the texts of some documents. -/
def codec (docs : List Value) : EventCodec where
  format time := if time = 1000000000 then .ok "1970-01-01T00:00:01Z" else .error "out of range"
  parse text := if text = "1970-01-01T00:00:01Z" then .ok 1000000000 else .error "out of range"
  assume_offset _ _ _ _ _ _ _ _ _ := .error "out of range"
  to_vec doc := media.ascii (to_json doc)
  from_slice bytes := docs.find? fun doc => media.ascii (to_json doc) = bytes
  complaint _ := "recursion limit exceeded at line 1 column 457"

def event_of (payload : Value) : CommonEvent where
  event_id := "evt_n1"
  event_type := "contact.updated"
  project_id := "acme"
  company_id := "company_a"
  channel_id := none
  conversation_id := none
  message_id := none
  conversation_seq := some 3
  trace_id := "trace_n1"
  causation_id := none
  correlation_id := "corr_n1"
  occurred_at := 1000000000
  produced_at := 1000000000
  payload

/-- Arrays in one another. -/
def nested : Nat → Value
  | 0 => .array []
  | n + 1 => .array [nested n]

def written (payload : Value) : Value :=
  .object ((event_of payload).fields "1970-01-01T00:00:01Z" "1970-01-01T00:00:01Z")

theorem to_vec_codec (docs : List Value) (doc : Value) : (codec docs).to_vec doc = media.ascii (to_json doc) :=
  rfl

theorem serialize_event_of (docs : List Value) (payload : Value) :
    (event_of payload).serialize (codec docs).toTimeCodec = .ok (written payload) :=
  rfl

/-- The codec keeps an event if it reads the document of it. -/
theorem keeps_event_of {docs : List Value} {payload : Value}
    (hreads : (codec docs).ReadsBack id (written payload)) : (codec docs).Keeps id (event_of payload) where
  document doc hdoc := by
    rw [serialize_event_of] at hdoc
    cases hdoc
    exact hreads
  occurred_at text htext := by cases htext; rfl
  produced_at text htext := by cases htext; rfl
  conversation_seq seq hseq := by cases hseq; decide

/-- A limit that the text of an event just meets. -/
def kafka_for (payload : Value) : config.KafkaConfig :=
  { config.KafkaConfig.from_env with message_max_bytes := (media.ascii (to_json (written payload))).length }

theorem encode_event_of {docs : List Value} {payload : Value} (hmedia : ¬ HasRawMedia payload) :
    encode_event_for_kafka ((codec docs).bus (kafka_for payload)) (event_of payload) =
      .ok (media.ascii (to_json (written payload))) := by
  have hwritten : ((codec docs).bus (kafka_for payload)).to_vec (event_of payload) =
      .ok (media.ascii (to_json (written payload))) := by
    rw [EventCodec.bus]
    dsimp only
    rw [serialize_event_of, Except.map, to_vec_codec]
  have hshort : (media.ascii (to_json (written payload))).length ≤ (kafka_for payload).message_max_bytes := by
    rw [kafka_for]
  exact (encode_event_ok_iff ..).mpr ⟨hmedia, hwritten, hshort⟩

def renamed : Value :=
  .object [("display_name", .string "Ana"), ("aliases", .array [.string "5511999990000"])]

theorem renamed_depth : renamed.depth = 2 := by
  simp [renamed, Value.depth, Value.depth.fields_depth, Value.depth.items_depth]

theorem reads_renamed : (codec [written renamed]).ReadsBack id (written renamed) := by
  have hfind (doc : Value) : (codec [doc]).from_slice ((codec [doc]).to_vec doc) = some doc := by
    simp [codec]
  have hdepth : (written renamed).depth = 3 := by
    rw [written, fields_depth, event_of, renamed_depth]
  have hfloats : (written renamed).map_floats id = written renamed :=
    (Value.map_floats_eq_self_iff _).mpr fun _ _ _ => rfl
  rw [EventCodec.ReadsBack, hfind, hdepth, hfloats]
  rfl

theorem nested_depth (n : Nat) : (nested n).depth = n + 1 := by
  induction n with
  | zero => rfl
  | succ n ih => simp [nested, Value.depth, Value.depth.items_depth, ih]

theorem nested_no_raw_media (n : Nat) : ¬ HasRawMedia (nested n) := by
  induction n with
  | zero => simp [nested, hasRawMedia_array_iff]
  | succ n ih => simpa [nested, hasRawMedia_array_iff] using ih

theorem reads_nested : (codec []).ReadsBack id (written (nested 126)) := by
  have hdepth : (written (nested 126)).depth = 128 := by
    rw [written, fields_depth, event_of, nested_depth]
  rw [EventCodec.ReadsBack, hdepth]
  rfl

end sample

theorem event_decoded_again :
    decode_event_from_kafka (sample.codec [sample.written sample.renamed])
      (media.ascii (sample.to_json (sample.written sample.renamed))) = .ok (sample.event_of sample.renamed) := by
  have hmedia : ¬ HasRawMedia sample.renamed := by
    rw [← contains_bytes_iff]
    decide
  exact ((codec_guarded _ id _ _).event_decoded (sample.keeps_event_of sample.reads_renamed) _
    (sample.encode_event_of hmedia)).mpr ⟨by rw [sample.event_of, sample.renamed_depth]; decide, fun _ _ _ => rfl⟩

/-- An event that is encoded need not be read again: the reader stops at arrays that are
nested too deep. -/
theorem nested_event_not_decoded :
    ¬ ∀ (codec : EventCodec) (reread : UInt64 → UInt64) (kafka : config.KafkaConfig) (event : CommonEvent)
      (bytes : List UInt8), codec.Keeps reread event →
      encode_event_for_kafka (codec.bus kafka) event = .ok bytes →
      decode_event_from_kafka codec bytes = .ok event := by
  intro hclaim
  have hdecoded := hclaim (sample.codec []) id _ (sample.event_of (sample.nested 126)) _
    (sample.keeps_event_of sample.reads_nested) (sample.encode_event_of (sample.nested_no_raw_media 126))
  cases hdecoded

end eventbus

end rustzap
