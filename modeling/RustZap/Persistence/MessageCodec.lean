import RustZap.Persistence.Times

open fallible serde_json
open rustzap.models
open rustzap.models.CommonEvent (field required)

namespace rustzap.persistence

/-- A number that the type of a sequence number holds. -/
def I64 : Type :=
  { n : Int // -2 ^ 63 ≤ n ∧ n < 2 ^ 63 }

def I64.read : Value → Option I64
  | .number n => if h : -2 ^ 63 ≤ n ∧ n < 2 ^ 63 then some ⟨n, h⟩ else none
  | _ => none

/-- A message with its times as they are written. The message itself has the instants only. -/
structure TimedMessage where
  message : Message
  created_at_wa : time.OffsetDateTime
  created_at : time.OffsetDateTime
  updated_at : time.OffsetDateTime
  seq_i64 : -2 ^ 63 ≤ message.conversation_seq ∧ message.conversation_seq < 2 ^ 63
  wa_instant : message.created_at_wa = created_at_wa.unix_timestamp_nanos
  created_instant : message.created_at = created_at.unix_timestamp_nanos
  updated_instant : message.updated_at = updated_at.unix_timestamp_nanos

namespace TimedMessage

/-- The fields of the struct, in their order. -/
def names : List String :=
  ["id", "project_id", "company_id", "conversation_id", "channel_account_id", "conversation_seq",
    "wa_message_id", "direction", "sender_contact_id", "sender_display_name", "message_type", "text", "media_id",
    "media_url", "thumbnail_url", "mime_type", "file_name", "quoted_message_id", "status", "error_message",
    "is_starred", "is_pinned", "reaction", "sent_by_source", "sent_by_external_user_id", "created_at_wa",
    "created_at", "updated_at"]

def times (self : TimedMessage) : List time.OffsetDateTime :=
  [self.created_at_wa, self.created_at, self.updated_at]

/-- What is written of a message whose times have been written. -/
def fields (self : TimedMessage) (created_at_wa created_at updated_at : String) : List (String × Value) :=
  let message := self.message
  [("id", .string message.id),
    ("project_id", .string message.project_id),
    ("company_id", .string message.company_id),
    ("conversation_id", .string message.conversation_id),
    ("channel_account_id", .string message.channel_account_id),
    ("conversation_seq", .number message.conversation_seq),
    ("wa_message_id", .of_option message.wa_message_id),
    ("direction", .string message.direction),
    ("sender_contact_id", .of_option message.sender_contact_id),
    ("sender_display_name", .of_option message.sender_display_name),
    ("message_type", .string message.message_type),
    ("text", .of_option message.text),
    ("media_id", .of_option message.media_id),
    ("media_url", .of_option message.media_url),
    ("thumbnail_url", .of_option message.thumbnail_url),
    ("mime_type", .of_option message.mime_type),
    ("file_name", .of_option message.file_name),
    ("quoted_message_id", .of_option message.quoted_message_id),
    ("status", .string message.status),
    ("delivery_state", .string message.delivery_state.name),
    ("error_message", .of_option message.error_message),
    ("is_starred", .bool message.is_starred),
    ("is_pinned", .bool message.is_pinned),
    ("reaction", .of_option message.reaction),
    ("sent_by_source", .of_option message.sent_by_source),
    ("sent_by_external_user_id", .of_option message.sent_by_external_user_id),
    ("created_at_wa", .string created_at_wa),
    ("created_at", .string created_at),
    ("updated_at", .string updated_at)]

variable (crate : time.Crate)

def serialize (self : TimedMessage) : Except String Value := do
  let created_at_wa ← to_rfc3339 crate self.created_at_wa
  let created_at ← to_rfc3339 crate self.created_at
  let updated_at ← to_rfc3339 crate self.updated_at
  .ok (.object (self.fields created_at_wa created_at updated_at))

def read_time (value : Value) : Option time.OffsetDateTime :=
  (from_json_value crate value).toOption

def visit_map (fields : List (String × Value)) : Option TimedMessage := do
  let id ← required Value.as_str fields "id"
  let project_id ← required Value.as_str fields "project_id"
  let company_id ← required Value.as_str fields "company_id"
  let conversation_id ← required Value.as_str fields "conversation_id"
  let channel_account_id ← required Value.as_str fields "channel_account_id"
  let conversation_seq ← required I64.read fields "conversation_seq"
  let wa_message_id ← CommonEvent.optional Value.as_str fields "wa_message_id"
  let direction ← required Value.as_str fields "direction"
  let sender_contact_id ← CommonEvent.optional Value.as_str fields "sender_contact_id"
  let sender_display_name ← CommonEvent.optional Value.as_str fields "sender_display_name"
  let message_type ← required Value.as_str fields "message_type"
  let text ← CommonEvent.optional Value.as_str fields "text"
  let media_id ← CommonEvent.optional Value.as_str fields "media_id"
  let media_url ← CommonEvent.optional Value.as_str fields "media_url"
  let thumbnail_url ← CommonEvent.optional Value.as_str fields "thumbnail_url"
  let mime_type ← CommonEvent.optional Value.as_str fields "mime_type"
  let file_name ← CommonEvent.optional Value.as_str fields "file_name"
  let quoted_message_id ← CommonEvent.optional Value.as_str fields "quoted_message_id"
  let status ← required Value.as_str fields "status"
  let error_message ← CommonEvent.optional Value.as_str fields "error_message"
  let is_starred ← required Value.as_bool fields "is_starred"
  let is_pinned ← required Value.as_bool fields "is_pinned"
  let reaction ← CommonEvent.optional Value.as_str fields "reaction"
  let sent_by_source ← CommonEvent.optional Value.as_str fields "sent_by_source"
  let sent_by_external_user_id ← CommonEvent.optional Value.as_str fields "sent_by_external_user_id"
  let created_at_wa ← required (read_time crate) fields "created_at_wa"
  let created_at ← required (read_time crate) fields "created_at"
  let updated_at ← required (read_time crate) fields "updated_at"
  let message : Message := {
    id, project_id, company_id, conversation_id, channel_account_id, conversation_seq := conversation_seq.1
    wa_message_id, direction, sender_contact_id, sender_display_name, message_type, text, media_id, media_url
    thumbnail_url, mime_type, file_name, quoted_message_id, status, error_message, is_starred, is_pinned
    reaction, sent_by_source, sent_by_external_user_id
    created_at_wa := created_at_wa.unix_timestamp_nanos
    created_at := created_at.unix_timestamp_nanos
    updated_at := updated_at.unix_timestamp_nanos }
  return {
    message, created_at_wa, created_at, updated_at, seq_i64 := conversation_seq.2
    wa_instant := rfl, created_instant := rfl, updated_instant := rfl }

/-- A message is read from an object, or from an array of all its fields in their order. -/
def deserialize : Value → Option TimedMessage
  | .object fields => visit_map crate fields
  | .array items => if items.length = names.length then visit_map crate (names.zip items) else none
  | _ => none

end TimedMessage

/-- The fields of an object that the struct has, if the object is a message's. -/
def stored (fields : List (String × Value)) : List (String × Value) :=
  fields.filter fun field => field.1 ≠ "delivery_state"

/-- The message is written, it is read back from what is written, whatever the order of the fields and
whatever stands there as the derived one, and what is read is written alike. -/
def RoundTrips (crate : time.Crate) (message : TimedMessage) : Prop :=
  ∃ fields, message.serialize crate = .ok (.object fields) ∧
    ∀ fields', (stored fields').Perm (stored fields) →
      TimedMessage.deserialize crate (.object fields') = some message ∧
      ∀ reread, TimedMessage.deserialize crate (.object fields') = some reread →
        reread.serialize crate = .ok (.object fields)

section RoundTrip

variable {crate : time.Crate} {message : TimedMessage} {fields : List (String × Value)} {name : String}

/-- The derived field is not looked at. -/
theorem field_stored (fields : List (String × Value)) (h : name ≠ "delivery_state") :
    field (stored fields) name = field fields name := by
  have hfilter : (stored fields).filter (fun field => field.1 = name) =
      fields.filter fun field => field.1 = name := by
    rw [stored, List.filter_filter]
    refine List.filter_congr fun field _ => ?_
    by_cases hname : field.1 = name
    · rw [hname]
      simp [h]
    · simp [hname]
  rw [field, field, hfilter]

section Stored

variable {value : Value} (hnames : ((stored fields).map Prod.fst).Nodup)
include hnames

theorem field_of_stored (hmem : (name, value) ∈ stored fields) : field fields name = some (some value) := by
  have hname : name ≠ "delivery_state" := of_decide_eq_true (List.mem_filter.mp hmem).2
  rw [← field_stored fields hname]
  exact CommonEvent.field_of_mem hnames hmem

theorem required_of_stored {A : Type} {read : Value → Option A} {a : A} (value : Value)
    (hmem : (name, value) ∈ stored fields) (hread : read value = some a) :
    required read fields name = some a := by
  rw [required, field_of_stored hnames hmem]
  exact hread

theorem text_of_stored (text : String) (hmem : (name, .string text) ∈ stored fields) :
    required Value.as_str fields name = some text :=
  required_of_stored hnames _ hmem rfl

theorem flag_of_stored (flag : Bool) (hmem : (name, .bool flag) ∈ stored fields) :
    required Value.as_bool fields name = some flag :=
  required_of_stored hnames _ hmem rfl

theorem option_of_stored (text : Option String) (hmem : (name, .of_option text) ∈ stored fields) :
    CommonEvent.optional Value.as_str fields name = some text := by
  rw [CommonEvent.optional, field_of_stored hnames hmem]
  cases text <;> rfl

theorem seq_of_stored (seq : Int) (h : -2 ^ 63 ≤ seq ∧ seq < 2 ^ 63)
    (hmem : (name, .number seq) ∈ stored fields) : required I64.read fields name = some ⟨seq, h⟩ :=
  required_of_stored hnames _ hmem (dif_pos h)

theorem time_of_stored {text : String} {value : time.OffsetDateTime} (hparse : crate.parse text = .ok value)
    (hmem : (name, .string text) ∈ stored fields) :
    required (TimedMessage.read_time crate) fields name = some value := by
  refine required_of_stored hnames _ hmem ?_
  rw [TimedMessage.read_time, from_json_value, hparse]
  rfl

end Stored

theorem stored_names (message : TimedMessage) (created_at_wa created_at updated_at : String) :
    (stored (message.fields created_at_wa created_at updated_at)).map Prod.fst = TimedMessage.names := by
  simp [stored, TimedMessage.fields, TimedMessage.names]

theorem mem_stored {value : Value} (hmem : (name, value) ∈ fields) (hname : name ≠ "delivery_state") :
    (name, value) ∈ stored fields :=
  List.mem_filter.mpr ⟨hmem, decide_eq_true hname⟩

/-- What an object has in the fields of the struct makes the message. -/
theorem visit_map_fields {created_at_wa created_at updated_at : String}
    (hwa : crate.parse created_at_wa = .ok message.created_at_wa)
    (hcreated : crate.parse created_at = .ok message.created_at)
    (hupdated : crate.parse updated_at = .ok message.updated_at)
    (hperm : (stored fields).Perm (stored (message.fields created_at_wa created_at updated_at))) :
    TimedMessage.visit_map crate fields = some message := by
  have hnames : ((stored fields).map Prod.fst).Nodup := by
    refine (hperm.map Prod.fst).nodup_iff.mpr ?_
    rw [stored_names]
    decide
  have hmem : ∀ {name value}, name ≠ "delivery_state" →
      (name, value) ∈ message.fields created_at_wa created_at updated_at → (name, value) ∈ stored fields :=
    fun hname hmem => hperm.mem_iff.mpr (mem_stored hmem hname)
  obtain ⟨message, _, _, _, hseq, hwa_instant, hcreated_instant, hupdated_instant⟩ := message
  rw [TimedMessage.visit_map,
    text_of_stored hnames message.id (hmem (by decide) (by simp [TimedMessage.fields])),
    text_of_stored hnames message.project_id (hmem (by decide) (by simp [TimedMessage.fields])),
    text_of_stored hnames message.company_id (hmem (by decide) (by simp [TimedMessage.fields])),
    text_of_stored hnames message.conversation_id (hmem (by decide) (by simp [TimedMessage.fields])),
    text_of_stored hnames message.channel_account_id (hmem (by decide) (by simp [TimedMessage.fields])),
    seq_of_stored hnames message.conversation_seq hseq (hmem (by decide) (by simp [TimedMessage.fields])),
    option_of_stored hnames message.wa_message_id (hmem (by decide) (by simp [TimedMessage.fields])),
    text_of_stored hnames message.direction (hmem (by decide) (by simp [TimedMessage.fields])),
    option_of_stored hnames message.sender_contact_id (hmem (by decide) (by simp [TimedMessage.fields])),
    option_of_stored hnames message.sender_display_name (hmem (by decide) (by simp [TimedMessage.fields])),
    text_of_stored hnames message.message_type (hmem (by decide) (by simp [TimedMessage.fields])),
    option_of_stored hnames message.text (hmem (by decide) (by simp [TimedMessage.fields])),
    option_of_stored hnames message.media_id (hmem (by decide) (by simp [TimedMessage.fields])),
    option_of_stored hnames message.media_url (hmem (by decide) (by simp [TimedMessage.fields])),
    option_of_stored hnames message.thumbnail_url (hmem (by decide) (by simp [TimedMessage.fields])),
    option_of_stored hnames message.mime_type (hmem (by decide) (by simp [TimedMessage.fields])),
    option_of_stored hnames message.file_name (hmem (by decide) (by simp [TimedMessage.fields])),
    option_of_stored hnames message.quoted_message_id (hmem (by decide) (by simp [TimedMessage.fields])),
    text_of_stored hnames message.status (hmem (by decide) (by simp [TimedMessage.fields])),
    option_of_stored hnames message.error_message (hmem (by decide) (by simp [TimedMessage.fields])),
    flag_of_stored hnames message.is_starred (hmem (by decide) (by simp [TimedMessage.fields])),
    flag_of_stored hnames message.is_pinned (hmem (by decide) (by simp [TimedMessage.fields])),
    option_of_stored hnames message.reaction (hmem (by decide) (by simp [TimedMessage.fields])),
    option_of_stored hnames message.sent_by_source (hmem (by decide) (by simp [TimedMessage.fields])),
    option_of_stored hnames message.sent_by_external_user_id (hmem (by decide) (by simp [TimedMessage.fields])),
    time_of_stored hnames hwa (hmem (by decide) (by simp [TimedMessage.fields])),
    time_of_stored hnames hcreated (hmem (by decide) (by simp [TimedMessage.fields])),
    time_of_stored hnames hupdated (hmem (by decide) (by simp [TimedMessage.fields]))]
  cases message
  dsimp only at hwa_instant hcreated_instant hupdated_instant
  subst hwa_instant hcreated_instant hupdated_instant
  rfl

theorem serialize_eq_ok {doc : Value} (h : message.serialize crate = .ok doc) :
    ∃ created_at_wa created_at updated_at, to_rfc3339 crate message.created_at_wa = .ok created_at_wa ∧
      to_rfc3339 crate message.created_at = .ok created_at ∧
      to_rfc3339 crate message.updated_at = .ok updated_at ∧
      doc = .object (message.fields created_at_wa created_at updated_at) := by
  obtain ⟨created_at_wa, hwa, h⟩ := bind_eq_ok_iff.mp h
  obtain ⟨created_at, hcreated, h⟩ := bind_eq_ok_iff.mp h
  obtain ⟨updated_at, hupdated, h⟩ := bind_eq_ok_iff.mp h
  exact ⟨created_at_wa, created_at, updated_at, hwa, hcreated, hupdated, (Except.ok.inj h).symm⟩

/-- A message is written if and only if its three times can be. -/
theorem serialize_succeeds_iff : (∃ doc, message.serialize crate = .ok doc) ↔
    ∀ value ∈ message.times, ∃ text, to_rfc3339 crate value = .ok text := by
  rw [TimedMessage.times, List.forall_mem_cons, List.forall_mem_cons, List.forall_mem_singleton]
  constructor
  · rintro ⟨doc, hdoc⟩
    obtain ⟨created_at_wa, created_at, updated_at, hwa, hcreated, hupdated, -⟩ := serialize_eq_ok hdoc
    exact ⟨⟨_, hwa⟩, ⟨_, hcreated⟩, ⟨_, hupdated⟩⟩
  · rintro ⟨⟨created_at_wa, hwa⟩, ⟨created_at, hcreated⟩, ⟨updated_at, hupdated⟩⟩
    refine ⟨.object (message.fields created_at_wa created_at updated_at), ?_⟩
    rw [TimedMessage.serialize, hwa, hcreated, hupdated]
    rfl

/-- What is written of a message is read as the message, and written again as it was. -/
theorem message_round_trip (hcrate : ∀ value ∈ message.times, crate.Documented value)
    (hexpressible : ∀ value ∈ message.times, value.Expressible) : RoundTrips crate message := by
  have hformats : ∀ value ∈ message.times, ∃ text, to_rfc3339 crate value = .ok text :=
    fun value hvalue => (hcrate value hvalue).formats.mpr (hexpressible value hvalue)
  obtain ⟨doc, hdoc⟩ := serialize_succeeds_iff.mpr hformats
  obtain ⟨created_at_wa, created_at, updated_at, hwa, hcreated, hupdated, rfl⟩ := serialize_eq_ok hdoc
  refine ⟨_, hdoc, fun fields' hperm => ?_⟩
  have hread : TimedMessage.deserialize crate (.object fields') = some message := by
    refine visit_map_fields ?_ ?_ ?_ hperm
    · exact (hcrate _ (by simp [TimedMessage.times])).inverts created_at_wa hwa
    · exact (hcrate _ (by simp [TimedMessage.times])).inverts created_at hcreated
    · exact (hcrate _ (by simp [TimedMessage.times])).inverts updated_at hupdated
  refine ⟨hread, fun reread hreread => ?_⟩
  cases hread.symm.trans hreread
  exact hdoc

end RoundTrip

namespace sample

/-- A text that was received at half past twelve. -/
def received : TimedMessage where
  message := {
    id := "msg_1"
    project_id := "acme"
    company_id := "company_a"
    conversation_id := "5511988887777@s.whatsapp.net"
    channel_account_id := "channel_a"
    conversation_seq := 1
    wa_message_id := some "3EB0"
    direction := "inbound"
    sender_contact_id := some "5511988887777@s.whatsapp.net"
    sender_display_name := none
    message_type := "text"
    text := some "oi"
    media_id := none
    media_url := none
    thumbnail_url := none
    mime_type := none
    file_name := none
    quoted_message_id := none
    status := "received"
    error_message := none
    is_starred := false
    is_pinned := true
    reaction := none
    sent_by_source := none
    sent_by_external_user_id := none
    created_at_wa := loaded.unix_timestamp_nanos
    created_at := loaded.unix_timestamp_nanos
    updated_at := loaded.unix_timestamp_nanos }
  created_at_wa := loaded
  created_at := loaded
  updated_at := loaded
  seq_i64 := by decide
  wa_instant := rfl
  created_instant := rfl
  updated_instant := rfl

end sample

theorem received_message_round_trip : RoundTrips sample.time_crate sample.received := by
  have htimes : ∀ value ∈ sample.received.times, value = sample.loaded := by
    intro value hvalue
    simpa [TimedMessage.times, sample.received] using hvalue
  refine message_round_trip (fun value hvalue => ?_) (fun value hvalue => ?_)
  · exact sample.time_crate_documented (Or.inl (htimes value hvalue))
  · rw [htimes value hvalue]
    decide

end rustzap.persistence
