import RustZap.Kafka.Codec
import RustZap.Webhooks.Discipline

open serde_json
open rustzap.eventbus rustzap.models

namespace rustzap.state

/-- The fields of a payload that webhooks do not carry. -/
def content_fields : List String :=
  ["text", "caption", "bytes", "raw_response_json", "transcript", "media"]

theorem compact_items_eq (items : List Value) :
    compact_payload.compact_items items = items.map compact_payload := by
  induction items with
  | nil => rfl
  | cons item items ih => rw [compact_payload.compact_items, ih, List.map_cons]

theorem compact_fields_eq (fields : List (String × Value)) :
    compact_payload.compact_fields fields =
      (fields.filter fun field => field.1 ∉ content_fields).map fun field =>
        (field.1, compact_payload field.2) := by
  induction fields with
  | nil => rfl
  | cons field fields ih =>
    obtain ⟨key, value⟩ := field
    rw [compact_payload.compact_fields, ih]
    change (if content_fields.contains key then _ else _) = _
    by_cases hkey : key ∈ content_fields
    · rw [if_pos (List.contains_iff_mem.mpr hkey), List.filter_cons_of_neg (by simpa using hkey)]
    · rw [if_neg (fun h => hkey (List.contains_iff_mem.mp h)), List.filter_cons_of_pos (by simpa using hkey),
        List.map_cons]

/-- A payload is compacted by leaving out the content fields, at every depth. -/
theorem compact_payload_eq (value : Value) : compact_payload value = value.without content_fields := by
  induction value using Value.cases_induction with
  | scalar value harray hobject =>
    rw [Value.without_of_scalar harray hobject]
    cases value with
    | array items => exact absurd rfl (harray items)
    | object fields => exact absurd rfl (hobject fields)
    | _ => rfl
  | array items ih =>
    rw [compact_payload, compact_items_eq, Value.without_array, List.map_congr_left ih]
  | object fields ih =>
    rw [compact_payload, compact_fields_eq, Value.without_object]
    refine congrArg Value.object (List.map_congr_left fun field hfield => ?_)
    rw [ih field (List.mem_filter.mp hfield).1]

/-- The keys that a webhook is not to have at any depth. -/
def withheld_keys : List String :=
  ["text", "caption", "transcript", "raw_response_json", "media"] ++ raw_media_keys

def Scalar (value : Value) : Prop :=
  (∀ items, value ≠ .array items) ∧ ∀ fields, value ≠ .object fields

/-- What the webhook of an event is to be: compacting its payload again changes nothing, every
key and every scalar that no content field is on the way to is still there, and neither the
payload nor the body around it has a withheld key. -/
structure Compact (service : WebhookService) (event : CommonEvent) : Prop where
  idempotent : compact_payload (compact_payload event.payload) = compact_payload event.payload
  keys_kept : ∀ path part, Value.At path part event.payload → Value.Avoids content_fields path →
    ∃ part', Value.At path part' (compact_payload event.payload)
  scalars_kept : ∀ path part, Value.At path part event.payload → Value.Avoids content_fields path →
    Scalar part → Value.At path part (compact_payload event.payload)
  payload_clean : ∀ key ∈ withheld_keys, ¬ (compact_payload event.payload).HasKey key
  body_clean : ∀ key ∈ withheld_keys, ¬ (service.compact_webhook_event event).HasKey key

section Compacted

variable {payload : Value}

theorem scalar_kept {path : List Step} {part : Value} (hat : Value.At path part payload)
    (hpath : Value.Avoids content_fields path) (hscalar : Scalar part) :
    Value.At path part (compact_payload payload) := by
  have hkept := hat.without hpath
  rw [Value.without_of_scalar hscalar.1 hscalar.2] at hkept
  rw [compact_payload_eq]
  exact hkept

/-- The names of raw media that are no content fields. -/
def unlisted_keys : List String :=
  ["file_bytes", "raw_media", "body"]

theorem withheld_iff {key : String} : key ∈ withheld_keys ↔ key ∈ content_fields ∨ key ∈ unlisted_keys := by
  simp only [withheld_keys, raw_media_keys, content_fields, unlisted_keys, List.mem_append, List.mem_cons,
    List.not_mem_nil, or_false]
  tauto

theorem content_fields_left_out {key : String} (hkey : key ∈ content_fields) :
    ¬ (compact_payload payload).HasKey key := by
  rw [compact_payload_eq, Value.hasKey_without_iff]
  rintro ⟨path, part, -, hpath, hmem⟩
  exact hpath key hkey hmem

/-- The compact payload is clean where no name of raw media that the filter does not list is
on the way to what it keeps. -/
theorem compact_clean_iff :
    (∀ key ∈ withheld_keys, ¬ (compact_payload payload).HasKey key) ↔
      ∀ path part, Value.At path part payload → Value.Avoids content_fields path →
        Value.Avoids unlisted_keys path := by
  constructor
  · intro hclean path part hat hpath key hkey hmem
    refine hclean key (withheld_iff.mpr (Or.inr hkey)) ?_
    rw [compact_payload_eq, Value.hasKey_without_iff]
    exact ⟨path, part, hat, hpath, hmem⟩
  · intro havoids key hkey hhas
    rcases withheld_iff.mp hkey with hcontent | hunlisted
    · exact content_fields_left_out hcontent hhas
    · rw [compact_payload_eq, Value.hasKey_without_iff] at hhas
      obtain ⟨path, part, hat, hpath, hmem⟩ := hhas
      exact havoids path part hat hpath key hunlisted hmem

def body_names : List String :=
  ["event_id", "event_type", "project_id", "company_id", "channel_id", "conversation_id", "message_id",
    "conversation_seq", "occurred_at", "payload"]

/-- The body adds no withheld key around the payload. -/
theorem body_hasKey_iff (self : WebhookService) (event : CommonEvent) {key : String}
    (hkey : key ∈ withheld_keys) :
    (self.compact_webhook_event event).HasKey key ↔ (compact_payload event.payload).HasKey key := by
  have hscalar {value : Value} (h : Scalar value) : ¬ value.HasKey key :=
    Value.not_hasKey_of_scalar h.1 h.2 key
  have htext (text : String) : ¬ (Value.string text).HasKey key := hscalar ⟨nofun, nofun⟩
  have hoption (text : Option String) : ¬ (Value.of_option text).HasKey key := by
    cases text <;> exact hscalar ⟨nofun, nofun⟩
  have hnumber (seq : Option Int) : ¬ (seq.elim .null .number : Value).HasKey key := by
    cases seq <;> exact hscalar ⟨nofun, nofun⟩
  have hnames : ∀ key ∈ withheld_keys, key ∉ body_names := by
    decide
  have hother : ∀ name ∈ body_names, ¬ name = key := fun name hname heq => hnames key hkey (heq ▸ hname)
  simp only [body_names, List.forall_mem_cons, List.not_mem_nil, false_imp_iff, implies_true, and_true] at hother
  simp [WebhookService.compact_webhook_event, Value.hasKey_object_iff, htext, hoption, hnumber, hother]

end Compacted

/-- A webhook's body is compact exactly when, in the payload, none of the other names of raw
media occurs outside of the content fields: the filter of webhooks lists one of the four. -/
theorem webhook_compact_iff (self : WebhookService) (event : CommonEvent) :
    Compact self event ↔
      ∀ path part, Value.At path part event.payload → Value.Avoids content_fields path →
        Value.Avoids unlisted_keys path := by
  rw [← compact_clean_iff]
  constructor
  · exact Compact.payload_clean
  · intro hclean
    constructor
    case idempotent => rw [compact_payload_eq, compact_payload_eq, Value.without_without]
    case keys_kept =>
      intro path part hat hpath
      rw [compact_payload_eq]
      exact ⟨_, hat.without hpath⟩
    case scalars_kept => exact fun path part hat hpath => scalar_kept hat hpath
    case payload_clean => exact hclean
    case body_clean => exact fun key hkey => mt (body_hasKey_iff self event hkey).mp (hclean key hkey)

namespace sample

/-- A payload with the text of a message under a name that the detectors of the bus know. -/
def quoting_event : CommonEvent :=
  eventbus.sample.event_of (.object [("message_id", .string "msg_n1"), ("body", .string "Oi")])

end sample

/-- The webhook of a payload with a body carries the body. -/
theorem webhook_carries_body :
    ¬ ∀ (self : WebhookService) (event : CommonEvent), Compact self event := by
  intro hclaim
  have hclean := compact_clean_iff.mp (hclaim sample.webhook_service sample.quoting_event).payload_clean
  have hat : Value.At [.key "body"] (.string "Oi") sample.quoting_event.payload :=
    .field (List.mem_cons_of_mem _ List.mem_cons_self) (.here _)
  exact hclean _ _ hat (by simp [Value.Avoids, content_fields]) "body" (by simp [unlisted_keys])
    List.mem_cons_self

end rustzap.state
