import RustZap.Database.Outbox
import RustZap.Kafka.Workers
import Mathlib.Data.List.Dedup

open rustzap.models

namespace rustzap

namespace config

/-- The settings that say which topics there are. Hours are 64-bit integers. -/
structure TopicSettings extends KafkaConfig where
  retry_topic_suffix : String
  deadletter_topic_suffix : String
  enable_auto_create_topics : Bool
  default_partitions : Int
  default_replication_factor : Int
  message_retention_hours : Int
  deadletter_retention_hours : Int

end config

namespace eventbus

def EVENT_TOPIC_SUFFIXES : List String := [
  "raw.inbound",
  "outbound.send.requested",
  "message.persisted",
  "media.download.requested",
  "media.stored",
  "audio.transcription.requested",
  "audio.transcribed",
  "conversation.dirty",
  "conversation.event",
  "delivery.receipt",
  "channel.status",
  "contact.updated",
  "group.event",
  "websocket.event",
  "system.event"]

structure TopicSpec where
  name : String
  partitions : Int
  replication_factor : Int
  retention_ms : Int
  deriving DecidableEq

def saturating_mul (a b : Int) : Int := max (-2 ^ 63) (min (2 ^ 63 - 1) (a * b))

def retention_ms (hours : Int) : Int :=
  saturating_mul (saturating_mul (saturating_mul hours 60) 60) 1000

section Topics

variable (kafka : config.TopicSettings)

/-- The elements of a set of texts, in their order. -/
def sorted_set (texts : List String) : List String :=
  texts.dedup.mergeSort fun text text' => text ≤ text'

def required_topic_specs : List TopicSpec :=
  (sorted_set (EVENT_TOPIC_SUFFIXES ++ [kafka.retry_topic_suffix, kafka.deadletter_topic_suffix])).map
    fun topic_suffix => {
      name := kafka.topic_prefix ++ "." ++ topic_suffix
      partitions := kafka.default_partitions
      replication_factor := kafka.default_replication_factor
      retention_ms := retention_ms (if topic_suffix = kafka.deadletter_topic_suffix then
        kafka.deadletter_retention_hours else kafka.message_retention_hours) }

def retry_topic : String := kafka.topic_prefix ++ "." ++ kafka.retry_topic_suffix

def deadletter_topic : String := kafka.topic_prefix ++ "." ++ kafka.deadletter_topic_suffix

/-- The errors of the event bus that the setup of the topics runs into. -/
inductive TopicsError where
  | MissingTopics (names : String)
  | KafkaTopicCreate (topic : String) (code : Int)
  | Kafka (message : String)
  deriving DecidableEq

/-- What the broker says to the creation of one topic. -/
inductive TopicResult where
  | Ok
  | TopicAlreadyExists
  | Other (code : Int)
  deriving DecidableEq

/-- How the calls to the broker come back. A call that fails changes nothing. -/
structure AdminAnswers where
  fetch_metadata : Option String
  create_topics : Option String
  result : String → TopicResult

/-- The topics that the broker lists without an error, given that it answers. -/
def existing_topics (topics : List String) (answers : AdminAnswers) : Except TopicsError (List String) :=
  match answers.fetch_metadata with
  | some err => .error (.Kafka err)
  | none => .ok topics

/-- The first topic that could not be created. -/
def creation_result (answers : AdminAnswers) : List String → Except TopicsError Unit
  | [] => .ok ()
  | topic :: topics =>
    match answers.result topic with
    | .Ok => creation_result answers topics
    | .TopicAlreadyExists => creation_result answers topics
    | .Other code => .error (.KafkaTopicCreate topic code)

/-- The result, and the topics that the broker has afterwards. A topic that somebody else
has created meanwhile is there as well. -/
def ensure_topics (topics : List String) (answers : AdminAnswers) : Except TopicsError Unit × List String :=
  match existing_topics topics answers with
  | .error err => (.error err, topics)
  | .ok existing =>
    let missing := ((required_topic_specs kafka).filter fun spec => !existing.contains spec.name).map TopicSpec.name
    if missing.isEmpty then (.ok (), topics)
    else if !kafka.enable_auto_create_topics then (.error (.MissingTopics (", ".intercalate missing)), topics)
    else match answers.create_topics with
      | some err => (.error (.Kafka err), topics)
      | none =>
        (creation_result answers missing, topics ++ missing.filter fun topic =>
          match answers.result topic with
          | .Other _ => false
          | _ => true)

structure EventBusHealth where
  ok : Bool
  detail : String

def health (brokers : String) (topics : List String) (answers : AdminAnswers) :
    Except TopicsError EventBusHealth :=
  (existing_topics topics answers).map fun existing =>
    let missing := ((required_topic_specs kafka).filter fun spec => !existing.contains spec.name).map TopicSpec.name
    if missing.isEmpty then { ok := true, detail := "kafka ready at " ++ brokers }
    else { ok := false, detail := "Kafka missing required topics: " ++ ", ".intercalate missing }

end Topics

section Suffixes

variable {kafka : config.TopicSettings}

theorem mem_sorted_set {texts : List String} {text : String} : text ∈ sorted_set texts ↔ text ∈ texts := by
  rw [sorted_set, List.mem_mergeSort, List.mem_dedup]

theorem sorted_set_nodup (texts : List String) : (sorted_set texts).Nodup :=
  (List.mergeSort_perm _ _).nodup_iff.mpr (List.nodup_dedup texts)

/-- Topics of one prefix differ as their suffixes do. -/
theorem topic_name_inj {base topic_suffix topic_suffix' : String}
    (h : base ++ "." ++ topic_suffix = base ++ "." ++ topic_suffix') :
    topic_suffix = topic_suffix' := by
  have htexts := congrArg String.toList h
  rw [String.toList_append, String.toList_append (t := topic_suffix')] at htexts
  exact String.toList_inj.mp (List.append_cancel_left htexts)

theorem topic_for_event_suffix (kafka : config.KafkaConfig) (event_type : String) :
    ∃ topic_suffix ∈ EVENT_TOPIC_SUFFIXES,
      topic_for_event kafka event_type = kafka.topic_prefix ++ "." ++ topic_suffix := by
  refine ⟨_, ?_, rfl⟩
  split
  case h_24 => (repeat' split) <;> decide
  all_goals decide

/-- No suffix stands in the list in vain. -/
theorem suffix_of_event (kafka : config.KafkaConfig) :
    ∀ topic_suffix ∈ EVENT_TOPIC_SUFFIXES, ∃ event_type,
      topic_for_event kafka event_type = kafka.topic_prefix ++ "." ++ topic_suffix := by
  simp only [EVENT_TOPIC_SUFFIXES, List.forall_mem_cons]
  exact ⟨⟨"whatsapp.raw.inbound", rfl⟩, ⟨"outbound.send.requested", rfl⟩, ⟨"message.persisted", rfl⟩,
    ⟨"media.download.requested", rfl⟩, ⟨"media.stored", rfl⟩, ⟨"audio.transcription.requested", rfl⟩,
    ⟨"audio.transcribed", rfl⟩, ⟨"conversation.dirty", rfl⟩, ⟨"conversation.updated", rfl⟩,
    ⟨"message.receipt", rfl⟩, ⟨"channel.qr", rfl⟩, ⟨"contact.updated", rfl⟩, ⟨"group.updated", rfl⟩,
    ⟨"websocket.connected", rfl⟩, ⟨"ignored_old_message", rfl⟩, List.forall_mem_nil _⟩

/-- The topics that the service requires are those that it publishes events to, and those
of the retries and of the dead letters. -/
theorem mem_required_topics_iff (topic : String) :
    topic ∈ (required_topic_specs kafka).map TopicSpec.name ↔
      (∃ event_type, topic_for_event kafka.toKafkaConfig event_type = topic) ∨ topic = retry_topic kafka ∨
        topic = deadletter_topic kafka := by
  have hnames : (required_topic_specs kafka).map TopicSpec.name =
      (sorted_set (EVENT_TOPIC_SUFFIXES ++ [kafka.retry_topic_suffix, kafka.deadletter_topic_suffix])).map
        fun topic_suffix => kafka.topic_prefix ++ "." ++ topic_suffix :=
    List.map_map
  rw [hnames, List.mem_map]
  constructor
  · rintro ⟨topic_suffix, hmem, rfl⟩
    rw [mem_sorted_set, List.mem_append, List.mem_pair] at hmem
    rcases hmem with hevent | rfl | rfl
    · exact Or.inl (suffix_of_event kafka.toKafkaConfig topic_suffix hevent)
    · exact Or.inr (Or.inl rfl)
    · exact Or.inr (Or.inr rfl)
  · rintro (⟨event_type, rfl⟩ | rfl | rfl)
    · obtain ⟨topic_suffix, hmem, htopic⟩ := topic_for_event_suffix kafka.toKafkaConfig event_type
      exact ⟨topic_suffix, mem_sorted_set.mpr (List.mem_append_left _ hmem), htopic.symm⟩
    · refine ⟨kafka.retry_topic_suffix, mem_sorted_set.mpr (List.mem_append_right _ ?_), rfl⟩
      exact List.mem_cons_self
    · refine ⟨kafka.deadletter_topic_suffix, mem_sorted_set.mpr (List.mem_append_right _ ?_), rfl⟩
      exact List.mem_cons_of_mem _ List.mem_cons_self

/-- No topic is required twice, however the suffixes of the settings are chosen. -/
theorem required_topics_nodup (kafka : config.TopicSettings) :
    ((required_topic_specs kafka).map TopicSpec.name).Nodup := by
  rw [required_topic_specs, List.map_map]
  exact (sorted_set_nodup _).map fun _ _ => topic_name_inj

end Suffixes

section Setup

variable {kafka : config.TopicSettings} {topics : List String} {answers : AdminAnswers}

theorem missing_topics_eq (kafka : config.TopicSettings) (topics : List String) :
    ((required_topic_specs kafka).filter fun spec => !topics.contains spec.name).map TopicSpec.name =
      ((required_topic_specs kafka).map TopicSpec.name).filter fun topic => !topics.contains topic := by
  rw [List.filter_map]
  rfl

theorem creation_result_ok {missing : List String} (h : creation_result answers missing = .ok ()) :
    ∀ topic ∈ missing, ∀ code, answers.result topic ≠ .Other code := by
  induction missing with
  | nil => exact List.forall_mem_nil _
  | cons topic missing ih =>
    rw [creation_result] at h
    rw [List.forall_mem_cons]
    cases hresult : answers.result topic with
    | Ok =>
      rw [hresult] at h
      exact ⟨nofun, ih h⟩
    | TopicAlreadyExists =>
      rw [hresult] at h
      exact ⟨nofun, ih h⟩
    | Other code =>
      rw [hresult] at h
      cases h

/-- The setup gives up and changes nothing, or it finds nothing missing, or it asks for
what is missing. -/
theorem ensure_topics_cases (kafka : config.TopicSettings) (topics : List String) (answers : AdminAnswers) :
    let missing := ((required_topic_specs kafka).map TopicSpec.name).filter fun topic => !topics.contains topic
    (missing = [] ∨ ∃ err, (ensure_topics kafka topics answers).1 = .error err) ∧
        (ensure_topics kafka topics answers).2 = topics ∨
      ensure_topics kafka topics answers =
        (creation_result answers missing, topics ++ missing.filter fun topic =>
          match answers.result topic with
          | .Other _ => false
          | _ => true) := by
  intro missing
  have hmissing : ((required_topic_specs kafka).filter fun spec => !topics.contains spec.name).map TopicSpec.name =
      missing :=
    missing_topics_eq kafka topics
  unfold ensure_topics existing_topics
  cases answers.fetch_metadata with
  | some err => exact Or.inl ⟨Or.inr ⟨_, rfl⟩, rfl⟩
  | none =>
    dsimp only
    rw [hmissing]
    split
    · next hnone => exact Or.inl ⟨Or.inl (List.isEmpty_iff.mp hnone), rfl⟩
    · split
      · exact Or.inl ⟨Or.inr ⟨_, rfl⟩, rfl⟩
      · cases answers.create_topics with
        | some err => exact Or.inl ⟨Or.inr ⟨_, rfl⟩, rfl⟩
        | none => exact Or.inr rfl

/-- A service whose setup of the topics has succeeded has all topics that it will ever
publish to, whatever the types of its events, and those of the retries and the dead letters.
The setup creates no other topic and keeps those that were there. -/
theorem topics_ready (hready : (ensure_topics kafka topics answers).1 = .ok ()) :
    (∀ event_type, topic_for_event kafka.toKafkaConfig event_type ∈ (ensure_topics kafka topics answers).2) ∧
    retry_topic kafka ∈ (ensure_topics kafka topics answers).2 ∧
    deadletter_topic kafka ∈ (ensure_topics kafka topics answers).2 ∧
    ∃ created, (ensure_topics kafka topics answers).2 = topics ++ created ∧
      ∀ topic ∈ created, topic ∉ topics ∧ ((∃ event_type, topic_for_event kafka.toKafkaConfig event_type = topic) ∨
        topic = retry_topic kafka ∨ topic = deadletter_topic kafka) := by
  have hall : (∀ topic ∈ (required_topic_specs kafka).map TopicSpec.name,
        topic ∈ (ensure_topics kafka topics answers).2) ∧
      ∃ created, (ensure_topics kafka topics answers).2 = topics ++ created ∧
        ∀ topic ∈ created, topic ∉ topics ∧ topic ∈ (required_topic_specs kafka).map TopicSpec.name := by
    rcases ensure_topics_cases kafka topics answers with ⟨hnone | ⟨err, herr⟩, hkept⟩ | hasked
    · rw [hkept]
      refine ⟨fun topic hrequired => ?_, [], (List.append_nil _).symm, List.forall_mem_nil _⟩
      by_contra hmissing
      have hmem := List.filter_eq_nil_iff.mp hnone topic hrequired
      simp [hmissing] at hmem
    · rw [hready] at herr
      cases herr
    · rw [hasked] at hready ⊢
      refine ⟨fun topic hrequired => List.mem_append.mpr ?_, _, rfl, fun topic hcreated => ?_⟩
      · by_cases hthere : topic ∈ topics
        · exact Or.inl hthere
        · have hmem : topic ∈ ((required_topic_specs kafka).map TopicSpec.name).filter
              fun topic => !topics.contains topic :=
            List.mem_filter.mpr ⟨hrequired, by simpa using hthere⟩
          refine Or.inr (List.mem_filter.mpr ⟨hmem, ?_⟩)
          have hcreated := creation_result_ok hready topic hmem
          cases hresult : answers.result topic with
          | Other code => exact absurd hresult (hcreated code)
          | _ => rfl
      · obtain ⟨hrequired, hnew⟩ := List.mem_filter.mp (List.mem_of_mem_filter hcreated)
        exact ⟨by simpa using hnew, hrequired⟩
  obtain ⟨hall, created, heq, hcreated⟩ := hall
  refine ⟨fun event_type => hall _ ?_, hall _ ?_, hall _ ?_, created, heq, fun topic hmem => ?_⟩
  · exact (mem_required_topics_iff _).mpr (Or.inl ⟨event_type, rfl⟩)
  · exact (mem_required_topics_iff _).mpr (Or.inr (Or.inl rfl))
  · exact (mem_required_topics_iff _).mpr (Or.inr (Or.inr rfl))
  · exact ⟨(hcreated topic hmem).1, (mem_required_topics_iff topic).mp (hcreated topic hmem).2⟩

/-- The service is healthy when nothing that it publishes to is missing. -/
theorem health_ok_iff {brokers : String} (hanswers : answers.fetch_metadata = none) :
    (∃ detail, health kafka brokers topics answers = .ok { ok := true, detail }) ↔
      ∀ topic ∈ (required_topic_specs kafka).map TopicSpec.name, topic ∈ topics := by
  rw [health, existing_topics, hanswers]
  dsimp only [Except.map]
  rw [missing_topics_eq]
  split
  · next hnone =>
    refine iff_of_true ⟨_, rfl⟩ fun topic hrequired => ?_
    by_contra habsent
    have hmem := List.filter_eq_nil_iff.mp (List.isEmpty_iff.mp hnone) topic hrequired
    simp [habsent] at hmem
  · next hsome =>
    refine iff_of_false (fun ⟨_, heq⟩ => ?_) fun hall => hsome (List.isEmpty_iff.mpr ?_)
    · cases heq
    · refine List.filter_eq_nil_iff.mpr fun topic hrequired => ?_
      simpa using hall topic hrequired

end Setup

namespace sample

def settings : config.TopicSettings where
  toKafkaConfig := config.KafkaConfig.from_env
  retry_topic_suffix := "retry"
  deadletter_topic_suffix := "deadletter"
  enable_auto_create_topics := true
  default_partitions := 24
  default_replication_factor := 1
  message_retention_hours := 168
  deadletter_retention_hours := 168

/-- Somebody else creates the topic of the raw events at the same time. -/
def willing : AdminAnswers where
  fetch_metadata := none
  create_topics := none
  result topic := if topic = "rustzap.raw.inbound" then .TopicAlreadyExists else .Ok

theorem creation_willing (missing : List String) : creation_result willing missing = .ok () := by
  induction missing with
  | nil => rfl
  | cons topic missing ih =>
    have hresult : willing.result topic = if topic = "rustzap.raw.inbound" then .TopicAlreadyExists else .Ok := rfl
    rw [creation_result, hresult]
    by_cases hraw : topic = "rustzap.raw.inbound"
    · rw [if_pos hraw]
      exact ih
    · rw [if_neg hraw]
      exact ih

theorem setup_willing (topics : List String) : (ensure_topics settings topics willing).1 = .ok () := by
  have hexisting : existing_topics topics willing = .ok topics := rfl
  have hauto : settings.enable_auto_create_topics = true := rfl
  have hcreate : willing.create_topics = none := rfl
  rw [ensure_topics, hexisting]
  dsimp only
  split
  · rfl
  · rw [hauto, hcreate]
    exact creation_willing _

end sample

open sample in
theorem topics_ready_willing :
    (∀ event_type, topic_for_event settings.toKafkaConfig event_type ∈ (ensure_topics settings [] willing).2) ∧
    retry_topic settings ∈ (ensure_topics settings [] willing).2 ∧
    deadletter_topic settings ∈ (ensure_topics settings [] willing).2 ∧
    ∃ created, (ensure_topics settings [] willing).2 = [] ++ created ∧
      ∀ topic ∈ created, topic ∉ ([] : List String) ∧
        ((∃ event_type, topic_for_event settings.toKafkaConfig event_type = topic) ∨
          topic = retry_topic settings ∨ topic = deadletter_topic settings) :=
  topics_ready (setup_willing [])

end eventbus

namespace workers

open eventbus state

/-- The workers that `spawn` starts, with the topic that each consumes. -/
def spawn (kafka : config.KafkaConfig) : List (String × String) := [
  ("raw-inbound", topic_for_event kafka "whatsapp.raw.inbound"),
  ("outbound-send", topic_for_event kafka "outbound.send.requested"),
  ("audio-transcription", topic_for_event kafka "audio.transcription.requested")]

/-- An event whose processing does something is consumed by one worker and no other. -/
theorem processed_by_one_worker (kafka : config.KafkaConfig) {self : AppState} {inner : StoreInner}
    {answers : HandlerAnswers} {event : CommonEvent}
    (hdoes : process_event self inner answers event ≠ (.ok (), inner)) :
    ∃ worker, (spawn kafka).filter (fun worker => worker.2 = topic_for_event kafka event.event_type) = [worker] := by
  have htopics : ∀ topic_suffix topic_suffix' : String, topic_suffix ≠ topic_suffix' →
      kafka.topic_prefix ++ "." ++ topic_suffix ≠ kafka.topic_prefix ++ "." ++ topic_suffix' :=
    fun _ _ hne heq => hne (topic_name_inj heq)
  have hraw : topic_for_event kafka "whatsapp.raw.inbound" = kafka.topic_prefix ++ "." ++ "raw.inbound" := rfl
  have hsend : topic_for_event kafka "outbound.send.requested" =
      kafka.topic_prefix ++ "." ++ "outbound.send.requested" := rfl
  have haudio : topic_for_event kafka "audio.transcription.requested" =
      kafka.topic_prefix ++ "." ++ "audio.transcription.requested" := rfl
  rw [spawn, hraw, hsend, haudio]
  unfold process_event at hdoes
  split at hdoes
  · next htype =>
    rw [htype, hraw]
    exact ⟨("raw-inbound", kafka.topic_prefix ++ "." ++ "raw.inbound"), by simp [htopics]⟩
  · split at hdoes
    · next htype =>
      rw [htype, hsend]
      exact ⟨("outbound-send", kafka.topic_prefix ++ "." ++ "outbound.send.requested"), by simp [htopics]⟩
    · split at hdoes
      · next htype =>
        rw [htype, haudio]
        exact ⟨("audio-transcription", kafka.topic_prefix ++ "." ++ "audio.transcription.requested"),
          by simp [htopics]⟩
      · exact absurd rfl hdoes

end workers

end rustzap
