import RustZap.Webhooks.SigningSecrets

open collections serde_json
open rustzap.error rustzap.models rustzap.secrets

namespace rustzap.state

/-- The settings of a callback that a request may leave out. -/
def callback_settings : List String :=
  ["url", "enabled", "events", "max_batch_size", "timeout_seconds", "created_at"]

namespace WebhookService

variable (service : WebhookService)

/-- The envelope is the same, or a plaintext of old has been put into one. A callback
without a secret gets none. -/
def KeepsSecret (stored updated : Value) : Prop :=
  match stored.get_str "encrypted_secret", stored.get_str "secret" with
  | some envelope, _ => updated.get_str "encrypted_secret" = some envelope
  | none, some secret => service.Holds updated (some secret)
  | none, none => updated.get_str "encrypted_secret" = none ∧ updated.get_str "secret" = none

/-- What the body does not mention is as it was stored. -/
structure UpdatesAsPatch (stored updated body : Value) : Prop where
  settings : ∀ field ∈ callback_settings, body.get field = none → updated.get field = stored.get field
  secret : body.get "secret" = none → service.KeepsSecret stored updated
  not_enabled : body.get "enabled" = none → stored.get "enabled" = some (.bool false) →
    updated.get "enabled" = some (.bool false)
  subscription : body.get "events" = none → ∀ event_type,
    callback_subscribes_to_event updated event_type = callback_subscribes_to_event stored event_type

/-- The settings that the body leaves out are the defaults already, where these are put in
their place, and there is something to keep of the others. -/
structure LeavesOutDefaults (stored body : Value) : Prop where
  url : body.get "url" = none → (stored.get_str "url").isSome
  enabled : body.get "enabled" = none → stored.get "enabled" = some (.bool true)
  events : body.get "events" = none → stored.get "events" = some (.array [.string "conversation.dirty"])
  max_batch_size : body.get "max_batch_size" = none →
    stored.get "max_batch_size" = some (.number service.webhook.max_batch_size)
  timeout_seconds : body.get "timeout_seconds" = none →
    stored.get "timeout_seconds" = some (.number service.webhook.timeout_seconds)
  created_at : body.get "created_at" = none → (stored.get_str "created_at").isSome
  secret : body.get "secret" = none →
    (stored.get_str "encrypted_secret").isSome ∨ (stored.get_str "secret").isSome ∨
      service.secret_master_key = none

end WebhookService

section Update

variable (service : WebhookService) (ctx : Ctx) (nonce : Option Nonce) (inner : StoreInner)
  (project_id company_id callback_id : String)

/-- The callback that a successful update stores. -/
theorem upsert_callback_stores {stored body answer updated : Value} {inner' : StoreInner}
    (hstored : inner.callbacks.lookup callback_id = some stored)
    (hok : service.upsert_callback ctx nonce inner project_id company_id (some callback_id) body =
      (.ok answer, inner'))
    (hupdated : inner'.callbacks.lookup callback_id = some updated) :
    ∃ encrypted_secret,
      service.callback_encrypted_secret nonce ("whsec_" ++ ctx.uuid 1) (some stored) body =
        .ok encrypted_secret ∧
      updated = service.callback_value ctx.now project_id company_id callback_id
        (((body.get_str "url").or (stored.get_str "url")).getD "http://localhost:3000/webhook")
        encrypted_secret ((stored.get_str "created_at").getD (service.app.host.ts ctx.now)) body := by
  unfold WebhookService.upsert_callback at hok
  dsimp only at hok
  rw [Option.getD_some, hstored] at hok
  split at hok
  · cases hok
  · split at hok
    · cases hok
    · split at hok
      · cases hok
      · next encrypted_secret hsecret =>
        cases hok
        refine ⟨encrypted_secret, hsecret, ?_⟩
        change ((inner.callbacks.insert callback_id _).lookup callback_id) = some updated at hupdated
        rw [AList.lookup_insert] at hupdated
        exact (Option.some.inj hupdated).symm

end Update

theorem get_of_get_str {value : Value} {key text : String} (h : value.get_str key = some text) :
    value.get key = some (.string text) := by
  obtain ⟨field, hfield, htext⟩ := Option.bind_eq_some_iff.mp h
  cases field with
  | string stored =>
    cases htext
    exact hfield
  | _ => cases htext

section Secret

variable {service : WebhookService} {nonce : Option Nonce} {now : OffsetDateTime}
  {project_id company_id callback_id callback_url generated created_at : String} {stored body : Value}
  {encrypted_secret : Option String}

theorem map_some_eq_ok {encrypted : ApiResult String} (h : encrypted.map some = .ok encrypted_secret) :
    ∃ envelope, encrypted = .ok envelope ∧ encrypted_secret = some envelope := by
  cases encrypted with
  | error err => cases h
  | ok envelope =>
    cases h
    exact ⟨envelope, rfl, rfl⟩

/-- A body without a secret brings a new one exactly where there is a key to encrypt it
with and no secret to keep. -/
theorem keeps_secret_iff (hcrates : service.crates.Sound) (hnone : body.get "secret" = none)
    (hsecret : service.callback_encrypted_secret nonce generated (some stored) body = .ok encrypted_secret) :
    service.KeepsSecret stored (service.callback_value now project_id company_id callback_id callback_url
        encrypted_secret created_at body) ↔
      (stored.get_str "encrypted_secret").isSome ∨ (stored.get_str "secret").isSome ∨
        service.secret_master_key = none := by
  have hunsupplied : body.get_str "secret" = none := by rw [Value.get_str, hnone]; rfl
  have henvelope : (service.callback_value now project_id company_id callback_id callback_url encrypted_secret
      created_at body).get_str "encrypted_secret" = encrypted_secret := by cases encrypted_secret <;> rfl
  have hplain : (service.callback_value now project_id company_id callback_id callback_url encrypted_secret
      created_at body).get_str "secret" = none := rfl
  rw [WebhookService.callback_encrypted_secret, hunsupplied] at hsecret
  dsimp only [Option.bind_some] at hsecret
  rw [WebhookService.KeepsSecret]
  cases hstored : stored.get_str "encrypted_secret" with
  | some envelope =>
    rw [hstored] at hsecret
    cases hsecret
    simp [henvelope]
  | none =>
    rw [hstored] at hsecret
    cases hlegacy : stored.get_str "secret" with
    | some legacy_secret =>
      rw [hlegacy] at hsecret
      obtain ⟨envelope, hencrypted, rfl⟩ := map_some_eq_ok hsecret
      cases hkey : service.secret_master_key with
      | none =>
        rw [WebhookService.encrypt_callback_secret, hkey] at hencrypted
        cases hencrypted
      | some key =>
        have hdecrypted := WebhookService.decrypt_written hkey hcrates
          (WebhookService.encrypt_callback_secret_ok hkey hencrypted)
        have hholds : service.Holds (service.callback_value now project_id company_id callback_id
            callback_url (some envelope) created_at body) (some legacy_secret) := by
          rw [WebhookService.Holds, henvelope]
          exact ⟨legacy_secret, rfl, hdecrypted⟩
        simp [hholds]
    | none =>
      rw [hlegacy] at hsecret
      dsimp only at hsecret
      rw [henvelope, hplain]
      cases hkey : service.secret_master_key with
      | some key =>
        rw [hkey, Option.isSome_some, if_pos rfl] at hsecret
        obtain ⟨envelope, -, rfl⟩ := map_some_eq_ok hsecret
        simp
      | none =>
        rw [hkey, Option.isSome_none, if_neg Bool.false_ne_true] at hsecret
        split at hsecret
        · cases hsecret
        · cases hsecret
          simp

end Secret

/-- An update works as a patch exactly where the settings that it leaves out are the
defaults: these are what it stores for them. -/
theorem callback_update_is_patch_iff {service : WebhookService} (hcrates : service.crates.Sound) {ctx : Ctx}
    {nonce : Option Nonce} {inner inner' : StoreInner} {project_id company_id callback_id : String}
    {stored body answer updated : Value} (hstored : inner.callbacks.lookup callback_id = some stored)
    (hok : service.upsert_callback ctx nonce inner project_id company_id (some callback_id) body =
      (.ok answer, inner'))
    (hupdated : inner'.callbacks.lookup callback_id = some updated) :
    service.UpdatesAsPatch stored updated body ↔ service.LeavesOutDefaults stored body := by
  obtain ⟨encrypted_secret, hsecret, rfl⟩ := upsert_callback_stores service ctx nonce inner project_id
    company_id callback_id hstored hok hupdated
  constructor
  · intro hpatch
    have hkept : ∀ field ∈ callback_settings, body.get field = none → stored.get field = _ :=
      fun field hfield hnone => (hpatch.settings field hfield hnone).symm
    refine ⟨fun hnone => ?_, fun hnone => ?_, fun hnone => ?_, fun hnone => ?_, fun hnone => ?_,
      fun hnone => ?_, fun hnone => ?_⟩
    · rw [Value.get_str, hkept "url" (by decide) hnone]
      rfl
    · rw [hkept "enabled" (by decide) hnone]
      change some (Value.bool (((body.get "enabled").bind Value.as_bool).getD true)) = _
      rw [hnone]
      rfl
    · rw [hkept "events" (by decide) hnone]
      change some ((body.get "events").getD _) = _
      rw [hnone]
      rfl
    · rw [hkept "max_batch_size" (by decide) hnone]
      change some (Value.number (((body.get "max_batch_size").bind Value.as_u64).getD _ : Nat)) = _
      rw [hnone]
      rfl
    · rw [hkept "timeout_seconds" (by decide) hnone]
      change some (Value.number (((body.get "timeout_seconds").bind Value.as_u64).getD _ : Nat)) = _
      rw [hnone]
      rfl
    · rw [Value.get_str, hkept "created_at" (by decide) hnone]
      rfl
    · exact (keeps_secret_iff hcrates hnone hsecret).mp (hpatch.secret hnone)
  · intro hdefaults
    have hkept : ∀ field ∈ callback_settings, body.get field = none →
        (service.callback_value ctx.now project_id company_id callback_id
          (((body.get_str "url").or (stored.get_str "url")).getD "http://localhost:3000/webhook")
          encrypted_secret ((stored.get_str "created_at").getD (service.app.host.ts ctx.now)) body).get field =
            stored.get field := by
      simp only [callback_settings, List.forall_mem_cons, List.not_mem_nil, false_imp_iff, implies_true,
        and_true]
      refine ⟨fun hnone => ?_, fun hnone => ?_, fun hnone => ?_, fun hnone => ?_, fun hnone => ?_,
        fun hnone => ?_⟩
      · obtain ⟨url, hurl⟩ := Option.isSome_iff_exists.mp (hdefaults.url hnone)
        rw [get_of_get_str hurl, hurl, Value.get_str, hnone]
        rfl
      · rw [hdefaults.enabled hnone]
        change some (Value.bool (((body.get "enabled").bind Value.as_bool).getD true)) = _
        rw [hnone]
        rfl
      · rw [hdefaults.events hnone]
        change some ((body.get "events").getD _) = _
        rw [hnone]
        rfl
      · rw [hdefaults.max_batch_size hnone]
        change some (Value.number (((body.get "max_batch_size").bind Value.as_u64).getD _ : Nat)) = _
        rw [hnone]
        rfl
      · rw [hdefaults.timeout_seconds hnone]
        change some (Value.number (((body.get "timeout_seconds").bind Value.as_u64).getD _ : Nat)) = _
        rw [hnone]
        rfl
      · obtain ⟨created_at, hcreated⟩ := Option.isSome_iff_exists.mp (hdefaults.created_at hnone)
        rw [get_of_get_str hcreated, hcreated]
        rfl
    refine ⟨hkept, fun hnone => (keeps_secret_iff hcrates hnone hsecret).mpr (hdefaults.secret hnone),
      fun hnone hdisabled => ?_, fun hnone event_type => ?_⟩
    · rw [hkept "enabled" (by decide) hnone, hdisabled]
    · rw [callback_subscribes_to_event, callback_subscribes_to_event, hkept "events" (by decide) hnone]

namespace sample

/-- A request that only moves a callback to another address. -/
def new_url : Value :=
  .object [("url", .string "https://consumer.example.com/rustzap/v2/webhook")]

/-- A callback as the service stores it, with the default settings or others. -/
def stored_callback (enabled : Bool) (events : List Value) : Value :=
  webhook_service.callback_value (Duration.seconds 1) "acme" "company_a" "callback_a0"
    "https://consumer.example.com/rustzap/webhook" (some "v1:AAECAwQFBgcICQoL:WoDZ") "1970-01-01T00:00:01Z"
    (.object [("enabled", .bool enabled), ("events", .array events)])

def with_callback (callback : Value) : StoreInner where
  callbacks := (∅ : HashMap String Value).insert "callback_a0" callback

def updated_callback (callback : Value) : ApiResult Value × StoreInner :=
  webhook_service.upsert_callback (ctx 2 "u") none (with_callback callback) "acme" "company_a"
    (some "callback_a0") new_url

/-- The request is accepted. -/
theorem update_accepted (enabled : Bool) (events : List Value) : ∃ answer updated,
    updated_callback (stored_callback enabled events) =
      (.ok answer, (updated_callback (stored_callback enabled events)).2) ∧
    (updated_callback (stored_callback enabled events)).2.callbacks.lookup "callback_a0" = some updated :=
  ⟨_, _, rfl, rfl⟩

end sample

/-- A callback with the default settings keeps them when its address changes. -/
theorem default_callback_patched : ∃ answer updated,
    sample.updated_callback (sample.stored_callback true [.string "conversation.dirty"]) =
      (.ok answer, (sample.updated_callback (sample.stored_callback true [.string "conversation.dirty"])).2) ∧
    sample.webhook_service.UpdatesAsPatch (sample.stored_callback true [.string "conversation.dirty"]) updated
      sample.new_url := by
  obtain ⟨answer, updated, hok, hupdated⟩ := sample.update_accepted true [.string "conversation.dirty"]
  have hstored : (sample.with_callback (sample.stored_callback true [.string "conversation.dirty"])).callbacks.lookup
      "callback_a0" = some (sample.stored_callback true [.string "conversation.dirty"]) := rfl
  refine ⟨answer, updated, hok, (callback_update_is_patch_iff sample.crates_sound hstored hok hupdated).mpr ?_⟩
  exact ⟨nofun, fun _ => rfl, fun _ => rfl, fun _ => rfl, fun _ => rfl, fun _ => rfl, fun _ => Or.inl rfl⟩

/-- A new address enables a disabled callback again, and puts its events back to the default. -/
theorem new_url_enables_callback :
    ¬ ∀ (service : WebhookService) (ctx : Ctx) (nonce : Option Nonce) (inner inner' : StoreInner)
      (project_id company_id callback_id : String) (stored body answer updated : Value),
      service.crates.Sound → inner.callbacks.lookup callback_id = some stored →
      service.upsert_callback ctx nonce inner project_id company_id (some callback_id) body =
        (.ok answer, inner') →
      inner'.callbacks.lookup callback_id = some updated → service.UpdatesAsPatch stored updated body := by
  intro hclaim
  obtain ⟨answer, updated, hok, hupdated⟩ := sample.update_accepted false [.string "message.received"]
  have hstored : (sample.with_callback (sample.stored_callback false [.string "message.received"])).callbacks.lookup
      "callback_a0" = some (sample.stored_callback false [.string "message.received"]) := rfl
  have henabled : ((sample.updated_callback (sample.stored_callback false
      [.string "message.received"])).2.callbacks.lookup "callback_a0").bind
        (fun callback => (callback.get "enabled").bind Value.as_bool) = some true := rfl
  have hpatch := hclaim _ _ _ _ _ _ _ _ _ _ _ _ sample.crates_sound hstored hok hupdated
  rw [hupdated, Option.bind_some, hpatch.not_enabled rfl rfl] at henabled
  cases henabled

end rustzap.state
