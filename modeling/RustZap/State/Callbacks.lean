import RustZap.Secrets
import RustZap.State.Maintenance

open collections serde_json
open rustzap.error rustzap.models rustzap.secrets

namespace rustzap.config

inductive ConsumerSignalMode where
  | Polling
  | Websocket
  | Webhook
  | Kafka
  | WebsocketAndPolling
  | WebhookAndPolling
  deriving DecidableEq

structure WebhookConfig where
  delivery_enabled : Bool
  timeout_seconds : Nat
  max_batch_size : Nat
  max_retries : Nat
  max_retries_u32 : max_retries < 2 ^ 32
  retry_base_seconds : Nat
  retry_max_seconds : Nat

end rustzap.config

namespace rustzap.state

/-- An IP address as its octets or its segments. -/
inductive IpAddr where
  | V4 (a b c d : UInt8)
  | V6 (segments : Fin 8 → UInt16)

structure Url where
  scheme : String
  host_str : Option String

/-- The service with the settings and the crates that callbacks and webhooks need: the
ciphers, the parsers of URLs and addresses, the JSON serializer and the HMAC. -/
structure WebhookService where
  app : AppState
  webhook : config.WebhookConfig
  consumer_signal_mode : config.ConsumerSignalMode
  secret_master_key : Option SecretMasterKey
  crates : Crates
  parse_url : String → Except String Url
  parse_ip : String → Option IpAddr
  to_vec : Value → List UInt8
  hmac_sha256_hex : List UInt8 → List UInt8 → String

def callback_host_is_localhost (host : String) : Bool :=
  let normalized := str.to_ascii_lowercase (str.trim_end_matches host '.')
  normalized = "localhost" || str.ends_with normalized ".localhost"

def callback_ip_is_disallowed (dev_mode : Bool) : IpAddr → Bool
  | .V4 a b c d =>
    (a, b, c, d) = (0, 0, 0, 0) || (a, b, c, d) = (255, 255, 255, 255) || (224 ≤ a && a ≤ 239) ||
      (!dev_mode && (a = 127 || (a = 10 || (a = 172 && 16 ≤ b && b ≤ 31) || (a = 192 && b = 168)) ||
        (a = 169 && b = 254)))
  | .V6 segments =>
    let unique_local := segments 0 &&& 0xfe00 = 0xfc00
    let link_local := segments 0 &&& 0xffc0 = 0xfe80
    (∀ i, segments i = 0) || segments 0 &&& 0xff00 = 0xff00 ||
      (!dev_mode && ((∀ i, segments i = if i = 7 then 1 else 0) || unique_local || link_local))

namespace IpAddr

/-- 0.0.0.0, and ::. -/
def IsUnspecified : IpAddr → Prop
  | V4 a b c d => a = 0 ∧ b = 0 ∧ c = 0 ∧ d = 0
  | V6 segments => ∀ i, segments i = 0

/-- 127.0.0.0/8, and ::1. -/
def IsLoopback : IpAddr → Prop
  | V4 a _ _ _ => a = 127
  | V6 segments => ∀ i, segments i = if i = 7 then 1 else 0

/-- 10.0.0.0/8, 172.16.0.0/12 and 192.168.0.0/16, or the unique local fc00::/7. -/
def IsPrivate : IpAddr → Prop
  | V4 a b _ _ => a = 10 ∨ a = 172 ∧ b.toNat / 16 = 1 ∨ a = 192 ∧ b = 168
  | V6 segments => (segments 0).toNat / 512 = 0x7e

/-- 169.254.0.0/16, and fe80::/10. -/
def IsLinkLocal : IpAddr → Prop
  | V4 a b _ _ => a = 169 ∧ b = 254
  | V6 segments => (segments 0).toNat / 64 = 0x3fa

/-- 224.0.0.0/4, and ff00::/8. -/
def IsMulticast : IpAddr → Prop
  | V4 a _ _ _ => a.toNat / 16 = 14
  | V6 segments => (segments 0).toNat / 256 = 0xff

/-- The addresses that callbacks must not go to. -/
def IsInternal (ip : IpAddr) (dev_mode : Bool) : Prop :=
  ip.IsUnspecified ∨ ip.IsMulticast ∨
    dev_mode = false ∧ (ip.IsLoopback ∨ ip.IsPrivate ∨ ip.IsLinkLocal)

end IpAddr

def callback_belongs_to_company (callback : Value) (project_id company_id : String) : Bool :=
  callback.get_str "project_id" = some project_id && callback.get_str "company_id" = some company_id

def sanitize_callback (callback : Value) : Value :=
  (callback.remove "secret").remove "encrypted_secret"

namespace WebhookService

variable (self : WebhookService)

def validate_callback_url (url : String) : ApiResult Unit :=
  let dev_mode := self.app.config.dev_mode
  match self.parse_url url with
  | .error err => .error (.BadRequest ("invalid callback url: " ++ err))
  | .ok parsed =>
    if parsed.scheme ≠ "https" ∧ ¬ (parsed.scheme = "http" ∧ dev_mode) then
      if parsed.scheme = "http" then .error (.BadRequest "callback url must use https outside dev mode")
      else .error (.BadRequest "callback url scheme must be https")
    else match parsed.host_str with
      | none => .error (.BadRequest "callback url must include a host")
      | some host =>
        if callback_host_is_localhost host && !dev_mode then
          .error (.BadRequest "callback url host is not allowed outside dev mode")
        else if (self.parse_ip host).any (callback_ip_is_disallowed dev_mode) then
          .error (.BadRequest "callback url host is not allowed outside dev mode")
        else .ok ()

def webhook_signal_enabled : Bool :=
  match self.consumer_signal_mode with
  | .Webhook | .WebhookAndPolling => true
  | _ => false

def encrypt_callback_secret (nonce : Option Nonce) (secret : String) : ApiResult String :=
  match self.secret_master_key with
  | none => .error (.BadRequest "RUSTZAP_SECRET_MASTER_KEY is required to store webhook secrets")
  | some key => (encrypt_secret self.crates key nonce secret).mapError fun err =>
      .Internal ("failed to encrypt webhook secret: " ++ err.to_string)

def decrypt_callback_secret (encrypted_secret : String) : ApiResult String :=
  match self.secret_master_key with
  | none => .error (.Internal "RUSTZAP_SECRET_MASTER_KEY is required to deliver webhook secrets")
  | some key => (decrypt_secret self.crates key encrypted_secret).mapError fun err =>
      .Internal ("failed to decrypt webhook secret: " ++ err.to_string)

/-- The four sources of a callback's secret, the first of which that there is: a new one,
the stored envelope, the stored plaintext of old, and a generated one. -/
def callback_encrypted_secret (nonce : Option Nonce) (generated : String) (existing : Option Value)
    (body : Value) : ApiResult (Option String) :=
  match body.get_str "secret" with
  | some secret => (self.encrypt_callback_secret nonce secret).map some
  | none =>
    match existing.bind fun callback => callback.get_str "encrypted_secret" with
    | some existing_secret => .ok (some existing_secret)
    | none =>
      match existing.bind fun callback => callback.get_str "secret" with
      | some legacy_secret => (self.encrypt_callback_secret nonce legacy_secret).map some
      | none =>
        if self.secret_master_key.isSome then (self.encrypt_callback_secret nonce generated).map some
        else if self.webhook.delivery_enabled && self.webhook_signal_enabled then
          .error (.BadRequest "RUSTZAP_SECRET_MASTER_KEY is required for webhook delivery secrets")
        else .ok none

/-- The callback that an accepted request stores. -/
def callback_value (now : OffsetDateTime) (project_id company_id callback_id callback_url : String)
    (encrypted_secret : Option String) (created_at : String) (body : Value) : Value :=
  .object [("id", .string callback_id), ("project_id", .string project_id), ("company_id", .string company_id),
    ("url", .string callback_url), ("encrypted_secret", Value.of_option encrypted_secret),
    ("enabled", .bool (((body.get "enabled").bind Value.as_bool).getD true)),
    ("events", (body.get "events").getD (.array [.string "conversation.dirty"])),
    ("max_batch_size", .number (((body.get "max_batch_size").bind Value.as_u64).getD self.webhook.max_batch_size)),
    ("timeout_seconds", .number (((body.get "timeout_seconds").bind Value.as_u64).getD
      self.webhook.timeout_seconds)),
    ("created_at", .string created_at), ("updated_at", .string (self.app.host.ts now))]

def upsert_callback (ctx : Ctx) (nonce : Option Nonce) (inner : StoreInner) (project_id company_id : String)
    (callback_id : Option String) (body : Value) : ApiResult Value × StoreInner :=
  let callback_id := callback_id.getD ("callback_" ++ ctx.uuid 0)
  let existing := inner.callbacks.lookup callback_id
  if existing.any fun callback => !callback_belongs_to_company callback project_id company_id then
    (.error (.NotFound ("callback " ++ callback_id ++ " not found")), inner)
  else
    let created_at := (existing.bind fun callback => callback.get_str "created_at").getD
      (self.app.host.ts ctx.now)
    let callback_url := ((body.get_str "url").or (existing.bind fun callback => callback.get_str "url")).getD
      "http://localhost:3000/webhook"
    match self.validate_callback_url callback_url with
    | .error err => (.error err, inner)
    | .ok _ =>
      match self.callback_encrypted_secret nonce ("whsec_" ++ ctx.uuid 1) existing body with
      | .error err => (.error err, inner)
      | .ok encrypted_secret =>
        let callback := self.callback_value ctx.now project_id company_id callback_id callback_url
          encrypted_secret created_at body
        let inner := { inner with callbacks := inner.callbacks.insert callback_id callback }
        (.ok (sanitize_callback callback), audit_log self.app ctx 2 inner project_id company_id
          "callback.upsert" "consumer_callback" (some callback_id)
          (.object [("enabled", (callback.get "enabled").getD .null)]))

/-- One callback of the upgrade. An encryption that fails is logged, and the callback
stays as it is. -/
def upgrade_callback (key : SecretMasterKey) (nonce : Option Nonce) (callback : Value) : Value :=
  if (callback.get_str "encrypted_secret").isSome then callback.remove "secret"
  else match callback.get_str "secret" with
    | none => callback
    | some legacy_secret =>
      match encrypt_secret self.crates key nonce legacy_secret with
      | .ok encrypted_secret =>
        (callback.insert "encrypted_secret" (.string encrypted_secret)).remove "secret"
      | .error _ => callback

/-- The upgrade at the start of the service; every callback gets a nonce of its own. -/
def upgrade_legacy_callback_secrets (nonces : String → Option Nonce) (inner : StoreInner) : StoreInner :=
  match self.secret_master_key with
  | none => inner
  | some key => { inner with
      callbacks := inner.callbacks.map_values fun id callback => self.upgrade_callback key (nonces id) callback }

def delete_callback (ctx : Ctx) (inner : StoreInner) (project_id company_id callback_id : String) :
    ApiResult Value × StoreInner :=
  let not_found := ApiError.NotFound ("callback " ++ callback_id ++ " not found")
  match inner.callbacks.lookup callback_id with
  | none => (.error not_found, inner)
  | some callback =>
    if !callback_belongs_to_company callback project_id company_id then (.error not_found, inner)
    else
      let inner := { inner with callbacks := inner.callbacks.erase callback_id }
      (.ok (.object [("deleted", .bool true), ("callback", sanitize_callback callback)]),
        audit_log self.app ctx 0 inner project_id company_id "callback.delete" "consumer_callback"
          (some callback_id) (.object [("deleted", .bool true)]))

end WebhookService

section Upsert

variable (self : WebhookService) (ctx : Ctx) (inner : StoreInner) (project_id company_id : String)

/-- A request is refused, and changes nothing, or it stores a callback with the secret
that was chosen for it. -/
theorem upsert_callback_cases (nonce : Option Nonce) (callback_id : Option String) (body : Value) :
    (∃ err, self.upsert_callback ctx nonce inner project_id company_id callback_id body = (.error err, inner)) ∨
    ∃ callback_url encrypted_secret created_at audit_logs answer,
      let id := callback_id.getD ("callback_" ++ ctx.uuid 0)
      (∀ callback, inner.callbacks.lookup id = some callback →
        callback_belongs_to_company callback project_id company_id = true) ∧
      self.callback_encrypted_secret nonce ("whsec_" ++ ctx.uuid 1) (inner.callbacks.lookup id) body =
        .ok encrypted_secret ∧
      self.upsert_callback ctx nonce inner project_id company_id callback_id body = (.ok answer, { inner with
        audit_logs
        callbacks := inner.callbacks.insert id (self.callback_value ctx.now project_id company_id id callback_url
          encrypted_secret created_at body) }) := by
  unfold WebhookService.upsert_callback
  dsimp only
  split
  · exact Or.inl ⟨_, rfl⟩
  · next howner =>
    split
    · exact Or.inl ⟨_, rfl⟩
    · split
      · exact Or.inl ⟨_, rfl⟩
      · next encrypted_secret hsecret =>
        refine Or.inr ⟨_, encrypted_secret, _, _, _, ?_, hsecret, rfl⟩
        intro callback hcallback
        rw [hcallback, Option.any_some, Bool.not_eq_true, Bool.not_eq_false'] at howner
        exact howner

theorem delete_callback_cases (callback_id : String) :
    (∃ err, self.delete_callback ctx inner project_id company_id callback_id = (.error err, inner)) ∨
    ∃ audit_logs answer, self.delete_callback ctx inner project_id company_id callback_id =
      (.ok answer, { inner with audit_logs, callbacks := inner.callbacks.erase callback_id }) := by
  unfold WebhookService.delete_callback
  dsimp only
  split
  · exact Or.inl ⟨_, rfl⟩
  · split
    · exact Or.inl ⟨_, rfl⟩
    · exact Or.inr ⟨_, _, rfl⟩

end Upsert

end rustzap.state
