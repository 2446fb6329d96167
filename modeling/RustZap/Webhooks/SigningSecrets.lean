import RustZap.State.Lifecycle
import RustZap.Webhooks.Discipline

open collections serde_json runs
open rustzap.error rustzap.models rustzap.secrets

namespace rustzap.state

/-- The store, and beside it the secret that each callback is to be signed with: the last
that was supplied, or the one it was loaded with, or the one generated for it. -/
structure SecretState where
  inner : StoreInner
  secrets : String → Option String

inductive SecretLabel where
  | upsert_callback (ctx : Ctx) (nonce : Option Nonce) (project_id company_id : String)
      (callback_id : Option String) (body : Value)
  | upgrade (nonces : String → Option Nonce)
  | restart (nonces : String → Option Nonce)

/-- The secret of a callback once a request for it has been accepted. -/
def supplied_secret (current : Option String) (generated : String) (body : Value) : Option String :=
  (body.get_str "secret").or (current.or (some generated))

/-- No stored callback has a secret in plaintext. -/
def NoPlaintext (inner : StoreInner) : Prop :=
  ∀ id callback, inner.callbacks.lookup id = some callback → callback.get_str "secret" = none

namespace WebhookService

/-- One step: a request that sets a callback, the upgrade of the secrets of old, and a
restart, which upgrades what it has restored. -/
def secret_step (service : WebhookService) (state : SecretState) : SecretLabel → SecretState
  | .upsert_callback ctx nonce project_id company_id callback_id body =>
    let id := callback_id.getD ("callback_" ++ ctx.uuid 0)
    match service.upsert_callback ctx nonce state.inner project_id company_id callback_id body with
    | (.error _, inner) => { state with inner }
    | (.ok _, inner) => {
        inner
        secrets := Function.update state.secrets id
          (supplied_secret (state.secrets id) ("whsec_" ++ ctx.uuid 1) body) }
  | .upgrade nonces => { state with inner := service.upgrade_legacy_callback_secrets nonces state.inner }
  | .restart nonces =>
    { state with inner := service.upgrade_legacy_callback_secrets nonces (restarted state.inner) }

/-- The stored callback has the secret: in an envelope that decrypts to it, or, where it has
none, as the plaintext of old. -/
def Holds (service : WebhookService) (callback : Value) (secret : Option String) : Prop :=
  match callback.get_str "encrypted_secret" with
  | some envelope => ∃ plaintext, secret = some plaintext ∧ service.decrypt_callback_secret envelope = .ok plaintext
  | none => secret = callback.get_str "secret"

/-- Every stored callback has its secret, and there are secrets for no others. -/
def AllHold (service : WebhookService) (state : SecretState) : Prop :=
  ∀ id, match state.inner.callbacks.lookup id with
    | some callback => service.Holds callback (state.secrets id)
    | none => state.secrets id = none

/-- A callback of old once its plaintext has been put into an envelope. -/
theorem get_str_upgraded {callback : Value} {legacy_secret envelope : String}
    (hlegacy : callback.get_str "secret" = some legacy_secret) :
    ((callback.insert "encrypted_secret" (.string envelope)).remove "secret").get_str "encrypted_secret" =
      some envelope := by
  rw [Value.get_str, Value.get_remove_ne _ (by decide)]
  cases callback with
  | object fields => rw [Value.get_insert_same]; rfl
  | _ => cases hlegacy

section Secrets

variable {service : WebhookService} {key : SecretMasterKey} (hkey : service.secret_master_key = some key)
  (hcrates : service.crates.Sound)
include hkey

theorem encrypt_callback_secret_ok {nonce : Option Nonce} {secret envelope : String}
    (hencrypted : service.encrypt_callback_secret nonce secret = .ok envelope) :
    encrypt_secret service.crates key nonce secret = .ok envelope := by
  rw [encrypt_callback_secret, hkey] at hencrypted
  dsimp only at hencrypted
  cases hresult : encrypt_secret service.crates key nonce secret with
  | error err =>
    rw [hresult] at hencrypted
    cases hencrypted
  | ok written =>
    rw [hresult] at hencrypted
    cases hencrypted
    rfl

include hcrates

/-- A secret that was encrypted under the key is decrypted again. -/
theorem decrypt_written {nonce : Option Nonce} {secret envelope : String}
    (hencrypted : encrypt_secret service.crates key nonce secret = .ok envelope) :
    service.decrypt_callback_secret envelope = .ok secret := by
  rw [decrypt_callback_secret, hkey]
  dsimp only
  rw [decrypt_encrypt_secret hcrates hencrypted]
  rfl

/-- Whichever of its four sources it comes from, the stored secret is the one that the
callback is to have. -/
theorem callback_encrypted_secret_holds {nonce : Option Nonce} {generated : String} {existing : Option Value}
    {body : Value} {encrypted_secret current : Option String}
    (hcurrent : match existing with
      | some callback => service.Holds callback current
      | none => current = none)
    (hencrypted : service.callback_encrypted_secret nonce generated existing body = .ok encrypted_secret) :
    ∃ envelope secret, encrypted_secret = some envelope ∧ supplied_secret current generated body = some secret ∧
      service.decrypt_callback_secret envelope = .ok secret := by
  have hwritten : ∀ secret, (service.encrypt_callback_secret nonce secret).map some = .ok encrypted_secret →
      ∃ envelope, encrypted_secret = some envelope ∧ service.decrypt_callback_secret envelope = .ok secret := by
    intro secret hmap
    cases hresult : service.encrypt_callback_secret nonce secret with
    | error err =>
      rw [hresult] at hmap
      cases hmap
    | ok envelope =>
      rw [hresult] at hmap
      cases hmap
      exact ⟨envelope, rfl, decrypt_written hkey hcrates (encrypt_callback_secret_ok hkey hresult)⟩
  unfold callback_encrypted_secret at hencrypted
  unfold supplied_secret
  split at hencrypted
  · next secret hsecret =>
    obtain ⟨envelope, heq, hdecrypted⟩ := hwritten secret hencrypted
    exact ⟨envelope, secret, heq, by rw [hsecret, Option.some_or], hdecrypted⟩
  · next hsecret =>
    rw [hsecret, Option.none_or]
    split at hencrypted
    · next envelope henvelope =>
      cases hencrypted
      cases existing with
      | none => cases henvelope
      | some callback =>
        rw [Option.bind_some] at henvelope
        dsimp only [Holds] at hcurrent
        rw [henvelope] at hcurrent
        obtain ⟨secret, hsome, hdecrypted⟩ := hcurrent
        exact ⟨envelope, secret, rfl, by rw [hsome, Option.some_or], hdecrypted⟩
    · next hnone =>
      have hlegacy : current = existing.bind fun callback => callback.get_str "secret" := by
        cases existing with
        | none => exact hcurrent
        | some callback =>
          rw [Option.bind_some] at hnone
          dsimp only [Holds] at hcurrent
          rw [hnone] at hcurrent
          exact hcurrent
      rw [← hlegacy] at hencrypted
      split at hencrypted
      · next legacy_secret =>
        obtain ⟨envelope, heq, hdecrypted⟩ := hwritten legacy_secret hencrypted
        exact ⟨envelope, legacy_secret, heq, rfl, hdecrypted⟩
      · rw [hkey, Option.isSome_some, if_pos rfl] at hencrypted
        obtain ⟨envelope, heq, hdecrypted⟩ := hwritten generated hencrypted
        exact ⟨envelope, generated, heq, rfl, hdecrypted⟩

/-- The upgrade of a callback leaves its secret what it was. -/
theorem upgrade_callback_holds (nonce : Option Nonce) {callback : Value} {secret : Option String}
    (hholds : service.Holds callback secret) :
    service.Holds (service.upgrade_callback key nonce callback) secret := by
  unfold upgrade_callback
  split
  · next henvelope =>
    rw [Holds, Value.get_str, Value.get_remove_ne _ (by decide), ← Value.get_str]
    obtain ⟨envelope, henvelope⟩ := Option.isSome_iff_exists.mp henvelope
    rw [Holds, henvelope] at hholds
    rw [henvelope]
    exact hholds
  · next hnone =>
    rw [Option.not_isSome_iff_eq_none] at hnone
    split
    · exact hholds
    · next legacy_secret hlegacy =>
      split
      · next envelope hencrypted =>
        rw [Holds, hnone] at hholds
        rw [Holds, get_str_upgraded hlegacy]
        exact ⟨legacy_secret, hholds.trans hlegacy, decrypt_written hkey hcrates hencrypted⟩
      · exact hholds

theorem upgraded_hold (nonces : String → Option Nonce) {state : SecretState} (hall : service.AllHold state) :
    service.AllHold { state with inner := service.upgrade_legacy_callback_secrets nonces state.inner } := by
  intro id
  have hid := hall id
  rw [upgrade_legacy_callback_secrets, hkey]
  dsimp only
  rw [HashMap.lookup_map_values]
  cases hlookup : state.inner.callbacks.lookup id with
  | none =>
    rw [hlookup] at hid
    exact hid
  | some callback =>
    rw [hlookup] at hid
    exact upgrade_callback_holds hkey hcrates (nonces id) hid

theorem secret_step_holds {state : SecretState} (label : SecretLabel) (hall : service.AllHold state) :
    service.AllHold (service.secret_step state label) := by
  cases label with
  | upgrade nonces => exact upgraded_hold hkey hcrates nonces hall
  | restart nonces =>
    have hrestarted : service.AllHold { state with inner := restarted state.inner } := hall
    exact upgraded_hold hkey hcrates nonces hrestarted
  | upsert_callback ctx nonce project_id company_id callback_id body =>
    rcases upsert_callback_cases service ctx state.inner project_id company_id nonce callback_id body with
      ⟨err, hupsert⟩ | ⟨callback_url, encrypted_secret, created_at, audit_logs, answer, -, hencrypted, hupsert⟩
    · rw [secret_step, hupsert]
      exact hall
    · rw [secret_step, hupsert]
      intro id
      dsimp only
      by_cases hid : id = callback_id.getD ("callback_" ++ ctx.uuid 0)
      · obtain ⟨envelope, secret, rfl, hsupplied, hdecrypted⟩ :=
          callback_encrypted_secret_holds hkey hcrates (hall _) hencrypted
        rw [hid, HashMap.lookup_insert_ite, if_pos rfl, Function.update_self]
        exact ⟨secret, hsupplied, hdecrypted⟩
      · rw [HashMap.lookup_insert_ite, if_neg hid, Function.update_of_ne hid]
        exact hall id

end Secrets

section Plaintext

variable {service : WebhookService} {key : SecretMasterKey} (hkey : service.secret_master_key = some key)

/-- Whether the upgrade gets to encrypt every plaintext that it finds. -/
def UpgradeSucceeds (service : WebhookService) (key : SecretMasterKey) (nonces : String → Option Nonce)
    (inner : StoreInner) : Prop :=
  ∀ id callback legacy_secret, inner.callbacks.lookup id = some callback →
    callback.get_str "encrypted_secret" = none → callback.get_str "secret" = some legacy_secret →
      ∃ envelope, encrypt_secret service.crates key (nonces id) legacy_secret = .ok envelope

theorem get_str_remove_same (callback : Value) (field : String) : (callback.remove field).get_str field = none := by
  rw [Value.get_str, Value.get_remove_same]
  rfl

/-- No upgrade puts a plaintext where there is none. -/
theorem upgrade_callback_secret_none (nonce : Option Nonce) {callback : Value}
    (hnone : callback.get_str "secret" = none) :
    (service.upgrade_callback key nonce callback).get_str "secret" = none := by
  unfold upgrade_callback
  rw [hnone]
  split
  · exact get_str_remove_same _ _
  · exact hnone

include hkey

theorem upgrade_no_plaintext {nonces : String → Option Nonce} {inner : StoreInner}
    (hsucceeds : service.UpgradeSucceeds key nonces inner) :
    NoPlaintext (service.upgrade_legacy_callback_secrets nonces inner) := by
  intro id callback hcallback
  rw [upgrade_legacy_callback_secrets, hkey] at hcallback
  dsimp only at hcallback
  rw [HashMap.lookup_map_values] at hcallback
  obtain ⟨stored, hstored, rfl⟩ := Option.map_eq_some_iff.mp hcallback
  unfold upgrade_callback
  split
  · exact get_str_remove_same _ _
  · next hnone =>
    split
    · next hplain => exact hplain
    · next legacy_secret hlegacy =>
      obtain ⟨envelope, hencrypted⟩ := hsucceeds id stored legacy_secret hstored
        (Option.not_isSome_iff_eq_none.mp hnone) hlegacy
      rw [hencrypted]
      exact get_str_remove_same _ _

theorem upgrade_keeps_no_plaintext (nonces : String → Option Nonce) {inner : StoreInner}
    (hno : NoPlaintext inner) : NoPlaintext (service.upgrade_legacy_callback_secrets nonces inner) := by
  intro id callback hcallback
  rw [upgrade_legacy_callback_secrets, hkey] at hcallback
  dsimp only at hcallback
  rw [HashMap.lookup_map_values] at hcallback
  obtain ⟨stored, hstored, rfl⟩ := Option.map_eq_some_iff.mp hcallback
  exact upgrade_callback_secret_none (nonces id) (hno id stored hstored)

theorem secret_step_no_plaintext {state : SecretState} (label : SecretLabel) (hno : NoPlaintext state.inner) :
    NoPlaintext (service.secret_step state label).inner := by
  cases label with
  | upgrade nonces => exact upgrade_keeps_no_plaintext hkey nonces hno
  | restart nonces =>
    have hrestarted : NoPlaintext (restarted state.inner) := hno
    exact upgrade_keeps_no_plaintext hkey nonces hrestarted
  | upsert_callback ctx nonce project_id company_id callback_id body =>
    rcases upsert_callback_cases service ctx state.inner project_id company_id nonce callback_id body with
      ⟨err, hupsert⟩ | ⟨callback_url, encrypted_secret, created_at, audit_logs, answer, -, -, hupsert⟩
    · rw [secret_step, hupsert]
      exact hno
    · rw [secret_step, hupsert]
      intro id callback hcallback
      dsimp only at hcallback
      rw [HashMap.lookup_insert_ite] at hcallback
      split at hcallback
      · cases hcallback
        rfl
      · exact hno id callback hcallback

end Plaintext

/-- What a service starts from: the envelopes that it finds were written under its key, and
the other callbacks have a plaintext or nothing. -/
structure Loaded (service : WebhookService) (key : SecretMasterKey) (state : SecretState) : Prop where
  enveloped : ∀ id callback envelope, state.inner.callbacks.lookup id = some callback →
    callback.get_str "encrypted_secret" = some envelope →
      ∃ nonce secret, encrypt_secret service.crates key nonce secret = .ok envelope ∧ state.secrets id = some secret
  legacy : ∀ id callback, state.inner.callbacks.lookup id = some callback →
    callback.get_str "encrypted_secret" = none → state.secrets id = callback.get_str "secret"
  absent : ∀ id, state.inner.callbacks.lookup id = none → state.secrets id = none

theorem Loaded.all_hold {service : WebhookService} {key : SecretMasterKey} {state : SecretState}
    (hloaded : service.Loaded key state) (hkey : service.secret_master_key = some key)
    (hcrates : service.crates.Sound) : service.AllHold state := by
  intro id
  cases hcallback : state.inner.callbacks.lookup id with
  | none => exact hloaded.absent id hcallback
  | some callback =>
    dsimp only [Holds]
    cases henvelope : callback.get_str "encrypted_secret" with
    | none => exact hloaded.legacy id callback hcallback henvelope
    | some envelope =>
      obtain ⟨nonce, secret, hencrypted, hsecret⟩ := hloaded.enveloped id callback envelope hcallback henvelope
      exact ⟨secret, hsecret, decrypt_written hkey hcrates hencrypted⟩

/-- What a held secret is for a delivery, which reads the envelope only. -/
theorem Holds.callback_secret {service : WebhookService} {callback : Value} {secret : Option String}
    (hholds : service.Holds callback secret) :
    (∀ plaintext, service.callback_secret callback = .ok plaintext → secret = some plaintext) ∧
      (callback.get_str "secret" = none → ∀ plaintext, secret = some plaintext →
        service.callback_secret callback = .ok plaintext) := by
  unfold Holds at hholds
  unfold WebhookService.callback_secret
  split at hholds
  · next envelope henvelope =>
    obtain ⟨held, rfl, hdecrypted⟩ := hholds
    rw [henvelope]
    dsimp only
    rw [hdecrypted]
    exact ⟨fun _ h => congrArg some (Except.ok.inj h), fun _ _ h => congrArg Except.ok (Option.some.inj h)⟩
  · next henvelope =>
    rw [henvelope, hholds]
    constructor
    · intro plaintext h
      cases h
    · intro hnone plaintext h
      rw [hnone] at h
      cases h

end WebhookService

/-- Whatever a delivery decrypts for a callback is the last secret that was supplied for it,
and once an upgrade has encrypted every plaintext there is, no callback has one again, and
every callback that has a secret is delivered with it. -/
theorem signing_secret_kept (service : WebhookService) {key : SecretMasterKey}
    (hkey : service.secret_master_key = some key) (hcrates : service.crates.Sound) {start state : SecretState}
    {labels : List SecretLabel} (hloaded : service.Loaded key start)
    (hrun : Run (OfFun service.secret_step) start labels state) :
    (∀ id callback secret, state.inner.callbacks.lookup id = some callback →
      service.callback_secret callback = .ok secret → state.secrets id = some secret) ∧
    ∀ nonces upgrade, upgrade = .upgrade nonces ∨ upgrade = .restart nonces →
      service.UpgradeSucceeds key nonces state.inner →
      ∀ later_labels later, Run (OfFun service.secret_step) (service.secret_step state upgrade) later_labels later →
        NoPlaintext later.inner ∧ ∀ id callback secret, later.inner.callbacks.lookup id = some callback →
          (service.callback_secret callback = .ok secret ↔ later.secrets id = some secret) := by
  have hholds : ∀ {start state : SecretState} {labels}, service.AllHold start →
      Run (OfFun service.secret_step) start labels state → service.AllHold state := by
    intro start state labels hall hrun
    refine hrun.invariant (fun _ label _ h hstep => ?_) hall
    cases hstep
    exact WebhookService.secret_step_holds hkey hcrates label h
  have hall : service.AllHold state := hholds (hloaded.all_hold hkey hcrates) hrun
  have hstored : ∀ {state : SecretState} {id callback}, service.AllHold state →
      state.inner.callbacks.lookup id = some callback → service.Holds callback (state.secrets id) := by
    intro state id callback hall hcallback
    have hid := hall id
    rw [hcallback] at hid
    exact hid
  refine ⟨fun id callback secret hcallback => (hstored hall hcallback).callback_secret.1 secret, ?_⟩
  intro nonces upgrade hupgrade hsucceeds later_labels later hlater
  have hupgraded : NoPlaintext (service.secret_step state upgrade).inner := by
    rcases hupgrade with rfl | rfl
    · exact WebhookService.upgrade_no_plaintext hkey hsucceeds
    · have hrestarted : service.UpgradeSucceeds key nonces (restarted state.inner) := hsucceeds
      exact WebhookService.upgrade_no_plaintext hkey hrestarted
  have hkept : ∀ s label t, NoPlaintext s.inner → OfFun service.secret_step s label t → NoPlaintext t.inner := by
    intro s label t hno hstep
    cases hstep
    exact WebhookService.secret_step_no_plaintext hkey label hno
  have hno : NoPlaintext later.inner := hlater.invariant hkept hupgraded
  have hlater_all := hholds (WebhookService.secret_step_holds hkey hcrates upgrade hall) hlater
  refine ⟨hno, fun id callback secret hcallback => ?_⟩
  have hcallback_holds := (hstored hlater_all hcallback).callback_secret
  exact ⟨hcallback_holds.1 secret, hcallback_holds.2 (hno id callback hcallback) secret⟩

namespace sample

/-- A byte is encoded as the letter that is 256 places up. -/
theorem toNat_letter (byte : UInt8) : (Char.ofNat (byte.toNat + 256)).toNat = byte.toNat + 256 := by
  have hbyte : byte.toNat < 256 := byte.toNat_lt
  have hvalid : (byte.toNat + 256).isValidChar := Or.inl (by omega)
  rw [Char.ofNat, dif_pos hvalid]
  rfl

theorem decode_letter (byte : UInt8) : UInt8.ofNat ((Char.ofNat (byte.toNat + 256)).toNat - 256) = byte := by
  rw [toNat_letter, Nat.add_sub_cancel, UInt8.ofNat_toNat]

theorem letter_ne_colon (byte : UInt8) : Char.ofNat (byte.toNat + 256) ≠ ':' := by
  intro heq
  have htoNat := congrArg Char.toNat heq
  rw [toNat_letter] at htoNat
  have hcolon : ':'.toNat = 58 := rfl
  omega

theorem crates_sound : crates.Sound where
  decrypt_encrypt key bytes plaintext encrypted hencrypted := by
    have hopens : ∀ entry ∈ sealed_secrets, (sealed_secrets.find? fun other =>
        other.1 = entry.1 && other.2.2 = entry.2.2) = some entry := by decide
    obtain ⟨hkey, hencrypted⟩ := Option.ite_none_right_eq_some.mp hencrypted
    obtain ⟨entry, hentry, rfl⟩ := Option.map_eq_some_iff.mp hencrypted
    have hfound := List.find?_some hentry
    rw [Bool.and_eq_true, decide_eq_true_eq, decide_eq_true_eq] at hfound
    obtain ⟨rfl, rfl⟩ := hfound
    have hopened := hopens entry (List.mem_of_find?_eq_some hentry)
    exact (if_pos hkey).trans (congrArg (Option.map fun entry => entry.2.1) hopened)
  decode_encode bytes := by
    have hreads : ∀ entry ∈ base64_texts, (base64_texts.find? fun other => other.2 = entry.2) = some entry := by
      decide
    dsimp only [crates]
    cases hentry : base64_texts.find? fun entry => entry.1 = bytes with
    | some entry =>
      have hbytes : entry.1 = bytes := by simpa using List.find?_some hentry
      rw [Option.map_some, Option.getD_some, hreads entry (List.mem_of_find?_eq_some hentry), Option.map_some,
        Option.some_or, hbytes]
    | none =>
      have hheads : ∀ entry ∈ base64_texts, entry.2.toList.head? ≠ some '=' := by decide
      have hnone : base64_texts.find? (fun entry => entry.2 =
          String.ofList ('=' :: bytes.map fun byte => Char.ofNat (byte.toNat + 256))) = none := by
        refine List.find?_eq_none.mpr fun entry hmem htext => hheads entry hmem ?_
        rw [of_decide_eq_true htext, String.toList_ofList]
        rfl
      have hletters : (bytes.map fun byte => Char.ofNat (byte.toNat + 256)).map
          (fun letter => UInt8.ofNat (letter.toNat - 256)) = bytes := by
        rw [List.map_map]
        exact (List.map_congr_left fun byte _ => decode_letter byte).trans (List.map_id _)
      rw [Option.map_none, Option.getD_none, hnone, Option.map_none, Option.none_or, String.toList_ofList]
      exact congrArg some hletters
  no_colon bytes := by
    have hcolons : ∀ entry ∈ base64_texts, ':' ∉ entry.2.toList := by decide
    dsimp only [crates]
    cases hentry : base64_texts.find? fun entry => entry.1 = bytes with
    | some entry => exact hcolons entry (List.mem_of_find?_eq_some hentry)
    | none =>
      rw [Option.map_none, Option.getD_none, String.toList_ofList, List.mem_cons, List.mem_map]
      rintro (hcolon | ⟨byte, -, hletter⟩)
      · cases hcolon
      · exact letter_ne_colon byte hletter

/-- A callback from the time before the envelopes. -/
def legacy_callback : SecretState where
  inner := {
    callbacks := (∅ : HashMap String Value).insert "callback_a0"
      (.object [("id", .string "callback_a0"), ("project_id", .string "acme"), ("company_id", .string "company_a"),
        ("url", .string "https://consumer.example.com/rustzap/webhook"), ("secret", .string "webhook_secret"),
        ("enabled", .bool true)]) }
  secrets := Function.update (fun _ => none) "callback_a0" (some "webhook_secret")

theorem legacy_loaded : webhook_service.Loaded master_key legacy_callback where
  enveloped id callback envelope hcallback henvelope := by
    rw [legacy_callback, HashMap.lookup_insert_ite] at hcallback
    split at hcallback
    · cases hcallback
      cases henvelope
    · cases hcallback
  legacy id callback hcallback hnone := by
    rw [legacy_callback, HashMap.lookup_insert_ite] at hcallback
    split at hcallback
    · next hid =>
      cases hcallback
      subst hid
      rfl
    · cases hcallback
  absent id hnone := by
    rw [legacy_callback, HashMap.lookup_insert_ite] at hnone
    split at hnone
    · cases hnone
    · next hid =>
      change Function.update (fun _ => none) "callback_a0" (some "webhook_secret") id = none
      exact Function.update_of_ne hid _ _

def upgraded : SecretLabel :=
  .upgrade fun _ => some nonce

/-- The callback is updated without a secret. -/
def callback_disabled : SecretLabel :=
  .upsert_callback (ctx 1 "b") none "acme" "company_a" (some "callback_a0") (.object [("enabled", .bool false)])

theorem upgrade_succeeds :
    webhook_service.UpgradeSucceeds master_key (fun _ => some nonce) legacy_callback.inner := by
  intro id callback legacy_secret hcallback hnone hlegacy
  rw [legacy_callback, HashMap.lookup_insert_ite] at hcallback
  split at hcallback
  · cases hcallback
    cases hlegacy
    exact ⟨_, rfl⟩
  · cases hcallback

/-- The callback is given a new secret. -/
def secret_rotated : SecretLabel :=
  .upsert_callback (ctx 2 "c") (some rotated_nonce) "acme" "company_a" (some "callback_a0")
    (.object [("secret", .string "rotated_secret")])

end sample

/-- The callback is delivered with the secret that it had as a plaintext, until it is given
another one, and then with that. -/
theorem legacy_secret_kept :
    ∃ state state' callback callback', Run (OfFun sample.webhook_service.secret_step) sample.legacy_callback
        [sample.upgraded, sample.callback_disabled] state ∧
      Run (OfFun sample.webhook_service.secret_step) state [sample.secret_rotated] state' ∧
      state.inner.callbacks.lookup "callback_a0" = some callback ∧
      sample.webhook_service.callback_secret callback = .ok "webhook_secret" ∧
      state'.inner.callbacks.lookup "callback_a0" = some callback' ∧
      sample.webhook_service.callback_secret callback' = .ok "rotated_secret" ∧ NoPlaintext state'.inner := by
  obtain ⟨-, hupgrade⟩ := signing_secret_kept sample.webhook_service rfl sample.crates_sound
    sample.legacy_loaded (.nil _)
  obtain ⟨-, hsecret⟩ := hupgrade (fun _ => some sample.nonce) sample.upgraded (.inl rfl) sample.upgrade_succeeds
    [sample.callback_disabled] _ (.cons rfl (.nil _))
  obtain ⟨hno, hrotated⟩ := hupgrade (fun _ => some sample.nonce) sample.upgraded (.inl rfl)
    sample.upgrade_succeeds [sample.callback_disabled, sample.secret_rotated] _ (.cons rfl (.cons rfl (.nil _)))
  refine ⟨_, _, _, _, .cons rfl (.cons rfl (.nil _)), .cons rfl (.nil _), rfl, ?_, rfl, ?_, hno⟩
  · exact (hsecret "callback_a0" _ _ rfl).mpr rfl
  · exact (hrotated "callback_a0" _ _ rfl).mpr rfl

end rustzap.state
