import RustZap.Lib.Setters
import RustZap.State.Operations

open collections serde_json setters
open rustzap.error rustzap.models

namespace rustzap.state

section Setters

variable {A B : Type} (body : Value) (key other_key : String) (read : Value → ApiResult A)
  (other_read : Value → ApiResult B) (set : Conversation → A → Conversation)
  (other_set : Conversation → B → Conversation)

/-- What a patch does about one field: nothing where the body does not have it. -/
def patch_setter : Setter Conversation ApiError :=
  match body.get key with
  | none => { refusal := none, set := id }
  | some value =>
    match read value with
    | .ok a => { refusal := none, set := fun conversation => set conversation a }
    | .error err => { refusal := some err, set := id }

theorem patch_in_turn_cons {steps : List (Conversation → ApiResult Unit × Conversation)}
    {setters : List (Setter Conversation ApiError)}
    (hrest : ∀ conversation, patch_in_turn steps conversation = in_turn setters conversation)
    (conversation : Conversation) :
    patch_in_turn (patch_field body key read set :: steps) conversation =
      in_turn (patch_setter body key read set :: setters) conversation := by
  rw [patch_in_turn, patch_field, in_turn, patch_setter]
  cases body.get key with
  | none => exact hrest conversation
  | some value =>
    dsimp only
    cases read value with
    | ok a => exact hrest (set conversation a)
    | error err => rfl

variable {set} in
theorem patch_setter_idempotent (hset : ∀ conversation a, set (set conversation a) a = set conversation a) :
    (patch_setter body key read set).Idempotent := by
  intro conversation
  rw [patch_setter, Setter.Settled]
  cases body.get key with
  | none => rfl
  | some value =>
    dsimp only
    cases read value with
    | ok a => exact hset conversation a
    | error err => rfl

variable {set other_set} in
theorem patch_setter_independent
    (hset : ∀ conversation a b,
      other_set (set conversation a) b = set conversation a ↔ other_set conversation b = conversation) :
    (patch_setter body key read set).Independent (patch_setter body other_key other_read other_set) := by
  intro conversation
  rw [patch_setter, patch_setter, Setter.Settled, Setter.Settled]
  cases body.get key with
  | none => rfl
  | some value =>
    dsimp only
    cases read value with
    | error err => rfl
    | ok a =>
      cases body.get other_key with
      | none => exact ⟨fun _ => rfl, fun _ => rfl⟩
      | some other =>
        dsimp only
        cases other_read other with
        | error err => exact ⟨fun _ => rfl, fun _ => rfl⟩
        | ok b => exact hset conversation a b

end Setters

/-- The fields of a patch in the order in which they are read and set. -/
def patch_setters (body : Value) : List (Setter Conversation ApiError) :=
  [patch_setter body "is_archived" (read_bool "is_archived") fun c b => { c with is_archived := b },
    patch_setter body "is_muted" (read_bool "is_muted") fun c b => { c with is_muted := b },
    patch_setter body "is_pinned" (read_bool "is_pinned") fun c b => { c with is_pinned := b },
    patch_setter body "control_mode" read_control_mode fun c m => { c with control_mode := m }]

theorem patch_conversation_eq (body : Value) (conversation : Conversation) :
    patch_conversation body conversation = in_turn (patch_setters body) conversation := by
  refine patch_in_turn_cons _ _ _ _ (patch_in_turn_cons _ _ _ _ (patch_in_turn_cons _ _ _ _
    (patch_in_turn_cons _ _ _ _ fun conversation => ?_))) conversation
  rfl

/-- An empty body has no field that could be refused. -/
theorem patch_setters_of_empty : ∀ setter ∈ patch_setters (.object []), setter.accepted = true := by
  simp only [patch_setters, List.forall_mem_cons, List.not_mem_nil, false_imp_iff, implies_true, and_true]
  exact ⟨rfl, rfl, rfl, rfl⟩

theorem patch_setters_idempotent (body : Value) : ∀ setter ∈ patch_setters body, setter.Idempotent := by
  simp only [patch_setters, List.forall_mem_cons, List.not_mem_nil, false_imp_iff, implies_true, and_true]
  refine ⟨?_, ?_, ?_, ?_⟩ <;> exact patch_setter_idempotent body _ _ fun _ _ => rfl

theorem patch_setters_independent (body : Value) :
    (patch_setters body).Pairwise fun setter other => other.Independent setter := by
  simp only [patch_setters, List.pairwise_cons, List.forall_mem_cons, List.not_mem_nil, false_imp_iff,
    implies_true, and_true, List.Pairwise.nil]
  refine ⟨⟨?_, ?_, ?_⟩, ⟨?_, ?_⟩, ?_⟩ <;>
    exact patch_setter_independent body _ _ _ _ fun conversation a b => by cases conversation; simp

/-- The conversation with the fields that a body supplies. -/
def with_supplied (body : Value) (now : OffsetDateTime) (conversation : Conversation) : Conversation :=
  { conversation with
    is_archived := ((body.get "is_archived").bind Value.as_bool).getD conversation.is_archived
    is_muted := ((body.get "is_muted").bind Value.as_bool).getD conversation.is_muted
    is_pinned := ((body.get "is_pinned").bind Value.as_bool).getD conversation.is_pinned
    control_mode := ((body.get "control_mode").bind Value.as_str).getD conversation.control_mode
    updated_at := now }

section Supplied

variable {body : Value} {conversation : Conversation}

/-- A flag that is not refused is set to what the body has, or left as it is. -/
theorem patch_setter_bool {key : String} {set : Conversation → Bool → Conversation}
    (haccepted : (patch_setter body key (read_bool key) set).accepted = true) (current : Bool)
    (hcurrent : set conversation current = conversation) :
    (patch_setter body key (read_bool key) set).set conversation =
      set conversation (((body.get key).bind Value.as_bool).getD current) := by
  rw [patch_setter] at haccepted ⊢
  cases hvalue : body.get key with
  | none => exact hcurrent.symm
  | some value =>
    rw [hvalue] at haccepted
    dsimp only at haccepted ⊢
    rw [read_bool] at haccepted ⊢
    rw [Option.bind_some]
    cases hbool : value.as_bool with
    | none =>
      rw [hbool] at haccepted
      cases haccepted
    | some b => rfl

theorem patch_setter_control_mode {set : Conversation → String → Conversation}
    (haccepted : (patch_setter body "control_mode" read_control_mode set).accepted = true) (current : String)
    (hcurrent : set conversation current = conversation) :
    (patch_setter body "control_mode" read_control_mode set).set conversation =
      set conversation (((body.get "control_mode").bind Value.as_str).getD current) := by
  rw [patch_setter] at haccepted ⊢
  cases hvalue : body.get "control_mode" with
  | none => exact hcurrent.symm
  | some value =>
    rw [hvalue] at haccepted
    dsimp only at haccepted ⊢
    rw [read_control_mode] at haccepted ⊢
    rw [Option.bind_some]
    cases hstr : value.as_str with
    | none =>
      rw [hstr] at haccepted
      cases haccepted
    | some control_mode =>
      rw [hstr] at haccepted
      dsimp only at haccepted ⊢
      by_cases hblank : str.is_empty (str.trim control_mode) = true
      · rw [if_pos hblank] at haccepted
        cases haccepted
      · rw [if_neg hblank]
        rfl

/-- Where no field is refused, the supplied ones are set. -/
theorem in_turn_patch_setters (now : OffsetDateTime)
    (haccepted : ∀ setter ∈ patch_setters body, setter.accepted = true) :
    { (in_turn (patch_setters body) conversation).2 with updated_at := now } =
      with_supplied body now conversation := by
  rw [in_turn_snd, List.takeWhile_eq_self_iff.mpr haccepted]
  simp only [patch_setters, List.forall_mem_cons, List.not_mem_nil, false_imp_iff, implies_true,
    and_true] at haccepted
  obtain ⟨harchived, hmuted, hpinned, hcontrol⟩ := haccepted
  simp only [patch_setters, set_all, List.foldl_cons, List.foldl_nil]
  rw [patch_setter_bool harchived conversation.is_archived rfl,
    patch_setter_bool hmuted conversation.is_muted rfl,
    patch_setter_bool hpinned conversation.is_pinned rfl,
    patch_setter_control_mode hcontrol conversation.control_mode rfl]
  rfl

end Supplied

section Metadata

variable (ctx : Ctx) (inner : StoreInner) (project_id company_id conversation_id : String) (body : Value)

/-- The request names supported fields only and a conversation of its company. -/
structure Patches (stored : Conversation) : Prop where
  fields : ∃ fields, body = .object fields ∧ ∀ field ∈ fields, field.1 ∈ conversation_patch_fields
  found : inner.conversations.lookup
    (resolve_conversation_id_inner inner project_id company_id conversation_id) = some stored
  tenant : conversation_matches_tenant stored project_id company_id = true

/-- A request is turned down at once, for what it names or because it names nothing, or the
fields are set one after another. -/
theorem patch_conversation_metadata_cases :
    ((∃ err, patch_conversation_metadata ctx inner project_id company_id conversation_id body =
        (.error err, inner)) ∧
      ∀ stored, Patches inner project_id company_id conversation_id body stored → body = .object []) ∨
    ∃ stored, Patches inner project_id company_id conversation_id body stored ∧
      ((∃ err, (in_turn (patch_setters body) stored).1 = .error err ∧
        patch_conversation_metadata ctx inner project_id company_id conversation_id body = (.error err,
          { inner with
            conversations := inner.conversations.insert
              (resolve_conversation_id_inner inner project_id company_id conversation_id)
              (in_turn (patch_setters body) stored).2 })) ∨
      (in_turn (patch_setters body) stored).1 = .ok () ∧ ∃ dirty events,
        patch_conversation_metadata ctx inner project_id company_id conversation_id body =
          (.ok { (in_turn (patch_setters body) stored).2 with updated_at := ctx.now },
          { inner with
            dirty, events
            conversations := inner.conversations.insert
              (resolve_conversation_id_inner inner project_id company_id conversation_id)
              { (in_turn (patch_setters body) stored).2 with updated_at := ctx.now } })) := by
  cases body with
  | object fields =>
    unfold patch_conversation_metadata
    dsimp only
    split
    · next field hfield =>
      refine Or.inl ⟨⟨_, rfl⟩, fun stored hpatches => ?_⟩
      obtain ⟨_, hfields, hallowed⟩ := hpatches.fields
      have hmem := List.mem_of_find?_eq_some hfield
      have hrefused := List.find?_some hfield
      cases hfields
      rw [List.contains_iff_mem.mpr (hallowed field hmem)] at hrefused
      cases hrefused
    · next hsupported =>
      split
      · next hempty => exact Or.inl ⟨⟨_, rfl⟩, fun _ _ => by rw [hempty]⟩
      · split
        · next hmissing =>
          refine Or.inl ⟨⟨_, rfl⟩, fun stored hpatches => ?_⟩
          rw [Option.filter_eq_some_iff.mpr ⟨hpatches.found, hpatches.tenant⟩] at hmissing
          cases hmissing
        · next stored hfound =>
          obtain ⟨hstored, htenant⟩ := Option.filter_eq_some_iff.mp hfound
          refine Or.inr ⟨stored, ⟨⟨fields, rfl, fun field hfield => ?_⟩, hstored, htenant⟩, ?_⟩
          · have hallowed := List.find?_eq_none.mp hsupported field hfield
            rwa [Bool.not_eq_true, Bool.not_eq_false', List.contains_iff_mem] at hallowed
          · rw [patch_conversation_eq]
            split
            · next err patched hturn =>
              refine Or.inl ⟨err, by rw [hturn], ?_⟩
              rw [hturn]
            · next patched hturn =>
              refine Or.inr ⟨by rw [hturn], ?_⟩
              rw [hturn]
              unfold mark_dirty_inner push_event_inner
              exact ⟨_, _, rfl⟩
  | _ =>
    refine Or.inl ⟨⟨_, rfl⟩, fun stored hpatches => ?_⟩
    obtain ⟨_, hfields, -⟩ := hpatches.fields
    cases hfields

/-- A patch succeeds and sets the supplied fields, and nothing but those, or it fails and
leaves the store as it was. -/
structure PatchAtomic : Prop where
  succeeded : ∀ updated inner',
    patch_conversation_metadata ctx inner project_id company_id conversation_id body = (.ok updated, inner') →
      ∃ stored dirty events, Patches inner project_id company_id conversation_id body stored ∧
        updated = with_supplied body ctx.now stored ∧ inner' = { inner with
          dirty, events
          conversations := inner.conversations.insert
            (resolve_conversation_id_inner inner project_id company_id conversation_id) updated }
  failed : ∀ err inner',
    patch_conversation_metadata ctx inner project_id company_id conversation_id body = (.error err, inner') →
      inner.Reordered inner'

/-- Where a field is refused, the fields read before it are absent or supplied with the
values that the conversation has. -/
def NothingSetBeforeRefusal (stored : Conversation) : Prop :=
  (∃ setter ∈ patch_setters body, setter.accepted = false) →
    ∀ setter ∈ (patch_setters body).takeWhile Setter.accepted, setter.Settled stored

end Metadata

/-- A patch is atomic exactly where it changes nothing before it comes to a field that is
not valid. -/
theorem patch_atomic_iff (ctx : Ctx) (inner : StoreInner) (project_id company_id conversation_id : String)
    (body : Value) :
    PatchAtomic ctx inner project_id company_id conversation_id body ↔
      ∀ stored, Patches inner project_id company_id conversation_id body stored →
        NothingSetBeforeRefusal body stored := by
  have hunique : ∀ stored stored', Patches inner project_id company_id conversation_id body stored →
      Patches inner project_id company_id conversation_id body stored' → stored = stored' :=
    fun _ _ h h' => Option.some.inj (h.found.symm.trans h'.found)
  rcases patch_conversation_metadata_cases ctx inner project_id company_id conversation_id body with
    ⟨⟨err, hdenied⟩, hempty⟩ | ⟨stored, hpatches, ⟨err, hturn, hrefused⟩ | ⟨hturn, dirty, events, hpatched⟩⟩
  · constructor
    · rintro - stored hpatches ⟨setter, hsetter, hnot⟩
      rw [hempty stored hpatches] at hsetter
      rw [patch_setters_of_empty setter hsetter] at hnot
      cases hnot
    · refine fun _ => ⟨fun updated inner' heq => ?_, fun err' inner' heq => ?_⟩ <;>
        rw [hdenied] at heq <;> cases heq
      exact .refl inner
  · have hnot : ∃ setter ∈ patch_setters body, setter.accepted = false := by
      by_contra hall
      have hok := (in_turn_ok_iff (patch_setters body) stored).mpr fun setter hsetter =>
        Bool.not_eq_false _ ▸ fun hfalse => hall ⟨setter, hsetter, hfalse⟩
      rw [hturn] at hok
      cases hok
    have hsame : (in_turn (patch_setters body) stored).2 = stored ↔
        ∀ setter ∈ (patch_setters body).takeWhile Setter.accepted, setter.Settled stored := by
      rw [in_turn_snd]
      exact set_all_eq_iff
        (fun setter hsetter => patch_setters_idempotent body setter ((List.takeWhile_sublist _).subset hsetter))
        ((patch_setters_independent body).sublist (List.takeWhile_sublist _))
    constructor
    · intro hatomic stored' hpatches' _
      obtain rfl := hunique stored stored' hpatches hpatches'
      have hlookup := (hatomic.failed err _ hrefused).conversations.lookup
        (resolve_conversation_id_inner inner project_id company_id conversation_id)
      rw [hpatches.found, AList.lookup_insert] at hlookup
      exact hsame.mp (Option.some.inj hlookup).symm
    · intro hnothing
      refine ⟨fun updated inner' heq => ?_, fun err' inner' heq => ?_⟩ <;> rw [hrefused] at heq <;> cases heq
      rw [hsame.mpr (hnothing stored hpatches hnot)]
      exact { StoreInner.Reordered.refl inner with
        conversations := HashMap.reordered_insert hpatches.found }
  · have hall := (in_turn_ok_iff (patch_setters body) stored).mp hturn
    constructor
    · rintro - stored' - ⟨setter, hsetter, hnot⟩
      rw [hall setter hsetter] at hnot
      cases hnot
    · refine fun _ => ⟨fun updated inner' heq => ?_, fun err' inner' heq => ?_⟩ <;>
        rw [hpatched] at heq <;> cases heq
      exact ⟨stored, dirty, events, hpatches, in_turn_patch_setters ctx.now hall, rfl⟩

namespace sample

/-- A chat that somebody has written in. -/
def written_chat : StoreInner :=
  (run Store.empty [received]).inner

/-- The second field of the body is no boolean. -/
def half_valid_body : Value :=
  .object [("is_archived", .bool true), ("is_muted", .string "yes")]

def half_patched : ApiResult Conversation × StoreInner :=
  patch_conversation_metadata (ctx 2 "p") written_chat "acme" "company_a" "5511988887777@s.whatsapp.net"
    half_valid_body

end sample

/-- The patch fails, and the chat is archived all the same. -/
theorem failed_patch_archives_chat :
    ¬ ∀ (ctx : Ctx) (inner : StoreInner) (project_id company_id conversation_id : String) (body : Value),
      PatchAtomic ctx inner project_id company_id conversation_id body := by
  intro hclaim
  have hatomic := hclaim (sample.ctx 2 "p") sample.written_chat "acme" "company_a"
    "5511988887777@s.whatsapp.net" sample.half_valid_body
  have hbefore : (sample.written_chat.conversations.lookup "5511988887777@s.whatsapp.net").map
      Conversation.is_archived = some false := by decide
  have hafter : (sample.half_patched.2.conversations.lookup "5511988887777@s.whatsapp.net").map
      Conversation.is_archived = some true := by decide
  have hfails : sample.half_patched.1.isOk = false := by decide
  cases hresult : sample.half_patched.1 with
  | ok updated =>
    rw [hresult] at hfails
    cases hfails
  | error err =>
    have hkept := hatomic.failed err sample.half_patched.2 (Prod.ext hresult rfl)
    rw [hkept.conversations.lookup, hafter] at hbefore
    cases hbefore

end rustzap.state
