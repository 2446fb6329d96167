import RustZap.Media
import Mathlib.Data.List.Basic

namespace rustzap.media

/-- A path of segments. -/
def slashed : List String → String
  | [] => ""
  | [segment] => segment
  | segment :: segments => segment ++ "/" ++ slashed segments

def slashes (text : String) : Nat :=
  text.toList.count '/'

@[simp] theorem slashes_append (text other : String) :
    slashes (text ++ other) = slashes text + slashes other := by
  rw [slashes, String.toList_append, List.count_append]
  rfl

theorem slashes_eq_zero {text : String} : slashes text = 0 ↔ '/' ∉ text.toList :=
  List.count_eq_zero

/-- The first of several segments ends at the first slash. -/
theorem first_segment_inj {as as' bs bs' : List Char} (has : '/' ∉ as) (has' : '/' ∉ as')
    (heq : as ++ '/' :: bs = as' ++ '/' :: bs') : as = as' ∧ bs = bs' := by
  have htake {cs ds : List Char} (hcs : '/' ∉ cs) : (cs ++ '/' :: ds).takeWhile (· ≠ '/') = cs := by
    rw [List.takeWhile_append_of_pos fun c hc => decide_eq_true (ne_of_mem_of_not_mem hc hcs),
      List.takeWhile_cons_of_neg (by simp), List.append_nil]
  have hsame : as = as' := by
    exact (htake has).symm.trans ((congrArg _ heq).trans (htake has'))
  subst hsame
  exact ⟨rfl, (List.cons.inj (List.append_cancel_left heq)).2⟩

def is_ascii_alphanumeric (c : Char) : Bool :=
  str.is_ascii_digit c || ('a'.toNat ≤ c.toNat && c.toNat ≤ 'z'.toNat) ||
    ('A'.toNat ≤ c.toNat && c.toNat ≤ 'Z'.toNat)

/-- The extension that a key may take from a filename: a few letters and digits. So many
digits and nothing else would be a phone number. -/
structure CleanExtension (phone_digits : Nat) (ext : String) : Prop where
  short : ext.toList.length ≤ 12
  alphanumeric : ∀ c ∈ ext.toList, is_ascii_alphanumeric c = true
  no_phone : ¬ (phone_digits ≤ ext.toList.length ∧ ∀ c ∈ ext.toList, str.is_ascii_digit c = true)

theorem CleanExtension.slashes_eq {phone_digits : Nat} {ext : String} (hclean : CleanExtension phone_digits ext) :
    slashes ext = 0 :=
  slashes_eq_zero.mpr fun hmem => absurd (hclean.alphanumeric _ hmem) (by decide)

section Segments

variable (host : Host) (input : R2ObjectKeyInput)

/-- The segments of a key, with the names of a channel, a conversation and an entity hashed. -/
def key_segments (entity ext : String) : List String :=
  let front := ["project=" ++ input.project_id, "company=" ++ input.company_id]
  if input.storage_class = "permanent" then
    [input.base_prefix, "permanent"] ++ front ++ ["entity=" ++ entity,
      "entity_id_hash=" ++ (input.entity_id.map (opaque_id_hash host)).getD "unknown",
      "date=" ++ input.date, "media=" ++ input.media_id ++ "." ++ ext]
  else if input.storage_class = "outbound-temp" then
    [input.base_prefix, "outbound-temp"] ++ front ++
      ["channel_hash=" ++ opaque_id_hash host input.channel_id, "date=" ++ input.date,
        "upload=" ++ input.media_id ++ "." ++ ext]
  else
    [input.base_prefix, input.storage_class] ++ front ++
      ["channel_hash=" ++ opaque_id_hash host input.channel_id,
        "conversation_hash=" ++ (input.conversation_id.map (opaque_id_hash host)).getD "unknown",
        "date=" ++ input.date, "media=" ++ input.media_id ++ "." ++ ext]

def segment_count (storage_class : String) : Nat :=
  if storage_class = "outbound-temp" then 7 else 8

/-- The slashes of what a key may hold in the clear. -/
def own_slashes : Nat :=
  slashes input.base_prefix + slashes input.storage_class + slashes input.project_id +
    slashes input.company_id + slashes input.date + slashes input.media_id

/-- A key without any text of the caller: the segments of its class, with no more of the
entity type than its hash and no more of the filename than a clean extension. -/
structure NoCallerText (phone_digits : Nat) (key : String) : Prop where
  segments : slashes key + 1 = segment_count input.storage_class + own_slashes input
  hashed : ∃ entity ext,
    (entity = "unknown" ∨ input.entity_type.map (opaque_id_hash host) = some entity) ∧
      CleanExtension phone_digits ext ∧ key = slashed (key_segments host input entity ext)

theorem r2_object_key_eq :
    r2_object_key host input =
      slashed (key_segments host input (input.entity_type.getD "unknown")
        (str.trim_start_matches input.ext '.')) := by
  have hpermanent : "/permanent/project=" = "/" ++ "permanent" ++ "/" ++ "project=" := by decide
  have houtbound : "/outbound-temp/project=" = "/" ++ "outbound-temp" ++ "/" ++ "project=" := by decide
  have hproject : "/project=" = "/" ++ "project=" := by decide
  have hcompany : "/company=" = "/" ++ "company=" := by decide
  have hentity : "/entity=" = "/" ++ "entity=" := by decide
  have hentity_id : "/entity_id_hash=" = "/" ++ "entity_id_hash=" := by decide
  have hchannel : "/channel_hash=" = "/" ++ "channel_hash=" := by decide
  have hconversation : "/conversation_hash=" = "/" ++ "conversation_hash=" := by decide
  have hdate : "/date=" = "/" ++ "date=" := by decide
  have hmedia : "/media=" = "/" ++ "media=" := by decide
  have hupload : "/upload=" = "/" ++ "upload=" := by decide
  rw [r2_object_key, key_segments]
  split_ifs
  · simp only [slashed, List.cons_append, List.nil_append, String.append_assoc, hpermanent, hcompany, hentity,
      hentity_id, hdate, hmedia]
  · simp only [slashed, List.cons_append, List.nil_append, String.append_assoc, houtbound, hcompany, hchannel,
      hdate, hupload]
  · simp only [slashed, List.cons_append, List.nil_append, String.append_assoc, hproject, hcompany, hchannel,
      hconversation, hdate, hmedia]
    rfl

end Segments

section Clean

variable {host : Host} {input : R2ObjectKeyInput} {phone_digits : Nat}

/-- A digest is written in hexadecimal digits. -/
def HexDigests (host : Host) : Prop :=
  ∀ bytes, ∀ c ∈ (host.sha256_hex bytes).toList, str.is_ascii_hexdigit c = true

theorem slashes_hash (hhost : HexDigests host) (value : String) : slashes (opaque_id_hash host value) = 0 := by
  refine slashes_eq_zero.mpr fun hmem => ?_
  rw [opaque_id_hash, String.toList_ofList] at hmem
  exact absurd (hhost _ _ (List.mem_of_mem_take hmem)) (by decide)

theorem slashes_hash_or_unknown (hhost : HexDigests host) (value : Option String) :
    slashes ((value.map (opaque_id_hash host)).getD "unknown") = 0 := by
  cases value with
  | none => exact (by decide : slashes "unknown" = 0)
  | some value => exact slashes_hash hhost value

/-- The slashes of a key, apart from those that its class and the text in the clear give it. -/
theorem slashes_key (hhost : HexDigests host) (entity ext : String) :
    slashes (slashed (key_segments host input entity ext)) + 1 =
      segment_count input.storage_class + own_slashes input + slashes ext +
        if input.storage_class = "permanent" then slashes entity else 0 := by
  have hchannel := slashes_hash hhost input.channel_id
  have hconversation := slashes_hash_or_unknown hhost input.conversation_id
  have hentity := slashes_hash_or_unknown hhost input.entity_id
  have hslash : slashes "/" = 1 := by decide
  have hwords : ∀ word ∈ ["project=", "company=", "entity=", "entity_id_hash=", "channel_hash=",
      "conversation_hash=", "date=", "media=", "upload=", "permanent", "outbound-temp", "."],
      slashes word = 0 := by
    decide
  simp only [List.forall_mem_cons, List.not_mem_nil, false_imp_iff, implies_true, and_true] at hwords
  rw [key_segments]
  split_ifs with hpermanent houtbound
  · simp only [slashed, List.cons_append, List.nil_append, slashes_append, hwords, hslash, hentity, own_slashes,
      hpermanent, segment_count]
    simp
    omega
  · simp only [slashed, List.cons_append, List.nil_append, slashes_append, hwords, hslash, hchannel, own_slashes,
      houtbound, segment_count]
    simp
    omega
  · simp only [slashed, List.cons_append, List.nil_append, slashes_append, hwords, hslash, hchannel,
      hconversation, own_slashes, segment_count, if_neg houtbound]
    omega

/-- A key tells the extension, and a permanent one the entity as well. -/
theorem slashed_key_inj {entity entity' ext ext' : String}
    (heq : slashed (key_segments host input entity ext) = slashed (key_segments host input entity' ext'))
    (hentity : input.storage_class = "permanent" → slashes entity = 0 ∧ slashes entity' = 0) :
    ext = ext' ∧ (input.storage_class = "permanent" → entity = entity') := by
  have hlist := congrArg String.toList heq
  have hslash : "/".toList = ['/'] := by decide
  rw [key_segments, key_segments] at hlist
  split_ifs at hlist with hpermanent houtbound
  · simp only [slashed, List.cons_append, List.nil_append, String.toList_append, List.append_assoc, hslash,
      List.append_cancel_left_eq, List.cons.injEq, true_and] at hlist
    obtain ⟨hfree, hfree'⟩ := hentity hpermanent
    obtain ⟨hsame, hrest⟩ := first_segment_inj (slashes_eq_zero.mp hfree) (slashes_eq_zero.mp hfree') hlist
    simp only [List.append_cancel_left_eq, List.cons.injEq, true_and] at hrest
    exact ⟨String.toList_injective hrest, fun _ => String.toList_injective hsame⟩
  · simp only [slashed, List.cons_append, List.nil_append, String.toList_append, List.append_assoc,
      List.append_cancel_left_eq] at hlist
    exact ⟨String.toList_injective hlist, fun h => absurd h hpermanent⟩
  · simp only [slashed, List.cons_append, List.nil_append, String.toList_append, List.append_assoc,
      List.append_cancel_left_eq] at hlist
    exact ⟨String.toList_injective hlist, fun h => absurd h hpermanent⟩

/-- A key is clean exactly when its extension is, and in a permanent one the entity type is
its own hash or the word for an unknown one. -/
theorem r2_object_key_clean_iff (hhost : HexDigests host) :
    NoCallerText host input phone_digits (r2_object_key host input) ↔
      CleanExtension phone_digits (str.trim_start_matches input.ext '.') ∧
        (input.storage_class = "permanent" → input.entity_type.getD "unknown" = "unknown" ∨
          input.entity_type.map (opaque_id_hash host) = some (input.entity_type.getD "unknown")) := by
  have hfree {entity : String} (hentity : entity = "unknown" ∨
      input.entity_type.map (opaque_id_hash host) = some entity) : slashes entity = 0 := by
    rcases hentity with rfl | hentity
    · decide
    · obtain ⟨entity_type, -, rfl⟩ := Option.map_eq_some_iff.mp hentity
      exact slashes_hash hhost entity_type
  rw [r2_object_key_eq]
  constructor
  · rintro ⟨hsegments, entity, ext, hentity, hext, heq⟩
    rw [slashes_key hhost] at hsegments
    obtain ⟨hsame, hsame'⟩ := slashed_key_inj heq fun hpermanent => by
      rw [if_pos hpermanent] at hsegments
      exact ⟨by omega, hfree hentity⟩
    rw [hsame]
    exact ⟨hext, fun hpermanent => hsame' hpermanent ▸ hentity⟩
  · rintro ⟨hext, hentity⟩
    constructor
    case segments =>
      rw [slashes_key hhost, hext.slashes_eq]
      split_ifs with hpermanent
      · rw [hfree (hentity hpermanent)]
        rfl
      · rfl
    case hashed =>
      by_cases hpermanent : input.storage_class = "permanent"
      · exact ⟨_, _, hentity hpermanent, hext, rfl⟩
      · refine ⟨"unknown", _, Or.inl rfl, hext, ?_⟩
        rw [key_segments, key_segments, if_neg hpermanent, if_neg hpermanent]

end Clean

end rustzap.media
