import RustZap.References.PublicIds

open collections runs

namespace rustzap.state

/-- A text that is no phone number: it has a character that numbers are not written with, and
it is no JID of a number. -/
structure IsOpaque (reference : String) : Prop where
  foreign : ∃ c ∈ reference.toList, str.is_ascii_digit c = false ∧ c ∉ ['+', ' ', '-', '(', ')', '.']
  no_jid : ∀ digits : String, (∀ c ∈ digits.toList, str.is_ascii_digit c = true) →
    reference ≠ digits ++ "@s.whatsapp.net"

/-- A reference is read as no phone number. Without an `@` it has no digit; with one it is no
JID of a phone number, or it is the JID of a number that leads to no conversation, and is then
its own resolution. -/
def KeptAsText (inner : StoreInner) (tenant : String × String) (trimmed : String) : Prop :=
  if '@' ∈ trimmed.toList then
    str.ends_with trimmed "@s.whatsapp.net" = true →
      (∀ c ∈ (str.first_piece trimmed '@').toList, str.is_ascii_digit c = true) →
      trimmed = phone_to_jid (str.first_piece trimmed '@') ∧
        ∀ jid, Linked tenant inner.contacts (str.first_piece trimmed '@') jid → ¬ HasConversation tenant inner jid
  else ∀ c ∈ trimmed.toList, str.is_ascii_digit c = false

section Opaque

variable {inner : StoreInner} {project_id company_id reference : String}

theorem at_sign_of_ends_with {jid : String} (h : str.ends_with jid "@s.whatsapp.net" = true) : '@' ∈ jid.toList := by
  rw [str.ends_with, List.isSuffixOf_iff_suffix] at h
  exact h.subset (by decide)

theorem at_sign_mem_phone_to_jid {digits : String} (h : ∃ c ∈ digits.toList, str.is_ascii_digit c = true) :
    '@' ∈ (phone_to_jid digits).toList := by
  obtain ⟨c, hmem, hdigit⟩ := h
  have hne : str.is_empty (str.ascii_digits digits) = false := by
    rw [str.is_empty, str.ascii_digits, String.toList_ofList, List.isEmpty_eq_false_iff]
    exact List.ne_nil_of_mem (List.mem_filter.mpr ⟨hmem, hdigit⟩)
  rw [phone_to_jid, hne, if_neg Bool.false_ne_true, String.toList_append]
  exact List.mem_append_right _ (by decide)

theorem conversation_id_for_phone_number_eq_none_iff {phone_number : String} :
    conversation_id_for_phone_number_inner inner project_id company_id phone_number = none ↔
      ∀ jid, Linked (project_id, company_id) inner.contacts phone_number jid →
        ¬ HasConversation (project_id, company_id) inner jid := by
  rw [conversation_id_for_phone_number_inner, ← linked_ids, List.find?_eq_none]
  simp only [str.mem_sort_dedup, mem_linked_ids, has_conversation_iff]

/-- A phone number resolves to the reference that it was read from only as the number's own
JID, where it leads to no conversation. -/
theorem resolved_number_eq_iff {trimmed phone_number : String}
    (hname : ¬ HasConversation (project_id, company_id) inner trimmed) :
    (conversation_id_for_phone_number_inner inner project_id company_id phone_number).getD
        (phone_to_jid phone_number) = trimmed ↔
      trimmed = phone_to_jid phone_number ∧ ∀ jid, Linked (project_id, company_id) inner.contacts phone_number jid →
        ¬ HasConversation (project_id, company_id) inner jid := by
  rw [← conversation_id_for_phone_number_eq_none_iff]
  cases hfound : conversation_id_for_phone_number_inner inner project_id company_id phone_number with
  | none => exact ⟨fun h => ⟨h.symm, rfl⟩, fun h => h.1.symm⟩
  | some jid =>
    refine iff_of_false ?_ fun h => by cases h.2
    rintro rfl
    exact hname (conversation_id_for_phone_number_iff.mp hfound).conversation

/-- A reference that names no conversation of the company is kept as it is if and only if it is
read as no phone number. Every other text is: its digits, whatever stands between them, make a
number. -/
theorem reference_kept_iff
    (hname : ¬ HasConversation (project_id, company_id) inner (str.trim reference)) :
    resolve_conversation_id_inner inner project_id company_id reference = str.trim reference ↔
      KeptAsText inner (project_id, company_id) (str.trim reference) := by
  rw [resolve_conversation_id_inner, if_neg (fun hfound => hname (has_conversation_iff.mp hfound))]
  generalize str.trim reference = trimmed at hname ⊢
  rw [KeptAsText]
  by_cases hat : '@' ∈ trimmed.toList
  · have hcontains : str.contains_char trimmed '@' = true := List.contains_iff_mem.mpr hat
    rw [if_pos hat, reference_phone_number, hcontains, Bool.not_true, if_neg Bool.false_ne_true, Option.or_none,
      phone_number_from_jid]
    by_cases hjid : str.ends_with trimmed "@s.whatsapp.net" = true ∧
        ∀ c ∈ (str.first_piece trimmed '@').toList, str.is_ascii_digit c = true
    · rw [if_pos (Bool.and_eq_true_iff.mpr ⟨hjid.1, List.all_eq_true.mpr hjid.2⟩)]
      dsimp only
      rw [resolved_number_eq_iff hname]
      exact ⟨fun h _ _ => h, fun h => h hjid.1 hjid.2⟩
    · rw [if_neg fun h => hjid ((Bool.and_eq_true_iff.mp h).imp id List.all_eq_true.mp)]
      exact iff_of_true rfl fun hends hdigits => absurd ⟨hends, hdigits⟩ hjid
  · have hcontains : str.contains_char trimmed '@' = false :=
      Bool.eq_false_iff.mpr fun h => hat (List.contains_iff_mem.mp h)
    have hends : str.ends_with trimmed "@s.whatsapp.net" = false :=
      Bool.eq_false_iff.mpr fun h => hat (at_sign_of_ends_with h)
    rw [if_neg hat, reference_phone_number, hcontains, Bool.not_false, if_pos rfl, phone_number_from_jid]
    rw [hends, Bool.false_and, if_neg Bool.false_ne_true, Option.none_or, phone_number_from_value]
    by_cases hdigit : ∃ c ∈ trimmed.toList, str.is_ascii_digit c = true
    · obtain ⟨c, hmem, hc⟩ := hdigit
      have hdigits : c ∈ (str.ascii_digits trimmed).toList := by
        rw [str.ascii_digits, String.toList_ofList]
        exact List.mem_filter.mpr ⟨hmem, hc⟩
      have hsome : str.is_empty (str.ascii_digits trimmed) = false :=
        List.isEmpty_eq_false_iff.mpr (List.ne_nil_of_mem hdigits)
      rw [hsome, if_neg Bool.false_ne_true]
      dsimp only
      rw [resolved_number_eq_iff hname]
      refine iff_of_false (fun h => hat ?_) fun hnone => ?_
      · rw [h.1]
        exact at_sign_mem_phone_to_jid ⟨c, hdigits, hc⟩
      · rw [hnone c hmem] at hc
        exact Bool.false_ne_true hc
    · have hnone : ∀ c ∈ trimmed.toList, str.is_ascii_digit c = false :=
        fun c hmem => Bool.eq_false_iff.mpr fun hc => hdigit ⟨c, hmem, hc⟩
      have hempty : str.is_empty (str.ascii_digits trimmed) = true := by
        rw [str.is_empty, str.ascii_digits, String.toList_ofList, List.isEmpty_iff]
        exact List.filter_eq_nil_iff.mpr fun c hmem => Bool.eq_false_iff.mp (hnone c hmem)
      rw [hempty, if_pos rfl]
      exact iff_of_true rfl hnone

namespace sample

/-- A store without conversations. -/
theorem no_conversation (reference : String) :
    ¬ HasConversation ("acme", "company_a") Store.empty.inner (str.trim reference) := by
  rintro ⟨conversation, hconversation, -⟩
  cases hconversation

end sample

/-- A reference that a client made up leads to the account of a stranger. -/
theorem opaque_reference_becomes_number :
    ¬ ∀ (self : AppState) (labels : List (Ctx × Operation)) (store : Store)
      (project_id company_id reference : String), Run (Store.Lives self) Store.empty labels store →
        IsOpaque reference → ¬ HasConversation (project_id, company_id) store.inner (str.trim reference) →
          resolve_conversation_id_inner store.inner project_id company_id reference = str.trim reference := by
  intro hclaim
  have hopaque : IsOpaque "conv_01a2" := by
    refine ⟨⟨'_', by decide, by decide, by decide⟩, fun digits _ heq => ?_⟩
    have hsuffix : "@s.whatsapp.net".toList <:+ "conv_01a2".toList := by
      rw [heq, String.toList_append]
      exact List.suffix_append _ _
    exact absurd hsuffix (by decide)
  have hkept := hclaim sample.service [] Store.empty "acme" "company_a" "conv_01a2" (.nil _) hopaque
    (sample.no_conversation _)
  have hnumber : resolve_conversation_id_inner Store.empty.inner "acme" "company_a" "conv_01a2" =
    "012@s.whatsapp.net" := by decide
  exact absurd (hnumber.symm.trans hkept) (by decide)

theorem opaque_reference_kept :
    resolve_conversation_id_inner Store.empty.inner "acme" "company_a" "conv_main" = "conv_main" := by
  have hkept : KeptAsText Store.empty.inner ("acme", "company_a") (str.trim "conv_main") := by
    have hdigits : (str.trim "conv_main").toList.all (fun c => !str.is_ascii_digit c) = true := by decide
    rw [KeptAsText, if_neg (by decide)]
    intro c hc
    exact (Bool.not_eq_true' _).mp (List.all_eq_true.mp hdigits c hc)
  exact (reference_kept_iff (sample.no_conversation _)).mpr hkept

end Opaque

end rustzap.state
