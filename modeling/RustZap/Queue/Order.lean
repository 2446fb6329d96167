import RustZap.Lib.Ranking
import RustZap.Queue.Leases

open collections ranking runs
open rustzap.models rustzap.whatsapp

namespace rustzap.state

/-- The entries that a consumer has not processed, in the order in which the map yields them. -/
def pending (inner : StoreInner) (project_id company_id consumer_id : String) : List DirtyEntry :=
  inner.dirty.entries.filter (leasable inner project_id company_id consumer_id)

/-- The order of the queue, on the entries themselves. -/
def entry_before (a b : DirtyEntry) : Bool :=
  b.2.priority < a.2.priority || (a.2.priority = b.2.priority && a.2.available_at ≤ b.2.available_at)

/-- What a call shows of an entry. -/
structure ShownEntry where
  conversation_id : String
  max_seq : Int
  reason : String
  priority : Int
  available_at : OffsetDateTime
  deriving DecidableEq

def DirtyRecord.shown (dirty : DirtyRecord) : ShownEntry where
  conversation_id := dirty.conversation_id
  max_seq := dirty.max_seq
  reason := dirty.reason
  priority := dirty.priority
  available_at := dirty.available_at

/-- What an item shows next to the lease. -/
def shown_entry (item : DirtyConversationItem) : ShownEntry where
  conversation_id := item.conversation_id
  max_seq := item.max_seq
  reason := item.reason
  priority := item.priority
  available_at := item.available_at

/-- A call returns the first of the pending entries, as many as the limit takes, in an
arrangement of all of them that follows the order of the queue. -/
def LeasesFirst (ctx : Ctx) (inner : StoreInner) (project_id company_id consumer_id : String) (limit : Nat) :
    Prop :=
  ∃ arranged : List DirtyEntry, arranged.Perm (pending inner project_id company_id consumer_id) ∧
    arranged.Pairwise (fun a b => entry_before a b = true) ∧
    (list_dirty ctx inner project_id company_id consumer_id limit).1.map shown_entry =
      (arranged.take limit).map fun entry => entry.2.shown

theorem entry_before_iff {a b : DirtyEntry} : entry_before a b = true ↔
    b.2.priority < a.2.priority ∨ a.2.priority = b.2.priority ∧ a.2.available_at ≤ b.2.available_at := by
  simp only [entry_before, Bool.or_eq_true, Bool.and_eq_true, decide_eq_true_eq]

theorem entry_before_preference : Preference entry_before := by
  constructor
  · intro a b
    rw [entry_before_iff, entry_before_iff]
    rcases lt_trichotomy a.2.priority b.2.priority with hlt | heq | hgt
    · exact Or.inr (Or.inl hlt)
    · rcases le_total a.2.available_at b.2.available_at with hle | hle
      · exact Or.inl (Or.inr ⟨heq, hle⟩)
      · exact Or.inr (Or.inr ⟨heq.symm, hle⟩)
    · exact Or.inl (Or.inl hgt)
  · intro a b c hab hbc
    rw [entry_before_iff] at hab hbc ⊢
    rcases hab with hab | ⟨hab, hle⟩
    · rcases hbc with hbc | ⟨hbc, -⟩
      · exact Or.inl (hbc.trans hab)
      · exact Or.inl (hbc ▸ hab)
    · rcases hbc with hbc | ⟨hbc, hle'⟩
      · exact Or.inl (hab ▸ hbc)
      · exact Or.inr ⟨hab.trans hbc, hle.trans hle'⟩

/-- The loop takes the first entries that it wants, at least one if there is one. -/
theorem leased_entries_eq (wanted : DirtyEntry → Bool) (limit : Nat) (entries : List DirtyEntry) :
    ∀ taken, leased_entries wanted limit taken entries = (entries.filter wanted).take (max (limit - taken) 1) := by
  induction entries with
  | nil =>
    intro taken
    rw [List.filter_nil, List.take_nil]
    rfl
  | cons entry entries ih =>
    intro taken
    rw [leased_entries]
    by_cases hwanted : wanted entry = true
    · rw [if_pos hwanted, List.filter_cons_of_pos hwanted]
      split
      · next hfull =>
        have hone : max (limit - taken) 1 = 1 := by omega
        rw [hone]
        rfl
      · next hroom =>
        have hmore : max (limit - taken) 1 = max (limit - (taken + 1)) 1 + 1 := by omega
        rw [hmore, List.take_succ_cons, ih]
    · rw [if_neg hwanted, List.filter_cons_of_neg hwanted, ih]

section Order

variable {ctx : Ctx} {inner : StoreInner} {project_id company_id consumer_id : String} {limit : Nat}

theorem leased_eq (hlimit : 1 ≤ limit) : leased inner project_id company_id consumer_id limit =
    (pending inner project_id company_id consumer_id).take limit := by
  rw [leased, leased_entries_eq, Nat.sub_zero, Nat.max_eq_left hlimit]
  rfl

/-- The items are the leased entries, put in order. -/
theorem list_dirty_shown : ∃ front : List DirtyEntry,
    front.Perm (leased inner project_id company_id consumer_id limit) ∧
    front.Pairwise (fun a b => entry_before a b = true) ∧
    (list_dirty ctx inner project_id company_id consumer_id limit).1.map shown_entry =
      front.map (fun entry => entry.2.shown) := by
  obtain ⟨pairs, hpairs⟩ : ∃ pairs, pairs = (leased inner project_id company_id consumer_id limit).zipIdx := ⟨_, rfl⟩
  have hmap : (sort_by (fun a b : DirtyEntry × Nat => entry_before a.1 b.1) pairs).map
      (fun pair => dirty_item ctx pair.1 pair.2) =
      sort_by item_before (pairs.map fun pair => dirty_item ctx pair.1 pair.2) :=
    List.map_insertionSort _ _ _ _ fun _ _ _ _ => Iff.rfl
  refine ⟨(sort_by (fun a b : DirtyEntry × Nat => entry_before a.1 b.1) pairs).map Prod.fst, ?_, ?_, ?_⟩
  · refine ((sort_by_perm _ _).map _).trans ?_
    rw [hpairs, List.zipIdx_map_fst]
  · refine List.pairwise_map.mpr ?_
    have hpreference : Preference fun a b : DirtyEntry × Nat => entry_before a.1 b.1 :=
      ⟨fun a b => entry_before_preference.total a.1 b.1, fun a b c => entry_before_preference.trans a.1 b.1 c.1⟩
    exact hpreference.sorted pairs
  · rw [list_dirty]
    dsimp only
    rw [← hpairs, ← hmap, List.map_map, List.map_map]
    rfl

theorem pending_nodup : (pending inner project_id company_id consumer_id).Nodup :=
  inner.dirty.nodupKeys.nodup.filter _

/-- What is shown of two pending entries tells them apart. -/
theorem pending_shown_inj (hkeyed : DirtyKeyed inner.dirty) {a b : DirtyEntry}
    (ha : a ∈ pending inner project_id company_id consumer_id)
    (hb : b ∈ pending inner project_id company_id consumer_id) (hshown : a.2.shown = b.2.shown) : a = b := by
  have hkey : ∀ {entry : DirtyEntry}, entry ∈ pending inner project_id company_id consumer_id →
      inner.dirty.lookup entry.1 = some entry.2 ∧ entry.1 = (project_id, company_id, entry.2.conversation_id) := by
    intro entry hentry
    obtain ⟨hmem, hleasable⟩ := List.mem_filter.mp hentry
    have hlookup := HashMap.lookup_eq_some_iff.mpr hmem
    simp only [leasable, Bool.and_eq_true, decide_eq_true_eq] at hleasable
    obtain ⟨⟨hproject, hcompany⟩, -⟩ := hleasable
    refine ⟨hlookup, ?_⟩
    rw [hkeyed _ _ hlookup, ← hproject, ← hcompany]
  obtain ⟨hlookup_a, hkey_a⟩ := hkey ha
  obtain ⟨hlookup_b, hkey_b⟩ := hkey hb
  have hconversation : a.2.conversation_id = b.2.conversation_id := congrArg ShownEntry.conversation_id hshown
  have hsame : a.1 = b.1 := by rw [hkey_a, hkey_b, hconversation]
  rw [hsame, hlookup_b] at hlookup_a
  exact Sigma.ext hsame (heq_of_eq (Option.some.inj hlookup_a).symm)

/-- The call shows the first entries if and only if the loop takes the first entries. -/
theorem leases_first_iff (hkeyed : DirtyKeyed inner.dirty) (hlimit : 1 ≤ limit) :
    LeasesFirst ctx inner project_id company_id consumer_id limit ↔
      AreFirst entry_before limit (pending inner project_id company_id consumer_id)
        ((pending inner project_id company_id consumer_id).take limit) := by
  obtain ⟨front, hfront, hsorted, hshown⟩ :=
    @list_dirty_shown ctx inner project_id company_id consumer_id limit
  rw [leased_eq hlimit] at hfront
  rw [LeasesFirst, hshown]
  constructor
  · rintro ⟨arranged, hperm, harranged, hsame⟩
    refine ⟨arranged, hperm, harranged, ?_⟩
    have hmem_front : ∀ {entry}, entry ∈ front → entry ∈ pending inner project_id company_id consumer_id :=
      fun hentry => List.mem_of_mem_take (hfront.mem_iff.mp hentry)
    have hmem_arranged : ∀ {entry}, entry ∈ arranged.take limit →
        entry ∈ pending inner project_id company_id consumer_id :=
      fun hentry => hperm.mem_iff.mp (List.mem_of_mem_take hentry)
    have hnodup : (arranged.take limit).Nodup :=
      (hperm.nodup_iff.mpr pending_nodup).sublist (List.take_sublist _ _)
    have hnodup_front : front.Nodup :=
      hfront.nodup_iff.mpr (pending_nodup.sublist (List.take_sublist _ _))
    refine ((List.perm_ext_iff_of_nodup hnodup hnodup_front).mpr fun entry => ?_).trans hfront
    constructor
    · intro hentry
      have hentry_shown := List.mem_map_of_mem (f := fun entry : DirtyEntry => entry.2.shown) hentry
      rw [← hsame] at hentry_shown
      obtain ⟨other, hother, heq⟩ := List.mem_map.mp hentry_shown
      rwa [← pending_shown_inj hkeyed (hmem_front hother) (hmem_arranged hentry) heq]
    · intro hentry
      have hentry_shown := List.mem_map_of_mem (f := fun entry : DirtyEntry => entry.2.shown) hentry
      rw [hsame] at hentry_shown
      obtain ⟨other, hother, heq⟩ := List.mem_map.mp hentry_shown
      rwa [← pending_shown_inj hkeyed (hmem_arranged hother) (hmem_front hentry) heq]
  · intro hfirst
    obtain ⟨arranged, hperm, harranged, htake⟩ := hfirst.arranged hfront hsorted
    exact ⟨arranged, hperm, harranged, by rw [htake]⟩

/-- In another order of the map the same entries are pending. -/
theorem pending_reordered {inner' : StoreInner} (h : inner.Reordered inner') :
    (pending inner' project_id company_id consumer_id).Perm (pending inner project_id company_id consumer_id) := by
  have hleasable : leasable inner' project_id company_id consumer_id =
      leasable inner project_id company_id consumer_id := by
    funext entry
    rw [leasable, leasable, processed_until, processed_until, h.consumer_state.lookup]
  rw [pending, pending, hleasable]
  exact (HashMap.Reordered.symm h.dirty).filter _

/-- A map may yield the pending entries in any order. -/
theorem exists_reordered {met : List DirtyEntry}
    (hmet : met.Perm (pending inner project_id company_id consumer_id)) :
    ∃ inner', inner.Reordered inner' ∧ pending inner' project_id company_id consumer_id = met := by
  obtain ⟨others, hothers⟩ : ∃ others, others = inner.dirty.entries.filter fun entry =>
    !leasable inner project_id company_id consumer_id entry := ⟨_, rfl⟩
  have hperm : (met ++ others).Perm inner.dirty.entries := by
    rw [hothers]
    exact (hmet.append_right _).trans (List.filter_append_perm _ _)
  have hkeys : (met ++ others).NodupKeys := (List.perm_nodupKeys hperm).mpr inner.dirty.nodupKeys
  refine ⟨{ inner with dirty := ⟨met ++ others, hkeys⟩ },
    { StoreInner.Reordered.refl inner with dirty := hperm.symm }, ?_⟩
  have hmet_all : met.filter (leasable inner project_id company_id consumer_id) = met :=
    List.filter_eq_self.mpr fun entry hentry => (List.mem_filter.mp (hmet.mem_iff.mp hentry)).2
  have hothers_none : others.filter (leasable inner project_id company_id consumer_id) = [] := by
    refine List.filter_eq_nil_iff.mpr fun entry hentry => ?_
    rw [hothers] at hentry
    exact (Bool.not_eq_true' _).mp (List.mem_filter.mp hentry).2 ▸ Bool.false_ne_true
  have hfilter : (met ++ others).filter (leasable inner project_id company_id consumer_id) = met := by
    rw [List.filter_append, hmet_all, hothers_none, List.append_nil]
  exact hfilter

theorem leases_first_of_every_order_iff (hkeyed : DirtyKeyed inner.dirty) (hlimit : 1 ≤ limit) :
    (∀ inner', inner.Reordered inner' → LeasesFirst ctx inner' project_id company_id consumer_id limit) ↔
      ∀ met : List DirtyEntry, met.Perm (pending inner project_id company_id consumer_id) →
        AreFirst entry_before limit (pending inner project_id company_id consumer_id) (met.take limit) := by
  have hkeyed' : ∀ {inner'}, inner.Reordered inner' → DirtyKeyed inner'.dirty := by
    intro inner' hreordered key record hrecord
    rw [← hreordered.dirty.lookup] at hrecord
    exact hkeyed key record hrecord
  constructor
  · intro hleases met hmet
    obtain ⟨inner', hreordered, rfl⟩ := exists_reordered hmet
    exact ((leases_first_iff (hkeyed' hreordered) hlimit).mp (hleases inner' hreordered)).perm hmet
  · intro hfirst inner' hreordered
    refine (leases_first_iff (hkeyed' hreordered) hlimit).mpr ?_
    exact (hfirst _ (pending_reordered hreordered)).perm (pending_reordered hreordered).symm

/-- Under a limit of zero a call returns an entry nevertheless, unless none is pending. -/
theorem leases_first_zero_iff : LeasesFirst ctx inner project_id company_id consumer_id 0 ↔
    pending inner project_id company_id consumer_id = [] := by
  obtain ⟨front, hfront, hsorted, hshown⟩ := @list_dirty_shown ctx inner project_id company_id consumer_id 0
  rw [leased, leased_entries_eq] at hfront
  rw [LeasesFirst, hshown]
  constructor
  · rintro ⟨arranged, -, -, hsame⟩
    rw [List.take_zero, List.map_nil, List.map_eq_nil_iff] at hsame
    rw [hsame] at hfront
    have hnone := List.take_eq_nil_iff.mp (List.nil_perm.mp hfront)
    exact hnone.resolve_left (by decide)
  · intro hnone
    refine ⟨[], by rw [hnone], List.Pairwise.nil, ?_⟩
    have hempty : front = [] := by
      refine List.perm_nil.mp (hfront.trans (List.Perm.of_eq ?_))
      exact List.take_eq_nil_iff.mpr (Or.inr hnone)
    rw [hempty]
    rfl

end Order

/-- Whatever the order is in which the map yields its entries, a call returns the first
pending entries of the queue's order: that is so if and only if the limit takes all of them or
none of them comes before another. The loop stops at the limit, and only then are the items put
in order. -/
theorem leasing_order_iff (ctx : Ctx) (store : Store) (project_id company_id consumer_id : String) (limit : Nat) :
    (∀ inner, store.inner.Reordered inner → LeasesFirst ctx inner project_id company_id consumer_id limit) ↔
      (pending store.inner project_id company_id consumer_id).length ≤ limit ∨
        1 ≤ limit ∧ ∀ a ∈ pending store.inner project_id company_id consumer_id,
          ∀ b ∈ pending store.inner project_id company_id consumer_id,
            a.2.priority = b.2.priority ∧ a.2.available_at = b.2.available_at := by
  rcases Nat.eq_zero_or_pos limit with rfl | hlimit
  · rw [Nat.le_zero, List.length_eq_zero_iff]
    constructor
    · intro hleases
      exact Or.inl (leases_first_zero_iff.mp (hleases _ (StoreInner.Reordered.refl _)))
    · rintro (hnone | ⟨hpos, -⟩) inner hreordered
      · refine leases_first_zero_iff.mpr (List.perm_nil.mp ?_)
        rw [← hnone]
        exact pending_reordered hreordered
      · exact absurd hpos (by decide)
  · rw [leases_first_of_every_order_iff store.keyed.dirty hlimit,
      first_met_are_first_iff entry_before_preference pending_nodup hlimit]
    refine or_congr Iff.rfl ⟨fun hbefore => ⟨hlimit, fun a ha b hb => ?_⟩, fun hsame a ha b hb => ?_⟩
    · have hab := entry_before_iff.mp (hbefore a ha b hb)
      have hba := entry_before_iff.mp (hbefore b hb a ha)
      rcases hab with hlt | ⟨hpriority, hle⟩
      · rcases hba with hlt' | ⟨hpriority, -⟩
        · exact absurd (hlt.trans hlt') (lt_irrefl _)
        · exact absurd (hpriority ▸ hlt) (lt_irrefl _)
      · rcases hba with hlt | ⟨-, hle'⟩
        · exact absurd (hpriority ▸ hlt) (lt_irrefl _)
        · exact ⟨hpriority, le_antisymm hle hle'⟩
    · obtain ⟨hpriority, hsame⟩ := hsame.2 a ha b hb
      exact entry_before_iff.mpr (Or.inr ⟨hpriority, hsame.le⟩)

namespace sample

/-- A text in another chat. -/
def other_text_event (wa_message_id : String) (second : Nat) : MessageEvent :=
  { text_event wa_message_id second false with
    chat_jid := "5511977776666@s.whatsapp.net", sender_jid := "5511977776666@s.whatsapp.net" }

/-- Two chats with one text each, and the map yields the later one first. -/
def two_waiting_chats : Store :=
  live Store.empty [(received.1, .store received.2),
    (ctx 2 "b", .store (.process_whatsapp_event company_a answers (.Message (other_text_event "3EB0B0" 2))))]

def waiting (conversation_id : String) (second : Nat) : DirtyEntry :=
  ⟨("acme", "company_a", conversation_id),
    { conversation_id, max_seq := 1, reason := "new_message", priority := 100
      available_at := Duration.seconds second, lease_token := none, locked_until := none }⟩

end sample

open sample in
/-- With a limit of one the chat that has waited longer is left out. -/
theorem later_chat_leased_first :
    ¬ LeasesFirst (ctx 3 "c") two_waiting_chats.inner "acme" "company_a" "bot" 1 := by
  intro hleases
  have hfirst := (leases_first_iff two_waiting_chats.keyed.dirty (by decide)).mp hleases
  have hbefore := hfirst.before_left_out (a := waiting "5511977776666@s.whatsapp.net" 2)
    (b := waiting "5511988887777@s.whatsapp.net" 1) (by decide) (by decide) (by decide)
  exact absurd hbefore (by decide)

end rustzap.state
