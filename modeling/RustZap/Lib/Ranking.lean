import Mathlib.Data.List.Sort

namespace ranking

variable {A : Type*} (before : A → A → Bool)

/-- A preference compares any two, and does so consistently. Neither of two may be preferred. -/
structure Preference : Prop where
  total : ∀ a b, before a b = true ∨ before b a = true
  trans : ∀ a b c, before a b = true → before b c = true → before a c = true

/-- What was chosen is as many of the first as the limit takes, in an arrangement of all that
follows the preference. -/
def AreFirst (limit : Nat) (all chosen : List A) : Prop :=
  ∃ arranged : List A, arranged.Perm all ∧ arranged.Pairwise (fun a b => before a b = true) ∧
    (arranged.take limit).Perm chosen

variable {before} {limit : Nat} {all chosen : List A}

theorem Preference.sorted (h : Preference before) (items : List A) :
    (items.insertionSort fun a b => before a b = true).Pairwise fun a b => before a b = true := by
  have htotal : Std.Total fun a b => before a b = true := ⟨h.total⟩
  have htrans : IsTrans A fun a b => before a b = true := ⟨h.trans⟩
  exact List.pairwise_insertionSort _ items

theorem AreFirst.perm (h : AreFirst before limit all chosen) {all' : List A} (hperm : all.Perm all') :
    AreFirst before limit all' chosen := by
  obtain ⟨arranged, harranged, hrest⟩ := h
  exact ⟨arranged, harranged.trans hperm, hrest⟩

/-- Nothing that is left out is preferred to something that was chosen. -/
theorem AreFirst.before_left_out (h : AreFirst before limit all chosen) {a b : A} (ha : a ∈ chosen) (hb : b ∈ all)
    (hout : b ∉ chosen) : before a b = true := by
  obtain ⟨arranged, hperm, hsorted, hchosen⟩ := h
  have hmem : b ∈ arranged.take limit ++ arranged.drop limit := by
    rw [List.take_append_drop]
    exact hperm.mem_iff.mpr hb
  have hdrop : b ∈ arranged.drop limit :=
    (List.mem_append.mp hmem).resolve_left fun htake => hout (hchosen.mem_iff.mp htake)
  rw [← List.take_append_drop limit arranged] at hsorted
  exact (List.pairwise_append.mp hsorted).2.2 a (hchosen.mem_iff.mpr ha) b hdrop

/-- Of the same first ones every arrangement will do. -/
theorem AreFirst.arranged (h : AreFirst before limit all chosen) {front : List A} (hfront : front.Perm chosen)
    (hsorted : front.Pairwise fun a b => before a b = true) :
    ∃ arranged : List A, arranged.Perm all ∧ arranged.Pairwise (fun a b => before a b = true) ∧
      arranged.take limit = front := by
  obtain ⟨arranged, hperm, harranged, hchosen⟩ := h
  have htake := hfront.trans hchosen.symm
  have hsplit := List.take_append_drop limit arranged
  refine ⟨front ++ arranged.drop limit, ?_, ?_, ?_⟩
  · refine ((htake.append_right _).trans ?_).trans hperm
    rw [hsplit]
  · rw [← hsplit] at harranged
    obtain ⟨-, hrest, hacross⟩ := List.pairwise_append.mp harranged
    refine List.pairwise_append.mpr ⟨hsorted, hrest, fun a ha b hb => ?_⟩
    exact hacross a (htake.mem_iff.mp ha) b hb
  · have hlength := htake.length_eq
    rw [List.length_take] at hlength
    by_cases hall : arranged.length ≤ limit
    · rw [List.drop_of_length_le hall, List.append_nil]
      exact List.take_of_length_le (by omega)
    · exact List.take_left' (by omega)

theorem exists_perm_first_last {a b : A} (ha : a ∈ all) (hb : b ∈ all) (hne : a ≠ b) :
    ∃ middle, (a :: middle ++ [b]).Perm all := by
  obtain ⟨before, after, rfl⟩ := List.append_of_mem ha
  have hrest : b ∈ before ++ after := by
    rcases List.mem_append.mp hb with hmem | hmem
    · exact List.mem_append_left _ hmem
    · exact List.mem_append_right _ ((List.mem_cons.mp hmem).resolve_left (Ne.symm hne))
  obtain ⟨before', after', hsplit⟩ := List.append_of_mem hrest
  refine ⟨before' ++ after', ?_⟩
  have hinner : (before' ++ after' ++ [b]).Perm (before ++ after) := by
    rw [hsplit, List.append_assoc]
    exact List.Perm.append_left _ (List.perm_append_singleton b after')
  exact (hinner.cons a).trans List.perm_middle.symm

/-- Whoever takes the first that it meets has the first by preference, whatever the order is
in which it meets them, if and only if it takes all of them or there is nothing to prefer. -/
theorem first_met_are_first_iff (hpreference : Preference before) (hnodup : all.Nodup) (hlimit : 1 ≤ limit) :
    (∀ met : List A, met.Perm all → AreFirst before limit all (met.take limit)) ↔
      all.length ≤ limit ∨ ∀ a ∈ all, ∀ b ∈ all, before a b = true := by
  constructor
  · intro hfirst
    by_contra hnot
    obtain ⟨hmore, hpreferred⟩ := not_or.mp hnot
    push Not at hpreferred
    obtain ⟨a, ha, b, hb, hnot_before⟩ := hpreferred
    have hne : a ≠ b := by
      rintro rfl
      exact hnot_before ((hpreference.total a a).elim id id)
    -- the one that is preferred is met last
    obtain ⟨middle, hperm⟩ := exists_perm_first_last ha hb hne
    have hfirst_a : a ∈ (a :: middle ++ [b]).take limit := by
      obtain ⟨limit, rfl⟩ := Nat.exists_eq_add_of_le' hlimit
      exact List.mem_cons_self
    have hout_b : b ∉ (a :: middle ++ [b]).take limit := by
      have hlength := hperm.length_eq
      rw [List.length_append, List.length_singleton] at hlength
      rw [List.take_append_of_le_length (by omega)]
      intro hmem
      have hdisjoint := (List.nodup_append.mp (hperm.nodup_iff.mpr hnodup)).2.2
      exact hdisjoint b (List.mem_of_mem_take hmem) b List.mem_cons_self rfl
    exact hnot_before ((hfirst _ hperm).before_left_out hfirst_a hb hout_b)
  · rintro hcase met hmet
    rcases hcase with hall | htie
    · refine ⟨_, List.perm_insertionSort _ _, hpreference.sorted all, ?_⟩
      rw [List.take_of_length_le (by rw [List.length_insertionSort]; exact hall),
        List.take_of_length_le (by rw [hmet.length_eq]; exact hall)]
      exact (List.perm_insertionSort _ _).trans hmet.symm
    · refine ⟨met, hmet, List.pairwise_of_forall_mem_list fun a ha b hb => ?_, List.Perm.refl _⟩
      exact htie a (hmet.mem_iff.mp ha) b (hmet.mem_iff.mp hb)

end ranking
