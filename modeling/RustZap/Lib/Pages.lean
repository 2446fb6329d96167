import Mathlib.Data.List.Basic

namespace pages

variable {C L P A : Type*}

/-- The pages that a client reads from a cursor on, each with a limit that it asks for: it
follows the cursors of the pages until one has none. -/
inductive Read (fetch : C → L → Option P) (next_cursor : P → Option C) : C → List L → List P → Prop
  | last {cursor : C} {limit : L} {page : P} :
      fetch cursor limit = some page → next_cursor page = none → Read fetch next_cursor cursor [limit] [page]
  | more {cursor next : C} {limit : L} {page : P} {limits : List L} {rest : List P} :
      fetch cursor limit = some page → next_cursor page = some next → Read fetch next_cursor next limits rest →
      Read fetch next_cursor cursor (limit :: limits) (page :: rest)

/-- Pages that are cut off one after the other. There is a page for every valid cursor; it
holds what there is from the cursor on, up to the size that its limit stands for, and has a
cursor, itself valid, for what there is behind it, if that is anything. -/
structure Exact (fetch : C → L → Option P) (next_cursor : P → Option C) (items : P → List A) (size : L → Nat)
    (valid : C → Prop) (rest : C → List A) : Prop where
  fetched : ∀ cursor limit, valid cursor → 1 ≤ size limit → ∃ page, fetch cursor limit = some page ∧
    items page = (rest cursor).take (size limit) ∧ (next_cursor page = none ↔ (rest cursor).length ≤ size limit) ∧
    ∀ next, next_cursor page = some next → valid next ∧ rest next = (rest cursor).drop (size limit)

namespace Exact

variable {fetch : C → L → Option P} {next_cursor : P → Option C} {items : P → List A} {size : L → Nat}
  {valid : C → Prop} {rest : C → List A}

theorem of_fetch (h : Exact fetch next_cursor items size valid rest) {cursor : C} {limit : L} {page : P}
    (hvalid : valid cursor) (hsize : 1 ≤ size limit) (hfetch : fetch cursor limit = some page) :
    items page = (rest cursor).take (size limit) ∧ (next_cursor page = none ↔ (rest cursor).length ≤ size limit) ∧
      ∀ next, next_cursor page = some next → valid next ∧ rest next = (rest cursor).drop (size limit) := by
  obtain ⟨fetched, hfetched, hpage⟩ := h.fetched cursor limit hvalid hsize
  cases hfetch.symm.trans hfetched
  exact hpage

/-- All pages together are what there is from the first cursor on. -/
theorem items_of_read (h : Exact fetch next_cursor items size valid rest) {cursor : C} {limits : List L}
    {read : List P} (hread : Read fetch next_cursor cursor limits read) (hvalid : valid cursor)
    (hsizes : ∀ limit ∈ limits, 1 ≤ size limit) : read.flatMap items = rest cursor := by
  induction hread with
  | last hfetch hlast =>
    obtain ⟨hitems, hnone, -⟩ := h.of_fetch hvalid (hsizes _ List.mem_cons_self) hfetch
    rw [List.flatMap_singleton, hitems]
    exact List.take_of_length_le (hnone.mp hlast)
  | more hfetch hnext _ ih =>
    obtain ⟨hitems, -, hfollows⟩ := h.of_fetch hvalid (hsizes _ List.mem_cons_self) hfetch
    obtain ⟨hvalid_next, hrest⟩ := hfollows _ hnext
    rw [List.flatMap_cons, ih hvalid_next fun limit hlimit => hsizes limit (List.mem_cons_of_mem _ hlimit), hitems,
      hrest, List.take_append_drop]

/-- A page has a next one if and only if something is missing after it. -/
theorem next_of_read (h : Exact fetch next_cursor items size valid rest) {cursor : C} {limits : List L}
    {read : List P} (hread : Read fetch next_cursor cursor limits read) (hvalid : valid cursor)
    (hsizes : ∀ limit ∈ limits, 1 ≤ size limit) : ∀ before page after, read = before ++ page :: after →
      (next_cursor page ≠ none ↔ ((before ++ [page]).flatMap items).length < (rest cursor).length) := by
  have hfirst : ∀ {cursor limit page}, valid cursor → 1 ≤ size limit → fetch cursor limit = some page →
      (next_cursor page ≠ none ↔ (items page).length < (rest cursor).length) := by
    intro cursor limit page hvalid hsize hfetch
    obtain ⟨hitems, hnone, -⟩ := h.of_fetch hvalid hsize hfetch
    rw [ne_eq, hnone, hitems, List.length_take]
    omega
  induction hread with
  | last hfetch hlast =>
    intro before page after hread
    cases before with
    | nil =>
      cases hread
      rw [List.nil_append, List.flatMap_singleton]
      exact hfirst hvalid (hsizes _ List.mem_cons_self) hfetch
    | cons first before => exact absurd (congrArg List.length hread) (by simp)
  | more hfetch hnext _ ih =>
    intro before page after hread
    have hsize := hsizes _ List.mem_cons_self
    cases before with
    | nil =>
      cases hread
      rw [List.nil_append, List.flatMap_singleton]
      exact hfirst hvalid hsize hfetch
    | cons first before =>
      cases hread
      obtain ⟨hitems, -, hfollows⟩ := h.of_fetch hvalid hsize hfetch
      obtain ⟨hvalid_next, hrest⟩ := hfollows _ hnext
      rw [ih hvalid_next (fun limit hlimit => hsizes limit (List.mem_cons_of_mem _ hlimit)) before page after rfl,
        List.cons_append, List.flatMap_cons, List.length_append, hitems, hrest, List.length_take, List.length_drop]
      omega

/-- Every reading comes to an end, whatever the limits are: each page but the last leaves
less behind it. -/
theorem read_ends (h : Exact fetch next_cursor items size valid rest) (cursor : C) (hvalid : valid cursor)
    (limits : Nat → L) (hsizes : ∀ i, 1 ≤ size (limits i)) :
    ∃ count read, Read fetch next_cursor cursor ((List.range count).map limits) read := by
  induction hlength : (rest cursor).length using Nat.strongRecOn generalizing cursor limits with
  | ind length ih =>
    obtain ⟨page, hfetch, hitems, hnone, hfollows⟩ := h.fetched cursor (limits 0) hvalid (hsizes 0)
    cases hnext : next_cursor page with
    | none => exact ⟨1, [page], .last hfetch hnext⟩
    | some next =>
      obtain ⟨hvalid_next, hrest⟩ := hfollows next hnext
      have hmore : ¬ (rest cursor).length ≤ size (limits 0) := by
        rw [← hnone, hnext]
        exact Option.some_ne_none next
      have hshorter : (rest next).length < length := by
        rw [hrest, List.length_drop, hlength]
        have := hsizes 0
        omega
      obtain ⟨count, read, hread⟩ := ih _ hshorter next hvalid_next (fun i => limits (i + 1)) (fun i => hsizes _) rfl
      refine ⟨count + 1, page :: read, ?_⟩
      rw [List.range_succ_eq_map, List.map_cons, List.map_map]
      exact .more hfetch hnext hread

end Exact

/-- In a list whose keys go up, what comes after the last of the first items is the rest. -/
theorem filter_after_take {items : List A} {key : A → Int} (hsorted : items.Pairwise fun a b => key a < key b)
    {count : Nat} {last : A} (hlast : (items.take count).getLast? = some last) :
    (items.filter fun item => key last < key item) = items.drop count := by
  obtain ⟨init, hinit⟩ := List.getLast?_eq_some_iff.mp hlast
  have hall : items = init ++ [last] ++ items.drop count := by
    rw [← hinit, List.take_append_drop]
  have hpairs := hsorted
  rw [hall] at hpairs
  obtain ⟨hbefore, -, hafter⟩ := List.pairwise_append.mp hpairs
  have hnone : ((items.take count).filter fun item => key last < key item) = [] := by
    refine List.filter_eq_nil_iff.mpr fun item hitem => ?_
    rw [decide_eq_true_eq, Int.not_lt]
    rw [hinit] at hitem
    rcases List.mem_append.mp hitem with hmem | hmem
    · exact Int.le_of_lt ((List.pairwise_append.mp hbefore).2.2 item hmem last List.mem_cons_self)
    · exact Int.le_of_eq (congrArg key (List.mem_singleton.mp hmem))
  have hrest : ((items.drop count).filter fun item => key last < key item) = items.drop count := by
    refine List.filter_eq_self.mpr fun item hitem => ?_
    rw [decide_eq_true_eq]
    exact hafter last (List.mem_append_right _ List.mem_cons_self) item hitem
  conv_lhs => rw [← List.take_append_drop count items, List.filter_append, hnone, hrest, List.nil_append]

end pages
