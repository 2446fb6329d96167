import RustZap.Lib.Decimal
import RustZap.Paging.Messages

open collections pages runs
open rustzap.error rustzap.models rustzap.state

namespace rustzap.models

/-- The parts of a query that a search reads. -/
structure PageQuery where
  limit : Option Nat := none
  cursor : Option String := none
  q : Option String := none
  deriving DecidableEq

/-- `PageQuery::limit`. -/
def PageQuery.page_limit (query : PageQuery) : Nat :=
  max 1 (min 500 (query.limit.getD 50))

theorem PageQuery.page_limit_pos (query : PageQuery) : 1 ≤ query.page_limit :=
  Nat.le_max_left _ _

theorem PageQuery.page_limit_le (query : PageQuery) : query.page_limit ≤ 500 := by
  rw [PageQuery.page_limit]
  omega

end rustzap.models

namespace rustzap.state

def search_messages_for_conversation (to_lowercase : String → String) (inner : StoreInner)
    (conversation_id query : String) (limit : Nat) : List Message :=
  let needle := to_lowercase (str.trim query)
  let messages := (((inner.messages_by_conversation.lookup conversation_id).getD []).filter fun message =>
    str.is_empty needle || str.contains (to_lowercase (message.text.getD "")) needle).take limit
  sort_by (fun a b => a.conversation_seq ≤ b.conversation_seq) messages

def search_messages_for_project_conversation (to_lowercase : String → String) (inner : StoreInner)
    (project_id company_id conversation_id query : String) (limit : Nat) : ApiResult (List Message) :=
  match conversation inner project_id company_id conversation_id with
  | .error err => .error err
  | .ok conversation =>
    let public_id := public_conversation_id conversation
    .ok ((search_messages_for_conversation to_lowercase inner conversation.id query limit).map fun message =>
      { message with conversation_id := public_id })

end rustzap.state

namespace rustzap.routes

def MAX_SEARCH_WINDOW : Nat := 5000

/-- `usize` has 64 bits. -/
def usize_bits : Nat := 64

def saturating_add (a b : Nat) : Nat :=
  min (a + b) (2 ^ usize_bits - 1)

def page_offset (query : PageQuery) : ApiResult Nat :=
  match (query.cursor.map str.trim).filter fun cursor => !str.is_empty cursor with
  | none => .ok 0
  | some cursor =>
    match str.parse_unsigned usize_bits cursor with
    | some offset => .ok offset
    | none => .error (.BadRequest "cursor must be a non-negative offset")

def bounded_search_limit (query : PageQuery) : ApiResult Nat :=
  match page_offset query with
  | .error err => .error err
  | .ok offset =>
    if offset ≥ MAX_SEARCH_WINDOW then
      .error (.BadRequest ("cursor must be below " ++ MAX_SEARCH_WINDOW.repr ++ " for search"))
    else .ok (min (saturating_add (saturating_add offset query.page_limit) 1) MAX_SEARCH_WINDOW)

/-- The body of a response that shows a part of a list. -/
structure ItemsPage (T : Type) where
  items : List T
  next_cursor : Option String
  has_more : Bool
  total : Nat
  deriving DecidableEq

def paginated_items {T : Type} (items : List T) (query : PageQuery) : ApiResult (ItemsPage T) :=
  let limit := query.page_limit
  match page_offset query with
  | .error err => .error err
  | .ok offset =>
    let page := (items.drop offset).take limit
    let next_index := saturating_add offset page.length
    let has_more := decide (next_index < items.length)
    .ok { items := page, next_cursor := if has_more then some next_index.repr else none, has_more
          total := items.length }

def ItemsPage.map {T U : Type} (f : T → U) (page : ItemsPage T) : ItemsPage U :=
  { items := page.items.map f, next_cursor := page.next_cursor, has_more := page.has_more, total := page.total }

theorem paginated_items_map {T U : Type} (f : T → U) (items : List T) (query : PageQuery) :
    paginated_items (items.map f) query = (paginated_items items query).map (ItemsPage.map f) := by
  rw [paginated_items, paginated_items]
  cases page_offset query with
  | error err => rfl
  | ok offset =>
    dsimp only
    rw [List.length_map, ← List.map_drop, ← List.map_take, List.length_map]
    rfl

/-- The handler, once the request is authorized. -/
def search_messages (to_lowercase : String → String) (inner : StoreInner)
    (project_id company_id conversation_id : String) (query : PageQuery) : ApiResult (ItemsPage Message) :=
  let needle := query.q.getD ""
  match bounded_search_limit query with
  | .error err => .error err
  | .ok search_limit =>
    match search_messages_for_project_conversation to_lowercase inner project_id company_id conversation_id needle
      search_limit with
    | .error err => .error err
    | .ok items => paginated_items items query

/-- The messages of a conversation that a search finds, however many they are. -/
def matching (to_lowercase : String → String) (inner : StoreInner) (conversation_id query : String) :
    List Message :=
  let needle := to_lowercase (str.trim query)
  ((inner.messages_by_conversation.lookup conversation_id).getD []).filter fun message =>
    str.is_empty needle || str.contains (to_lowercase (message.text.getD "")) needle

/-- The messages among which a search pages. -/
def search_window (to_lowercase : String → String) (inner : StoreInner) (conversation_id query : String) :
    List Message :=
  (matching to_lowercase inner conversation_id query).take MAX_SEARCH_WINDOW

/-- A page of a search in a conversation, of one cursor and one limit. -/
def search_page (to_lowercase : String → String) (inner : StoreInner) (conversation_id q : String)
    (cursor : Option String) (limit : Option Nat) : Option (ItemsPage Message) :=
  let query : PageQuery := { limit, cursor, q := some q }
  match bounded_search_limit query with
  | .error _ => none
  | .ok search_limit =>
    (paginated_items
      (search_messages_for_conversation to_lowercase inner conversation_id q search_limit) query).toOption

/-- Where a client reads on: it sends the cursor that it was given, as long as there is more. -/
def ItemsPage.next (page : ItemsPage Message) : Option (Option String) :=
  if page.has_more then some page.next_cursor else none

theorem ItemsPage.next_eq_none_iff (page : ItemsPage Message) : page.next = none ↔ ¬ page.has_more = true := by
  rw [ItemsPage.next]
  split
  · next hmore => exact iff_of_false (Option.some_ne_none _) (not_not_intro hmore)
  · next hmore => exact iff_of_true rfl hmore

section Search

variable {to_lowercase : String → String} {inner : StoreInner} {conversation_id q : String}

theorem saturating_add_of_lt {a b : Nat} (h : a + b < 2 ^ usize_bits) : saturating_add a b = a + b := by
  rw [saturating_add]
  omega

/-- A cursor that a page names is read as the offset that was written into it. -/
theorem page_offset_repr {query : PageQuery} {offset : Nat} (hcursor : query.cursor = some offset.repr)
    (hoffset : offset < 2 ^ usize_bits) : page_offset query = .ok offset := by
  have hempty : str.is_empty offset.repr = false := List.isEmpty_eq_false_iff.mpr (str.repr_ne_empty offset)
  rw [page_offset, hcursor, Option.map_some, str.trim_repr, Option.filter_some, hempty, Bool.not_false, if_pos rfl]
  dsimp only
  rw [str.parse_unsigned_repr hoffset]

theorem bounded_search_limit_eq {query : PageQuery} {offset : Nat} (hoffset : page_offset query = .ok offset)
    (hwindow : offset < MAX_SEARCH_WINDOW) :
    bounded_search_limit query = .ok (min (offset + query.page_limit + 1) MAX_SEARCH_WINDOW) := by
  have hlimit := query.page_limit_le
  have hsum : offset + query.page_limit + 1 < 2 ^ usize_bits := by
    rw [MAX_SEARCH_WINDOW] at hwindow
    rw [usize_bits]
    omega
  rw [bounded_search_limit, hoffset]
  dsimp only
  rw [if_neg (Nat.not_le.mpr hwindow), saturating_add_of_lt (Nat.lt_of_succ_lt hsum), saturating_add_of_lt hsum]

/-- The search finds the first of the matching messages; the sort changes nothing. -/
theorem search_messages_for_conversation_eq (hlisted : ListInOrder inner conversation_id) (limit : Nat) :
    search_messages_for_conversation to_lowercase inner conversation_id q limit =
      (matching to_lowercase inner conversation_id q).take limit := by
  refine List.Pairwise.insertionSort_eq ?_
  refine ((hlisted.filter _).sublist (List.take_sublist _ _)).imp fun hlt => ?_
  exact decide_eq_true (Int.le_of_lt hlt)

/-- The handler shows the pages of the conversation's search, with its public id. -/
theorem search_messages_eq {project_id company_id reference : String} {found : Conversation}
    (hfound : conversation inner project_id company_id reference = .ok found) (cursor : Option String)
    (limit : Option Nat) :
    (search_messages to_lowercase inner project_id company_id reference { limit, cursor, q := some q }).toOption =
      (search_page to_lowercase inner found.id q cursor limit).map
        (ItemsPage.map fun message => { message with conversation_id := public_conversation_id found }) := by
  rw [search_messages, search_page]
  dsimp only [Option.getD_some]
  cases bounded_search_limit { limit, cursor, q := some q } with
  | error err => rfl
  | ok search_limit =>
    dsimp only
    rw [search_messages_for_project_conversation, hfound]
    dsimp only
    rw [paginated_items_map]
    cases paginated_items (search_messages_for_conversation to_lowercase inner found.id q search_limit)
      { limit, cursor, q := some q } <;> rfl

/-- What is behind a cursor. -/
def behind (to_lowercase : String → String) (inner : StoreInner) (conversation_id q : String)
    (cursor : Option String) : List Message :=
  match page_offset { cursor } with
  | .error _ => []
  | .ok offset => (search_window to_lowercase inner conversation_id q).drop offset

/-- Whether there is more behind a page does not depend on how far the search looked beyond it. -/
theorem more_behind_page {offset size window total : Nat} (htotal : total ≤ window) :
    offset + min size (min (min (offset + size + 1) window) total - offset) <
      min (min (offset + size + 1) window) total ↔ offset + size < total := by
  omega

/-- The truncation of a search does not show in the page that is cut from it, nor in whether
there is more behind the page. -/
theorem search_page_eq (hlisted : ListInOrder inner conversation_id) {cursor : Option String} {limit : Option Nat}
    {offset : Nat} (hoffset : page_offset { cursor } = .ok offset) (hwindow : offset < MAX_SEARCH_WINDOW) :
    ∃ page size, size = ({ limit } : PageQuery).page_limit ∧
      search_page to_lowercase inner conversation_id q cursor limit = some page ∧
      page.items = ((search_window to_lowercase inner conversation_id q).drop offset).take size ∧
      page.has_more = decide (offset + size < (search_window to_lowercase inner conversation_id q).length) ∧
      (page.has_more = true → page.next_cursor = some (offset + size).repr) := by
  have hsame : page_offset { limit, cursor, q := some q } = .ok offset := hoffset
  obtain ⟨size, hsize⟩ : ∃ size, size = ({ limit, cursor, q := some q } : PageQuery).page_limit := ⟨_, rfl⟩
  have hsize_le : size ≤ 500 := hsize ▸ PageQuery.page_limit_le _
  obtain ⟨found, hfound⟩ : ∃ found, found = (matching to_lowercase inner conversation_id q).take
    (min (offset + size + 1) MAX_SEARCH_WINDOW) := ⟨_, rfl⟩
  have hpage : search_page to_lowercase inner conversation_id q cursor limit =
      (paginated_items found { limit, cursor, q := some q }).toOption := by
    rw [search_page, bounded_search_limit_eq hsame hwindow, ← hsize]
    dsimp only
    rw [search_messages_for_conversation_eq hlisted, hfound]
  have hitems : (found.drop offset).take size =
      ((search_window to_lowercase inner conversation_id q).drop offset).take size := by
    rw [hfound, search_window, List.drop_take, List.drop_take, List.take_take, List.take_take]
    congr 1
    omega
  have htotal : found.length = min (min (offset + size + 1) MAX_SEARCH_WINDOW)
      (search_window to_lowercase inner conversation_id q).length := by
    rw [hfound, search_window, List.length_take, List.length_take]
    omega
  have hnext : saturating_add offset ((found.drop offset).take size).length =
      offset + min size (found.length - offset) := by
    rw [List.length_take, List.length_drop]
    refine saturating_add_of_lt ?_
    rw [MAX_SEARCH_WINDOW] at hwindow
    rw [usize_bits]
    omega
  have hmore : saturating_add offset ((found.drop offset).take size).length < found.length ↔
      offset + size < (search_window to_lowercase inner conversation_id q).length := by
    rw [hnext, htotal]
    exact more_behind_page (List.length_take_le _ _)
  obtain ⟨next_index, hindex⟩ : ∃ next_index, next_index =
    saturating_add offset ((found.drop offset).take size).length := ⟨_, rfl⟩
  rw [← hindex] at hnext hmore
  refine ⟨{ items := (found.drop offset).take size
            next_cursor := if decide (next_index < found.length) then some next_index.repr else none
            has_more := decide (next_index < found.length), total := found.length },
    size, hsize, ?_, hitems, decide_eq_decide.mpr hmore, ?_⟩
  · rw [hpage, paginated_items, hsame, ← hsize, hindex]
    rfl
  · intro hlt
    dsimp only at hlt ⊢
    rw [hlt, if_pos rfl, hnext]
    rw [decide_eq_true_eq] at hlt
    have hfull : min size (found.length - offset) = size := by omega
    rw [hfull]

theorem search_page_exact (hlisted : ListInOrder inner conversation_id) :
    Exact (search_page to_lowercase inner conversation_id q) ItemsPage.next ItemsPage.items
      (fun limit => ({ limit } : PageQuery).page_limit)
      (fun cursor => ∃ offset < MAX_SEARCH_WINDOW, page_offset { cursor } = .ok offset)
      (behind to_lowercase inner conversation_id q) := by
  constructor
  rintro cursor limit ⟨offset, hwindow, hoffset⟩ -
  obtain ⟨page, size, hsize, hpage, hitems, hmore, hcursor⟩ := search_page_eq (q := q) hlisted hoffset hwindow
  have hbehind : behind to_lowercase inner conversation_id q cursor =
      (search_window to_lowercase inner conversation_id q).drop offset := by
    rw [behind, hoffset]
  rw [← hsize, hbehind]
  refine ⟨page, hpage, hitems, ?_, ?_⟩
  · rw [ItemsPage.next_eq_none_iff, hmore, decide_eq_true_eq, List.length_drop]
    omega
  · intro next hnext
    obtain ⟨hlt, hnext⟩ := Option.ite_none_right_eq_some.mp hnext
    rw [← Option.some.inj hnext, hcursor hlt]
    rw [hmore, decide_eq_true_eq] at hlt
    have hle : (search_window to_lowercase inner conversation_id q).length ≤ MAX_SEARCH_WINDOW :=
      List.length_take_le _ _
    have hbits : MAX_SEARCH_WINDOW ≤ 2 ^ usize_bits := by decide
    have hoffset' : page_offset { cursor := some (offset + size).repr } = .ok (offset + size) :=
      page_offset_repr rfl (by omega)
    refine ⟨⟨offset + size, by omega, hoffset'⟩, ?_⟩
    rw [behind, hoffset', List.drop_drop]

theorem search_window_in_order (hlisted : ListInOrder inner conversation_id) :
    (search_window to_lowercase inner conversation_id q).Pairwise
      fun a b => a.conversation_seq < b.conversation_seq :=
  (hlisted.filter _).sublist (List.take_sublist _ _)

end Search

/-- In every state that the service reaches, a search that follows its cursors from the first
page on comes to an end whatever the limits are, and shows the first matching messages, as many
as the window takes, each once and in order; a page says that there is more if and only if some
of these are left. -/
theorem search_paging_exact (self : AppState) (to_lowercase : String → String) {labels : List (Ctx × Operation)}
    {store : Store} (hrun : Run (Store.Lives self) Store.empty labels store) (conversation_id q : String) :
    let window := (matching to_lowercase store.inner conversation_id q).take MAX_SEARCH_WINDOW
    window.Pairwise (fun a b => a.conversation_seq < b.conversation_seq) ∧
    (∀ limits : Nat → Option Nat, ∃ count read,
      pages.Read (search_page to_lowercase store.inner conversation_id q) ItemsPage.next none
        ((List.range count).map limits) read) ∧
    ∀ limits read, pages.Read (search_page to_lowercase store.inner conversation_id q) ItemsPage.next none limits read →
      read.flatMap ItemsPage.items = window ∧
      ∀ before page after, read = before ++ page :: after →
        (page.has_more = true ↔ ((before ++ [page]).flatMap ItemsPage.items).length < window.length) := by
  intro window
  have hlisted : ListInOrder store.inner conversation_id := (sequences_in_order hrun).listed_in_order
  have hexact := @search_page_exact to_lowercase _ conversation_id q hlisted
  have hvalid : ∃ offset < MAX_SEARCH_WINDOW, page_offset { cursor := none } = .ok offset := ⟨0, by decide, rfl⟩
  refine ⟨search_window_in_order hlisted, ?_, ?_⟩
  · intro limits
    exact hexact.read_ends none hvalid limits fun i => PageQuery.page_limit_pos _
  · intro limits read hread
    refine ⟨hexact.items_of_read hread hvalid fun _ _ => PageQuery.page_limit_pos _, ?_⟩
    intro before page after hsplit
    have hnext := hexact.next_of_read hread hvalid (fun _ _ => PageQuery.page_limit_pos _) before page after hsplit
    rw [ne_eq, ItemsPage.next_eq_none_iff, not_not] at hnext
    exact hnext

open rustzap.state.sample in
/-- A search for everything in a chat with two messages, on pages of one message. -/
theorem exchanged_search_exact : ∃ read,
    pages.Read (search_page str.to_ascii_lowercase exchanged.inner "5511988887777@s.whatsapp.net" "") ItemsPage.next none
      [some 1, some 1] read ∧
    read.flatMap ItemsPage.items =
      (matching str.to_ascii_lowercase exchanged.inner "5511988887777@s.whatsapp.net" "").take
        MAX_SEARCH_WINDOW := by
  have hrun := lives [(received.1, .store received.2), answer] Store.empty (by decide)
  have hlast : pages.Read (search_page str.to_ascii_lowercase exchanged.inner "5511988887777@s.whatsapp.net" "")
      ItemsPage.next (some "1") [some 1] _ := .last rfl (by decide)
  have hread : pages.Read (search_page str.to_ascii_lowercase exchanged.inner "5511988887777@s.whatsapp.net" "")
      ItemsPage.next none [some 1, some 1] _ := .more rfl (by decide) hlast
  exact ⟨_, hread, ((search_paging_exact service str.to_ascii_lowercase hrun _ _).2.2 _ _ hread).1⟩

end rustzap.routes
