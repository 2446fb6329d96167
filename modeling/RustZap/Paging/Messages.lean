import RustZap.Consistency.Sequences
import RustZap.Lib.Pages
import RustZap.State.Conversations

open collections pages runs
open rustzap.models

namespace rustzap.state

/-- Whether a message is behind the start of a read and before its end. -/
def in_range (after_seq before_seq : Option Int) (message : Message) : Bool :=
  (after_seq.all fun seq => message.conversation_seq > seq) &&
    before_seq.all fun seq => message.conversation_seq < seq

/-- The messages of a conversation that a read may show. -/
def readable (inner : StoreInner) (conversation_id : String) (after_seq before_seq : Option Int) :
    List Message :=
  ((inner.messages_by_conversation.lookup conversation_id).getD []).filter (in_range after_seq before_seq)

/-- The messages as the read shows them. -/
def shown_messages (self : AppState) (inner : StoreInner) (conversation_id : String)
    (before_seq after_seq : Option Int) : List Message :=
  (readable inner conversation_id after_seq before_seq).map (normalize_message_media_urls self)

/-- A page of one limit after another, as `list_messages` gives it. -/
def messages_page (self : AppState) (inner : StoreInner) (conversation_id : String)
    (before_seq after_seq : Option Int) (limit : Nat) : Option MessagesPage :=
  some (list_messages self inner conversation_id after_seq before_seq limit)

/-- Where a client reads on: after the last message of the page, if there is more. -/
def next_after_seq (page : MessagesPage) : Option (Option Int) :=
  if page.has_more then some page.to_seq else none

/-- The list of a conversation has no sequence number twice and none before a smaller one. -/
def ListInOrder (inner : StoreInner) (conversation_id : String) : Prop :=
  ((inner.messages_by_conversation.lookup conversation_id).getD []).Pairwise
    fun a b => a.conversation_seq < b.conversation_seq

section Pages

variable {self : AppState} {inner : StoreInner} {conversation_id : String} {after_seq before_seq : Option Int}
  {limit : Nat}

theorem in_range_iff {message : Message} : in_range after_seq before_seq message = true ↔
    (∀ seq ∈ after_seq, seq < message.conversation_seq) ∧ ∀ seq ∈ before_seq, message.conversation_seq < seq := by
  rw [in_range, Bool.and_eq_true, Option.all_eq_true, Option.all_eq_true]
  simp only [decide_eq_true_eq, gt_iff_lt, Option.mem_def]

theorem normalize_message_media_urls_conversation_seq (message : Message) :
    (normalize_message_media_urls self message).conversation_seq = message.conversation_seq := by
  rw [normalize_message_media_urls]
  split
  · rfl
  · cases message.media_id <;> rfl

theorem SequencesInOrder.listed_in_order (h : SequencesInOrder inner) : ListInOrder inner conversation_id := by
  rw [ListInOrder]
  cases hlookup : inner.messages_by_conversation.lookup conversation_id with
  | none => exact List.Pairwise.nil
  | some messages => exact List.pairwise_map.mp (h.listed conversation_id messages hlookup).1

/-- In a list that is in order the sort of a read changes nothing. -/
theorem list_messages_messages (hlisted : ListInOrder inner conversation_id) :
    (list_messages self inner conversation_id after_seq before_seq limit).messages =
      (shown_messages self inner conversation_id before_seq after_seq).take limit := by
  have hsorted : sort_by (fun a b : Message => a.conversation_seq ≤ b.conversation_seq)
      (readable inner conversation_id after_seq before_seq) =
        readable inner conversation_id after_seq before_seq := by
    refine List.Pairwise.insertionSort_eq ?_
    refine (hlisted.filter _).imp fun hlt => ?_
    exact decide_eq_true (Int.le_of_lt hlt)
  rw [shown_messages, ← hsorted]
  rfl

theorem list_messages_has_more : (list_messages self inner conversation_id after_seq before_seq limit).has_more =
    decide (limit < (readable inner conversation_id after_seq before_seq).length) := by
  have hlength : (sort_by (fun a b : Message => a.conversation_seq ≤ b.conversation_seq)
      (readable inner conversation_id after_seq before_seq)).length =
      (readable inner conversation_id after_seq before_seq).length := (sort_by_perm _ _).length_eq
  rw [← hlength, ← List.length_map (normalize_message_media_urls self)]
  rfl

theorem list_messages_to_seq (hlisted : ListInOrder inner conversation_id) :
    (list_messages self inner conversation_id after_seq before_seq limit).to_seq =
      ((readable inner conversation_id after_seq before_seq).take limit).getLast?.map Message.conversation_seq := by
  have hlast : (list_messages self inner conversation_id after_seq before_seq limit).to_seq =
      (list_messages self inner conversation_id after_seq before_seq limit).messages.getLast?.map
        Message.conversation_seq := rfl
  rw [hlast, list_messages_messages hlisted, shown_messages, ← List.map_take, List.getLast?_map, Option.map_map]
  congr 1
  exact funext normalize_message_media_urls_conversation_seq

/-- What may be read after the last message of a page is what the page left over. -/
theorem readable_after_page (hlisted : ListInOrder inner conversation_id) {last : Message}
    (hlast : ((readable inner conversation_id after_seq before_seq).take limit).getLast? = some last) :
    readable inner conversation_id (some last.conversation_seq) before_seq =
      (readable inner conversation_id after_seq before_seq).drop limit := by
  have hmem := List.mem_of_mem_take (List.mem_of_getLast? hlast)
  obtain ⟨hafter, -⟩ := in_range_iff.mp (List.mem_filter.mp hmem).2
  have hdrop : ((readable inner conversation_id after_seq before_seq).filter fun message =>
      last.conversation_seq < message.conversation_seq) =
        (readable inner conversation_id after_seq before_seq).drop limit :=
    filter_after_take (hlisted.filter _) hlast
  rw [← hdrop, readable, readable, List.filter_filter]
  refine List.filter_congr fun message _ => Bool.eq_iff_iff.mpr ?_
  rw [Bool.and_eq_true, decide_eq_true_eq, in_range_iff, in_range_iff]
  constructor
  · rintro ⟨hlater, hbefore⟩
    have hlater := hlater _ rfl
    exact ⟨hlater, fun seq hseq => lt_trans (hafter seq hseq) hlater, hbefore⟩
  · rintro ⟨hlater, -, hbefore⟩
    exact ⟨fun seq hseq => (Option.some.inj hseq) ▸ hlater, hbefore⟩

theorem messages_page_exact (hlisted : ListInOrder inner conversation_id) :
    Exact (messages_page self inner conversation_id before_seq) next_after_seq MessagesPage.messages id
      (fun _ => True) (shown_messages self inner conversation_id before_seq) := by
  constructor
  intro after_seq limit _ hsize
  refine ⟨_, rfl, list_messages_messages hlisted, ?_, ?_⟩
  · rw [next_after_seq, list_messages_has_more, shown_messages, List.length_map, id]
    split
    · next hmore => exact iff_of_false (Option.some_ne_none _) (Nat.not_le.mpr (of_decide_eq_true hmore))
    · next hmore => exact iff_of_true rfl (Nat.not_lt.mp fun hlt => hmore (decide_eq_true hlt))
  · intro next hnext
    obtain ⟨hmore, hnext⟩ := Option.ite_none_right_eq_some.mp hnext
    rw [list_messages_has_more, decide_eq_true_eq] at hmore
    refine ⟨trivial, ?_⟩
    cases hlast : ((readable inner conversation_id after_seq before_seq).take limit).getLast? with
    | none =>
      have hempty := congrArg List.length (List.getLast?_eq_none_iff.mp hlast)
      rw [List.length_take, List.length_nil] at hempty
      rw [id] at hsize
      omega
    | some last =>
      rw [list_messages_to_seq hlisted, hlast] at hnext
      cases hnext
      rw [Option.map_some, shown_messages, readable_after_page hlisted hlast, List.map_drop, id]
      rfl

end Pages

/-- A page is what it says: there is more behind it if and only if messages in the range are
left that come after all of it, and its bounds are those of its messages. -/
structure PageBounds (inner : StoreInner) (conversation_id : String) (after_seq before_seq : Option Int)
    (page : MessagesPage) : Prop where
  has_more : page.has_more = true ↔ ∃ message ∈ readable inner conversation_id after_seq before_seq,
    ∀ shown ∈ page.messages, shown.conversation_seq < message.conversation_seq
  from_seq : page.from_seq = page.messages.head?.map Message.conversation_seq
  to_seq : page.to_seq = page.messages.getLast?.map Message.conversation_seq

/-- The messages that were read are those in the range, each once and in order. -/
structure ReadsRange (self : AppState) (inner : StoreInner) (conversation_id : String)
    (after_seq before_seq : Option Int) (read : List Message) : Prop where
  in_order : read.Pairwise fun a b => a.conversation_seq < b.conversation_seq
  all : ∀ message, message ∈ read ↔ ∃ stored ∈ (inner.messages_by_conversation.lookup conversation_id).getD [],
    in_range after_seq before_seq stored = true ∧ normalize_message_media_urls self stored = message

section Claims

variable {self : AppState} {inner : StoreInner} {conversation_id : String} {after_seq before_seq : Option Int}

theorem page_bounds (hlisted : ListInOrder inner conversation_id) (limit : Nat) :
    PageBounds inner conversation_id after_seq before_seq
      (list_messages self inner conversation_id after_seq before_seq limit) where
  from_seq := rfl
  to_seq := rfl
  has_more := by
    rw [list_messages_has_more, list_messages_messages hlisted, decide_eq_true_eq]
    have hsorted : (readable inner conversation_id after_seq before_seq).Pairwise
        fun a b => a.conversation_seq < b.conversation_seq := hlisted.filter _
    constructor
    · intro hmore
      refine ⟨_, List.getElem_mem hmore, fun shown hshown => ?_⟩
      rw [shown_messages, ← List.map_take] at hshown
      obtain ⟨stored, hstored, rfl⟩ := List.mem_map.mp hshown
      rw [normalize_message_media_urls_conversation_seq]
      rw [← List.take_append_drop limit (readable inner conversation_id after_seq before_seq)] at hsorted
      refine (List.pairwise_append.mp hsorted).2.2 stored hstored _ ?_
      rw [List.drop_eq_getElem_cons hmore]
      exact List.mem_cons_self
    · rintro ⟨message, hmessage, hbehind⟩
      by_contra hall
      rw [shown_messages, List.take_of_length_le (by rw [List.length_map]; omega)] at hbehind
      have hself := hbehind _ (List.mem_map_of_mem hmessage)
      rw [normalize_message_media_urls_conversation_seq] at hself
      exact lt_irrefl _ hself

theorem reads_range (hlisted : ListInOrder inner conversation_id) :
    ReadsRange self inner conversation_id after_seq before_seq
      (shown_messages self inner conversation_id before_seq after_seq) where
  in_order := by
    refine List.pairwise_map.mpr ((hlisted.filter _).imp fun hlt => ?_)
    rwa [normalize_message_media_urls_conversation_seq, normalize_message_media_urls_conversation_seq]
  all message := by
    rw [shown_messages, List.mem_map]
    simp only [readable, List.mem_filter, and_assoc]

/-- In every state that the service reaches, the pages of a conversation's messages have the
bounds that they name, following them comes to an end whatever the limits are, and shows every
message of the range once, in order. -/
theorem message_paging_exact (self : AppState) {labels : List (Ctx × Operation)} {store : Store}
    (hrun : Run (Store.Lives self) Store.empty labels store) (conversation_id : String)
    (after_seq before_seq : Option Int) :
    (∀ limit, 1 ≤ limit → PageBounds store.inner conversation_id after_seq before_seq
      (list_messages self store.inner conversation_id after_seq before_seq limit)) ∧
    (∀ limits : Nat → Nat, (∀ i, 1 ≤ limits i) → ∃ count read,
      pages.Read (messages_page self store.inner conversation_id before_seq) next_after_seq after_seq
        ((List.range count).map limits) read) ∧
    ∀ limits read, (∀ limit ∈ limits, 1 ≤ limit) →
      pages.Read (messages_page self store.inner conversation_id before_seq) next_after_seq after_seq limits read →
      ReadsRange self store.inner conversation_id after_seq before_seq (read.flatMap MessagesPage.messages) := by
  have hlisted : ListInOrder store.inner conversation_id := (sequences_in_order hrun).listed_in_order
  have hexact : Exact (messages_page self store.inner conversation_id before_seq) next_after_seq
      MessagesPage.messages id (fun _ => True) (shown_messages self store.inner conversation_id before_seq) :=
    messages_page_exact hlisted
  refine ⟨fun limit _ => page_bounds hlisted limit, hexact.read_ends after_seq trivial, ?_⟩
  intro limits read hlimits hread
  rw [hexact.items_of_read hread trivial hlimits]
  exact reads_range hlisted

end Claims

namespace sample

/-- A chat with two messages, a text and the answer to it. -/
def exchanged : Store :=
  live Store.empty [(received.1, .store received.2), answer]

def exchanged_page : Option Int → Nat → Option MessagesPage :=
  messages_page service exchanged.inner "5511988887777@s.whatsapp.net" none

end sample

open sample in
/-- Its messages are read on two pages. -/
theorem exchanged_paging_exact : ∃ read, pages.Read exchanged_page next_after_seq (some 0) [1, 1] read ∧
    ReadsRange service exchanged.inner "5511988887777@s.whatsapp.net" (some 0) none
      (read.flatMap MessagesPage.messages) := by
  have hrun := lives [(received.1, .store received.2), answer] Store.empty (by decide)
  have hlast : pages.Read exchanged_page next_after_seq (some 1) [1] _ :=
    .last rfl (by decide)
  have hread : pages.Read exchanged_page next_after_seq (some 0) [1, 1] _ :=
    .more rfl (by decide) hlast
  exact ⟨_, hread, (message_paging_exact service hrun _ _ _).2.2 [1, 1] _ (by decide) hread⟩

end rustzap.state
