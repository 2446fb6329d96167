import RustZap.Delivery.Receipts

open collections runs
open rustzap.models

namespace rustzap.state

/-- The place of a delivery state in the order pending, sent, delivered, read.
The two others have none. -/
def delivery_rank : DeliveryState → Option Nat
  | .Pending => some 0
  | .Sent => some 1
  | .Delivered => some 2
  | .Read => some 3
  | .NotApplicable => none
  | .Failed => none

/-- The receipts by which a provider reports progress. -/
inductive ReceiptKind where
  | server_ack
  | delivered
  | read
  | played
  deriving DecidableEq

namespace ReceiptKind

def receipt_type : ReceiptKind → String
  | server_ack => "server_ack"
  | delivered => "delivered"
  | read => "read"
  | played => "played"

def rank : ReceiptKind → Nat
  | server_ack => 1
  | delivered => 2
  | read => 3
  | played => 3

end ReceiptKind

/-- What can happen to an outbound message between its queueing and the end:
the successful dispatch is stored, or a receipt for its WhatsApp id comes in. -/
inductive DeliveryOp where
  | dispatched
  | receipt (kind : ReceiptKind) (created_at_wa : OffsetDateTime)
  deriving DecidableEq

def DeliveryOp.apply (self : AppState) (message_id wa_message_id : String) (ctx : Ctx)
    (inner : StoreInner) : DeliveryOp → StoreInner
  | .dispatched =>
    (update_outbound_after_dispatch ctx inner message_id (some wa_message_id) "sent_to_whatsapp" none).2
  | .receipt kind created_at_wa =>
    (update_receipt_by_wa_id_with_context self ctx inner wa_message_id kind.receipt_type
      (some created_at_wa)).2

/-- One step of a delivery. The maps may yield their entries in any order. -/
def DeliveryStep (self : AppState) (message_id wa_message_id : String) (inner : StoreInner)
    (label : Ctx × DeliveryOp) (inner' : StoreInner) : Prop :=
  ∃ reordered, inner.Reordered reordered ∧
    inner' = label.2.apply self message_id wa_message_id label.1 reordered

/-- The progress that an operation makes on its own: a receipt counts from the
dispatch on, and the last one decides. -/
def DeliveryOp.advance (rank : Nat) : DeliveryOp → Nat
  | .dispatched => 1
  | .receipt kind _ => if rank = 0 then 0 else kind.rank

/-- The message stands at this place of the order. It carries the WhatsApp id
of its dispatch once it has left the first. -/
structure AtRank (message_id wa_message_id : String) (inner : StoreInner) (rank : Nat) : Prop where
  keyed : inner.messages_by_id.Keyed Message.id
  message : ∃ message, inner.messages_by_id.lookup message_id = some message ∧
    delivery_rank message.delivery_state = some rank ∧
    (message.direction = "outbound" ∨ message.direction = "out") ∧ message.message_type ≠ "system" ∧
    (message.wa_message_id = some wa_message_id ↔ rank ≠ 0)

/-- Another message carries the same WhatsApp id. -/
def CarriedElsewhere (message_id wa_message_id : String) (inner : StoreInner) : Prop :=
  ∃ key message, key ≠ message_id ∧ inner.messages_by_id.lookup key = some message ∧
    message.wa_message_id = some wa_message_id

section Progress

variable {self : AppState} {message_id wa_message_id : String} {inner inner' : StoreInner} {rank : Nat}

theorem AtRank.reordered {reordered : StoreInner} (h : AtRank message_id wa_message_id inner rank)
    (hreordered : inner.Reordered reordered) : AtRank message_id wa_message_id reordered rank := by
  have hlookup := hreordered.messages_by_id.lookup
  refine ⟨fun key message hmessage => h.keyed key message ((hlookup key).trans hmessage), ?_⟩
  obtain ⟨message, hmessage, hrest⟩ := h.message
  exact ⟨message, (hlookup message_id).symm.trans hmessage, hrest⟩

theorem CarriedElsewhere.reordered_iff {reordered : StoreInner} (hreordered : inner.Reordered reordered) :
    CarriedElsewhere message_id wa_message_id reordered ↔
      CarriedElsewhere message_id wa_message_id inner := by
  simp only [CarriedElsewhere, hreordered.messages_by_id.lookup]

/-- The rank that a status gives to an outbound message that is not a system
message. -/
theorem delivery_rank_of_status {message : Message} (status : String) {rank : Nat}
    (hdirection : message.direction = "outbound" ∨ message.direction = "out")
    (htype : message.message_type ≠ "system") (hstatus : message.status = status)
    (hrank : delivery_rank (DeliveryState.for_message "outbound" "text" status) = some rank) :
    delivery_rank message.delivery_state = some rank := by
  rw [← hrank, Message.delivery_state, hstatus]
  simp [DeliveryState.for_message, hdirection, htype]

theorem delivery_rank_receipt_type (kind : ReceiptKind) :
    delivery_rank (DeliveryState.for_message "outbound" "text" kind.receipt_type) = some kind.rank := by
  cases kind <;> decide

theorem AtRank.dispatched (ctx : Ctx) (h : AtRank message_id wa_message_id inner rank) :
    AtRank message_id wa_message_id
      (DeliveryOp.dispatched.apply self message_id wa_message_id ctx inner) 1 := by
  obtain ⟨message, hmessage, -, hdirection, htype, -⟩ := h.message
  rcases update_outbound_after_dispatch_cases ctx inner message_id (some wa_message_id)
    "sent_to_whatsapp" none with ⟨hnone, -⟩ | ⟨stored, inner', hstored, ⟨events, rfl⟩, heq⟩
  · rw [hmessage] at hnone
    cases hnone
  · rw [hmessage] at hstored
    cases hstored
    have happly : DeliveryOp.dispatched.apply self message_id wa_message_id ctx inner = _ :=
      congrArg Prod.snd heq
    rw [happly]
    refine ⟨h.keyed.insert (h.keyed message_id message hmessage),
      Message.dispatched message ctx.now (some wa_message_id) "sent_to_whatsapp" none,
      (HashMap.lookup_insert_ite ..).trans (if_pos rfl), ?_, hdirection, htype, ?_⟩
    · exact delivery_rank_of_status "sent_to_whatsapp" hdirection htype rfl (by decide)
    · exact iff_of_true rfl (by decide)

/-- A receipt either finds the message, once it has left, or leaves it alone,
which takes that it has not left or that another message carries its id. -/
theorem AtRank.receipt (ctx : Ctx) (kind : ReceiptKind) (created_at_wa : OffsetDateTime)
    (h : AtRank message_id wa_message_id inner rank) :
    rank ≠ 0 ∧ AtRank message_id wa_message_id
      ((DeliveryOp.receipt kind created_at_wa).apply self message_id wa_message_id ctx inner) kind.rank ∨
    (rank = 0 ∨ CarriedElsewhere message_id wa_message_id inner) ∧ AtRank message_id wa_message_id
      ((DeliveryOp.receipt kind created_at_wa).apply self message_id wa_message_id ctx inner) rank := by
  obtain ⟨message, hmessage, hrank, hdirection, htype, hcarries⟩ := h.message
  have hstep := update_receipt_by_wa_id_messages self ctx h.keyed wa_message_id kind.receipt_type
    (some created_at_wa)
  simp only [DeliveryOp.apply]
  generalize (update_receipt_by_wa_id_with_context self ctx inner wa_message_id kind.receipt_type
    (some created_at_wa)).2 = next at hstep ⊢
  rcases hstep with ⟨hsame, hnone⟩ | ⟨found, -, hwa, hfound, hinsert⟩
  · -- nothing carries the id, so the message has not left
    right
    have hzero : rank = 0 := by
      by_contra hleft
      rw [find_by_wa_id, Option.map_eq_none_iff, List.find?_eq_none] at hnone
      have := hnone message (HashMap.mem_values_of_lookup hmessage)
      simp [hcarries.mpr hleft] at this
    exact ⟨Or.inl hzero, hsame ▸ h.keyed, message, hsame ▸ hmessage, hrank, hdirection, htype, hcarries⟩
  · have hkeyed : next.messages_by_id.Keyed Message.id := by
      rw [hinsert]
      exact h.keyed.insert rfl
    by_cases hid : found.id = message_id
    · left
      subst hid
      rw [hmessage] at hfound
      cases hfound
      refine ⟨hcarries.mp hwa, hkeyed, Message.receipted message ctx.now kind.receipt_type,
        by rw [hinsert, HashMap.lookup_insert_ite, if_pos rfl], ?_, hdirection, htype, ?_⟩
      · exact delivery_rank_of_status _ hdirection htype rfl (delivery_rank_receipt_type kind)
      · exact iff_of_true hwa (by cases kind <;> decide)
    · right
      refine ⟨Or.inr ⟨found.id, found, hid, hfound, hwa⟩, hkeyed, message, ?_, hrank, hdirection, htype,
        hcarries⟩
      rw [hinsert, HashMap.lookup_insert_ite, if_neg (Ne.symm hid)]
      exact hmessage

/-- A message stays at a rank, whichever way its own WhatsApp id is looked up,
when it is alone with it or when the receipt only confirms the sending. -/
theorem AtRank.step {label : Ctx × DeliveryOp} (h : AtRank message_id wa_message_id inner rank)
    (hstep : DeliveryStep self message_id wa_message_id inner label inner')
    (hop : ¬ CarriedElsewhere message_id wa_message_id inner ∨
      rank ≤ 1 ∧ ∀ kind time, label.2 = .receipt kind time → kind.rank = 1) :
    AtRank message_id wa_message_id inner' (label.2.advance rank) := by
  obtain ⟨reordered, hreordered, rfl⟩ := hstep
  have hreordered' := h.reordered hreordered
  rw [← CarriedElsewhere.reordered_iff hreordered] at hop
  obtain ⟨ctx, op⟩ := label
  cases op with
  | dispatched => exact hreordered'.dispatched ctx
  | receipt kind created_at_wa =>
    rcases hreordered'.receipt ctx kind created_at_wa with ⟨hleft, hnext⟩ | ⟨hwhy, hnext⟩
    · rw [DeliveryOp.advance, if_neg hleft]
      exact hnext
    · rw [DeliveryOp.advance]
      split
      · next hzero =>
        rw [hzero] at hnext
        exact hnext
      · next hleft =>
        rcases hop with halone | ⟨hlow, hconfirm⟩
        · exact absurd (hwhy.resolve_left hleft) halone
        · have hone : rank = kind.rank := by
            rw [hconfirm kind created_at_wa rfl]
            omega
          rw [hone] at hnext
          exact hnext

theorem CarriedElsewhere.step_iff {label : Ctx × DeliveryOp}
    (h : AtRank message_id wa_message_id inner rank)
    (hstep : DeliveryStep self message_id wa_message_id inner label inner') :
    CarriedElsewhere message_id wa_message_id inner' ↔
      CarriedElsewhere message_id wa_message_id inner := by
  obtain ⟨reordered, hreordered, rfl⟩ := hstep
  rw [← CarriedElsewhere.reordered_iff hreordered]
  have hkeyed := (h.reordered hreordered).keyed
  obtain ⟨ctx, op⟩ := label
  cases op with
  | dispatched =>
    simp only [DeliveryOp.apply]
    rcases update_outbound_after_dispatch_cases ctx reordered message_id (some wa_message_id)
      "sent_to_whatsapp" none with ⟨-, heq⟩ | ⟨stored, inner', hstored, ⟨events, rfl⟩, heq⟩
    · rw [heq]
    · rw [heq]
      refine exists_congr fun key => exists_congr fun message => and_congr_right fun hne => ?_
      exact and_congr_left' (by
        rw [show (_ : StoreInner).messages_by_id = reordered.messages_by_id.insert message_id _ from rfl,
          HashMap.lookup_insert_ite, if_neg hne])
  | receipt kind created_at_wa =>
    have hmessages := update_receipt_by_wa_id_messages self ctx hkeyed wa_message_id kind.receipt_type
      (some created_at_wa)
    simp only [DeliveryOp.apply]
    generalize (update_receipt_by_wa_id_with_context self ctx reordered wa_message_id kind.receipt_type
      (some created_at_wa)).2 = next at hmessages ⊢
    rcases hmessages with ⟨hsame, -⟩ | ⟨found, -, hwa, hfound, hinsert⟩
    · simp only [CarriedElsewhere, hsame]
    · simp only [CarriedElsewhere, hinsert, HashMap.lookup_insert_ite]
      constructor
      · rintro ⟨key, message, hne, hlookup, hcarries⟩
        split at hlookup
        · next heq => exact ⟨key, found, hne, heq ▸ hfound, hwa⟩
        · exact ⟨key, message, hne, hlookup, hcarries⟩
      · rintro ⟨key, message, hne, hlookup, hcarries⟩
        by_cases heq : key = found.id
        · exact ⟨key, Message.receipted found ctx.now kind.receipt_type, hne, if_pos heq, hwa⟩
        · exact ⟨key, message, hne, by rw [if_neg heq]; exact hlookup, hcarries⟩

/-- Where another message carries the id, the maps may yield that one first, and
the receipt passes this message by. -/
theorem AtRank.passed_by (h : AtRank message_id wa_message_id inner rank)
    (helsewhere : CarriedElsewhere message_id wa_message_id inner) (ctx : Ctx) (kind : ReceiptKind)
    (created_at_wa : OffsetDateTime) :
    ∃ inner', DeliveryStep self message_id wa_message_id inner (ctx, .receipt kind created_at_wa) inner' ∧
      AtRank message_id wa_message_id inner' rank := by
  obtain ⟨key, other, hne, hother, hwa⟩ := helsewhere
  obtain ⟨message, hmessage, hrest⟩ := h.message
  have hid : other.id = key := h.keyed key other hother
  have hreordered := StoreInner.moved_first_reordered hother
  refine ⟨_, ⟨inner.moved_first key other, hreordered, rfl⟩, ?_⟩
  have hmessages := update_receipt_by_wa_id_messages self ctx (h.reordered hreordered).keyed
    wa_message_id kind.receipt_type (some created_at_wa)
  have hfinds : find_by_wa_id (inner.moved_first key other) wa_message_id = some key := by
    rw [find_by_wa_id]
    simp only [StoreInner.moved_first]
    rw [HashMap.find?_values_insert_self (by simpa using hwa), Option.map_some, hid]
  have hmoved : (inner.moved_first key other).messages_by_id.lookup message_id = some message := by
    simp only [StoreInner.moved_first]
    rw [HashMap.lookup_insert_ite, if_neg (Ne.symm hne)]
    exact hmessage
  simp only [DeliveryOp.apply]
  generalize (update_receipt_by_wa_id_with_context self ctx (inner.moved_first key other) wa_message_id
    kind.receipt_type (some created_at_wa)).2 = next at hmessages ⊢
  rcases hmessages with ⟨-, hnone⟩ | ⟨found, hfound, -, -, hinsert⟩
  · rw [hfinds] at hnone
    cases hnone
  · have hkey : found.id = key := Option.some.inj (hfound.symm.trans hfinds)
    have hkeyed : next.messages_by_id.Keyed Message.id := by
      rw [hinsert]
      exact (h.reordered hreordered).keyed.insert rfl
    refine ⟨hkeyed, message, ?_, hrest⟩
    rw [hinsert, HashMap.lookup_insert_ite, if_neg (by rw [hkey]; exact Ne.symm hne)]
    exact hmoved

/-- The operations are receipts that only confirm the sending, or dispatches. -/
def OnlyConfirms (ops : List (Ctx × DeliveryOp)) : Prop :=
  ∀ label ∈ ops, ∀ kind time, label.2 = .receipt kind time → kind.rank = 1

/-- The rank after some operations, counted on their own. -/
def rank_after (rank : Nat) (ops : List (Ctx × DeliveryOp)) : Nat :=
  ops.foldl (fun rank label => label.2.advance rank) rank

theorem AtRank.run {ops : List (Ctx × DeliveryOp)}
    (hrun : Run (DeliveryStep self message_id wa_message_id) inner ops inner') :
    ∀ {rank : Nat}, AtRank message_id wa_message_id inner rank →
      (¬ CarriedElsewhere message_id wa_message_id inner ∨ rank ≤ 1 ∧ OnlyConfirms ops) →
      AtRank message_id wa_message_id inner' (rank_after rank ops) := by
  induction hrun with
  | nil =>
    intro rank h _
    exact h
  | @cons s t u label labels hstep hrest ih =>
    intro rank h hops
    have hfirst : ¬ CarriedElsewhere message_id wa_message_id s ∨
        rank ≤ 1 ∧ ∀ kind time, label.2 = .receipt kind time → kind.rank = 1 :=
      hops.imp_right fun hconfirm => ⟨hconfirm.1, hconfirm.2 label List.mem_cons_self⟩
    refine ih (h.step hstep hfirst) ?_
    rw [CarriedElsewhere.step_iff h hstep]
    refine hops.imp_right fun ⟨hlow, hconfirm⟩ => ⟨?_, fun l hl => hconfirm l (List.mem_cons_of_mem _ hl)⟩
    obtain ⟨ctx, op⟩ := label
    cases op with
    | dispatched => exact le_refl 1
    | receipt kind time =>
      have hone := hconfirm _ List.mem_cons_self kind time rfl
      simp only [DeliveryOp.advance]
      split <;> omega

/-- Every sequence of operations can take place. -/
theorem delivery_run_exists (self : AppState) (message_id wa_message_id : String)
    (ops : List (Ctx × DeliveryOp)) :
    ∀ inner, ∃ inner', Run (DeliveryStep self message_id wa_message_id) inner ops inner' := by
  induction ops with
  | nil =>
    intro inner
    exact ⟨inner, .nil inner⟩
  | cons label ops ih =>
    intro inner
    obtain ⟨inner', hrest⟩ := ih (label.2.apply self message_id wa_message_id label.1 inner)
    exact ⟨inner', .cons ⟨inner, StoreInner.Reordered.refl inner, rfl⟩ hrest⟩

/-- The rank after some operations of which no receipt finds the message. -/
def rank_passed_by (rank : Nat) (ops : List (Ctx × DeliveryOp)) : Nat :=
  ops.foldl (fun rank label => if label.2 = .dispatched then 1 else rank) rank

theorem AtRank.run_passed_by (self : AppState) (ops : List (Ctx × DeliveryOp)) :
    ∀ {inner : StoreInner} {rank : Nat}, AtRank message_id wa_message_id inner rank →
      CarriedElsewhere message_id wa_message_id inner →
      ∃ inner', Run (DeliveryStep self message_id wa_message_id) inner ops inner' ∧
        AtRank message_id wa_message_id inner' (rank_passed_by rank ops) := by
  induction ops with
  | nil =>
    intro inner rank h _
    exact ⟨inner, .nil inner, h⟩
  | cons label ops ih =>
    intro inner rank h helsewhere
    obtain ⟨ctx, op⟩ := label
    cases op with
    | dispatched =>
      have hstep : DeliveryStep self message_id wa_message_id inner (ctx, .dispatched)
          (DeliveryOp.dispatched.apply self message_id wa_message_id ctx inner) :=
        ⟨inner, StoreInner.Reordered.refl inner, rfl⟩
      obtain ⟨inner', hrun, hafter⟩ := ih (h.dispatched ctx)
        ((CarriedElsewhere.step_iff h hstep).mpr helsewhere)
      exact ⟨inner', .cons hstep hrun, hafter⟩
    | receipt kind time =>
      obtain ⟨next, hstep, hnext⟩ := h.passed_by helsewhere ctx kind time
      obtain ⟨inner', hrun, hafter⟩ := ih hnext ((CarriedElsewhere.step_iff h hstep).mpr helsewhere)
      exact ⟨inner', .cons hstep hrun, hafter⟩

end Progress

/-- A receipt for the message's WhatsApp id, with the readings of the call that
takes it in. -/
structure IncomingReceipt where
  ctx : Ctx
  kind : ReceiptKind
  created_at_wa : OffsetDateTime

def IncomingReceipt.label (receipt : IncomingReceipt) : Ctx × DeliveryOp :=
  (receipt.ctx, .receipt receipt.kind receipt.created_at_wa)

/-- An order in which the successful dispatch and the receipts are processed:
the receipts that come in before the dispatch is stored, and those after. -/
structure DeliveryOrder where
  early : List IncomingReceipt
  dispatch : Ctx
  late : List IncomingReceipt

namespace DeliveryOrder

def receipts (order : DeliveryOrder) : List IncomingReceipt :=
  order.early ++ order.late

def labels (order : DeliveryOrder) : List (Ctx × DeliveryOp) :=
  order.early.map IncomingReceipt.label ++
    (order.dispatch, .dispatched) :: order.late.map IncomingReceipt.label

/-- The maximum of sent and of the states that the receipts report. -/
def join (order : DeliveryOrder) : Nat :=
  (order.receipts.map fun receipt => receipt.kind.rank).foldr max 1

/-- The place of the last receipt after the dispatch, sent when there is none. -/
def last (order : DeliveryOrder) : Nat :=
  (order.late.map fun receipt => receipt.kind.rank).getLastD 1

/-- The receipts after the dispatch come in ascending order, and those before it
report nothing above the last of them. -/
structure Ascending (order : DeliveryOrder) : Prop where
  late : (order.late.map fun receipt => receipt.kind.rank).Pairwise (· ≤ ·)
  early : ∀ receipt ∈ order.early, receipt.kind.rank ≤ order.last

/-- No receipt reports more than the sending. -/
def OnlySent (order : DeliveryOrder) : Prop :=
  ∀ receipt ∈ order.receipts, receipt.kind.rank = 1

end DeliveryOrder

/-- The message with this id stands at this place of the order. -/
def StandsAt (inner : StoreInner) (message_id : String) (rank : Nat) : Prop :=
  ∃ message, inner.messages_by_id.lookup message_id = some message ∧
    delivery_rank message.delivery_state = some rank

/-- The delivery state ends at the join of what happened, and no step of the run
lowers it. -/
structure DeliveryJoins (app : AppState) (message_id wa_message_id : String) (inner : StoreInner)
    (order : DeliveryOrder) : Prop where
  final : ∀ inner', Run (DeliveryStep app message_id wa_message_id) inner order.labels inner' →
    StandsAt inner' message_id order.join
  climbs : ∀ before label after s t, order.labels = before ++ label :: after →
    Run (DeliveryStep app message_id wa_message_id) inner before s →
    DeliveryStep app message_id wa_message_id s label t →
    ∀ rank rank', StandsAt s message_id rank → StandsAt t message_id rank' → rank ≤ rank'

section Ranks

/-- No operation of the list lowers the rank that the ones before it led to. -/
def Climbs (rank : Nat) : List (Ctx × DeliveryOp) → Prop
  | [] => True
  | label :: labels => rank ≤ label.2.advance rank ∧ Climbs (label.2.advance rank) labels

theorem climbs_iff_split (labels : List (Ctx × DeliveryOp)) :
    ∀ rank, Climbs rank labels ↔ ∀ before label after, labels = before ++ label :: after →
      rank_after rank before ≤ label.2.advance (rank_after rank before) := by
  induction labels with
  | nil =>
    intro rank
    simp [Climbs]
  | cons first labels ih =>
    intro rank
    rw [Climbs, ih]
    constructor
    · rintro ⟨hfirst, hrest⟩ before label after heq
      cases before with
      | nil =>
        cases heq
        exact hfirst
      | cons head before =>
        cases heq
        exact hrest before label after rfl
    · intro hall
      exact ⟨hall [] first labels rfl, fun before label after heq =>
        hall (first :: before) label after (by rw [heq, List.cons_append])⟩

theorem ReceiptKind.one_le_rank (kind : ReceiptKind) : 1 ≤ kind.rank := by
  cases kind <;> decide

theorem advance_zero (receipt : IncomingReceipt) : receipt.label.2.advance 0 = 0 := rfl

theorem advance_of_ne_zero {rank : Nat} (hrank : rank ≠ 0) (receipt : IncomingReceipt) :
    receipt.label.2.advance rank = receipt.kind.rank :=
  if_neg hrank

theorem rank_after_early (receipts : List IncomingReceipt) (labels : List (Ctx × DeliveryOp)) :
    rank_after 0 (receipts.map IncomingReceipt.label ++ labels) = rank_after 0 labels := by
  induction receipts with
  | nil => rfl
  | cons receipt receipts ih => exact ih

theorem rank_after_late (receipts : List IncomingReceipt) :
    ∀ {rank : Nat}, rank ≠ 0 → rank_after rank (receipts.map IncomingReceipt.label) =
      (receipts.map fun receipt => receipt.kind.rank).getLastD rank := by
  induction receipts with
  | nil =>
    intro rank _
    rfl
  | cons receipt receipts ih =>
    intro rank hrank
    rw [List.map_cons, List.map_cons, List.getLastD_cons,
      ← ih (Nat.one_le_iff_ne_zero.mp receipt.kind.one_le_rank), ← advance_of_ne_zero hrank receipt]
    rfl

theorem climbs_early (receipts : List IncomingReceipt) (labels : List (Ctx × DeliveryOp)) :
    Climbs 0 (receipts.map IncomingReceipt.label ++ labels) ↔ Climbs 0 labels := by
  induction receipts with
  | nil => rfl
  | cons receipt receipts ih =>
    rw [List.map_cons, List.cons_append, Climbs, advance_zero, ih]
    simp

theorem climbs_late (receipts : List IncomingReceipt) :
    ∀ {rank : Nat}, rank ≠ 0 → (Climbs rank (receipts.map IncomingReceipt.label) ↔
      (rank :: receipts.map fun receipt => receipt.kind.rank).IsChain (· ≤ ·)) := by
  induction receipts with
  | nil =>
    intro rank _
    simp [Climbs]
  | cons receipt receipts ih =>
    intro rank hrank
    rw [List.map_cons, Climbs, advance_of_ne_zero hrank,
      ih (Nat.one_le_iff_ne_zero.mp receipt.kind.one_le_rank), List.map_cons, List.isChain_cons_cons]

namespace DeliveryOrder

variable (order : DeliveryOrder)

theorem rank_after_labels : rank_after 0 order.labels = order.last := by
  rw [labels, rank_after_early]
  exact rank_after_late order.late Nat.one_ne_zero

theorem climbs_labels : Climbs 0 order.labels ↔
    (order.late.map fun receipt => receipt.kind.rank).Pairwise (· ≤ ·) := by
  rw [labels, climbs_early, Climbs]
  refine (and_iff_right (Nat.zero_le _)).trans ?_
  rw [show DeliveryOp.dispatched.advance 0 = 1 from rfl, climbs_late order.late Nat.one_ne_zero,
    List.isChain_iff_pairwise, List.pairwise_cons]
  refine and_iff_right fun rank hrank => ?_
  obtain ⟨receipt, -, rfl⟩ := List.mem_map.mp hrank
  exact receipt.kind.one_le_rank

theorem rank_passed_by_labels : rank_passed_by 0 order.labels = 1 := by
  have hreceipts : ∀ (receipts : List IncomingReceipt) (rank : Nat),
      rank_passed_by rank (receipts.map IncomingReceipt.label) = rank := by
    intro receipts
    induction receipts with
    | nil => exact fun _ => rfl
    | cons receipt receipts ih => exact fun rank => ih rank
  rw [labels, rank_passed_by, List.foldl_append]
  exact hreceipts order.late 1

theorem join_le_iff (rank : Nat) :
    order.join ≤ rank ↔ 1 ≤ rank ∧ ∀ receipt ∈ order.receipts, receipt.kind.rank ≤ rank := by
  rw [join]
  induction order.receipts with
  | nil => simp
  | cons receipt receipts ih =>
    rw [List.map_cons, List.foldr_cons, Nat.max_le, ih, List.forall_mem_cons]
    tauto

theorem last_le_join : order.last ≤ order.join := by
  have hmem : order.last ∈ 1 :: order.late.map fun receipt => receipt.kind.rank :=
    List.getLastD_mem_cons
  obtain ⟨hone, hreceipts⟩ := (order.join_le_iff order.join).mp (le_refl _)
  rcases List.mem_cons.mp hmem with hlast | hlast
  · rw [hlast]
    exact hone
  · obtain ⟨receipt, hreceipt, heq⟩ := List.mem_map.mp hlast
    rw [← heq]
    exact hreceipts receipt (List.mem_append_right _ hreceipt)

theorem one_le_last : 1 ≤ order.last := by
  have hmem : order.last ∈ 1 :: order.late.map fun receipt => receipt.kind.rank :=
    List.getLastD_mem_cons
  rcases List.mem_cons.mp hmem with hlast | hlast
  · rw [hlast]
  · obtain ⟨receipt, -, heq⟩ := List.mem_map.mp hlast
    rw [← heq]
    exact receipt.kind.one_le_rank

/-- In ascending order the last receipt after the dispatch is the join. -/
theorem join_eq_last_iff (hlate : (order.late.map fun receipt => receipt.kind.rank).Pairwise (· ≤ ·)) :
    order.join = order.last ↔ ∀ receipt ∈ order.early, receipt.kind.rank ≤ order.last := by
  have hle : order.join = order.last ↔ order.join ≤ order.last :=
    ⟨le_of_eq, fun h => le_antisymm h order.last_le_join⟩
  rw [hle, join_le_iff, receipts, List.forall_mem_append]
  refine ⟨fun h => h.2.1, fun h => ⟨order.one_le_last, h, ?_⟩⟩
  intro receipt hreceipt
  have hmem : receipt.kind.rank ∈ order.late.map fun receipt => receipt.kind.rank :=
    List.mem_map_of_mem hreceipt
  have hlast := hlate.rel_getLast hmem
  rwa [last, List.getLastD_eq_getLast?, List.getLast?_eq_getLast_of_ne_nil (List.ne_nil_of_mem hmem),
    Option.getD_some]

theorem join_eq_one_iff : order.join = 1 ↔ order.OnlySent := by
  have hle : order.join = 1 ↔ order.join ≤ 1 :=
    ⟨le_of_eq, fun h => le_antisymm h (order.one_le_last.trans order.last_le_join)⟩
  rw [hle, join_le_iff, and_iff_right (le_refl 1)]
  exact forall₂_congr fun receipt _ =>
    ⟨fun h => le_antisymm h receipt.kind.one_le_rank, fun h => h.le⟩

variable {order}

theorem OnlySent.ascending (h : order.OnlySent) : order.Ascending := by
  refine ⟨?_, fun receipt hreceipt => ?_⟩
  · rw [List.pairwise_map]
    refine List.pairwise_of_forall_mem_list fun x hx y hy => ?_
    rw [h x (List.mem_append_right _ hx), h y (List.mem_append_right _ hy)]
  · rw [h receipt (List.mem_append_left _ hreceipt)]
    exact order.one_le_last

theorem OnlySent.only_confirms (h : order.OnlySent) : OnlyConfirms order.labels := by
  intro label hlabel kind time heq
  have hreceipt : ∀ receipts ⊆ order.receipts, label ∈ receipts.map IncomingReceipt.label →
      kind.rank = 1 := by
    intro receipts hsub hmem
    obtain ⟨receipt, hreceipt, rfl⟩ := List.mem_map.mp hmem
    cases heq
    exact h receipt (hsub hreceipt)
  rcases List.mem_append.mp hlabel with hearly | hrest
  · exact hreceipt _ (List.subset_append_left ..) hearly
  · rcases List.mem_cons.mp hrest with rfl | hlate
    · cases heq
    · exact hreceipt _ (List.subset_append_right ..) hlate

end DeliveryOrder

end Ranks

theorem AtRank.stands_at {message_id wa_message_id : String} {inner : StoreInner} {rank : Nat}
    (h : AtRank message_id wa_message_id inner rank) : StandsAt inner message_id rank := by
  obtain ⟨message, hmessage, hrank, -⟩ := h.message
  exact ⟨message, hmessage, hrank⟩

theorem StandsAt.unique {message_id : String} {inner : StoreInner} {rank rank' : Nat}
    (h : StandsAt inner message_id rank) (h' : StandsAt inner message_id rank') : rank = rank' := by
  obtain ⟨message, hmessage, hrank⟩ := h
  obtain ⟨message', hmessage', hrank'⟩ := h'
  rw [hmessage] at hmessage'
  cases hmessage'
  exact Option.some.inj (hrank.symm.trans hrank')

/-- A queued message of the store, before anything carries its WhatsApp id to it,
is at the first rank. -/
theorem AtRank.queued {store : Store} {message : Message} {message_id wa_message_id : String}
    (hmessage : store.inner.messages_by_id.lookup message_id = some message)
    (hdirection : message.direction = "outbound" ∨ message.direction = "out")
    (htype : message.message_type ≠ "system") (hpending : message.delivery_state = .Pending)
    (hwa : message.wa_message_id ≠ some wa_message_id) :
    AtRank message_id wa_message_id store.inner 0 :=
  ⟨store.keyed.messages, message, hmessage, by rw [hpending]; rfl, hdirection, htype,
    iff_of_false hwa (fun h => h rfl)⟩

/-- The delivery state of a pending outbound message is the join of what happens
to it exactly when the receipts after the dispatch come in ascending order, those
before it report nothing that the last of them does not, and the receipts find
the message: no other message carries its WhatsApp id, or no receipt says more
than the dispatch did. -/
theorem delivery_joins_iff (self : AppState) (store : Store) {message : Message}
    {message_id wa_message_id : String} (order : DeliveryOrder)
    (hmessage : store.inner.messages_by_id.lookup message_id = some message)
    (hdirection : message.direction = "outbound" ∨ message.direction = "out")
    (htype : message.message_type ≠ "system") (hpending : message.delivery_state = .Pending)
    (hwa : message.wa_message_id ≠ some wa_message_id) :
    DeliveryJoins self message_id wa_message_id store.inner order ↔
      order.Ascending ∧ (¬ CarriedElsewhere message_id wa_message_id store.inner ∨ order.OnlySent) := by
  have hqueued : AtRank message_id wa_message_id store.inner 0 :=
    .queued hmessage hdirection htype hpending hwa
  constructor
  · intro hjoins
    by_cases helsewhere : CarriedElsewhere message_id wa_message_id store.inner
    · -- some run has every receipt pass the message by, so it ends at sent
      obtain ⟨inner', hrun, hafter⟩ := AtRank.run_passed_by self order.labels hqueued helsewhere
      rw [order.rank_passed_by_labels] at hafter
      have hone := (hjoins.final inner' hrun).unique hafter.stands_at
      have hsent := order.join_eq_one_iff.mp hone
      exact ⟨hsent.ascending, Or.inr hsent⟩
    · have hlate : (order.late.map fun receipt => receipt.kind.rank).Pairwise (· ≤ ·) := by
        rw [← order.climbs_labels, climbs_iff_split]
        intro before label after heq
        obtain ⟨s, hbefore⟩ := delivery_run_exists self message_id wa_message_id before store.inner
        have hs := AtRank.run hbefore hqueued (Or.inl helsewhere)
        have hstep : DeliveryStep self message_id wa_message_id s label
            (label.2.apply self message_id wa_message_id label.1 s) :=
          ⟨s, StoreInner.Reordered.refl s, rfl⟩
        have ht := AtRank.run (hbefore.append (.cons hstep (.nil _))) hqueued (Or.inl helsewhere)
        rw [rank_after, List.foldl_append] at ht
        exact hjoins.climbs before label after _ _ heq hbefore hstep _ _ hs.stands_at ht.stands_at
      refine ⟨⟨hlate, ?_⟩, Or.inl helsewhere⟩
      rw [← order.join_eq_last_iff hlate, ← order.rank_after_labels]
      obtain ⟨inner', hrun⟩ := delivery_run_exists self message_id wa_message_id order.labels store.inner
      exact (hjoins.final inner' hrun).unique (AtRank.run hrun hqueued (Or.inl helsewhere)).stands_at
  · rintro ⟨hascending, hfound⟩
    have hfound' : ∀ labels ⊆ order.labels, ¬ CarriedElsewhere message_id wa_message_id store.inner ∨
        0 ≤ 1 ∧ OnlyConfirms labels := by
      intro labels hsub
      exact hfound.imp_right fun hsent =>
        ⟨Nat.zero_le 1, fun label hlabel => hsent.only_confirms label (hsub hlabel)⟩
    refine ⟨fun inner' hrun => ?_, fun before label after s t heq hbefore hstep rank rank' hs ht => ?_⟩
    · rw [(order.join_eq_last_iff hascending.late).mpr hascending.early, ← order.rank_after_labels]
      exact (AtRank.run hrun hqueued (hfound' _ (List.Subset.refl _))).stands_at
    · have hrank := AtRank.run hbefore hqueued (hfound' before (by
        rw [heq]
        exact List.subset_append_left ..))
      have hrank' := AtRank.run (hbefore.append (.cons hstep (.nil _))) hqueued (hfound' _ (by
        rw [heq, List.append_cons before label after]
        exact List.subset_append_left ..))
      rw [rank_after, List.foldl_append] at hrank'
      rw [hs.unique hrank.stands_at, ht.unique hrank'.stands_at]
      exact (climbs_iff_split order.labels 0).mp (order.climbs_labels.mpr hascending.late) before label
        after heq

def sample.receipt (second : Nat) (kind : ReceiptKind) : IncomingReceipt where
  ctx := sample.ctx second "r"
  kind
  created_at_wa := Duration.seconds second

/-- The read receipt overtakes the delivery receipt. -/
def sample.overtaken : DeliveryOrder where
  early := []
  dispatch := sample.ctx 3 "d"
  late := [sample.receipt 4 .read, sample.receipt 5 .delivered]

/-- A message that was read ends up delivered. -/
theorem read_then_delivered :
    ¬ DeliveryJoins sample.service "msg_b0" "3EB0A1" sample.queued.inner sample.overtaken := by
  intro hjoins
  obtain ⟨message, hmessage, hrank⟩ := hjoins.final _
    (.cons ⟨_, StoreInner.Reordered.refl _, rfl⟩ (.cons ⟨_, StoreInner.Reordered.refl _, rfl⟩
      (.cons ⟨_, StoreInner.Reordered.refl _, rfl⟩ (.nil _))))
  have hend : ((sample.overtaken.labels.foldl (fun inner label =>
      label.2.apply sample.service "msg_b0" "3EB0A1" label.1 inner) sample.queued.inner).messages_by_id.lookup
        "msg_b0").any (fun message => message.delivery_state = .Delivered) = true := by decide
  obtain ⟨message', hmessage', hdelivered⟩ := (Option.any_eq_true _ _).mp hend
  have heq : message' = message := Option.some.inj (hmessage'.symm.trans hmessage)
  rw [heq, decide_eq_true_eq] at hdelivered
  rw [hdelivered] at hrank
  exact absurd hrank (by decide)

/-- In their own order the same receipts leave the message at read. -/
theorem delivered_then_read :
    DeliveryJoins sample.service "msg_b0" "3EB0A1" sample.queued.inner
      { sample.overtaken with late := [sample.receipt 4 .delivered, sample.receipt 5 .read] } := by
  have hqueued : (sample.queued.inner.messages_by_id.lookup "msg_b0").any (fun message =>
      message.direction = "outbound" && message.message_type ≠ "system" &&
        message.delivery_state = .Pending && message.wa_message_id ≠ some "3EB0A1") = true := by decide
  obtain ⟨message, hmessage, hbefore⟩ := (Option.any_eq_true _ _).mp hqueued
  simp only [Bool.and_eq_true, decide_eq_true_eq] at hbefore
  obtain ⟨⟨⟨hdirection, htype⟩, hpending⟩, hwa⟩ := hbefore
  refine (delivery_joins_iff sample.service sample.queued _ hmessage (Or.inl hdirection) htype hpending
    hwa).mpr ⟨⟨by decide, fun _ h => by cases h⟩, Or.inl ?_⟩
  rintro ⟨key, other, -, hother, hcarries⟩
  have hnone : sample.queued.inner.messages_by_id.values.all (fun message =>
      message.wa_message_id ≠ some "3EB0A1") = true := by decide
  have := List.all_eq_true.mp hnone other (HashMap.mem_values_of_lookup hother)
  simp [hcarries] at this

end rustzap.state
