import RustZap.Profiles.Looks

open collections runs throttle
open rustzap.models rustzap.whatsapp

namespace rustzap.state

/-- What happens around the looks at profiles: the operations of the service, and those
sections of the inspection of a contact that are none of them. It finds out whether the
channel is connected, and reserves the look under the id that it has resolved before. The
profile that it is answered with is applied, or its failure recorded, as after any look. -/
inductive LookupOp where
  | operation (op : Operation)
  | reconcile_channel_runtime_status (channel_id : String) (is_channel_connected : Bool)
  | reserve_contact_profile_refresh (project_id company_id contact_id : String)

namespace LookupOp

def apply (self : AppState) (ctx : Ctx) (inner : StoreInner) : LookupOp → StoreInner
  | .operation op => op.apply self ctx inner
  | .reconcile_channel_runtime_status channel_id is_channel_connected =>
    state.reconcile_channel_runtime_status ctx inner channel_id is_channel_connected
  | .reserve_contact_profile_refresh project company contact =>
    (state.reserve_contact_profile_refresh ctx inner project company contact false).2

/-- What of it concerns the looks. A look begins where a task for it is spawned, or where the
inspection has its reservation. -/
def profile_ops (self : AppState) (ctx : Ctx) (inner : StoreInner) : LookupOp → List ProfileOp
  | .operation op => op.profile_ops self ctx inner
  | .reconcile_channel_runtime_status _ _ => []
  | .reserve_contact_profile_refresh project company contact =>
    reserved_ops (.look_up (resolve_contact_id_inner inner project company contact))
      (state.reserve_contact_profile_refresh ctx inner project company contact false).1

theorem looks (self : AppState) (ctx : Ctx) (inner : StoreInner) (op : LookupOp) :
    Looks ctx.now (op.profile_ops self ctx inner) inner (op.apply self ctx inner) := by
  cases op with
  | operation op => exact op.looks inner self ctx
  | reconcile_channel_runtime_status channel_id is_channel_connected =>
    exact .quiet (reconcile_channel_runtime_status_quiet ..)
  | reserve_contact_profile_refresh project company contact =>
    exact reserve_contact_profile_refresh_looks inner ctx project company contact

end LookupOp

structure LookupLabel where
  ctx : Ctx
  op : LookupOp
  looks : List ProfileOp

/-- The looks of one step, each with its time. -/
def LookupLabel.trace (label : LookupLabel) : List (OffsetDateTime × ProfileOp) :=
  label.looks.map (Prod.mk label.ctx.now)

def LookupStep (self : AppState) (inner : StoreInner) (label : LookupLabel) (inner' : StoreInner) : Prop :=
  label.looks = label.op.profile_ops self label.ctx inner ∧
    (label.op.apply self label.ctx inner).Reordered inner'

section Runs

variable {self : AppState} {inner inner' : StoreInner} {labels : List LookupLabel}

theorem StoreInner.Reordered.profile_book (h : inner.Reordered inner') :
    inner'.profile_book = inner.profile_book := by
  unfold StoreInner.profile_book
  congr
  · funext contact_id
    rw [h.contacts.lookup]
  · funext key
    rw [h.group_profile_refreshes.lookup]

theorem LookupStep.looks {label : LookupLabel} (h : LookupStep self inner label inner') :
    Run ProfileBook.Step inner.profile_book label.trace inner'.profile_book := by
  obtain ⟨hlooks, hreordered⟩ := h
  rw [hreordered.profile_book, LookupLabel.trace, hlooks]
  exact label.op.looks self label.ctx inner

/-- A run of the service goes through the looks of its steps. -/
theorem lookups_run (hrun : Run (LookupStep self) inner labels inner') :
    Run ProfileBook.Step inner.profile_book (labels.flatMap LookupLabel.trace) inner'.profile_book := by
  induction hrun with
  | nil => exact .nil _
  | cons hstep hrest ih =>
    rw [List.flatMap_cons]
    exact Run.append hstep.looks ih

/-- A trace is as much in order as the clock. -/
theorem trace_in_order (hclock : (labels.map fun label => label.ctx.now).Pairwise (· ≤ ·)) :
    (labels.flatMap LookupLabel.trace).Pairwise fun look look' => look.1 ≤ look'.1 := by
  have htime : ∀ label : LookupLabel, ∀ look ∈ label.trace, look.1 = label.ctx.now := by
    intro label look hlook
    obtain ⟨op, -, rfl⟩ := List.mem_map.mp hlook
    rfl
  rw [List.pairwise_flatMap]
  constructor
  · intro label _
    refine List.pairwise_of_forall_mem_list fun look hlook look' hlook' => ?_
    rw [htime label look hlook, htime label look' hlook']
  · refine (List.pairwise_map.mp hclock).imp fun {label label'} hle look hlook look' hlook' => ?_
    rwa [htime label look hlook, htime label' look' hlook']

/-- What a throttle says of the looks of a run. -/
theorem looks_spaced {looks : Throttle ProfileBook (OffsetDateTime × ProfileOp) String OffsetDateTime}
    {wait : OffsetDateTime} (hkept : looks.Kept wait) {before between after : List (OffsetDateTime × ProfileOp)}
    {first second : OffsetDateTime × ProfileOp} {book book' : ProfileBook} {key : String}
    (hrun : Run looks.step book (before ++ first :: (between ++ second :: after)) book')
    (hmarks : looks.marks first key) (hwaits : looks.waits second key)
    (hbetween : ∀ look ∈ between, ¬ looks.forgets look key ∧ looks.time first ≤ looks.time look) :
    looks.time first + wait ≤ looks.time second := by
  obtain ⟨mid, -, hfrom⟩ := hrun.split
  have hlist : first :: (between ++ second :: after) = first :: (between ++ [second]) ++ after := by simp
  rw [hlist] at hfrom
  obtain ⟨mid', hlooks, -⟩ := hfrom.split
  exact hkept.spaced hlooks hmarks hwaits hbetween

/-- As long as the clock goes forward, a contact is looked at half an hour after any look at
it began or failed at the earliest, and a day after its profile has been seen if no look has
failed since, unless what was known of it has been lost in between. A group whose change is
not announced is looked at five minutes after the last time. -/
theorem profile_looks_spaced {before between after : List (OffsetDateTime × ProfileOp)}
    {first second : OffsetDateTime × ProfileOp} (hrun : Run (LookupStep self) inner labels inner')
    (hclock : (labels.map fun label => label.ctx.now).Pairwise (· ≤ ·))
    (htrace : labels.flatMap LookupLabel.trace = before ++ first :: (between ++ second :: after)) :
    (∀ contact_id, first.2.is_look contact_id → second.2 = .look_up contact_id →
      (∀ look ∈ between, ¬ look.2.loses_contact contact_id) →
      first.1 + Duration.minutes 30 ≤ second.1) ∧
    (∀ contact_id, first.2.succeeds contact_id → second.2 = .look_up contact_id →
      (∀ look ∈ between, ¬ look.2.loses_contact contact_id ∧ look.2 ≠ .fail contact_id) →
      first.1 + Duration.hours 24 ≤ second.1) ∧
    (∀ key force, first.2 = .refresh key force → second.2 = .refresh key false →
      (∀ look ∈ between, ¬ look.2.loses_group key) →
      first.1 + Duration.minutes 5 ≤ second.1) := by
  have hlooks := lookups_run hrun
  have horder := trace_in_order hclock
  rw [htrace] at hlooks horder
  have htimes : ∀ look ∈ between, first.1 ≤ look.1 := by
    intro look hlook
    exact (List.pairwise_cons.mp (List.pairwise_append.mp horder).2.1).1 look
      (List.mem_append_left _ hlook)
  refine ⟨?_, ?_, ?_⟩
  · intro contact_id hfirst hsecond hkept
    exact looks_spaced ProfileBook.contact_throttle_kept hlooks hfirst hsecond
      fun look hlook => ⟨hkept look hlook, htimes look hlook⟩
  · intro contact_id hfirst hsecond hkept
    exact looks_spaced ProfileBook.rest_throttle_kept hlooks hfirst hsecond
      fun look hlook => ⟨not_or.mpr (hkept look hlook), htimes look hlook⟩
  · intro key force hfirst hsecond hkept
    exact looks_spaced ProfileBook.group_throttle_kept hlooks ⟨force, hfirst⟩ hsecond
      fun look hlook => ⟨hkept look hlook, htimes look hlook⟩

end Runs

namespace sample

/-- The labels of a run in which the maps yield their entries as they are stored. -/
def looked_up : StoreInner → List (Ctx × LookupOp) → List LookupLabel
  | _, [] => []
  | inner, (ctx, op) :: rest =>
    { ctx, op, looks := op.profile_ops service ctx inner } :: looked_up (op.apply service ctx inner) rest

theorem looked_up_run (ops : List (Ctx × LookupOp)) :
    ∀ inner, ∃ inner', Run (LookupStep service) inner (looked_up inner ops) inner' := by
  induction ops with
  | nil => exact fun inner => ⟨inner, .nil inner⟩
  | cons op ops ih =>
    intro inner
    obtain ⟨inner', hrun⟩ := ih (op.2.apply service op.1 inner)
    exact ⟨inner', .cons ⟨rfl, StoreInner.Reordered.refl _⟩ hrun⟩

def wrote (wa_message_id : String) (second : Nat) : LookupOp :=
  .operation (.store (.process_whatsapp_event company_a answers (.Message
    (text_event wa_message_id second false))))

/-- A contact writes, the look at its profile fails, and it writes again after ten and after
forty minutes. -/
def writing : List (Ctx × LookupOp) :=
  [(ctx 1 "a", wrote "3EB0A0" 1),
    (ctx 10 "b", .operation (.store (.record_contact_profile_lookup_failure "acme" "company_a"
      "5511988887777@s.whatsapp.net"))),
    (ctx 600 "c", wrote "3EB0A1" 600), (ctx 2400 "d", wrote "3EB0A2" 2400)]

theorem writing_trace : (looked_up {} writing).flatMap LookupLabel.trace =
    [(Duration.seconds 1, .look_up "5511988887777@s.whatsapp.net")] ++
      (Duration.seconds 10, .fail "5511988887777@s.whatsapp.net") ::
        ([] ++ (Duration.seconds 2400, .look_up "5511988887777@s.whatsapp.net") :: []) := by
  decide +kernel

theorem writing_clock :
    ((looked_up {} writing).map fun label => label.ctx.now).Pairwise (· ≤ ·) := by
  decide +kernel

end sample

/-- A contact whose profile could not be had is not looked at again for half an hour, however
often it writes. -/
theorem profile_looks_spaced_after_failure :
    (sample.looked_up {} sample.writing).flatMap LookupLabel.trace =
        [(Duration.seconds 1, .look_up "5511988887777@s.whatsapp.net")] ++
        (Duration.seconds 10, .fail "5511988887777@s.whatsapp.net") ::
          ([] ++ (Duration.seconds 2400, .look_up "5511988887777@s.whatsapp.net") :: []) ∧
      Duration.seconds 10 + Duration.minutes 30 ≤ Duration.seconds 2400 := by
  obtain ⟨inner', hrun⟩ := sample.looked_up_run sample.writing {}
  have hspaced := profile_looks_spaced hrun sample.writing_clock sample.writing_trace
  exact ⟨sample.writing_trace, hspaced.1 "5511988887777@s.whatsapp.net" rfl rfl (List.forall_mem_nil _)⟩

end rustzap.state
