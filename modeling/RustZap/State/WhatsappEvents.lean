import RustZap.State.Enrichment
import RustZap.State.InboundMedia

open collections serde_json
open rustzap.error rustzap.eventbus rustzap.models rustzap.whatsapp

namespace rustzap.state

/-- The work that the handling of an event spawns and does not wait for. It ends
in `apply_contact_profile` or `apply_group_profile`, or in nothing. -/
inductive EnrichmentTask where
  | contact (runtime : ChannelRuntime) (conversation_id contact_id : String)
      (alt_jid push_name : Option String)
  | group (runtime : ChannelRuntime) (group_id : String)
  deriving DecidableEq

def spawn_contact_enrichment (ctx : Ctx) (inner : StoreInner) (runtime : ChannelRuntime)
    (conversation_id contact_id : String) (alt_jid push_name : Option String) :
    List EnrichmentTask × StoreInner :=
  let reserved := reserve_contact_profile_refresh ctx inner runtime.project_id runtime.company_id
    contact_id false
  match reserved.1 with
  | .ok true => ([.contact runtime conversation_id contact_id alt_jid push_name], reserved.2)
  | .ok false => ([], reserved.2)
  | .error _ => ([], reserved.2)

def spawn_group_enrichment (ctx : Ctx) (inner : StoreInner) (runtime : ChannelRuntime)
    (group_id : String) (force : Bool) : List EnrichmentTask × StoreInner :=
  if !is_group_jid group_id then ([], inner)
  else
    let reserved := reserve_group_profile_refresh ctx inner runtime group_id force
    if reserved.1 then ([.group runtime group_id], reserved.2) else ([], reserved.2)

/-- An event of the channel that is about no message. -/
def runtime_event (ctx : Ctx) (draw : Nat) (event_type : String) (runtime : ChannelRuntime)
    (conversation_id : Option String) (payload : Value) : CommonEvent :=
  new_event ctx draw event_type runtime.project_id runtime.company_id (some runtime.channel_id)
    conversation_id none none payload

def channel_connected_at (inner : StoreInner) (channel_id : String) : Option OffsetDateTime :=
  (inner.channels.lookup channel_id).bind ChannelRecord.connected_at

def is_updates_event_surface (event : MessageEvent) : Bool :=
  is_updates_surface_jid event.chat_jid || is_updates_surface_jid event.sender_jid ||
    event.sender_alt_jid.any is_updates_surface_jid || event.recipient_jid.any is_updates_surface_jid ||
    event.recipient_alt_jid.any is_updates_surface_jid

/-- The event under which a message is dropped before it is recorded, if it is. -/
def ignored_message_event (self : AppState) (ctx : Ctx) (inner : StoreInner) (runtime : ChannelRuntime)
    (event : MessageEvent) : Option CommonEvent :=
  if is_updates_event_surface event then
    some (runtime_event ctx 0 "whatsapp_updates.ignored" runtime none
      (.object [("reason", .string "updates_surface")]))
  else if event.message_type = "system" ∧ str.is_empty (event.text.getD "") then
    some (runtime_event ctx 0 "message.system_ignored" runtime (some event.chat_jid)
      (.object [("wa_message_id", .string event.wa_message_id)]))
  else match channel_connected_at inner runtime.channel_id with
    | some connected_at =>
      if event.created_at_wa < connected_at then
        some (runtime_event ctx 0 "ignored_old_message" runtime (some event.chat_jid)
          (.object [("wa_message_id", .string event.wa_message_id),
            ("created_at_wa", .string (self.host.ts event.created_at_wa)),
            ("connected_at", .string (self.host.ts connected_at))]))
      else none
    | none => none

def direct_contact_alt_jid (event : MessageEvent) : Option String :=
  if event.is_from_me then
    event.recipient_alt_jid.or (event.recipient_jid.filter fun jid => (phone_from_jid jid).isSome)
  else event.sender_alt_jid

def whatsapp_message_input (runtime : ChannelRuntime) (event : MessageEvent) : WhatsappMessageInput :=
  let is_group := is_group_jid event.chat_jid
  { project_id := runtime.project_id
    company_id := runtime.company_id
    channel_id := runtime.channel_id
    conversation_id := event.chat_jid
    contact_id := if is_group then none else some event.chat_jid
    contact_name := if !is_group && !event.is_from_me then event.push_name else none
    contact_alt_jid := if is_group then none else direct_contact_alt_jid event
    direction := if event.is_from_me then "outbound" else "inbound"
    message_type := event.message_type
    text := event.text
    status := if event.is_from_me then "sent_to_whatsapp" else "received"
    wa_message_id := some event.wa_message_id
    sender_contact_id := if event.is_from_me then none else some event.sender_jid
    sender_name := if event.is_from_me then none else event.push_name
    sender_alt_jid := event.sender_alt_jid
    created_at_wa := event.created_at_wa }

/-- The media of an event is announced, fetched and recorded; a failure is
published and otherwise ignored. -/
def process_message_media (self : AppState) (ctx : Ctx) (inner : StoreInner) (runtime : ChannelRuntime)
    (event : MessageEvent) (message : Message) (descriptor : InboundMediaDescriptor)
    (answers : InboundMediaAnswers) : StoreInner :=
  let inner := push_event_inner inner (channel_event ctx 8 "media.download.requested" runtime
    event.chat_jid message
    (.object [("message_id", .string message.id), ("media", descriptor.to_json)]))
  let stored := download_and_store_inbound_media self inner runtime message event.chat_jid descriptor
    answers
  match stored.1 with
  | .ok _ => stored.2
  | .error err =>
    push_event_inner stored.2 (channel_event answers.ctx 10 "media.download.failed" runtime event.chat_jid
      message (.object [("message_id", .string message.id), ("error", .string err.to_string)]))

/-- The contact whose profile a message makes the service look up. -/
def contact_for_enrichment (event : MessageEvent) : Option String :=
  if is_group_jid event.chat_jid then
    if event.is_from_me then none else some event.sender_jid
  else some event.chat_jid

def alt_for_enrichment (event : MessageEvent) : Option String :=
  if is_group_jid event.chat_jid then
    if event.is_from_me then none else event.sender_alt_jid
  else direct_contact_alt_jid event

def spawn_enrichment (ctx : Ctx) (inner : StoreInner) (runtime : ChannelRuntime) (event : MessageEvent) :
    List EnrichmentTask × StoreInner :=
  let contact := match contact_for_enrichment event with
    | some contact_id =>
      if str.is_empty (str.trim contact_id) then ([], inner)
      else spawn_contact_enrichment ctx inner runtime event.chat_jid contact_id
        (alt_for_enrichment event) (if event.is_from_me then none else event.push_name)
    | none => ([], inner)
  let group := if is_group_jid event.chat_jid then
      spawn_group_enrichment ctx contact.2 runtime event.chat_jid false
    else ([], contact.2)
  (contact.1 ++ group.1, group.2)

theorem spawn_contact_enrichment_frame (ctx : Ctx) (inner : StoreInner) (runtime : ChannelRuntime)
    (conversation_id contact_id : String) (alt_jid push_name : Option String) :
    ∃ contacts, (spawn_contact_enrichment ctx inner runtime conversation_id contact_id alt_jid
      push_name).2 = { inner with contacts } := by
  have hreserve : ∃ contacts, (reserve_contact_profile_refresh ctx inner runtime.project_id
      runtime.company_id contact_id false).2 = { inner with contacts } := by
    unfold reserve_contact_profile_refresh
    dsimp only
    split
    · exact ⟨_, rfl⟩
    · split <;> exact ⟨_, rfl⟩
  unfold spawn_contact_enrichment
  dsimp only
  split <;> exact hreserve

theorem spawn_group_enrichment_frame (ctx : Ctx) (inner : StoreInner) (runtime : ChannelRuntime)
    (group_id : String) (force : Bool) :
    ∃ group_profile_refreshes, (spawn_group_enrichment ctx inner runtime group_id force).2 =
      { inner with group_profile_refreshes } := by
  unfold spawn_group_enrichment reserve_group_profile_refresh
  dsimp only
  repeat' split
  all_goals exact ⟨_, rfl⟩

/-- All that is done for the enrichment before it is spawned is to note that it
has been asked for. -/
theorem spawn_enrichment_frame (ctx : Ctx) (inner : StoreInner) (runtime : ChannelRuntime)
    (event : MessageEvent) :
    ∃ contacts group_profile_refreshes, (spawn_enrichment ctx inner runtime event).2 =
      { inner with contacts, group_profile_refreshes } := by
  obtain ⟨contacts, hcontact⟩ : ∃ contacts, (match contact_for_enrichment event with
      | some contact_id =>
        if str.is_empty (str.trim contact_id) then ([], inner)
        else spawn_contact_enrichment ctx inner runtime event.chat_jid contact_id
          (alt_for_enrichment event) (if event.is_from_me then none else event.push_name)
      | none => ([], inner)).2 = { inner with contacts } := by
    cases contact_for_enrichment event with
    | none => exact ⟨_, rfl⟩
    | some contact_id =>
      dsimp only
      split
      · exact ⟨_, rfl⟩
      · exact spawn_contact_enrichment_frame ..
  unfold spawn_enrichment
  dsimp only
  rw [hcontact]
  split
  · obtain ⟨refreshes, hgroup⟩ := spawn_group_enrichment_frame ctx { inner with contacts } runtime
      event.chat_jid false
    exact ⟨contacts, refreshes, hgroup⟩
  · exact ⟨contacts, _, rfl⟩

/-- What the handling of an event learns from outside: the fate of its media, and
whether and when a stopped session is to be started again. -/
structure EventAnswers where
  media : InboundMediaAnswers
  should_reconnect : Bool
  delay_secs : Nat

def process_message_event (self : AppState) (ctx : Ctx) (inner : StoreInner) (runtime : ChannelRuntime)
    (event : MessageEvent) (answers : InboundMediaAnswers) : List EnrichmentTask × StoreInner :=
  match ignored_message_event self ctx inner runtime event with
  | some ignored => ([], push_event_inner inner ignored)
  | none =>
    let recorded := record_whatsapp_message ctx inner (whatsapp_message_input runtime event)
    let inner := match event.media with
      | some descriptor =>
        process_message_media self ctx recorded.2 runtime event recorded.1 descriptor answers
      | none => recorded.2
    spawn_enrichment ctx inner runtime event

/-- The listed messages are looked up and updated one after another; an id that
is not found is skipped. An update draws six UUIDs. -/
def apply_receipts (self : AppState) (receipt_type : String) (created_at_wa : OffsetDateTime) :
    Ctx → StoreInner → List String → StoreInner
  | _, inner, [] => inner
  | ctx, inner, wa_message_id :: rest =>
    apply_receipts self receipt_type created_at_wa (ctx.skip 6)
      (update_receipt_by_wa_id_with_context self ctx inner wa_message_id receipt_type
        (some created_at_wa)).2 rest

def process_receipt_event (self : AppState) (ctx : Ctx) (inner : StoreInner) (runtime : ChannelRuntime)
    (event : ReceiptEvent) : StoreInner :=
  if is_updates_surface_jid event.chat_jid then
    push_event_inner inner (runtime_event ctx 0 "whatsapp_updates.ignored" runtime none
      (.object [("reason", .string "updates_surface")]))
  else apply_receipts self event.receipt_type event.created_at_wa ctx inner event.wa_message_ids

def process_group_update (self : AppState) (ctx : Ctx) (inner : StoreInner) (runtime : ChannelRuntime)
    (group_jid : String) (subject : Option String) (created_at_wa : OffsetDateTime) :
    List EnrichmentTask × StoreInner :=
  if is_updates_surface_jid group_jid then
    ([], push_event_inner inner (runtime_event ctx 0 "whatsapp_updates.ignored" runtime none
      (.object [("reason", .string "updates_surface")])))
  else
    let inner := match subject with
      | some subject =>
        apply_group_subject self ctx inner runtime.project_id runtime.company_id runtime.channel_id
          group_jid subject created_at_wa
      | none => inner
    spawn_group_enrichment ctx inner runtime group_jid true

def process_diagnostic (ctx : Ctx) (inner : StoreInner) (runtime : ChannelRuntime) (event_type : String)
    (payload : Value) (answers : EventAnswers) : StoreInner :=
  let inner := if event_type = "channel.connect_failure" then
      let reason := ((payload.get "reason").bind Value.as_str).getD ""
      let status := if str.contains reason "LoggedOut" then "logged_out" else "disconnected"
      set_qr (set_channel_status ctx inner runtime.channel_id status none) runtime.channel_id status none
        ctx.now
    else inner
  let inner := push_event_inner inner (runtime_event ctx 0 event_type runtime none payload)
  if event_type = "channel.runtime_stopped" && answers.should_reconnect then
    push_event_inner inner (runtime_event ctx 3 "channel.reconnect_scheduled" runtime none
      (.object [("delay_secs", .number answers.delay_secs)]))
  else inner

/-- The dispatch over the events of a session. The session registry, which the
source keeps beside the store, shows through the answers. -/
def process_whatsapp_event (self : AppState) (ctx : Ctx) (inner : StoreInner) (runtime : ChannelRuntime)
    (answers : EventAnswers) : WhatsappEvent → List EnrichmentTask × StoreInner
  | .PairingQrCode code timeout_secs =>
    let inner := set_channel_status ctx inner runtime.channel_id "waiting_qr" none
    let inner := set_qr inner runtime.channel_id "waiting_qr" (some code)
      (qr_expires_at ctx.now timeout_secs)
    ([], push_event_inner inner (runtime_event ctx 0 "channel.qr" runtime none
      (.object [("status", .string "waiting_qr")])))
  | .Connected =>
    let inner := set_channel_status ctx inner runtime.channel_id "connected" (some ctx.now)
    ([], push_event_inner inner (runtime_event ctx 0 "channel.connected" runtime none
      (.object [("connected_at", .string (self.host.ts ctx.now))])))
  | .Disconnected =>
    let logged_out := (inner.channels.lookup runtime.channel_id).map ChannelRecord.status =
      some "logged_out"
    let inner := if logged_out then inner
      else set_channel_status ctx inner runtime.channel_id "disconnected" none
    ([], push_event_inner inner (runtime_event ctx 0 "channel.disconnected" runtime none (.object [])))
  | .LoggedOut reason =>
    let inner := set_channel_status ctx inner runtime.channel_id "logged_out" none
    ([], push_event_inner inner (runtime_event ctx 0 "channel.logged_out" runtime none
      (.object [("reason", .string reason)])))
  | .HistorySyncIgnored =>
    ([], push_event_inner inner (runtime_event ctx 0 "history_sync.ignored" runtime none
      (.object [("reason", .string "skip_history_sync")])))
  | .Message event => process_message_event self ctx inner runtime event answers.media
  | .Receipt event => ([], process_receipt_event self ctx inner runtime event)
  | .GroupUpdate group_jid subject created_at_wa =>
    process_group_update self ctx inner runtime group_jid subject created_at_wa
  | .Diagnostic event_type payload => ([], process_diagnostic ctx inner runtime event_type payload answers)

end rustzap.state
