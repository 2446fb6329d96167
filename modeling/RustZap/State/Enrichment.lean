import RustZap.State.Record

open collections serde_json
open rustzap.error rustzap.eventbus rustzap.models rustzap.whatsapp

namespace rustzap.state

/-- Phone book ids of a number, those hidden behind a LID first. -/
def contact_id_for_phone_number_inner (inner : StoreInner)
    (project_id company_id phone_number : String) : Option String :=
  let ids := (inner.contacts.values.filter fun contact =>
    contact.project_id = project_id && contact.company_id = company_id &&
      contact_phone_number contact = some phone_number).map ContactRecord.id
  (sort_by (fun a b => (is_lid a && !is_lid b) || (is_lid a = is_lid b && decide (a ≤ b))) ids).head?

def ContactRecord.matches_tenant (self : ContactRecord) (project_id company_id : String) : Bool :=
  self.project_id = project_id && self.company_id = company_id

def resolve_contact_id_inner (inner : StoreInner) (project_id company_id contact_id : String) : String :=
  let trimmed := str.trim contact_id
  if (inner.contacts.lookup trimmed).any fun contact => contact.matches_tenant project_id company_id then
    trimmed
  else
    ((reference_phone_number trimmed).bind
      (contact_id_for_phone_number_inner inner project_id company_id)).getD trimmed

def contact_profile_refresh_due (contact : ContactRecord) (now : OffsetDateTime) (force : Bool) : Bool :=
  force || match contact.profile_lookup_attempted_at with
    | none => true
    | some last_attempt =>
      let retry_after := if contact.profile_lookup_failed_at.isSome then Duration.minutes 30
        else Duration.hours 24
      last_attempt ≤ now - retry_after

def contact_not_found (contact_id : String) : ApiError :=
  .NotFound ("contact " ++ contact_id ++ " not found")

def reserve_contact_profile_refresh (ctx : Ctx) (inner : StoreInner)
    (project_id company_id contact_id : String) (force : Bool) : ApiResult Bool × StoreInner :=
  let resolved := resolve_contact_id_inner inner project_id company_id contact_id
  match (inner.contacts.lookup resolved).filter fun contact =>
      contact.matches_tenant project_id company_id with
  | none => (.error (contact_not_found resolved), inner)
  | some contact =>
    if !contact_profile_refresh_due contact ctx.now force then (.ok false, inner)
    else (.ok true, { inner with
      contacts := inner.contacts.insert resolved
        { contact with profile_lookup_attempted_at := some ctx.now } })

/-- The failure count stops at the largest 32-bit number. -/
def record_contact_profile_lookup_failure (ctx : Ctx) (inner : StoreInner)
    (project_id company_id contact_id : String) : StoreInner :=
  let resolved := resolve_contact_id_inner inner project_id company_id contact_id
  match (inner.contacts.lookup resolved).filter fun contact =>
      contact.matches_tenant project_id company_id with
  | none => inner
  | some contact =>
    { inner with
      contacts := inner.contacts.insert resolved
        { contact with
          profile_lookup_attempted_at := some ctx.now
          profile_lookup_failed_at := some ctx.now
          profile_lookup_failure_count := min (contact.profile_lookup_failure_count + 1) (2 ^ 32 - 1) } }

def group_profile_refresh_key (runtime : ChannelRuntime) (group_id : String) : String :=
  runtime.project_id ++ "|" ++ runtime.company_id ++ "|" ++ runtime.channel_id ++ "|" ++ group_id

def reserve_group_profile_refresh (ctx : Ctx) (inner : StoreInner) (runtime : ChannelRuntime)
    (group_id : String) (force : Bool) : Bool × StoreInner :=
  let key := group_profile_refresh_key runtime group_id
  if !force && (inner.group_profile_refreshes.lookup key).any fun last_refresh =>
      last_refresh > ctx.now - Duration.minutes 5 then (false, inner)
  else (true, { inner with
    group_profile_refreshes := inner.group_profile_refreshes.insert key ctx.now })

structure ContactProfileApplyInput where
  project_id : String
  company_id : String
  channel_id : String
  conversation_id : String
  contact_id : String
  push_name : Option String
  profile : ContactProfile
  profile_lookup_succeeded : Bool

def contact_aliases (contact : ContactRecord) (profile : ContactProfile) : List String :=
  str.sort_dedup ([contact.id, profile.requested_jid] ++ contact.canonical_jid.toList ++
    contact.lid.toList ++ profile.resolved_jid.toList)

/-- A message shows its sender's name; one whose sender is the enriched contact
takes the new one. -/
def rename_sender (aliases : List String) (contact : ContactRecord) (now : OffsetDateTime)
    (message : Message) : Message :=
  if message.sender_contact_id.any fun sender => aliases.contains sender then
    { message with sender_display_name := some contact.display_name, updated_at := now }
  else message

def apply_contact_profile (ctx : Ctx) (inner : StoreInner) (input : ContactProfileApplyInput) :
    StoreInner :=
  let enriched := enrich_contact_inner inner
    { project_id := input.project_id, company_id := input.company_id,
      channel_id := some input.channel_id, contact_id := input.contact_id, push_name := input.push_name,
      profile := input.profile, now := ctx.now,
      profile_lookup_succeeded := input.profile_lookup_succeeded }
  let contact := enriched.1
  let inner := enriched.2
  let aliases := contact_aliases contact input.profile
  let conversations : HashMap String Conversation :=
    match inner.conversations.lookup input.conversation_id with
    | some conversation =>
      if conversation.conversation_type = "direct" then
        inner.conversations.insert input.conversation_id
          (apply_contact_to_conversation conversation contact ctx.now)
      else inner.conversations
    | none => inner.conversations
  let inner := { inner with
    conversations := conversations.map_values fun _ conversation =>
      if conversation.company_id = input.company_id && conversation.project_id = input.project_id &&
          conversation.conversation_type = "direct" &&
          aliases.any fun jid => conversation.id = jid || conversation.contact_id = some jid then
        apply_contact_to_conversation conversation contact ctx.now
      else conversation
    messages_by_conversation := inner.messages_by_conversation.map_values fun _ messages =>
      messages.map (rename_sender aliases contact ctx.now)
    messages_by_id := inner.messages_by_id.map_values fun _ message =>
      rename_sender aliases contact ctx.now message
    group_members := inner.group_members.map_values fun _ members =>
      members.map_values fun _ member =>
        if aliases.contains member.contact_id then
          { member with display_name := contact.display_name, last_seen_at := ctx.now }
        else member }
  push_event_inner inner (new_event ctx 0 "contact.updated" input.project_id input.company_id
    (some input.channel_id) (some input.conversation_id) none none
    (.object [("contact_id", .string contact.id), ("canonical_jid", Value.of_option contact.canonical_jid),
      ("lid", Value.of_option contact.lid), ("phone_e164", Value.of_option contact.phone_e164),
      ("profile_picture_url", Value.of_option contact.profile_picture_url)]))

def empty_group_record : GroupRecord where
  wa_jid := none
  subject := none
  description := none
  owner_jid := none
  subject_owner_jid := none
  profile_picture_media_id := none
  avatar_url := none
  profile_picture_url := none
  created_at_wa := none
  members_count := none
  admins_count := none

def group_conversation (now : OffsetDateTime) (project_id company_id channel_id group_id : String) :
    Conversation where
  id := group_id
  project_id
  company_id
  channel_account_id := channel_id
  conversation_type := "group"
  contact_id := none
  group_id := some group_id
  display_name := some (group_subject_for_jid group_id)
  display_phone := none
  phone_number := none
  profile_picture_media_id := none
  avatar_url := none
  profile_picture_url := none
  last_seq := 0
  last_message_at := none
  unread_count := 0
  is_archived := false
  is_muted := false
  is_pinned := false
  control_mode := "manual"
  created_at := now
  updated_at := now

/-- A group's record is stored, and its conversation follows it. -/
def store_group_record (now : OffsetDateTime) (inner : StoreInner)
    (project_id company_id channel_id group_id : String) (record : GroupRecord) : StoreInner :=
  let conversation := (inner.conversations.lookup group_id).getD
    (group_conversation now project_id company_id channel_id group_id)
  let conversation := apply_group_record_to_conversation conversation group_id (some record)
  { inner with
    groups := inner.groups.insert group_id record
    conversations := inner.conversations.insert group_id { conversation with updated_at := now } }

def apply_group_subject (self : AppState) (ctx : Ctx) (inner : StoreInner)
    (project_id company_id channel_id group_id subject : String) (created_at_wa : OffsetDateTime) :
    StoreInner :=
  match str.non_blank subject with
  | none => inner
  | some subject =>
    let record := (inner.groups.lookup group_id).getD empty_group_record
    let record := { record with wa_jid := some group_id, subject := some subject }
    push_event_inner (store_group_record ctx.now inner project_id company_id channel_id group_id record)
      (new_event ctx 0 "group.updated" project_id company_id (some channel_id) (some group_id) none none
        (.object [("group_id", .string group_id), ("subject", .string subject),
          ("created_at_wa", .string (self.host.ts created_at_wa))]))

def group_participant_display_name (inner : StoreInner) (participant : GroupParticipantProfile) : String :=
  (((inner.contacts.lookup participant.contact_id).map ContactRecord.display_name).or
    (participant.phone_jid.bind phone_from_jid)).getD (display_name_for_jid participant.contact_id)

def should_replace_group_member_name (current contact_id : String) : Bool :=
  let current := str.trim current
  str.is_empty current || current = contact_id || current = display_name_for_jid contact_id ||
    str.ends_with current "@lid" || str.ends_with current "@s.whatsapp.net"

def upsert_group_member_metadata_inner (inner : StoreInner) (group_id contact_id : String)
    (phone_jid : Option String) (display_name : String) (owner_jid : Option String) (is_admin : Bool)
    (now : OffsetDateTime) : StoreInner :=
  let role := if owner_jid = some contact_id then "owner" else if is_admin then "admin" else "member"
  let phone_e164 := (phone_jid.bind phone_from_jid).or (phone_from_jid contact_id)
  let is_admin := is_admin || role = "owner"
  let members := (inner.group_members.lookup group_id).getD ∅
  let member : GroupMemberRecord := match members.lookup contact_id with
    | some member =>
      { member with
        wa_jid := some contact_id, phone_e164, role, is_admin, updated_at := now, last_seen_at := now
        display_name := if should_replace_group_member_name member.display_name contact_id then
            display_name
          else member.display_name }
    | none =>
      { group_id, contact_id, wa_jid := some contact_id, phone_e164, display_name, role, is_admin,
        joined_at := now, updated_at := now, last_seen_at := now }
  { inner with group_members := inner.group_members.insert group_id (members.insert contact_id member) }

/-- One participant of a group: a contact when its phone is known, and a member
in any case. -/
def apply_group_participant (ctx : Ctx) (project_id company_id channel_id group_id : String)
    (owner_jid : Option String) (inner : StoreInner) (participant : GroupParticipantProfile) :
    StoreInner :=
  let inner := match participant.phone_jid with
    | some phone_jid =>
      (upsert_contact_with_alt_inner inner
        { contact :=
            { project_id, company_id, channel_id := some channel_id,
              contact_id := participant.contact_id, push_name := none, profile_picture_url := none,
              now := ctx.now }
          alt_jid := some phone_jid }).2
    | none => inner
  upsert_group_member_metadata_inner inner group_id participant.contact_id participant.phone_jid
    (group_participant_display_name inner participant) owner_jid participant.is_admin ctx.now

/-- Whole seconds since the epoch, where they fit the calendar of the source. -/
def from_unix_timestamp (timestamp : Nat) : Option OffsetDateTime :=
  if timestamp ≤ 253402300799 then some (Duration.seconds timestamp) else none

def group_record_of_profile (record : GroupRecord) (profile : GroupProfile) : GroupRecord where
  wa_jid := some profile.group_jid
  subject := profile.subject.bind str.non_blank
  description := profile.description.bind str.non_blank
  owner_jid := profile.owner_jid
  subject_owner_jid := profile.subject_owner_jid
  created_at_wa := profile.created_at_wa_unix.bind from_unix_timestamp
  members_count := some (profile.size.getD (min profile.participants.length (2 ^ 32 - 1)))
  admins_count := some (min (profile.participants.countP fun participant =>
    participant.is_admin || profile.owner_jid = some participant.contact_id) (2 ^ 32 - 1))
  profile_picture_media_id := (rustzap_profile_picture_media_id profile.profile_picture_media_id).or
    (rustzap_profile_picture_media_id record.profile_picture_media_id)
  avatar_url := profile.profile_picture_url
  profile_picture_url := profile.profile_picture_url

def apply_group_profile (self : AppState) (ctx : Ctx) (inner : StoreInner)
    (project_id company_id channel_id group_id : String) (profile : GroupProfile) : StoreInner :=
  let record := group_record_of_profile ((inner.groups.lookup group_id).getD empty_group_record) profile
  let inner := { inner with groups := inner.groups.insert group_id record }
  let inner := profile.participants.foldl
    (apply_group_participant ctx project_id company_id channel_id group_id profile.owner_jid) inner
  push_event_inner (store_group_record ctx.now inner project_id company_id channel_id group_id record)
    (new_event ctx 0 "group.updated" project_id company_id (some channel_id) (some group_id) none none
      (.object [("group_id", .string group_id), ("subject", Value.of_option record.subject),
        ("description", Value.of_option record.description),
        ("owner_jid", Value.of_option record.owner_jid),
        ("subject_owner_jid", Value.of_option record.subject_owner_jid),
        ("created_at_wa", Value.of_option (record.created_at_wa.map self.host.ts)),
        ("profile_picture_provider_id", Value.of_option profile.profile_picture_id),
        ("profile_picture_media_id", Value.of_option record.profile_picture_media_id),
        ("profile_picture_url", Value.of_option record.profile_picture_url),
        ("members_count", Value.of_option_nat record.members_count),
        ("admins_count", Value.of_option_nat record.admins_count)]))

end rustzap.state
