import RustZap.State.EventStream

open rustzap.models

namespace rustzap.whatsapp

/-- What the download of a medium needs. The provider may leave out any of it. -/
structure Download where
  direct_path : Option String
  media_key : Option (List UInt8)
  file_sha256 : Option (List UInt8)
  file_enc_sha256 : Option (List UInt8)
  file_length : Option Nat

structure ImageMessage extends Download where
  mimetype : Option String
  caption : Option String
  width : Option Nat
  height : Option Nat

structure AudioMessage extends Download where
  mimetype : Option String
  seconds : Option Nat

structure DocumentMessage extends Download where
  mimetype : Option String
  file_name : Option String
  title : Option String
  caption : Option String

structure VideoMessage extends Download where
  mimetype : Option String
  caption : Option String
  width : Option Nat
  height : Option Nat
  seconds : Option Nat

/-- A message of the provider. Its text is read through a helper. -/
structure WaMessage where
  conversation : Option String
  image_message : Option ImageMessage
  audio_message : Option AudioMessage
  document_message : Option DocumentMessage
  video_message : Option VideoMessage

structure MessageInfo where
  id : String
  chat : String
  sender : String
  sender_alt : Option String
  recipient : Option String
  recipient_alt : Option String
  push_name : String
  timestamp : Int
  is_from_me : Bool

/-- The helpers of the provider's library and the conversions of other crates. -/
structure Wacore where
  text_content : WaMessage → Option String
  get_caption : WaMessage → Option String
  base64_encode : List UInt8 → String
  f64_from : Nat → F64

/-- The seconds of a date, where the calendar has it. -/
def offset_from_unix (now : OffsetDateTime) (timestamp : Int) : OffsetDateTime :=
  if -377705116800 ≤ timestamp ∧ timestamp ≤ 253402300799 then Duration.seconds timestamp else now

def whatsapp_message_type (message : WaMessage) (text : Option String) : String :=
  if text.isSome then "text"
  else if message.image_message.isSome then "image"
  else if message.audio_message.isSome then "audio"
  else if message.document_message.isSome then "document"
  else if message.video_message.isSome then "video"
  else "system"

def downloadable_media_descriptor (wacore : Wacore) (media_type mime_type : String)
    (filename caption : Option String) (download : Download) (width height : Option Nat)
    (duration_seconds : Option F64) : Option InboundMediaDescriptor :=
  download.direct_path.bind fun direct_path =>
  download.media_key.bind fun media_key =>
  download.file_sha256.bind fun file_sha256 =>
  download.file_enc_sha256.bind fun file_enc_sha256 =>
  download.file_length.map fun file_length =>
  { media_type, mime_type, filename, caption, direct_path
    media_key_b64 := wacore.base64_encode media_key
    file_sha256_b64 := wacore.base64_encode file_sha256
    file_enc_sha256_b64 := wacore.base64_encode file_enc_sha256
    file_length, width, height, duration_seconds }

def inbound_media_descriptor (wacore : Wacore) (message : WaMessage) (message_type : String) :
    Option InboundMediaDescriptor :=
  match message_type with
  | "image" => message.image_message.bind fun image =>
    downloadable_media_descriptor wacore "image" (image.mimetype.getD "image/jpeg") none image.caption
      image.toDownload image.width image.height none
  | "audio" => message.audio_message.bind fun audio =>
    downloadable_media_descriptor wacore "audio" (audio.mimetype.getD "audio/ogg") none none audio.toDownload
      none none (audio.seconds.map wacore.f64_from)
  | "document" => message.document_message.bind fun document =>
    downloadable_media_descriptor wacore "document" (document.mimetype.getD "application/octet-stream")
      (document.file_name.or document.title) document.caption document.toDownload none none none
  | "video" => message.video_message.bind fun video =>
    downloadable_media_descriptor wacore "video" (video.mimetype.getD "video/mp4") none video.caption
      video.toDownload video.width video.height (video.seconds.map wacore.f64_from)
  | _ => none

def map_message_event (wacore : Wacore) (now : OffsetDateTime) (message : WaMessage) (info : MessageInfo) :
    MessageEvent :=
  let text := (wacore.text_content message).or (wacore.get_caption message)
  let message_type := whatsapp_message_type message text
  let media := inbound_media_descriptor wacore message message_type
  { wa_message_id := info.id
    chat_jid := info.chat
    sender_jid := info.sender
    sender_alt_jid := info.sender_alt
    recipient_jid := info.recipient
    recipient_alt_jid := info.recipient_alt
    push_name := if str.is_empty info.push_name then none else some info.push_name
    text
    message_type
    media
    created_at_wa := offset_from_unix now info.timestamp
    is_from_me := info.is_from_me }

/-- A part of a message that is a medium. -/
inductive MediaPart where
  | image (image : ImageMessage)
  | audio (audio : AudioMessage)
  | document (document : DocumentMessage)
  | video (video : VideoMessage)

namespace MediaPart

def media_type : MediaPart → String
  | .image _ => "image"
  | .audio _ => "audio"
  | .document _ => "document"
  | .video _ => "video"

def mime_type : MediaPart → String
  | .image part => part.mimetype.getD "image/jpeg"
  | .audio part => part.mimetype.getD "audio/ogg"
  | .document part => part.mimetype.getD "application/octet-stream"
  | .video part => part.mimetype.getD "video/mp4"

def filename : MediaPart → Option String
  | .document part => part.file_name.or part.title
  | _ => none

def caption : MediaPart → Option String
  | .image part => part.caption
  | .audio _ => none
  | .document part => part.caption
  | .video part => part.caption

def download : MediaPart → Download
  | .image part => part.toDownload
  | .audio part => part.toDownload
  | .document part => part.toDownload
  | .video part => part.toDownload

def width : MediaPart → Option Nat
  | .image part => part.width
  | .video part => part.width
  | _ => none

def height : MediaPart → Option Nat
  | .image part => part.height
  | .video part => part.height
  | _ => none

def seconds : MediaPart → Option Nat
  | .audio part => part.seconds
  | .video part => part.seconds
  | _ => none

/-- Nothing that a download needs is missing. -/
def Complete (part : MediaPart) : Prop :=
  part.download.direct_path.isSome ∧ part.download.media_key.isSome ∧ part.download.file_sha256.isSome ∧
    part.download.file_enc_sha256.isSome ∧ part.download.file_length.isSome

/-- The message has this part. -/
def In (message : WaMessage) : MediaPart → Prop
  | .image part => message.image_message = some part
  | .audio part => message.audio_message = some part
  | .document part => message.document_message = some part
  | .video part => message.video_message = some part

/-- The message has no part that is looked for earlier. -/
def Leads (message : WaMessage) : MediaPart → Prop
  | .image _ => True
  | .audio _ => message.image_message = none
  | .document _ => message.image_message = none ∧ message.audio_message = none
  | .video _ => message.image_message = none ∧ message.audio_message = none ∧ message.document_message = none

/-- A descriptor of this part: all that it says is from there. -/
structure DescribedBy (wacore : Wacore) (part : MediaPart) (descriptor : InboundMediaDescriptor) : Prop where
  media_type : descriptor.media_type = part.media_type
  mime_type : descriptor.mime_type = part.mime_type
  filename : descriptor.filename = part.filename
  caption : descriptor.caption = part.caption
  direct_path : part.download.direct_path = some descriptor.direct_path
  media_key : part.download.media_key.map wacore.base64_encode = some descriptor.media_key_b64
  file_sha256 : part.download.file_sha256.map wacore.base64_encode = some descriptor.file_sha256_b64
  file_enc_sha256 : part.download.file_enc_sha256.map wacore.base64_encode = some descriptor.file_enc_sha256_b64
  file_length : part.download.file_length = some descriptor.file_length
  width : descriptor.width = part.width
  height : descriptor.height = part.height
  duration_seconds : descriptor.duration_seconds = part.seconds.map wacore.f64_from

end MediaPart

/-- No part of the message has a caption. -/
def WaMessage.Uncaptioned (message : WaMessage) : Prop :=
  ∀ part : MediaPart, part.In message → part.caption = none

/-- The helpers return what they are named after. -/
structure Wacore.Sound (wacore : Wacore) : Prop where
  caption : ∀ message, wacore.get_caption message = none ↔ message.Uncaptioned

section Parts

variable {wacore : Wacore} {now : OffsetDateTime} {message : WaMessage} {info : MessageInfo} {part : MediaPart}

/-- The descriptor that a part gets where it is looked at. -/
def MediaPart.descriptor (wacore : Wacore) (part : MediaPart) : Option InboundMediaDescriptor :=
  downloadable_media_descriptor wacore part.media_type part.mime_type part.filename part.caption part.download
    part.width part.height (part.seconds.map wacore.f64_from)

/-- The part that gives a message without text its type. -/
def WaMessage.leading_part (message : WaMessage) : Option MediaPart :=
  (message.image_message.map .image).or <| (message.audio_message.map .audio).or <|
    (message.document_message.map .document).or <| message.video_message.map .video

theorem descriptor_of_complete (hcomplete : part.Complete) :
    ∃ descriptor, part.descriptor wacore = some descriptor ∧ part.DescribedBy wacore descriptor := by
  obtain ⟨hpath, hkey, hsha, henc, hlength⟩ := hcomplete
  obtain ⟨direct_path, hpath⟩ := Option.isSome_iff_exists.mp hpath
  obtain ⟨media_key, hkey⟩ := Option.isSome_iff_exists.mp hkey
  obtain ⟨file_sha256, hsha⟩ := Option.isSome_iff_exists.mp hsha
  obtain ⟨file_enc_sha256, henc⟩ := Option.isSome_iff_exists.mp henc
  obtain ⟨file_length, hlength⟩ := Option.isSome_iff_exists.mp hlength
  rw [MediaPart.descriptor, downloadable_media_descriptor, hpath, hkey, hsha, henc, hlength]
  refine ⟨_, rfl, rfl, rfl, rfl, rfl, hpath, ?_, ?_, ?_, hlength, rfl, rfl, rfl⟩
  · rw [hkey, Option.map_some]
  · rw [hsha, Option.map_some]
  · rw [henc, Option.map_some]

theorem descriptor_media_type {descriptor : InboundMediaDescriptor} (h : part.descriptor wacore = some descriptor) :
    descriptor.media_type = part.media_type := by
  rw [MediaPart.descriptor, downloadable_media_descriptor] at h
  obtain ⟨direct_path, -, h⟩ := Option.bind_eq_some_iff.mp h
  obtain ⟨media_key, -, h⟩ := Option.bind_eq_some_iff.mp h
  obtain ⟨file_sha256, -, h⟩ := Option.bind_eq_some_iff.mp h
  obtain ⟨file_enc_sha256, -, h⟩ := Option.bind_eq_some_iff.mp h
  obtain ⟨file_length, -, rfl⟩ := Option.map_eq_some_iff.mp h
  rfl

/-- The medium of an event is that of the leading part, and none beside a text. -/
theorem map_message_event_media : (map_message_event wacore now message info).media =
    if ((wacore.text_content message).or (wacore.get_caption message)).isSome then none
    else message.leading_part.bind (MediaPart.descriptor wacore) := by
  rw [map_message_event]
  dsimp only
  rw [whatsapp_message_type, WaMessage.leading_part]
  split
  · rfl
  · obtain ⟨conversation, image_message, audio_message, document_message, video_message⟩ := message
    cases image_message with
    | some part => rfl
    | none =>
      cases audio_message with
      | some part => rfl
      | none =>
        cases document_message with
        | some part => rfl
        | none => cases video_message <;> rfl

theorem leading_part_in {other : MediaPart} (h : message.leading_part = some other) : other.In message := by
  rw [WaMessage.leading_part] at h
  cases himage : message.image_message with
  | some part =>
    rw [himage] at h
    cases h
    exact himage
  | none =>
    cases haudio : message.audio_message with
    | some part =>
      rw [himage, haudio] at h
      cases h
      exact haudio
    | none =>
      cases hdocument : message.document_message with
      | some part =>
        rw [himage, haudio, hdocument] at h
        cases h
        exact hdocument
      | none =>
        rw [himage, haudio, hdocument] at h
        obtain ⟨part, hvideo, rfl⟩ := Option.map_eq_some_iff.mp h
        exact hvideo

/-- A message has one part of each type. -/
theorem part_unique {other : MediaPart} (hin : part.In message) (hother : other.In message)
    (htype : other.media_type = part.media_type) : other = part := by
  cases part with
  | image part =>
    cases other with
    | image other => exact congrArg _ (Option.some.inj (hother.symm.trans hin))
    | audio other | document other | video other => exact absurd htype (by simp [MediaPart.media_type])
  | audio part =>
    cases other with
    | audio other => exact congrArg _ (Option.some.inj (hother.symm.trans hin))
    | image other | document other | video other => exact absurd htype (by simp [MediaPart.media_type])
  | document part =>
    cases other with
    | document other => exact congrArg _ (Option.some.inj (hother.symm.trans hin))
    | image other | audio other | video other => exact absurd htype (by simp [MediaPart.media_type])
  | video part =>
    cases other with
    | video other => exact congrArg _ (Option.some.inj (hother.symm.trans hin))
    | image other | audio other | document other => exact absurd htype (by simp [MediaPart.media_type])

theorem leading_part_eq_some_iff (hin : part.In message) :
    message.leading_part = some part ↔ part.Leads message := by
  constructor
  · intro hleading
    rw [WaMessage.leading_part] at hleading
    cases himage : message.image_message with
    | some image =>
      rw [himage] at hleading
      cases hleading
      trivial
    | none =>
      cases haudio : message.audio_message with
      | some audio =>
        rw [himage, haudio] at hleading
        cases hleading
        exact himage
      | none =>
        cases hdocument : message.document_message with
        | some document =>
          rw [himage, haudio, hdocument] at hleading
          cases hleading
          exact ⟨himage, haudio⟩
        | none =>
          rw [himage, haudio, hdocument] at hleading
          obtain ⟨video, -, rfl⟩ := Option.map_eq_some_iff.mp hleading
          exact ⟨himage, haudio, hdocument⟩
  · intro hleads
    rw [WaMessage.leading_part]
    cases part with
    | image part =>
      rw [show message.image_message = some part from hin]
      rfl
    | audio part =>
      rw [show message.audio_message = some part from hin, show message.image_message = none from hleads]
      rfl
    | document part =>
      rw [show message.document_message = some part from hin, hleads.1, hleads.2]
      rfl
    | video part =>
      rw [show message.video_message = some part from hin, hleads.1, hleads.2.1, hleads.2.2]
      rfl

/-- A medium that can be downloaded is described by the event of its message if and only if the
message has neither a text nor a caption, and no part that is looked for earlier: with either
of these the message is taken for a text, and its media are not looked at. -/
theorem media_part_described_iff (hsound : wacore.Sound) (hin : part.In message) (hcomplete : part.Complete) :
    (∃ descriptor, (map_message_event wacore now message info).media = some descriptor ∧
        part.DescribedBy wacore descriptor) ↔
      wacore.text_content message = none ∧ message.Uncaptioned ∧ part.Leads message := by
  rw [map_message_event_media, ← hsound.caption, ← leading_part_eq_some_iff hin]
  constructor
  · rintro ⟨descriptor, hmedia, hdescribed⟩
    split at hmedia
    · cases hmedia
    · next htext =>
      rw [Option.not_isSome_iff_eq_none, Option.or_eq_none_iff] at htext
      obtain ⟨other, hleading, hdescriptor⟩ := Option.bind_eq_some_iff.mp hmedia
      have htype := (descriptor_media_type hdescriptor).symm.trans hdescribed.media_type
      rw [part_unique hin (leading_part_in hleading) htype] at hleading
      exact ⟨htext.1, htext.2, hleading⟩
  · rintro ⟨htext, hcaption, hleading⟩
    obtain ⟨descriptor, hdescriptor, hdescribed⟩ := descriptor_of_complete hcomplete
    refine ⟨descriptor, ?_, hdescribed⟩
    rw [htext, hcaption, hleading]
    exact hdescriptor

end Parts

open rustzap.state in
/-- The medium that an event describes is asked for right after the message is recorded. -/
theorem described_medium_requested (self : AppState) (ctx : Ctx) {inner : StoreInner} {runtime : ChannelRuntime}
    {event : MessageEvent} {descriptor : InboundMediaDescriptor} {recorded : Message × StoreInner}
    (answers : InboundMediaAnswers) (hheeded : ignored_message_event self ctx inner runtime event = none)
    (hmedia : event.media = some descriptor)
    (hrecorded : record_whatsapp_message ctx inner (whatsapp_message_input runtime event) = recorded) :
    recorded.2.events ++ [download_requested ctx runtime event recorded.1 descriptor] <+:
      (process_message_event self ctx inner runtime event answers).2.events := by
  have howned : OwnedBy anyone recorded.2 recorded.1 runtime.project_id runtime.company_id :=
    ⟨trivial, fun _ _ => trivial⟩
  have hrequested := process_message_media_requested self ctx runtime event recorded.1 descriptor answers howned
  have hprocessed : (process_message_event self ctx inner runtime event answers).2 =
      (spawn_enrichment ctx (process_message_media self ctx recorded.2 runtime event recorded.1 descriptor
        answers) runtime event).2 := by
    unfold process_message_event
    simp only [hheeded, hrecorded, hmedia]
  obtain ⟨contacts, refreshes, hspawned⟩ := spawn_enrichment_frame ctx
    (process_message_media self ctx recorded.2 runtime event recorded.1 descriptor answers) runtime event
  rw [hprocessed, hspawned]
  exact hrequested.events_grow

namespace sample

/-- The library's helpers, and the base64 text of the one key that the samples use. -/
def wacore : Wacore where
  text_content message := message.conversation
  get_caption message := (message.image_message.bind ImageMessage.caption).or <|
    (message.video_message.bind VideoMessage.caption).or <| message.document_message.bind DocumentMessage.caption
  base64_encode bytes := if bytes = [0, 1, 2] then "AAEC" else ""
  f64_from seconds := UInt64.ofNat seconds

theorem wacore_sound : wacore.Sound := by
  constructor
  intro message
  have hcaption : wacore.get_caption message = none ↔ message.image_message.bind ImageMessage.caption = none ∧
      message.video_message.bind VideoMessage.caption = none ∧
        message.document_message.bind DocumentMessage.caption = none := by
    rw [wacore, Option.or_eq_none_iff, Option.or_eq_none_iff]
  rw [hcaption, Option.bind_eq_none_iff, Option.bind_eq_none_iff, Option.bind_eq_none_iff]
  constructor
  · rintro ⟨himage, hvideo, hdocument⟩ part hin
    cases part with
    | image part => exact himage part hin
    | audio part => rfl
    | document part => exact hdocument part hin
    | video part => exact hvideo part hin
  · intro hnone
    exact ⟨fun part hin => hnone (.image part) hin, fun part hin => hnone (.video part) hin,
      fun part hin => hnone (.document part) hin⟩

def download : Download where
  direct_path := some "/v/t62.7118-24/1"
  media_key := some [0, 1, 2]
  file_sha256 := some [0, 1, 2]
  file_enc_sha256 := some [0, 1, 2]
  file_length := some 3

def picture (caption : Option String) : ImageMessage :=
  { download with mimetype := none, caption, width := some 640, height := some 480 }

def picture_message (caption : Option String) : WaMessage where
  conversation := none
  image_message := some (picture caption)
  audio_message := none
  document_message := none
  video_message := none

def info : MessageInfo where
  id := "3EB0A0"
  chat := "5511988887777@s.whatsapp.net"
  sender := "5511988887777@s.whatsapp.net"
  sender_alt := none
  recipient := none
  recipient_alt := none
  push_name := ""
  timestamp := 1
  is_from_me := false

end sample

open sample

/-- A picture with a caption comes in as a text without a medium. -/
theorem captioned_picture_dropped :
    (MediaPart.image (picture (some "oi"))).Complete ∧
      (map_message_event sample.wacore 0 (picture_message (some "oi")) sample.info).message_type = "text" ∧
      (map_message_event sample.wacore 0 (picture_message (some "oi")) sample.info).media = none :=
  ⟨⟨rfl, rfl, rfl, rfl, rfl⟩, rfl, rfl⟩

theorem bare_picture_described : ∃ descriptor,
    (map_message_event sample.wacore 0 (picture_message none) sample.info).media = some descriptor ∧
      (MediaPart.image (picture none)).DescribedBy sample.wacore descriptor := by
  have hin : (MediaPart.image (picture none)).In (picture_message none) := rfl
  have hcomplete : (MediaPart.image (picture none)).Complete := ⟨rfl, rfl, rfl, rfl, rfl⟩
  exact (media_part_described_iff wacore_sound hin hcomplete).mpr ⟨rfl, (wacore_sound.caption _).mp rfl, trivial⟩

end rustzap.whatsapp
