import RustZap.Media.Keys
import RustZap.Routes.Media

open rustzap.error rustzap.media rustzap.models rustzap.state rustzap.whatsapp

namespace rustzap.routes

section Extensions

/-- The extensions that do not come from a filename. -/
def chosen_extensions : List String :=
  ["jpg", "png", "gif", "webp", "svg", "ogg", "webm", "mp3", "m4a", "mp4", "mov", "pdf", "txt", "bin"]

variable {phone_digits : Nat}

/-- An extension that the program chooses is clean, however short a phone number may be. -/
theorem clean_of_chosen {ext : String} (hext : ext ∈ chosen_extensions) :
    CleanExtension phone_digits ext ∧ '.' ∉ ext.toList := by
  have hchosen : ∀ ext ∈ chosen_extensions, ext.toList.length ≤ 12 ∧
      ext.toList.all is_ascii_alphanumeric = true ∧ ¬ ext.toList.all str.is_ascii_digit = true ∧
      '.' ∉ ext.toList := by
    decide
  obtain ⟨hshort, halphanumeric, hdigits, hdot⟩ := hchosen ext hext
  exact ⟨⟨hshort, List.all_eq_true.mp halphanumeric, fun h => hdigits (List.all_eq_true.mpr h.2)⟩, hdot⟩

theorem extension_for_mime_chosen (mime_type : String) :
    extension_for_mime mime_type ∈ chosen_extensions := by
  unfold extension_for_mime
  split <;> simp [chosen_extensions]

theorem dot_not_mem_last_piece {name ext : String} (hext : str.last_piece name '.' = some ext) :
    '.' ∉ ext.toList := by
  rw [str.last_piece] at hext
  split at hext
  · cases hext
    rw [String.toList_ofList]
    exact fun hmem => absurd (List.mem_rtakeWhile_imp hmem) (by decide)
  · cases hext

theorem dot_not_mem_file_extension {filename ext : String} (hext : file_extension filename = some ext) :
    '.' ∉ ext.toList := by
  rw [file_extension, Option.filter_eq_some_iff, Option.map_eq_some_iff] at hext
  obtain ⟨⟨piece, hpiece, rfl⟩, -⟩ := hext
  rw [str.trim, String.toList_ofList]
  intro hmem
  have hdropped := (List.rdropWhile_prefix _ _).subset hmem
  exact dot_not_mem_last_piece hpiece ((List.dropWhile_suffix _).subset hdropped)

/-- No dot is left at the front of an extension. -/
theorem trim_start_of_no_dot {ext : String} (hdot : '.' ∉ ext.toList) : str.trim_start_matches ext '.' = ext := by
  rw [str.trim_start_matches, List.dropWhile_eq_self_iff.mpr, String.ofList_toList]
  intro hlength heq
  exact hdot (of_decide_eq_true heq ▸ List.getElem_mem hlength)

end Extensions

/-- A call that names an object for the bytes of a medium, with what it has made of its
request: an upload, a medium of the provider, a simulated one, a save that copies the bytes,
and one of a medium without bytes. -/
inductive KeyRequest where
  | upload (ctx : Ctx) (project_id company_id conversation_id channel_id : String)
    (request : OutboundMediaUpload) (media_type mime_type storage_class : String)
  | inbound (now : OffsetDateTime) (runtime : ChannelRuntime) (conversation_id : String)
    (descriptor : InboundMediaDescriptor) (media_id storage_status : String)
  | simulate (ctx : Ctx) (project_id company_id : String) (request : SimulateInboundMediaRequest)
    (message : Message) (answers : SimulatedMediaAnswers)
  | save (ctx : Ctx) (request : SaveMedia) (before : MediaObject)
  | record (ctx : Ctx) (inner : StoreInner) (media_id entity_type entity_id : String)

namespace KeyRequest

variable (self : AppState)

/-- The key that the call names, if it names one. -/
def object_key : KeyRequest → Option String
  | upload ctx project_id company_id conversation_id channel_id request media_type mime_type storage_class =>
    (uploaded_media self ctx project_id company_id conversation_id channel_id request media_type mime_type
      storage_class).object_key
  | inbound now runtime conversation_id descriptor media_id storage_status =>
    some (inbound_object_key self now runtime conversation_id descriptor media_id storage_status)
  | simulate ctx project_id company_id request message answers =>
    (SimulateInboundMediaRequest.media request self ctx project_id company_id message answers).object_key
  | save ctx request before => some (request.destination self ctx before)
  | record ctx inner media_id entity_type entity_id =>
    match (save_media_with_permanent_object_key self ctx inner media_id entity_type entity_id none).1 with
    | .ok media => media.permanent_object_key
    | .error _ => none

/-- What the call hands to the builder of keys. -/
def input : KeyRequest → Option R2ObjectKeyInput
  | upload ctx project_id company_id conversation_id channel_id request _ mime_type storage_class => some
    { base_prefix := self.config.r2.base_prefix, storage_class, project_id, company_id, channel_id,
      conversation_id := some conversation_id, entity_type := none, entity_id := none,
      date := self.host.format_date ctx.now, media_id := "media_" ++ ctx.uuid 0,
      ext := ((trimmed_or_none request.filename).bind file_extension).getD (extension_for_mime mime_type) }
  | inbound now runtime conversation_id descriptor media_id storage_status => some
    { base_prefix := self.config.r2.base_prefix, storage_class := storage_status,
      project_id := runtime.project_id, company_id := runtime.company_id, channel_id := runtime.channel_id,
      conversation_id := some conversation_id, entity_type := none, entity_id := none,
      date := self.host.format_date now, media_id,
      ext := (descriptor.filename.bind file_extension).getD (extension_for_mime descriptor.mime_type) }
  | simulate ctx project_id company_id request _ _ =>
    let decision := (media_limits self).classify (SimulateInboundMediaRequest.size request)
    if decision = .Rejected then none
    else some
      { base_prefix := self.config.r2.base_prefix,
        storage_class := if decision = .Temp then "temp" else "quarantine", project_id, company_id,
        channel_id := SimulateInboundMediaRequest.channel request,
        conversation_id := some (SimulateInboundMediaRequest.conversation request), entity_type := none,
        entity_id := none, date := self.host.format_date ctx.now, media_id := "media_" ++ ctx.uuid 8,
        ext := (request.filename.bind fun name => str.last_piece name '.').getD "bin" }
  | save ctx request before => some
    { base_prefix := self.config.r2.base_prefix, storage_class := "permanent",
      project_id := before.project_id, company_id := before.company_id, channel_id := "channel_dev",
      conversation_id := some before.conversation_id, entity_type := some request.entity_type,
      entity_id := some request.entity_id, date := self.host.format_date ctx.now,
      media_id := request.path.media_id, ext := "bin" }
  | record ctx inner media_id entity_type entity_id => (inner.media.lookup media_id).map fun media =>
    { base_prefix := self.config.r2.base_prefix, storage_class := "permanent",
      project_id := media.project_id, company_id := media.company_id, channel_id := "channel_dev",
      conversation_id := some media.conversation_id, entity_type := some entity_type,
      entity_id := some entity_id, date := self.host.format_date ctx.now, media_id, ext := "bin" }

theorem object_key_eq (request : KeyRequest) :
    request.object_key self = (request.input self).map (r2_object_key self.host) := by
  cases request with
  | upload => rfl
  | inbound => rfl
  | simulate ctx project_id company_id request message answers =>
    rw [object_key, input, SimulateInboundMediaRequest.media]
    dsimp only
    cases (media_limits self).classify (SimulateInboundMediaRequest.size request) <;> rfl
  | save => rfl
  | record ctx inner media_id entity_type entity_id =>
    rw [object_key, input, save_media_with_permanent_object_key, update_media]
    cases inner.media.lookup media_id <;> rfl

/-- What the call takes from the filename. -/
def filename_extension : KeyRequest → Option String
  | upload _ _ _ _ _ request _ _ _ => (trimmed_or_none request.filename).bind file_extension
  | inbound _ _ _ descriptor _ _ => descriptor.filename.bind file_extension
  | simulate _ _ _ request _ _ => request.filename.bind fun name => str.last_piece name '.'
  | save .. => none
  | record .. => none

/-- The entity type that the call is given. -/
def entity_type : KeyRequest → Option String
  | save _ request _ => some request.entity_type
  | record _ _ _ entity_type _ => some entity_type
  | _ => none

/-- The request brings no text into its key: what the filename has after its last dot is
clean or not used, and the entity type is the word for an unknown one, or its own hash. -/
structure Clean (request : KeyRequest) (phone_digits : Nat) : Prop where
  extension : ∀ ext, request.filename_extension = some ext → CleanExtension phone_digits ext
  entity : ∀ entity_type, request.entity_type = some entity_type →
    entity_type = "unknown" ∨ entity_type = opaque_id_hash self.host entity_type

/-- What decides about a key, for all the calls alike: the extension of the filename or one of
the program's own, and an entity type in the keys of permanent objects. -/
theorem input_parts {self : AppState} {request : KeyRequest} {input : R2ObjectKeyInput}
    (hinput : request.input self = some input) :
    (∃ ext ∈ chosen_extensions, input.ext = request.filename_extension.getD ext) ∧
      input.entity_type = request.entity_type ∧
      (request.entity_type.isSome → input.storage_class = "permanent") := by
  cases request with
  | upload =>
    cases hinput
    exact ⟨⟨_, extension_for_mime_chosen _, rfl⟩, rfl, nofun⟩
  | inbound =>
    cases hinput
    exact ⟨⟨_, extension_for_mime_chosen _, rfl⟩, rfl, nofun⟩
  | simulate =>
    rw [KeyRequest.input] at hinput
    split at hinput
    · cases hinput
    · cases hinput
      exact ⟨⟨"bin", by simp [chosen_extensions], rfl⟩, rfl, nofun⟩
  | save =>
    cases hinput
    exact ⟨⟨"bin", by simp [chosen_extensions], rfl⟩, rfl, fun _ => rfl⟩
  | record =>
    obtain ⟨media, -, rfl⟩ := Option.map_eq_some_iff.mp hinput
    exact ⟨⟨"bin", by simp [chosen_extensions], rfl⟩, rfl, fun _ => rfl⟩

theorem dot_not_mem_filename_extension {request : KeyRequest} {ext : String}
    (hext : request.filename_extension = some ext) : '.' ∉ ext.toList := by
  cases request with
  | upload =>
    obtain ⟨filename, -, hpiece⟩ := Option.bind_eq_some_iff.mp hext
    exact dot_not_mem_file_extension hpiece
  | inbound =>
    obtain ⟨filename, -, hpiece⟩ := Option.bind_eq_some_iff.mp hext
    exact dot_not_mem_file_extension hpiece
  | simulate =>
    obtain ⟨filename, -, hpiece⟩ := Option.bind_eq_some_iff.mp hext
    exact dot_not_mem_last_piece hpiece
  | save => cases hext
  | record => cases hext

/-- The extension that goes into a key is clean exactly when that of the filename is. -/
theorem clean_extension_iff {phone_digits : Nat} {request : KeyRequest} {ext : String}
    (hchosen : ext ∈ chosen_extensions) :
    CleanExtension phone_digits (str.trim_start_matches (request.filename_extension.getD ext) '.') ↔
      ∀ ext, request.filename_extension = some ext → CleanExtension phone_digits ext := by
  cases hname : request.filename_extension with
  | none =>
    obtain ⟨hclean, hdot⟩ := clean_of_chosen hchosen
    rw [Option.getD_none, trim_start_of_no_dot hdot]
    exact iff_of_true hclean nofun
  | some taken =>
    rw [Option.getD_some, trim_start_of_no_dot (dot_not_mem_filename_extension hname)]
    constructor
    · rintro hclean ext ⟨⟩
      exact hclean
    · exact fun h => h taken rfl

end KeyRequest

/-- A key has no text of the caller exactly when the request brings none into it. -/
theorem object_key_clean_iff {self : AppState} (hhost : HexDigests self.host) (phone_digits : Nat)
    {request : KeyRequest} {input : R2ObjectKeyInput} {key : String} (hinput : request.input self = some input)
    (hkey : request.object_key self = some key) :
    NoCallerText self.host input phone_digits key ↔ request.Clean self phone_digits := by
  obtain ⟨⟨ext, hchosen, hext⟩, hentity, hpermanent⟩ := KeyRequest.input_parts hinput
  rw [KeyRequest.object_key_eq, hinput] at hkey
  cases hkey
  rw [r2_object_key_clean_iff hhost, hext, KeyRequest.clean_extension_iff hchosen, hentity]
  constructor
  · rintro ⟨hclean, hnamed⟩
    refine ⟨hclean, fun entity_type hsome => ?_⟩
    rw [hsome] at hnamed hpermanent
    exact (hnamed (hpermanent rfl)).imp_right fun heq => (Option.some.inj heq).symm
  · rintro ⟨hclean, hnamed⟩
    refine ⟨hclean, fun _ => ?_⟩
    cases hsome : request.entity_type with
    | none => exact Or.inl rfl
    | some entity_type =>
      exact (hnamed entity_type hsome).imp_right fun heq => congrArg some heq.symm

namespace sample

theorem hex_digests : HexDigests state.sample.service.host := by
  have hlookup : ∀ (hashes : List (List UInt8 × String)),
      (∀ entry ∈ hashes, entry.2.toList.all str.is_ascii_hexdigit = true) →
      ∀ bytes, ∀ c ∈ ((hashes.lookup bytes).getD "").toList, str.is_ascii_hexdigit c = true := by
    intro hashes
    induction hashes with
    | nil => exact fun _ _ => by simp
    | cons entry hashes ih =>
      intro hall bytes c hmem
      rw [List.lookup_cons] at hmem
      cases heq : bytes == entry.1 with
      | true =>
        rw [heq] at hmem
        exact List.all_eq_true.mp (hall entry List.mem_cons_self) c hmem
      | false =>
        rw [heq] at hmem
        exact ih (fun other hother => hall other (List.mem_cons_of_mem _ hother)) bytes c hmem
  exact hlookup state.sample.hashes (by decide +kernel)

/-- An upload of a document for a chat with one phone number. -/
def document_upload (filename : String) : KeyRequest :=
  .upload (state.sample.ctx 1 "m") "acme" "company_a" "5511988887777@s.whatsapp.net" "channel_a"
    { conversation_id := "5511988887777@s.whatsapp.net", media_type := none,
      mime_type := some "application/pdf", filename := some filename, caption := none,
      bytes := ascii "%PDF-1.4" } "document" "application/pdf" "outbound-temp"

theorem document_input (filename : String) : ∃ input,
    (document_upload filename).input state.sample.service = some input :=
  ⟨_, rfl⟩

end sample

theorem document_key_clean : ∃ input,
    (sample.document_upload "proposta.pdf").input state.sample.service = some input ∧
    NoCallerText state.sample.service.host input 8
      ("rustyzap/outbound-temp/project=acme/company=company_a/channel_hash=12e564211a9a25ef24eb2c5e" ++
        "/date=1970-01-01/upload=media_m0.pdf") := by
  obtain ⟨input, hinput⟩ := sample.document_input "proposta.pdf"
  refine ⟨input, hinput, (object_key_clean_iff sample.hex_digests 8 hinput ?_).mpr ⟨?_, nofun⟩⟩
  · decide +kernel
  · intro ext hext
    have hpdf : (sample.document_upload "proposta.pdf").filename_extension = some "pdf" := by decide +kernel
    rw [hpdf] at hext
    cases hext
    exact (clean_of_chosen (by simp [chosen_extensions])).1

/-- A filename can bring a name and a segment of its own into a key. -/
theorem filename_adds_segment :
    ¬ ∃ phone_digits, ∀ (self : AppState) (request : KeyRequest) (input : R2ObjectKeyInput) (key : String),
      HexDigests self.host → request.input self = some input → request.object_key self = some key →
      NoCallerText self.host input phone_digits key := by
  rintro ⟨phone_digits, hclaim⟩
  obtain ⟨input, hinput⟩ := sample.document_input "proposta.maria/silva"
  have hkey : (sample.document_upload "proposta.maria/silva").object_key state.sample.service =
      some ("rustyzap/outbound-temp/project=acme/company=company_a/channel_hash=12e564211a9a25ef24eb2c5e" ++
        "/date=1970-01-01/upload=media_m0.maria/silva") := by
    decide +kernel
  have hsegments := (hclaim _ _ _ _ sample.hex_digests hinput hkey).segments
  cases hinput
  exact absurd hsegments (by decide +kernel)

end rustzap.routes
