import RustZap.Lib.Fallible
import RustZap.Retention.Arithmetic
import RustZap.Secrets

open fallible
open rustzap.error rustzap.state

namespace rustzap.routes

/-- A field of a form, with the chunks in which its bytes come and what breaks them off, if
anything does. -/
structure Field where
  name : Option String
  file_name : Option String
  content_type : Option String
  chunks : List (List UInt8)
  failure : Option String

/-- A form, and what breaks it off behind its last field, if anything does. -/
structure Multipart where
  fields : List Field
  failure : Option String

namespace Field

variable (self : Field) (limit : Nat) (label : String)

def bytes : List UInt8 := self.chunks.flatten

/-- The loop over the chunks. The lengths in memory never come near the end of a `usize`. -/
def read_chunks : List UInt8 → List (List UInt8) → ApiResult (List UInt8)
  | bytes, [] =>
    match self.failure with
    | some err => .error (.BadRequest ("invalid " ++ label ++ " bytes: " ++ err))
    | none => .ok bytes
  | bytes, chunk :: chunks =>
    if bytes.length + chunk.length > limit then
      .error (.PayloadTooLarge (label ++ " is larger than " ++ toString limit ++ " bytes"))
    else read_chunks (bytes ++ chunk) chunks

def read_multipart_bytes_limit : ApiResult (List UInt8) := self.read_chunks limit label [] self.chunks

/-- `utf8_error` is what the standard library says of bytes that are no text. -/
def read_multipart_text_limit (utf8_error : List UInt8 → String) : ApiResult String :=
  match self.read_multipart_bytes_limit limit label with
  | .error err => .error err
  | .ok bytes => (secrets.from_utf8 bytes).elim
    (.error (.BadRequest ("invalid " ++ label ++ " field utf8: " ++ utf8_error bytes))) .ok

end Field

/-- What the handler has read so far. -/
structure UploadForm where
  conversation_id : Option String := none
  media_type : Option String := none
  mime_type : Option String := none
  filename : Option String := none
  caption : Option String := none
  file_bytes : Option (List UInt8) := none

section Handler

variable (media_reject_threshold_mb : Nat) (utf8_error : List UInt8 → String)

/-- A field of text is read by the limit that they all have. -/
def UploadForm.read_text (form : UploadForm) (field : Field) (label : String)
    (set : String → UploadForm → UploadForm) : ApiResult UploadForm :=
  (field.read_multipart_text_limit (8 * 1024) label utf8_error).map fun text => set (str.trim text) form

/-- One turn of the loop. A field of another name is passed over when the next one is asked
for, and what breaks it off shows then. -/
def UploadForm.read_field (form : UploadForm) (field : Field) : ApiResult UploadForm :=
  match field.name.getD "" with
  | "conversation_id" => form.read_text utf8_error field "conversation_id" fun text form =>
    { form with conversation_id := some text }
  | "type" | "media_type" => form.read_text utf8_error field "media type" fun text form =>
    { form with media_type := some text }
  | "mime_type" => form.read_text utf8_error field "mime_type" fun text form =>
    { form with mime_type := some text }
  | "filename" => form.read_text utf8_error field "filename" fun text form =>
    { form with filename := some text }
  | "caption" => form.read_text utf8_error field "caption" fun text form =>
    { form with caption := some text }
  | "file" | "media" =>
    match media_reject_limit_bytes media_reject_threshold_mb with
    | .error err => .error err
    | .ok max_upload_bytes =>
      (field.read_multipart_bytes_limit max_upload_bytes "upload file").map fun bytes => { form with
        filename := form.filename.or field.file_name
        mime_type := form.mime_type.or field.content_type
        file_bytes := some bytes }
  | _ =>
    match field.failure with
    | some err => .error (.BadRequest ("invalid multipart upload: " ++ err))
    | none => .ok form

/-- The form of `upload_outbound`, read to the end. -/
def read_upload (multipart : Multipart) : ApiResult OutboundMediaUpload := do
  let form ← multipart.fields.foldlM (UploadForm.read_field media_reject_threshold_mb utf8_error) {}
  match multipart.failure with
  | some err => .error (.BadRequest ("invalid multipart upload: " ++ err))
  | none =>
    let conversation_id ← form.conversation_id.elim (.error (.BadRequest "conversation_id is required")) .ok
    let bytes ← form.file_bytes.elim (.error (.BadRequest "file is required")) .ok
    return {
      conversation_id
      media_type := form.media_type
      mime_type := form.mime_type
      filename := form.filename
      caption := form.caption
      bytes }

end Handler

namespace Field

variable {self : Field} {limit : Nat} {label : String}

/-- How the bytes were cut makes no difference: they are read if all of them are there and do
not exceed the limit. -/
theorem read_chunks_eq_ok_iff {bytes read : List UInt8} {chunks : List (List UInt8)} (hbytes : bytes.length ≤ limit) :
    self.read_chunks limit label bytes chunks = .ok read ↔
      self.failure = none ∧ (bytes ++ chunks.flatten).length ≤ limit ∧ bytes ++ chunks.flatten = read := by
  induction chunks generalizing bytes with
  | nil =>
    rw [read_chunks, List.flatten_nil, List.append_nil]
    cases self.failure with
    | some err => exact iff_of_false nofun nofun
    | none => exact ⟨fun h => ⟨rfl, hbytes, Except.ok.inj h⟩, fun h => congrArg _ h.2.2⟩
  | cons chunk chunks ih =>
    rw [read_chunks, List.flatten_cons, ← List.append_assoc]
    split
    · next hlarge =>
      refine iff_of_false nofun fun h => ?_
      have hlength := h.2.1
      rw [List.length_append, List.length_append] at hlength
      omega
    · next hfits => exact ih (by rw [List.length_append]; omega)

theorem read_multipart_bytes_limit_eq_ok_iff {read : List UInt8} :
    self.read_multipart_bytes_limit limit label = .ok read ↔
      self.failure = none ∧ self.bytes.length ≤ limit ∧ self.bytes = read :=
  read_chunks_eq_ok_iff (Nat.zero_le _)

/-- The text of a field, if its bytes are one. -/
def text (self : Field) : Option String := (secrets.from_utf8 self.bytes).map str.trim

def is_named (self : Field) (names : List String) : Bool := names.contains (self.name.getD "")

def is_file (self : Field) : Bool := self.is_named ["file", "media"]

def is_text (self : Field) : Bool :=
  self.is_named ["conversation_id", "type", "media_type", "mime_type", "filename", "caption"]

/-- A field that breaks off nowhere, is not too long, and is a text where it has to be one. -/
structure Accepted (media_reject_threshold_mb : Nat) (field : Field) : Prop where
  whole : field.failure = none
  text : field.is_text = true → field.bytes.length ≤ 8 * 1024 ∧ field.text.isSome
  file : field.is_file = true → ∃ limit, media_reject_limit_bytes media_reject_threshold_mb = .ok limit ∧
    field.bytes.length ≤ limit

end Field

/-- What the last field of one of these names says. -/
def last_text (names : List String) (fields : List Field) : Option String :=
  (fields.filter fun field => field.is_named names).getLast?.bind Field.text

/-- What a form says. The file's own name and type count where no field gives them, and of
several files it is the first that has one. -/
structure Says (fields : List Field) (form : UploadForm) : Prop where
  conversation_id : form.conversation_id = last_text ["conversation_id"] fields
  media_type : form.media_type = last_text ["type", "media_type"] fields
  mime_type : form.mime_type =
    (last_text ["mime_type"] fields).or ((fields.filter Field.is_file).findSome? Field.content_type)
  filename : form.filename =
    (last_text ["filename"] fields).or ((fields.filter Field.is_file).findSome? Field.file_name)
  caption : form.caption = last_text ["caption"] fields
  file_bytes : form.file_bytes = (fields.filter Field.is_file).getLast?.map Field.bytes

section Forms

variable {media_reject_threshold_mb : Nat} {utf8_error : List UInt8 → String} {fields : List Field} {field : Field}
  {form form' : UploadForm} {names : List String}

theorem Says.unique (h : Says fields form) (h' : Says fields form') : form = form' := by
  obtain ⟨conversation_id, media_type, mime_type, filename, caption, file_bytes⟩ := form
  obtain ⟨conversation_id', media_type', mime_type', filename', caption', file_bytes'⟩ := form'
  rw [UploadForm.mk.injEq]
  exact ⟨h.conversation_id.trans h'.conversation_id.symm, h.media_type.trans h'.media_type.symm,
    h.mime_type.trans h'.mime_type.symm, h.filename.trans h'.filename.symm,
    h.caption.trans h'.caption.symm, h.file_bytes.trans h'.file_bytes.symm⟩

theorem Says.of_fields (fields : List Field) : ∃ form, Says fields form :=
  ⟨⟨_, _, _, _, _, _⟩, rfl, rfl, rfl, rfl, rfl, rfl⟩

theorem last_text_concat :
    last_text names (fields ++ [field]) = if field.is_named names then field.text else last_text names fields := by
  rw [last_text, List.filter_append, List.filter_cons, List.filter_nil]
  split
  · rw [List.getLast?_concat, Option.bind_some]
  · rw [List.append_nil, last_text]

theorem filter_is_file_concat : (fields ++ [field]).filter Field.is_file =
    fields.filter Field.is_file ++ if field.is_file then [field] else [] := by
  rw [List.filter_append, List.filter_cons, List.filter_nil]

/-- A field that is no text has none of the names of one. -/
theorem not_named_of_not_text (htext : field.is_text = false) (hnames : names ⊆
    ["conversation_id", "type", "media_type", "mime_type", "filename", "caption"]) :
    field.is_named names = false := by
  rw [Field.is_text, Field.is_named, List.contains_eq_mem, decide_eq_false_iff_not] at htext
  rw [Field.is_named, List.contains_eq_mem, decide_eq_false_iff_not]
  exact fun hmem => htext (hnames hmem)

/-- What a field of text says takes the place of what was said before. -/
def UploadForm.say (form : UploadForm) (field : Field) (text : String) : UploadForm where
  conversation_id := if field.is_named ["conversation_id"] then some text else form.conversation_id
  media_type := if field.is_named ["type", "media_type"] then some text else form.media_type
  mime_type := if field.is_named ["mime_type"] then some text else form.mime_type
  filename := if field.is_named ["filename"] then some text else form.filename
  caption := if field.is_named ["caption"] then some text else form.caption
  file_bytes := form.file_bytes

theorem Says.say (h : Says fields form) {text : String} (hfile : field.is_file = false)
    (htext : field.text = some text) : Says (fields ++ [field]) (form.say field text) := by
  have hfiles : (fields ++ [field]).filter Field.is_file = fields.filter Field.is_file := by
    rw [filter_is_file_concat, hfile, if_neg Bool.false_ne_true, List.append_nil]
  constructor
  · rw [last_text_concat, htext, ← h.conversation_id]
    rfl
  · rw [last_text_concat, htext, ← h.media_type]
    rfl
  · rw [last_text_concat, htext, hfiles, UploadForm.say]
    dsimp only
    split
    · rw [Option.some_or]
    · exact h.mime_type
  · rw [last_text_concat, htext, hfiles, UploadForm.say]
    dsimp only
    split
    · rw [Option.some_or]
    · exact h.filename
  · rw [last_text_concat, htext, ← h.caption]
    rfl
  · rw [hfiles]
    exact h.file_bytes

/-- What a field that is no text leaves as it was. -/
theorem last_text_not_text (htext : field.is_text = false) (hnames : names ⊆
    ["conversation_id", "type", "media_type", "mime_type", "filename", "caption"]) :
    last_text names (fields ++ [field]) = last_text names fields := by
  rw [last_text_concat, not_named_of_not_text htext hnames, if_neg Bool.false_ne_true]

theorem Says.file (h : Says fields form) (hfile : field.is_file = true) (htext : field.is_text = false) :
    Says (fields ++ [field]) { form with
      filename := form.filename.or field.file_name
      mime_type := form.mime_type.or field.content_type
      file_bytes := some field.bytes } := by
  have hfiles : (fields ++ [field]).filter Field.is_file = fields.filter Field.is_file ++ [field] := by
    rw [filter_is_file_concat, hfile, if_pos rfl]
  have hfirst (f : Field → Option String) : ((fields ++ [field]).filter Field.is_file).findSome? f =
      ((fields.filter Field.is_file).findSome? f).or (f field) := by
    have hlast : [field].findSome? f = f field := by
      rw [List.findSome?_cons]
      cases f field <;> rfl
    rw [hfiles, List.findSome?_append, hlast]
  constructor
  · rw [last_text_not_text htext (by decide)]
    exact h.conversation_id
  · rw [last_text_not_text htext (by decide)]
    exact h.media_type
  · rw [last_text_not_text htext (by decide), hfirst, ← Option.or_assoc, ← h.mime_type]
  · rw [last_text_not_text htext (by decide), hfirst, ← Option.or_assoc, ← h.filename]
  · rw [last_text_not_text htext (by decide)]
    exact h.caption
  · rw [hfiles, List.getLast?_concat, Option.map_some]

theorem Says.other (h : Says fields form) (hfile : field.is_file = false) (htext : field.is_text = false) :
    Says (fields ++ [field]) form := by
  have hfiles : (fields ++ [field]).filter Field.is_file = fields.filter Field.is_file := by
    rw [filter_is_file_concat, hfile, if_neg Bool.false_ne_true, List.append_nil]
  constructor
  · rw [last_text_not_text htext (by decide)]
    exact h.conversation_id
  · rw [last_text_not_text htext (by decide)]
    exact h.media_type
  · rw [last_text_not_text htext (by decide), hfiles]
    exact h.mime_type
  · rw [last_text_not_text htext (by decide), hfiles]
    exact h.filename
  · rw [last_text_not_text htext (by decide)]
    exact h.caption
  · rw [hfiles]
    exact h.file_bytes

theorem read_text_eq_ok_iff {label : String} {set : String → UploadForm → UploadForm} :
    form.read_text utf8_error field label set = .ok form' ↔ field.failure = none ∧
      field.bytes.length ≤ 8 * 1024 ∧ ∃ text, field.text = some text ∧ set text form = form' := by
  rw [UploadForm.read_text, Field.read_multipart_text_limit, Field.text]
  cases hread : field.read_multipart_bytes_limit (8 * 1024) label with
  | error err =>
    refine iff_of_false nofun fun ⟨hwhole, hlength, _⟩ => ?_
    cases hread.symm.trans (Field.read_multipart_bytes_limit_eq_ok_iff.mpr ⟨hwhole, hlength, rfl⟩)
  | ok bytes =>
    obtain ⟨hwhole, hlength, rfl⟩ := Field.read_multipart_bytes_limit_eq_ok_iff.mp hread
    dsimp only
    cases secrets.from_utf8 field.bytes with
    | none => exact iff_of_false nofun (by rintro ⟨-, -, _, hnone, -⟩; cases hnone)
    | some text =>
      constructor
      · intro heq
        exact ⟨hwhole, hlength, _, rfl, Except.ok.inj heq⟩
      · rintro ⟨-, -, _, htext, rfl⟩
        cases htext
        rfl

/-- A field is a text, a file, or passed over. -/
theorem read_field_cases (media_reject_threshold_mb : Nat) (utf8_error : List UInt8 → String) (form : UploadForm)
    (field : Field) :
    (field.is_text = true ∧ field.is_file = false ∧ ∃ label set,
      form.read_field media_reject_threshold_mb utf8_error field = form.read_text utf8_error field label set ∧
      ∀ text, set text form = form.say field text) ∨
    (field.is_text = false ∧ field.is_file = true ∧
      form.read_field media_reject_threshold_mb utf8_error field =
        match media_reject_limit_bytes media_reject_threshold_mb with
        | .error err => .error err
        | .ok max_upload_bytes =>
          (field.read_multipart_bytes_limit max_upload_bytes "upload file").map fun bytes => { form with
            filename := form.filename.or field.file_name
            mime_type := form.mime_type.or field.content_type
            file_bytes := some bytes }) ∨
    field.is_text = false ∧ field.is_file = false ∧
      form.read_field media_reject_threshold_mb utf8_error field =
        match field.failure with
        | some err => .error (.BadRequest ("invalid multipart upload: " ++ err))
        | none => .ok form := by
  have hnamed {name : String} (hname : field.name.getD "" = name) (names : List String) :
      field.is_named names = names.contains name := by
    rw [Field.is_named, hname]
  unfold UploadForm.read_field Field.is_text Field.is_file
  split
  · next hname =>
    refine Or.inl ⟨hnamed hname _, hnamed hname _, _, _, rfl, fun text => ?_⟩
    simp [UploadForm.say, hnamed hname]
  · next hname =>
    refine Or.inl ⟨hnamed hname _, hnamed hname _, _, _, rfl, fun text => ?_⟩
    simp [UploadForm.say, hnamed hname]
  · next hname =>
    refine Or.inl ⟨hnamed hname _, hnamed hname _, _, _, rfl, fun text => ?_⟩
    simp [UploadForm.say, hnamed hname]
  · next hname =>
    refine Or.inl ⟨hnamed hname _, hnamed hname _, _, _, rfl, fun text => ?_⟩
    simp [UploadForm.say, hnamed hname]
  · next hname =>
    refine Or.inl ⟨hnamed hname _, hnamed hname _, _, _, rfl, fun text => ?_⟩
    simp [UploadForm.say, hnamed hname]
  · next hname =>
    refine Or.inl ⟨hnamed hname _, hnamed hname _, _, _, rfl, fun text => ?_⟩
    simp [UploadForm.say, hnamed hname]
  · next hname => exact Or.inr (Or.inl ⟨hnamed hname _, hnamed hname _, rfl⟩)
  · next hname => exact Or.inr (Or.inl ⟨hnamed hname _, hnamed hname _, rfl⟩)
  · next hother =>
    refine Or.inr (Or.inr ⟨?_, ?_, rfl⟩)
    · rw [Field.is_named, List.contains_eq_mem, decide_eq_false_iff_not]
      simp_all
    · rw [Field.is_named, List.contains_eq_mem, decide_eq_false_iff_not]
      simp_all

theorem read_field_eq_ok_iff (h : Says fields form) :
    form.read_field media_reject_threshold_mb utf8_error field = .ok form' ↔
      field.Accepted media_reject_threshold_mb ∧ Says (fields ++ [field]) form' := by
  rcases read_field_cases media_reject_threshold_mb utf8_error form field with
    ⟨htext, hfile, label, set, hread, hset⟩ | ⟨htext, hfile, hread⟩ | ⟨htext, hfile, hread⟩
  · rw [hread, read_text_eq_ok_iff]
    constructor
    · rintro ⟨hwhole, hlength, text, hsays, rfl⟩
      refine ⟨⟨hwhole, fun _ => ⟨hlength, hsays ▸ rfl⟩, fun hfile' => ?_⟩, ?_⟩
      · cases hfile.symm.trans hfile'
      · rw [hset]
        exact h.say hfile hsays
    · rintro ⟨haccepted, hsays⟩
      obtain ⟨hlength, hsome⟩ := haccepted.text htext
      obtain ⟨text, htext⟩ := Option.isSome_iff_exists.mp hsome
      refine ⟨haccepted.whole, hlength, text, htext, ?_⟩
      rw [hset]
      exact (h.say hfile htext).unique hsays
  · rw [hread]
    cases hlimit : media_reject_limit_bytes media_reject_threshold_mb with
    | error err =>
      refine iff_of_false nofun fun ⟨haccepted, _⟩ => ?_
      obtain ⟨limit, hlimit', -⟩ := haccepted.file hfile
      cases hlimit.symm.trans hlimit'
    | ok limit =>
      dsimp only
      constructor
      · intro heq
        cases hbytes : field.read_multipart_bytes_limit limit "upload file" with
        | error err =>
          rw [hbytes] at heq
          cases heq
        | ok bytes =>
          rw [hbytes] at heq
          cases heq
          obtain ⟨hwhole, hlength, rfl⟩ := Field.read_multipart_bytes_limit_eq_ok_iff.mp hbytes
          refine ⟨⟨hwhole, fun htext' => ?_, fun _ => ⟨limit, hlimit, hlength⟩⟩, h.file hfile htext⟩
          cases htext.symm.trans htext'
      · rintro ⟨haccepted, hsays⟩
        obtain ⟨limit', hlimit', hlength⟩ := haccepted.file hfile
        cases hlimit.symm.trans hlimit'
        rw [Field.read_multipart_bytes_limit_eq_ok_iff.mpr ⟨haccepted.whole, hlength, rfl⟩]
        exact congrArg _ ((h.file hfile htext).unique hsays)
  · rw [hread]
    cases hfailure : field.failure with
    | some err =>
      refine iff_of_false nofun fun ⟨haccepted, _⟩ => ?_
      cases hfailure.symm.trans haccepted.whole
    | none =>
      constructor
      · intro heq
        cases heq
        refine ⟨⟨hfailure, fun htext' => ?_, fun hfile' => ?_⟩, h.other hfile htext⟩
        · cases htext.symm.trans htext'
        · cases hfile.symm.trans hfile'
      · rintro ⟨-, hsays⟩
        exact congrArg _ ((h.other hfile htext).unique hsays)

/-- The loop over the fields. -/
theorem read_fields_eq_ok_iff {more : List Field} (h : Says fields form) :
    more.foldlM (UploadForm.read_field media_reject_threshold_mb utf8_error) form = .ok form' ↔
      (∀ field ∈ more, field.Accepted media_reject_threshold_mb) ∧ Says (fields ++ more) form' := by
  induction more generalizing fields form with
  | nil =>
    rw [List.append_nil]
    exact ⟨fun heq => ⟨List.forall_mem_nil _, Except.ok.inj heq ▸ h⟩, fun hsays => congrArg _ (h.unique hsays.2)⟩
  | cons field more ih =>
    rw [List.foldlM_cons, List.forall_mem_cons, List.append_cons]
    constructor
    · intro heq
      obtain ⟨next, hread, hrest⟩ := bind_eq_ok_iff.mp heq
      obtain ⟨haccepted, hsays⟩ := (read_field_eq_ok_iff h).mp hread
      obtain ⟨hall, hlast⟩ := (ih hsays).mp hrest
      exact ⟨⟨haccepted, hall⟩, hlast⟩
    · rintro ⟨⟨haccepted, hall⟩, hlast⟩
      obtain ⟨next, hsays⟩ := Says.of_fields (fields ++ [field])
      exact bind_eq_ok_iff.mpr
        ⟨next, (read_field_eq_ok_iff h).mpr ⟨haccepted, hsays⟩, (ih hsays).mpr ⟨hall, hlast⟩⟩

theorem required_eq_ok_iff {A : Type} {value : Option A} {err : ApiError} {result : A} :
    value.elim (.error err) .ok = (.ok result : ApiResult A) ↔ value = some result := by
  cases value with
  | none => exact iff_of_false nofun nofun
  | some found => exact ⟨fun h => congrArg some (Except.ok.inj h), fun h => congrArg _ (Option.some.inj h)⟩

/-- What is accepted is whole: every field of it is there to the end, no longer than it may be,
and a text where it has to be one, and the upload is what the fields say together, of which the
conversation and the file have to be there. Into what chunks the body was cut makes no
difference. -/
theorem read_upload_eq_ok_iff {multipart : Multipart} {upload : OutboundMediaUpload} :
    read_upload media_reject_threshold_mb utf8_error multipart = .ok upload ↔
      multipart.failure = none ∧ (∀ field ∈ multipart.fields, field.Accepted media_reject_threshold_mb) ∧
      Says multipart.fields {
        conversation_id := some upload.conversation_id
        media_type := upload.media_type
        mime_type := upload.mime_type
        filename := upload.filename
        caption := upload.caption
        file_bytes := some upload.bytes } := by
  have hnothing : Says [] {} := ⟨rfl, rfl, rfl, rfl, rfl, rfl⟩
  rw [read_upload, bind_eq_ok_iff]
  constructor
  · rintro ⟨form, hfields, hform⟩
    obtain ⟨hall, hsays⟩ := (read_fields_eq_ok_iff hnothing).mp hfields
    cases hfailure : multipart.failure with
    | some err =>
      rw [hfailure] at hform
      cases hform
    | none =>
      rw [hfailure] at hform
      obtain ⟨conversation_id, hconversation, hform⟩ := bind_eq_ok_iff.mp hform
      obtain ⟨bytes, hbytes, hform⟩ := bind_eq_ok_iff.mp hform
      cases hform
      refine ⟨rfl, hall, ?_⟩
      dsimp only
      rw [← required_eq_ok_iff.mp hconversation, ← required_eq_ok_iff.mp hbytes]
      exact hsays
  · rintro ⟨hfailure, hall, hsays⟩
    refine ⟨_, (read_fields_eq_ok_iff hnothing).mpr ⟨hall, hsays⟩, ?_⟩
    rw [hfailure]
    rfl

end Forms

end rustzap.routes
