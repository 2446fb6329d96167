import RustZap.State.Store

open rustzap.models

namespace rustzap.state

def phone_to_jid (phone_e164 : String) : String :=
  let digits := str.ascii_digits phone_e164
  if str.is_empty digits then phone_e164 else digits ++ "@s.whatsapp.net"

def phone_number_from_value (value : String) : Option String :=
  let digits := str.ascii_digits value
  if str.is_empty digits then none else some digits

def phone_number_from_jid (jid : String) : Option String :=
  let local_part := str.first_piece jid '@'
  if str.ends_with jid "@s.whatsapp.net" && local_part.toList.all str.is_ascii_digit then
    some local_part
  else none

def phone_from_jid (jid : String) : Option String :=
  let local_part := str.first_piece jid '@'
  if str.ends_with jid "@s.whatsapp.net" && local_part.toList.all str.is_ascii_digit then
    some ("+" ++ local_part)
  else none

def phone_number_from_e164 (phone_e164 : String) : Option String :=
  phone_number_from_value phone_e164

def contact_phone_number (contact : ContactRecord) : Option String :=
  (contact.phone_e164.bind phone_number_from_e164).or
    ((contact.canonical_jid.bind phone_number_from_jid).or (phone_number_from_jid contact.id))

def is_rustzap_media_id (value : String) : Bool :=
  let tail := value.toList.drop 6
  str.starts_with value "media_" && tail.length = 32 && tail.all str.is_ascii_hexdigit

def rustzap_profile_picture_media_id (value : Option String) : Option String :=
  (value.map str.trim).filter is_rustzap_media_id

def display_name_for_jid (jid : String) : String :=
  (phone_from_jid jid).getD (str.first_piece jid '@')

def group_subject_for_jid (jid : String) : String :=
  "Grupo " ++ str.first_piece jid '@'

def is_group_jid (jid : String) : Bool :=
  str.ends_with jid "@g.us"

def is_lid (jid : String) : Bool :=
  str.ends_with jid "@lid"

/-- A name that is blank is as good as none. -/
def filter_blank (name : Option String) : Option String :=
  name.filter fun value => !str.is_empty (str.trim value)

end rustzap.state
