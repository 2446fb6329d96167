import RustZap.Lib.Addresses
import RustZap.Webhooks.Discipline

open serde_json
open rustzap.error

namespace rustzap.state

namespace IpAddr

def from_str (s : String) : Option IpAddr :=
  ((net.parse_with net.read_ipv4_addr s).map fun (a, b, c, d) => V4 a b c d).or
    ((net.parse_with net.read_ipv6_addr s).map fun groups => V6 fun i => groups.getD i 0)

end IpAddr

/-- The host of a URL is the literal of an address: an IPv4 address as it is written, or an
IPv6 address in brackets. -/
def IsLiteral (host : String) : IpAddr → Prop
  | .V4 a b c d => host = net.ipv4_text a b c d
  | .V6 segments => ∃ text, host = "[" ++ text ++ "]" ∧ IpAddr.from_str text = some (.V6 segments)

section Hosts

/-- An IPv4 host is parsed as the address that it is. -/
theorem from_str_ipv4_text (a b c d : UInt8) :
    IpAddr.from_str (net.ipv4_text a b c d) = some (.V4 a b c d) := by
  rw [IpAddr.from_str, net.read_ipv4_text]
  rfl

/-- A host in brackets is not parsed as an address at all. -/
theorem from_str_bracketed (text : String) : IpAddr.from_str ("[" ++ text ++ "]") = none := by
  have hchars : ("[" ++ text ++ "]").toList = '[' :: (text.toList ++ [']']) := by simp
  rw [IpAddr.from_str, net.parse_with, net.parse_with, hchars, net.read_ipv4_bracket, net.read_ipv6_bracket]
  rfl

/-- What the host check sees of a text that does not end in a dot. -/
theorem normalized_append (front : List Char) {last : Char} (hlast : last ≠ '.') :
    str.to_ascii_lowercase (str.trim_end_matches (String.ofList (front ++ [last])) '.') =
      str.to_ascii_lowercase (String.ofList (front ++ [last])) := by
  rw [str.trim_end_matches, String.toList_ofList, List.rdropWhile_concat_neg _ _ _ (by simpa using hlast)]

theorem bracketed_not_localhost (text : String) :
    callback_host_is_localhost ("[" ++ text ++ "]") = false := by
  have hhost : "[" ++ text ++ "]" = String.ofList (('[' :: text.toList) ++ [']']) := by
    apply String.toList_inj.mp
    simp
  have hlast : (str.to_ascii_lowercase (String.ofList (('[' :: text.toList) ++ [']']))).toList.getLast? =
      some ']' := by
    rw [str.to_ascii_lowercase, String.toList_ofList, String.toList_ofList, List.map_append, List.map_singleton,
      List.getLast?_concat]
    rfl
  rw [callback_host_is_localhost, hhost, normalized_append _ (by decide)]
  rw [Bool.or_eq_false_iff, decide_eq_false_iff_not]
  refine ⟨fun heq => ?_, ?_⟩
  · rw [heq] at hlast
    exact absurd hlast (by decide)
  · rw [str.ends_with, Bool.eq_false_iff]
    intro hsuffix
    obtain ⟨front, hfront⟩ := List.isSuffixOf_iff_suffix.mp hsuffix
    rw [← hfront, List.getLast?_append] at hlast
    cases hlast

theorem localhost_is_localhost {host : String}
    (hhost : host = "localhost" ∨ str.ends_with host ".localhost" = true) :
    callback_host_is_localhost host = true := by
  rcases hhost with rfl | hsuffix
  · decide
  · obtain ⟨front, hfront⟩ := List.isSuffixOf_iff_suffix.mp hsuffix
    have hchars : host = String.ofList ((front ++ ".localhos".toList) ++ ['t']) := by
      apply String.toList_inj.mp
      rw [String.toList_ofList, List.append_assoc, ← hfront]
      rfl
    rw [callback_host_is_localhost, hchars, normalized_append _ (by decide)]
    rw [Bool.or_eq_true, str.ends_with]
    refine Or.inr (List.isSuffixOf_iff_suffix.mpr ?_)
    simp only [str.to_ascii_lowercase, String.toList_ofList, List.append_assoc, List.map_append]
    exact ⟨_, rfl⟩

/-- The test of octets knows every internal IPv4 address. -/
theorem internal_ipv4_disallowed {dev_mode : Bool} {a b c d : UInt8}
    (h : (IpAddr.V4 a b c d).IsInternal dev_mode) : callback_ip_is_disallowed dev_mode (.V4 a b c d) = true := by
  rw [callback_ip_is_disallowed]
  simp only [Bool.or_eq_true, Bool.and_eq_true, decide_eq_true_eq, Bool.not_eq_true', Prod.mk.injEq,
    UInt8.le_iff_toNat_le]
  have h224 : (224 : UInt8).toNat = 224 := rfl
  have h239 : (239 : UInt8).toNat = 239 := rfl
  have h16 : (16 : UInt8).toNat = 16 := rfl
  have h31 : (31 : UInt8).toNat = 31 := rfl
  rcases h with ⟨ha, hb, hc, hd⟩ | hmulticast | ⟨hdev, hloopback | hprivate | hlink⟩
  · exact Or.inl (Or.inl (Or.inl ⟨ha, hb, hc, hd⟩))
  · have hrange : a.toNat / 16 = 14 := hmulticast
    exact Or.inl (Or.inr ⟨by omega, by omega⟩)
  · exact Or.inr ⟨hdev, Or.inl (Or.inl hloopback)⟩
  · refine Or.inr ⟨hdev, Or.inl (Or.inr ?_)⟩
    rcases hprivate with ha | ⟨ha, hb⟩ | hab
    · exact Or.inl (Or.inl ha)
    · exact Or.inl (Or.inr ⟨⟨ha, by omega⟩, by omega⟩)
    · exact Or.inr hab
  · exact Or.inr ⟨hdev, Or.inr hlink⟩

end Hosts

section Filter

variable (service : WebhookService) (url : String)

/-- The URL has this scheme and this host. -/
def WebhookService.UrlOf (scheme host : String) : Prop :=
  service.parse_url url = .ok { scheme, host_str := some host }

/-- HTTPS, or HTTP while developing. -/
def WebhookService.SchemeAllowed (scheme : String) : Prop :=
  scheme = "https" ∨ scheme = "http" ∧ service.app.config.dev_mode = true

/-- No callback goes to an internal address, or to a name for the host itself. -/
structure FiltersAddresses : Prop where
  literals : ∀ scheme host ip, service.UrlOf url scheme host → IsLiteral host ip →
    ip.IsInternal service.app.config.dev_mode → ∃ err, service.validate_callback_url url = .error err
  localhost : service.app.config.dev_mode = false → ∀ scheme host, service.UrlOf url scheme host →
    (host = "localhost" ∨ str.ends_with host ".localhost" = true) →
      ∃ err, service.validate_callback_url url = .error err

variable {service url}

/-- The checks of a URL with a host. -/
theorem validate_callback_url_of_host {scheme host : String} (hurl : service.UrlOf url scheme host) :
    (∃ err, service.validate_callback_url url = .error err) ↔ ¬ service.SchemeAllowed scheme ∨
      callback_host_is_localhost host = true ∧ service.app.config.dev_mode = false ∨
      (service.parse_ip host).any (callback_ip_is_disallowed service.app.config.dev_mode) = true := by
  rw [WebhookService.UrlOf] at hurl
  unfold WebhookService.validate_callback_url WebhookService.SchemeAllowed
  rw [hurl]
  dsimp only
  by_cases hscheme : scheme ≠ "https" ∧ ¬ (scheme = "http" ∧ service.app.config.dev_mode = true)
  · rw [if_pos hscheme]
    have hnot : ¬ (scheme = "https" ∨ scheme = "http" ∧ service.app.config.dev_mode = true) :=
      fun hallowed => hallowed.elim hscheme.1 hscheme.2
    refine ⟨fun _ => Or.inl hnot, fun _ => ?_⟩
    split <;> exact ⟨_, rfl⟩
  · rw [if_neg hscheme]
    have hallowed : scheme = "https" ∨ scheme = "http" ∧ service.app.config.dev_mode = true := by
      by_contra hnot
      exact hscheme (not_or.mp hnot)
    cases hlocalhost : callback_host_is_localhost host && !service.app.config.dev_mode with
    | true =>
      rw [Bool.and_eq_true, Bool.not_eq_true'] at hlocalhost
      exact ⟨fun _ => Or.inr (Or.inl hlocalhost), fun _ => ⟨_, rfl⟩⟩
    | false =>
      have hnot : ¬ (callback_host_is_localhost host = true ∧ service.app.config.dev_mode = false) := by
        rintro ⟨hhost, hdev⟩
        rw [hhost, hdev] at hlocalhost
        cases hlocalhost
      rw [if_neg Bool.false_ne_true]
      by_cases hip : (service.parse_ip host).any (callback_ip_is_disallowed service.app.config.dev_mode) = true
      · rw [if_pos hip]
        exact ⟨fun _ => Or.inr (Or.inr hip), fun _ => ⟨_, rfl⟩⟩
      · rw [if_neg hip]
        constructor
        · rintro ⟨err, herr⟩
          cases herr
        · rintro (h | h | h)
          · exact absurd hallowed h
          · exact absurd h hnot
          · exact absurd h hip

end Filter

/-- The filter does what it is for exactly where the host is not the bracketed literal of
an internal IPv6 address: brackets are no part of an address for the parser. -/
theorem addresses_filtered_iff {service : WebhookService} (hparser : service.parse_ip = IpAddr.from_str)
    (url : String) :
    FiltersAddresses service url ↔ ∀ scheme host segments, service.UrlOf url scheme host →
      service.SchemeAllowed scheme → IsLiteral host (.V6 segments) →
        ¬ (IpAddr.V6 segments).IsInternal service.app.config.dev_mode := by
  constructor
  · rintro hfilters scheme host segments hurl hscheme hliteral hinternal
    have herror := hfilters.literals scheme host (.V6 segments) hurl hliteral hinternal
    obtain ⟨text, rfl, -⟩ := hliteral
    rw [validate_callback_url_of_host hurl, hparser, from_str_bracketed, bracketed_not_localhost] at herror
    rcases herror with hnot | ⟨hlocalhost, -⟩ | hip
    · exact hnot hscheme
    · cases hlocalhost
    · cases hip
  · intro hnone
    refine ⟨fun scheme host ip hurl hliteral hinternal => ?_, fun hdev scheme host hurl hhost => ?_⟩
    · rw [validate_callback_url_of_host hurl, hparser]
      cases ip with
      | V4 a b c d =>
        obtain rfl : host = net.ipv4_text a b c d := hliteral
        rw [from_str_ipv4_text]
        exact Or.inr (Or.inr (internal_ipv4_disallowed hinternal))
      | V6 segments =>
        exact Or.inl fun hscheme => hnone scheme host segments hurl hscheme hliteral hinternal
    · rw [validate_callback_url_of_host hurl]
      exact Or.inr (Or.inl ⟨localhost_is_localhost hhost, hdev⟩)

namespace sample

/-- The service outside dev mode, with the parts of three URLs. -/
def public_service : WebhookService :=
  { webhook_service with
    app := { service with config := { service.config with dev_mode := false } }
    parse_url := fun url =>
      if url = "https://10.0.0.1/hook" then .ok { scheme := "https", host_str := some "10.0.0.1" }
      else if url = "https://[::1]/hook" then .ok { scheme := "https", host_str := some "[::1]" }
      else .error "relative URL without a base"
    parse_ip := IpAddr.from_str }

end sample

/-- An address of a private network is filtered. -/
theorem private_ipv4_filtered :
    FiltersAddresses sample.public_service "https://10.0.0.1/hook" := by
  refine (addresses_filtered_iff rfl _).mpr fun scheme host segments hurl _ hliteral => ?_
  have hhost : host = "10.0.0.1" := by
    have hparsed : sample.public_service.parse_url "https://10.0.0.1/hook" =
        .ok { scheme := "https", host_str := some "10.0.0.1" } := rfl
    rw [WebhookService.UrlOf, hparsed] at hurl
    cases hurl
    rfl
  obtain ⟨text, htext, -⟩ := hliteral
  have hfirst := congrArg (fun s => s.toList.head?) (hhost.symm.trans htext)
  simp at hfirst

/-- The loopback address is let through in brackets. -/
theorem bracketed_loopback_accepted :
    ¬ ∀ (service : WebhookService) (url : String), service.parse_ip = IpAddr.from_str →
      FiltersAddresses service url := by
  intro hclaim
  have hnot_ipv4 : net.parse_with net.read_ipv4_addr "::1" = none := by decide +kernel
  have hipv6 : net.parse_with net.read_ipv6_addr "::1" = some [0, 0, 0, 0, 0, 0, 0, 1] := by decide +kernel
  have hliteral : IsLiteral "[::1]" (.V6 fun i => [0, 0, 0, 0, 0, 0, 0, 1].getD i 0) := by
    refine ⟨"::1", rfl, ?_⟩
    rw [IpAddr.from_str, hnot_ipv4, hipv6]
    rfl
  have hloopback : (IpAddr.V6 fun i => [0, 0, 0, 0, 0, 0, 0, 1].getD i 0).IsLoopback := by
    rw [IpAddr.IsLoopback]
    decide
  obtain ⟨err, herr⟩ := (hclaim sample.public_service "https://[::1]/hook" rfl).literals "https" "[::1]" _ rfl
    hliteral (Or.inr (Or.inr ⟨rfl, Or.inl hloopback⟩))
  have haccepted : (sample.public_service.validate_callback_url "https://[::1]/hook").isOk = true := by
    decide +kernel
  rw [herr] at haccepted
  cases haccepted

end rustzap.state
