import SignOn.OAuth.Client
import SignOn.Proofs.Url.Root

/-!
# Pinned origins

An origin that is pinned by a text is taken apart into a scheme and a host with a port, and put
together again for each URL of the site. Both ways agree: the base URL of the origin is the root of
the server that the text names, and its text pins the same origin (`SiteOrigin.pins_one_form`).
-/

namespace SignOn

namespace SiteOrigin

variable {o : String} {u : Url} {a : Authority}

/-- The origin of a text is the scheme and the server of its URL. -/
theorem ofText_eq (h : Url.parse o = .ok u) (ha : u.authority = some a) (hserver : a.host.IsServer) :
    ofText o = .ok { scheme := u.scheme, host := a.hostPortText } := by
  have hhost : u.hostText? = some a.host.text := by
    rw [Url.hostText?, ha]
    exact if_neg hserver.ne_empty
  rw [ofText, h]
  simp only [hhost, Url.port?, ha, Option.bind_some]
  rw [Authority.hostPortText, Authority.portText]
  cases a.port with
  | none => exact congrArg (fun host => Except.ok (mk u.scheme host)) String.append_empty.symm
  | some port => exact congrArg (fun host => Except.ok (mk u.scheme host)) (String.append_assoc ..)

/-- The base URL of an origin is the root of its server. -/
theorem baseText_eq (ha : u.authority = some a) :
    baseText { scheme := u.scheme, host := a.hostPortText } = u.root.text := by
  have hauthority : u.root.authorityText = "//" ++ a.hostPortText := by
    rw [Url.authorityText, Url.authority_root ha, ← a.text_withoutCredentials]
  rw [Url.text, hauthority, ← String.toList_inj]
  simp [baseText, Url.root, Url.Path.text, Url.tailText]

/-- Texts of URLs on one server give one origin. -/
theorem ofText_eq_of_sharesOrigin (hu : u.IsRead) (hk : u.kind = .network)
    (ha : u.authority = some a) {v : Url} (h : Url.parse o = .ok v) (hshares : v.SharesOrigin u) :
    ofText o = .ok { scheme := u.scheme, host := a.hostPortText } := by
  have hkv : v.kind = .network := by rwa [Url.kind, hshares.1]
  obtain ⟨b, hb, hserver⟩ := ((Url.IsRead.parse h).isNetwork hkv).server
  obtain ⟨hhost, hport⟩ := Url.server_of_sharesOrigin (.parse h) hu hkv hshares hb ha
  rw [ofText_eq h hb hserver.host, hshares.1, Authority.hostPortText, Authority.hostPortText,
    Authority.portText, Authority.portText, hhost, hport]

/-- How an origin stands for the server of a URL: its base URL is the root of that server and names
no user, and the text of the base URL gives the origin back. Every text of a URL on the server gives
this origin too, and so the same callback and logout URLs. -/
structure Pins (origin : SiteOrigin) (u : Url) : Prop where
  base : ∃ base, origin.base = .ok base ∧ base.SharesOrigin u ∧ base.path.text = "/" ∧
    base.userinfo = some ("", "") ∧ base.query = none ∧ base.fragment = none ∧
    ofText base.text = .ok origin
  alike : ∀ o v, Url.parse o = .ok v → v.SharesOrigin u → ofText o = .ok origin ∧
    (∀ client : OAuthClient, (ofText o).bind client.redirectUri = client.redirectUri origin) ∧
    ∀ endpoint target, ((ofText o).bind fun named => OAuthClient.logoutUrl named endpoint target) =
      OAuthClient.logoutUrl origin endpoint target

/-- **Pinned origins have one form.** The URL of a text pins the scheme, the host and the port and
nothing else: how the text spells them, and what else it says, does not count. -/
theorem pins_one_form (h : Url.parse o = .ok u) (hweb : u.scheme = "http" ∨ u.scheme = "https")
    (hcoded : u.CodedNameRereads) : ∃ origin, ofText o = .ok origin ∧ origin.Pins u := by
  have hk : u.kind = .network := Url.network_of_web hweb
  have hread : u.IsRead := .parse h
  obtain ⟨a, ha, hserver⟩ := (hread.isNetwork hk).server
  have horigin : ofText o = .ok { scheme := u.scheme, host := a.hostPortText } :=
    ofText_eq h ha hserver.host
  have hroot : Url.parse u.root.text = .ok u.root :=
    Url.parse_root_text hread hk ha (hread.parseDomainHost_text hk ha hcoded)
  have hauthority := Url.authority_root ha
  refine ⟨_, horigin, ⟨u.root, ?_, u.sharesOrigin_root, ?_, ?_, rfl, rfl, ?_⟩, ?_⟩
  · rw [base, baseText_eq ha, hroot]
    rfl
  · simp [Url.root, Url.Path.text]
  · rw [Url.userinfo, hauthority]
    rfl
  · have hback := ofText_eq hroot hauthority hserver.host
    exact hback
  · intro o' v hv hshares
    have hsame := ofText_eq_of_sharesOrigin hread hk ha hv hshares
    refine ⟨hsame, fun client => ?_, fun endpoint target => ?_⟩
    · rw [hsame]
      rfl
    · rw [hsame]
      rfl

/-- A URL with an IPv6 host, a user, a path and all else that an origin leaves out. -/
def sampleAddress : Url where
  scheme := "https"
  authority := some {
    username := "admin", password := "pw", host := .ipv6 #v[0x2001, 0xDB8, 0, 0, 0, 0, 0, 1] }
  path := .rooted ["app"]
  query := some "x=1"
  fragment := some "top"

/-- A URL with an international host. -/
def sampleName : Url where
  scheme := "https"
  authority := some { host := .domain "xn--bcher-kva.example" }
  path := .rooted [""]

/-- The usual port is left out, and zeros are where they are; an international host is pinned by its
name in ASCII, which reads back. -/
theorem pins_sampleAddress :
    (Url.parse "HTTPS://admin:pw@[2001:DB8:0::0:1]:443/app?x=1#top" = .ok sampleAddress ∧
      Pins { scheme := "https", host := "[2001:db8::1]" } sampleAddress) ∧
    Url.parse "https://bücher.example:443" = .ok sampleName ∧ sampleName.CodedNameRereads ∧
      Pins { scheme := "https", host := "xn--bcher-kva.example" } sampleName := by
  have hparse : Url.parse "HTTPS://admin:pw@[2001:DB8:0::0:1]:443/app?x=1#top" =
      .ok sampleAddress := by decide +kernel
  have horigin : ofText "HTTPS://admin:pw@[2001:DB8:0::0:1]:443/app?x=1#top" =
      .ok { scheme := "https", host := "[2001:db8::1]" } := by decide +kernel
  have hcoded : sampleAddress.CodedNameRereads := by
    rintro name ⟨⟩
  obtain ⟨origin, hnamed, hpins⟩ := pins_one_form hparse (.inr rfl) hcoded
  rw [horigin] at hnamed
  rw [← Except.ok.inj hnamed] at hpins
  refine ⟨⟨hparse, hpins⟩, ?_⟩
  have hparse' : Url.parse "https://bücher.example:443" = .ok sampleName := by decide +kernel
  have horigin' : ofText "https://bücher.example:443" =
      .ok { scheme := "https", host := "xn--bcher-kva.example" } := by
    rw [ofText, hparse']
    decide
  have hcoded' : sampleName.CodedNameRereads := by
    rintro name ⟨⟩ -
    decide +kernel
  obtain ⟨origin', hnamed', hpins'⟩ := pins_one_form hparse' (.inr rfl) hcoded'
  rw [horigin'] at hnamed'
  rw [← Except.ok.inj hnamed'] at hpins'
  exact ⟨hparse', hcoded', hpins'⟩

end SiteOrigin

end SignOn
