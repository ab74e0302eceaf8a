import SignOn.Proofs.Url.Rereading

/-!
# URLs that reading gives

Every URL of the application was read from a text, by itself or at another such URL (`Url.IsRead`).
What each reader keeps to is therefore true of all of them: they are ASCII, those of network schemes
name a server, and their port is never the usual one of the scheme.
-/

namespace SignOn

namespace Url

/-- The URLs that reading gives: those of texts, and those of texts that are read at such URLs. -/
inductive IsRead : Url → Prop
  | parse {s : String} {u : Url} (h : Url.parse s = .ok u) : IsRead u
  | join {base u : Url} {s : String} (hbase : IsRead base) (h : base.join s = .ok u) : IsRead u

variable {scheme : String} {cs rest : List Char} {u : Url} {port : Option Nat}

/-- Components are read as ASCII. -/
theorem IsRead.isAscii (h : u.IsRead) : u.IsAscii := by
  induction h with
  | parse h => exact isAscii_of_parse h
  | join _ h ih => exact isAscii_of_join ih h

/-- The scheme is a word, which the text of the URL is read with again. -/
theorem IsRead.isSchemeWord (h : u.IsRead) : IsSchemeWord u.scheme := by
  induction h with
  | parse h => exact isSchemeWord_of_scheme? (scheme_of_parse h)
  | join _ h ih =>
    rcases scheme_of_parseFrom h with hscheme | ⟨b, hb, hscheme⟩
    · exact isSchemeWord_of_scheme? hscheme
    · obtain rfl := Option.some.inj hb
      rwa [hscheme]

/-- A URL of a network scheme has been read as one. -/
theorem IsRead.isNetwork (h : u.IsRead) (hk : u.kind = .network) : u.IsNetwork := by
  induction h with
  | parse h => exact isNetwork_of_parse h hk
  | join _ h ih =>
    rcases of_parseFrom h hk with ⟨cs, hcs⟩ | ⟨b, hb, hbase, cs, hcs⟩
    · exact isNetwork_of_parseAfterSlashes hk hcs
    · obtain rfl := Option.some.inj hb
      exact isNetwork_of_parseRelative (ih hbase) hcs

/-- The authority of a URL of a network scheme has been read for this scheme. -/
theorem IsRead.authority (h : u.IsRead) (hk : u.kind = .network) :
    ∃ a cs rest, u.authority = some a ∧ parseAuthority u.scheme cs = .ok (a, rest) := by
  have hslashes : ∀ {scheme cs u}, parseAfterSlashes scheme cs = .ok u →
      ∃ a cs rest, u.authority = some a ∧ parseAuthority u.scheme cs = .ok (a, rest) := by
    intro scheme cs u hu
    obtain ⟨a, rest, hauthority, rfl⟩ := of_parseAfterSlashes hu
    exact ⟨a, _, rest, rfl, hauthority⟩
  induction h with
  | parse h =>
    obtain ⟨cs, hcs⟩ := of_parse h hk
    exact hslashes hcs
  | join _ h ih =>
    rcases of_parseFrom h hk with ⟨cs, hcs⟩ | ⟨b, hb, hbase, cs, hcs⟩
    · exact hslashes hcs
    · obtain rfl := Option.some.inj hb
      rcases of_parseRelative hcs with ⟨hscheme, hauthority⟩ | ⟨rest, hrest⟩
      · rw [hscheme, hauthority]
        exact ih hbase
      · exact hslashes hrest

/-! ## Ports -/

/-- Whether a URL has a port that is not the usual one of its scheme, or none. -/
def HasOwnPort (u : Url) : Prop := ∀ port ∈ u.port?, defaultPort? u.scheme ≠ some port

private theorem ne_default_of_parsePort (h : parsePort scheme cs = .ok (port, rest)) :
    ∀ p ∈ port, defaultPort? scheme ≠ some p := by
  unfold parsePort at h
  simp only at h
  split at h
  · cases h
  split at h
  · cases h
  obtain ⟨rfl, -⟩ := Prod.mk.inj (Except.ok.inj h)
  intro p hp
  split at hp
  · cases hp
  · next hown =>
    rw [← Option.some.inj hp]
    exact fun hdefault => hown (.inr hdefault)

/-- A URL of a network scheme has no usual port. -/
theorem IsRead.hasOwnPort (h : u.IsRead) (hk : u.kind = .network) : u.HasOwnPort := by
  obtain ⟨a, cs, rest, hserver, hread⟩ := h.authority hk
  obtain ⟨-, hostPort, after, -, hhost, -⟩ := of_parseAuthority hread
  intro p hp
  have hport : p ∈ a.port := by rwa [port?, hserver] at hp
  rcases (of_parseHostPort hhost).2 with ⟨portText, -, hparse⟩ | ⟨-, hnone, -⟩
  · exact ne_default_of_parsePort hparse p hport
  · rw [hnone] at hport
    cases hport

/-- URLs that connect to one port of one scheme are written with the same port. -/
theorem HasOwnPort.port_eq {v : Url} (hu : u.HasOwnPort) (hv : v.HasOwnPort)
    (hscheme : u.scheme = v.scheme) (h : u.effectivePort? = v.effectivePort?) :
    u.port? = v.port? := by
  unfold HasOwnPort at hu hv
  rw [effectivePort?, effectivePort?, hscheme] at h
  rw [hscheme] at hu
  cases hpu : u.port? with
  | none =>
    cases hpv : v.port? with
    | none => rfl
    | some p =>
      rw [hpu, hpv] at h
      exact absurd h (hv p hpv)
  | some p =>
    cases hpv : v.port? with
    | none =>
      rw [hpu, hpv] at h
      exact absurd h.symm (hu p hpu)
    | some q =>
      rw [hpu, hpv] at h
      exact h

end Url

/-! ## Credentials -/

namespace Authority

variable {a b : Authority}

/-- What stands before the `@` of an authority. -/
private def credentials (a : Authority) : List Char :=
  a.username.toList ++ if a.password = "" then [] else ':' :: a.password.toList

private theorem cutAt_credentials (h : ':' ∉ a.username.toList) :
    Text.cutAt ':' a.credentials =
      if a.password = "" then none else some (a.username.toList, a.password.toList) := by
  unfold credentials
  split
  · rw [List.append_nil]
    exact Text.cutAt_eq_none_iff.mpr h
  · exact Text.cutAt_append_cons h _

private theorem toList_credentialsText (a : Authority) :
    a.credentialsText.toList = if a.credentials = [] then [] else a.credentials ++ ['@'] := by
  have hnil : a.credentials = [] ↔ a.username = "" ∧ a.password = "" := by
    unfold credentials
    split
    · next hp => simp [hp]
    · next hp => simp [hp]
  simp only [hnil, credentialsText]
  split
  · rfl
  · unfold credentials
    split
    · simp
    · simp

/-- User names without colons and their passwords are written differently if they differ. -/
theorem credentialsText_inj (ha : ':' ∉ a.username.toList) (hb : ':' ∉ b.username.toList) :
    a.credentialsText = b.credentialsText ↔ a.username = b.username ∧ a.password = b.password := by
  constructor
  · intro h
    have hsame : a.credentials = b.credentials := by
      rw [← String.toList_inj, toList_credentialsText, toList_credentialsText] at h
      split at h
      · next hnil =>
        split at h
        · next hnil' => rw [hnil, hnil']
        · simp at h
      · split at h
        · simp at h
        · exact List.append_cancel_right h
    have hcut := congrArg (Text.cutAt ':') hsame
    rw [cutAt_credentials ha, cutAt_credentials hb] at hcut
    split at hcut
    · next hp =>
      split at hcut
      · next hp' =>
        rw [credentials, credentials, if_pos hp, if_pos hp', List.append_nil, List.append_nil]
          at hsame
        exact ⟨String.toList_inj.mp hsame, hp.trans hp'.symm⟩
      · cases hcut
    · split at hcut
      · cases hcut
      · obtain ⟨hu, hp⟩ := Prod.mk.inj (Option.some.inj hcut)
        exact ⟨String.toList_inj.mp hu, String.toList_inj.mp hp⟩
  · rintro ⟨hu, hp⟩
    rw [credentialsText, credentialsText, hu, hp]

end Authority

namespace Url

/-- The user name and the password in a URL. -/
def userinfo (u : Url) : Option (String × String) :=
  u.authority.map fun server => (server.username, server.password)

variable {u v : Url}

/-- A user name that is read holds no colon. -/
theorem IsRead.colon_not_mem_username (h : u.IsRead) (hk : u.kind = .network) {a : Authority}
    (ha : u.authority = some a) : ':' ∉ a.username.toList := by
  obtain ⟨b, cs, rest, hb, hread⟩ := h.authority hk
  obtain rfl : b = a := Option.some.inj (hb.symm.trans ha)
  have hall := (forall_mem_credentials (P := (· ≠ ':')) hread (by decide) (by decide)
    (by decide +kernel)).1
  exact fun hmem => hall _ hmem rfl

/-- URLs of one origin name the same server, but for the user that each names. -/
theorem server_of_sharesOrigin {a b : Authority} (hu : u.IsRead) (hv : v.IsRead)
    (hk : u.kind = .network) (horigin : u.SharesOrigin v) (ha : u.authority = some a)
    (hb : v.authority = some b) : a.host = b.host ∧ a.port = b.port := by
  obtain ⟨hscheme, hhost, hport⟩ := horigin
  have hkv : v.kind = .network := by rwa [kind, ← hscheme]
  have hown := (hu.hasOwnPort hk).port_eq (hv.hasOwnPort hkv) hscheme hport
  rw [port?, port?, ha, hb] at hown
  rw [ha, hb] at hhost
  exact ⟨Option.some.inj hhost, hown⟩

/-- URLs of one origin have the same authority exactly if they name the same user. -/
theorem authority_eq_iff (hu : u.IsRead) (hv : v.IsRead) (hk : u.kind = .network)
    (horigin : u.SharesOrigin v) : u.authority = v.authority ↔ u.userinfo = v.userinfo := by
  have hkv : v.kind = .network := by rwa [kind, ← horigin.1]
  obtain ⟨a, ha, -⟩ := (hu.isNetwork hk).server
  obtain ⟨b, hb, -⟩ := (hv.isNetwork hkv).server
  obtain ⟨hhost, hport⟩ := server_of_sharesOrigin hu hv hk horigin ha hb
  simp only [userinfo, ha, hb, Option.map_some, Option.some.injEq, Prod.mk.injEq]
  rw [Authority.mk.injEq]
  exact ⟨fun hsame => ⟨hsame.1, hsame.2.1⟩, fun huser => ⟨huser.1, huser.2, hhost, hport⟩⟩

/-- Nor are their authorities written alike otherwise. -/
theorem text_authority_eq_iff {a b : Authority} (hu : u.IsRead) (hv : v.IsRead)
    (hk : u.kind = .network) (horigin : u.SharesOrigin v) (ha : u.authority = some a)
    (hb : v.authority = some b) : a.text = b.text ↔ u.userinfo = v.userinfo := by
  have hkv : v.kind = .network := by rwa [kind, ← horigin.1]
  obtain ⟨hhost, hport⟩ := server_of_sharesOrigin hu hv hk horigin ha hb
  have hserver : a.hostPortText = b.hostPortText := by
    rw [Authority.hostPortText, Authority.hostPortText, Authority.portText, Authority.portText,
      hhost, hport]
  calc a.text = b.text
    _ ↔ a.credentialsText = b.credentialsText := by
      rw [Authority.text, Authority.text, hserver, ← String.toList_inj, ← String.toList_inj,
        String.toList_append, String.toList_append, List.append_cancel_right_eq]
    _ ↔ a.username = b.username ∧ a.password = b.password :=
      Authority.credentialsText_inj (hu.colon_not_mem_username hk ha)
        (hv.colon_not_mem_username hkv hb)
    _ ↔ u.userinfo = v.userinfo := by
      simp only [userinfo, ha, hb, Option.map_some, Option.some.injEq, Prod.mk.injEq]

end Url

end SignOn
