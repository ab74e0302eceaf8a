import Mathlib.Data.List.Nodup
import SignOn.Proofs.Cookie.Jar
import SignOn.Proofs.Storage.Effects
import SignOn.Proofs.Storage.RoundTrip

/-!
# Jars of a site

A browser has the cookies in which contexts are kept under one scope only, whatever the site answers
(`Suits.receive`). So one expiration takes such a cookie out of the jar, and all requests from the
jar show the same under its name. That cookie decides whether a storage keeps anything for a
request (`KeepsNothing.congr`).
-/

namespace SignOn

namespace Cookie

open Http (Headers IsTextChar)

/-! ## Jars of a site -/

/-- The names of the cookies in which contexts are kept. -/
def keepingNames : List String := [contextName, serverSessionName]

/-- The names of the cookies that the library writes or expires. -/
def knownNames : List String := keepingNames ++ [sessionIdName, endpointName] ++ providerNames

/-- Whether a site with these options can have left a cookie in a browser: a context is kept under
the scope of the options only, and the provider's own cookies are text. -/
structure Options.Owns (o : Options) (entry : Key × String) : Prop where
  known : entry.1.name ∈ knownNames
  scope : entry.1.name ∈ keepingNames → entry.1 = o.key entry.1.name
  provider : entry.1.name ∈ providerNames → ∀ c ∈ entry.2.toList, IsTextChar c
  value : ';' ∉ entry.2.toList

/-- The `Set-Cookie` fields of a site with these options. -/
inductive Options.Writes (o : Options) : Octets → Prop where
  | sets (name value : String) (hname : name ∈ knownNames) (hown : name ∉ providerNames)
    (hvalue : name ∈ keepingNames → ';' ∉ value.toList) :
    o.Writes (Octets.ofText (o.setCookie name value))
  | expires (name : String) (hname : name ∈ knownNames) :
    o.Writes (Octets.ofText (o.expireCookie name))

/-- Known names are visible and end where a value begins. -/
theorem isName_of_known : ∀ name ∈ knownNames, IsName name ∧ Text.AsciiFrom 0x21 name.toList := by
  have hall : ∀ name ∈ knownNames,
      IsName name ∧ name.toList.all (fun c => 0x21 ≤ c.toNat && c.toNat ≤ 0x7E) = true := by decide
  exact fun name hn => ⟨(hall name hn).1, Text.asciiFrom_of_all (hall name hn).2⟩

namespace Jar

/-- Whether all cookies in a jar are those of a site with these options. -/
def Suits (jar : Jar) (o : Options) : Prop := ∀ entry ∈ jar.stored, o.Owns entry

variable {jar : Jar} {o : Options} {name : String} {request : Headers}

/-- A jar that holds nothing but the library's cookies, under the scope of the options, suits them,
whatever the values are. -/
theorem suits_of_scope
    (h : ∀ entry ∈ jar.stored, (∃ name ∈ keepingNames ++ [sessionIdName, endpointName],
      entry.1 = o.key name) ∧ ';' ∉ entry.2.toList) : jar.Suits o := by
  intro entry he
  obtain ⟨⟨name, hname, hkey⟩, hvalue⟩ := h entry he
  have hsame : entry.1.name = name := congrArg Key.name hkey
  have hown : ∀ n ∈ keepingNames ++ [sessionIdName, endpointName], n ∉ providerNames := by decide
  exact ⟨List.mem_append_left _ (hsame ▸ hname), fun _ => by rw [hsame, hkey],
    fun hp => absurd (hsame ▸ hp) (hown name hname), hvalue⟩

/-- The fields of a site keep a jar to its cookies. -/
theorem Suits.obey (h : jar.Suits o) (ho : o.IsClosed) {field : Octets} (hw : o.Writes field) :
    (jar.obey field).Suits o := by
  intro entry he
  rcases of_mem_obey he with hold | ⟨s, hs, rfl⟩
  · exact h entry hold
  cases hw with
  | sets name value hname hown hvalue =>
    obtain ⟨t, ht, hkey, hclosed, hscope⟩ :=
      ofField?_setCookie (isName_of_known name hname).1 o value
    obtain rfl := Option.some.inj (hs.symm.trans ht)
    subst hkey
    exact ⟨hname, fun hkeeping => hscope ho (hvalue hkeeping), fun hp => absurd hp hown, hclosed⟩
  | expires name hname =>
    obtain rfl :=
      Option.some.inj (hs.symm.trans (ofField?_expireCookie ho (isName_of_known name hname).1))
    exact ⟨hname, fun _ => rfl, fun _ c hc => absurd hc List.not_mem_nil, List.not_mem_nil⟩

/-- So do the answers of a site. -/
theorem Suits.receive (h : jar.Suits o) (ho : o.IsClosed) {response : Headers}
    (hw : ∀ field ∈ response.octets setCookieField, o.Writes field) :
    (jar.receive response).Suits o := by
  unfold Jar.receive
  generalize response.octets setCookieField = fields at hw
  induction fields generalizing jar with
  | nil => exact h
  | cons field fields ih =>
    exact ih (h.obey ho (hw field List.mem_cons_self)) fun f hf => hw f (List.mem_cons_of_mem _ hf)

/-- Requests from such a jar agree on what they show of a context. -/
theorem Suits.find?_of_sends (h : jar.Suits o) (hname : name ∈ keepingNames)
    (hsends : jar.Sends request) : find? request name = jar.shown? name := by
  refine Jar.find?_of_sends (fun entry he => ⟨isName_of_known _ (h entry he).known,
    (h entry he).value⟩) ?_ hsends
  rw [pairs, List.forall_mem_map]
  intro entry he
  rw [List.forall_mem_map]
  intro other ho (hn : entry.1.name = name) (hn' : other.1.name = name)
  -- the options have one key for the name, and the jar holds it once
  have hkey : entry.1 = other.1 := by
    rw [(h entry he).scope (hn ▸ hname), (h other ho).scope (hn' ▸ hname), hn, hn']
  rw [List.inj_on_of_nodup_map jar.distinct he ho hkey]

/-- Expirations of provider cookies leave what a jar shows of a context. -/
theorem Suits.shown?_of_provider (h : jar.Suits o) (hwritable : o.IsWritable) (ho : o.IsClosed)
    (hname : name ∈ keepingNames) {response : Headers} {names : List String}
    (hset : response.octets setCookieField = expirations o names) (hnames : names ⊆ providerNames) :
    (jar.receive response).shown? name = jar.shown? name := by
  have hknown : ∀ n ∈ names, IsName n := fun n hn =>
    (isName_of_known n (List.mem_append_right _ (hnames hn))).1
  have hapart : ∀ n ∈ providerNames, n ∉ keepingNames := by decide
  have hstored : (jar.receive response).stored =
      jar.stored.filter fun entry => entry.1 ∉ names.map o.key := by
    rw [Jar.receive, hset, stored_foldl_expirations hwritable ho hknown]
  refine shown?_of_stored hstored fun entry he hgone => ?_
  obtain ⟨n, hn, hkey⟩ := List.mem_map.mp (of_not_not (of_decide_eq_false hgone))
  have hp : entry.1.name ∈ providerNames := by
    rw [← hkey]
    exact hnames hn
  exact ⟨fun hsame => hapart _ hp (hsame ▸ hname), (h entry he).provider hp⟩

/-- The expiration of a cookie in which contexts are kept takes it out of the jar. -/
theorem Suits.ne_name_of_expired (h : jar.Suits o) (hwritable : o.IsWritable) (ho : o.IsClosed)
    (hname : name ∈ keepingNames) {response : Headers} {names : List String}
    (hset : response.octets setCookieField = expirations o names) (hnames : names ⊆ knownNames)
    (hmem : name ∈ names) : ∀ entry ∈ (jar.receive response).stored, entry.1.name ≠ name := by
  intro entry he hsame
  rw [Jar.receive, hset, stored_foldl_expirations hwritable ho
    fun n hn => (isName_of_known n (hnames hn)).1, List.mem_filter] at he
  have hkey : entry.1 = o.key name := hsame ▸ (h entry he.1).scope (hsame ▸ hname)
  exact of_decide_eq_true he.2 (hkey ▸ List.mem_map_of_mem hmem)

end Jar

end Cookie

namespace Storage

open Http (Headers)

/-- The cookie that decides what a storage finds. -/
def cookieName (s : Storage) : String :=
  match s.method with
  | .cookie => Cookie.contextName
  | .session => Cookie.serverSessionName

/-- Whether nothing is kept for a request: what its cookie holds is no context, and there is no
session of the key that it presents. -/
structure KeepsNothing (s : Storage) (sessions : SessionStore) (request : Headers) : Prop where
  sealed : s.method = .cookie → ∀ context, loadCookie s.cipher request ≠ .ok (some context)
  session : ∀ key, s.Presents request key → sessions.sessions.get? key = none

variable {s : Storage} {sessions : SessionStore} {now : Int} {request other : Headers}

theorem cookieName_mem_keepingNames (s : Storage) : s.cookieName ∈ Cookie.keepingNames := by
  unfold cookieName
  cases s.method with
  | cookie => decide
  | session => decide

theorem cookieName_mem_names (s : Storage) : s.cookieName ∈ s.names := by
  unfold cookieName names
  cases s.method with
  | cookie => decide
  | session => decide

theorem names_subset_knownNames (s : Storage) : s.names ⊆ Cookie.knownNames := by
  unfold names
  cases s.method with
  | cookie => decide
  | session => decide

/-- It is the cookie of the storage that decides what is loaded. -/
theorem load_congr_find? (h : Cookie.find? request s.cookieName = Cookie.find? other s.cookieName)
    (sessions : SessionStore) (now : Int) :
    s.load sessions now request = s.load sessions now other := by
  unfold cookieName at h
  unfold load
  cases hm : s.method with
  | cookie =>
    simp only [hm] at h
    simp only [loadCookie_congr_find? h]
  | session =>
    simp only [hm] at h
    simp only [presentedKey?_congr_find? h]

/-- What is not kept is not loaded. -/
theorem KeepsNothing.load_ne (h : s.KeepsNothing sessions request) (now : Int)
    (context : SecurityContext) : (s.load sessions now request).1 ≠ .ok (some context) := by
  unfold load
  cases hm : s.method with
  | cookie => exact h.sealed hm context
  | session =>
    cases hp : presentedKey? request with
    | none => simp
    | some key =>
      have hnone := h.session key ⟨hm, hp⟩
      simp [SessionStore.get, hnone]

/-- And it decides whether something is kept. -/
theorem KeepsNothing.congr (h : s.KeepsNothing sessions request)
    (hsame : Cookie.find? other s.cookieName = Cookie.find? request s.cookieName) :
    s.KeepsNothing sessions other := by
  refine ⟨fun hm context => ?_, fun key hp => h.session key ⟨hp.1, ?_⟩⟩
  · simp only [cookieName, hm] at hsame
    rw [loadCookie_congr_find? hsame]
    exact h.sealed hm context
  · simp only [cookieName, hp.1] at hsame
    rw [← presentedKey?_congr_find? hsame]
    exact hp.2

/-- Nothing is kept for a request that shows no cookie. -/
theorem keepsNothing_of_find?_eq_none (h : Cookie.find? request s.cookieName = none)
    (sessions : SessionStore) : s.KeepsNothing sessions request := by
  refine ⟨fun hm context => ?_, fun key hp => ?_⟩
  · simp only [cookieName, hm] at h
    simp [loadCookie, Cookie.findNonempty?, h]
  · obtain ⟨hm, hkey⟩ := hp
    simp only [cookieName, hm] at h
    simp [presentedKey?, Cookie.findNonempty?, h] at hkey

/-- Nothing is kept for a request for which nothing was found, once the session that it presents is
gone. -/
theorem keepsNothing_of_load (h : (s.load sessions now request).1 = .ok none) {after : SessionStore}
    (hafter : ∀ key, s.Presents request key → after.sessions.get? key = none) :
    s.KeepsNothing after request := by
  refine ⟨fun hm context hload => ?_, hafter⟩
  simp only [load, hm] at h
  cases h.symm.trans hload

/-- Nothing comes to be kept unless a session begins. -/
theorem KeepsNothing.mono (h : s.KeepsNothing sessions request) {after : SessionStore}
    (hafter : ∀ key, sessions.sessions.get? key = none → after.sessions.get? key = none) :
    s.KeepsNothing after request :=
  ⟨h.sealed, fun key hp => hafter key (h.session key hp)⟩

/-- Loading begins no session. -/
theorem get?_load_eq_none {key : String} (h : sessions.sessions.get? key = none) (s : Storage)
    (now : Int) (request : Headers) : (s.load sessions now request).2.sessions.get? key = none := by
  unfold load
  split
  · exact h
  · split
    · exact h
    · rw [SessionStore.get?_get_snd]
      split
      · next hk =>
        subst hk
        simp [h]
      · exact h

/-- Whatever saving sets, a cookie in which contexts are kept has a value without semicolon. -/
theorem writes_contextPairs (s : Storage) (fresh : Fresh) (context : SecurityContext) :
    ∀ pair ∈ s.contextPairs fresh context,
      s.cookieOptions.Writes (Octets.ofText (s.cookieOptions.setCookie pair.1 pair.2)) := by
  unfold contextPairs
  split
  · simp only [contextCookies, List.forall_mem_cons]
    refine ⟨.sets _ _ (by decide) (by decide) fun _ => (visible_encrypt _ _ _).2, ?_, ?_,
      fun _ h => absurd h List.not_mem_nil⟩
    · exact .sets _ _ (by decide) (by decide) fun h => absurd h (by decide)
    · exact .sets _ _ (by decide) (by decide) fun h => absurd h (by decide)
  · rw [List.forall_mem_singleton]
    exact .sets Cookie.serverSessionName _ (by decide) (by decide) fun _ => (visible_key _).2

end Storage

end SignOn
