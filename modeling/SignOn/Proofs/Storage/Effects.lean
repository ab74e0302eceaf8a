import SignOn.Proofs.Cookie.Expiration
import SignOn.Proofs.Session.History
import SignOn.Storage.Basic

/-!
# Effects of storages

What loading and clearing do to the sessions, said key by key, and which cookies clearing expires.
Both touch at most the session that the request presents. After a fruitless load, as after clearing,
that session is gone.
-/

namespace SignOn.Storage

open Http (Headers)

/-- The names of the cookies in which a storage keeps a context. -/
def names (s : Storage) : List String :=
  match s.method with
  | .cookie => cookieNames
  | .session => [Cookie.serverSessionName]

/-- Whether a request presents the session of a key to a storage. -/
def Presents (s : Storage) (request : Headers) (key : String) : Prop :=
  s.method = .session ∧ presentedKey? request = some key

instance (s : Storage) (request : Headers) (key : String) : Decidable (s.Presents request key) :=
  inferInstanceAs (Decidable (_ ∧ _))

/-- Of the cookies of a request only the sealed context decides what it is found to hold. -/
theorem loadCookie_congr_find? {request other : Headers}
    (h : Cookie.find? request Cookie.contextName = Cookie.find? other Cookie.contextName)
    (cipher : Cipher) : loadCookie cipher request = loadCookie cipher other := by
  simp only [loadCookie, Cookie.findNonempty?, h]

/-- Of the cookies of a request only the key decides which session it presents. -/
theorem presentedKey?_congr_find? {request other : Headers}
    (h : Cookie.find? request Cookie.serverSessionName =
      Cookie.find? other Cookie.serverSessionName) :
    presentedKey? request = presentedKey? other := by
  simp only [presentedKey?, Cookie.findNonempty?, h]

/-- The names of cookies are visible. -/
theorem isFieldChar_names (s : Storage) :
    ∀ name ∈ s.names, ∀ c ∈ name.toList, Http.IsFieldChar c := by
  have hall : s.names.all (fun name => name.toList.all (Http.IsFieldChar ·)) = true := by
    rw [names]
    cases s.method with
    | cookie => decide
    | session => decide
  exact fun name hn => Http.forall_isFieldChar (List.all_eq_true.mp hall name hn)

/-- The cookies of clearing are the expirations of the storage's cookies. -/
theorem cookies_clear (s : Storage) (sessions : SessionStore) (request cookies : Headers) :
    (s.clear sessions request cookies).cookies =
      Cookie.appendAllExpired cookies s.cookieOptions s.names := by
  cases hm : s.method with
  | cookie => simp only [clear, names, hm]
  | session =>
    simp only [clear, names, hm, Cookie.appendAllExpired, List.foldl_cons, List.foldl_nil]

/-- Clearing drops the presented session if the storage keeps sessions. -/
theorem sessions_clear (s : Storage) (sessions : SessionStore) (request cookies : Headers) :
    (s.clear sessions request cookies).sessions =
      if s.method = .session then withoutPresented sessions request else sessions := by
  cases hm : s.method with
  | cookie => simp only [clear, hm, reduceCtorEq, if_false]
  | session => simp only [clear, hm, if_true]

/-- Clearing expires the cookies of the storage. -/
theorem octets_clear (s : Storage) (sessions : SessionStore) (request cookies : Headers)
    (field : String) :
    (s.clear sessions request cookies).cookies.octets field =
      cookies.octets field ++
        if Text.lower Cookie.setCookieField = Text.lower field then
          Cookie.expirations s.cookieOptions s.names
        else [] := by
  rw [cookies_clear, Cookie.octets_appendAllExpired (isFieldChar_names s)]

/-- Dropping the presented session leaves all others. -/
theorem get?_withoutPresented (sessions : SessionStore) (request : Headers) (key : String) :
    (withoutPresented sessions request).sessions.get? key =
      if presentedKey? request = some key then none else sessions.sessions.get? key := by
  rw [withoutPresented]
  cases hp : presentedKey? request with
  | none => simp
  | some presented =>
    simp only [Option.elim_some, SessionStore.erase, Table.get?_erase, Option.some.injEq]
    by_cases h : key = presented
    · simp [h]
    · simp [h, Ne.symm h]

/-- After clearing, the session that the request presents is gone. -/
theorem get?_clear (s : Storage) (sessions : SessionStore) (request cookies : Headers)
    (key : String) :
    (s.clear sessions request cookies).sessions.sessions.get? key =
      if s.Presents request key then none else sessions.sessions.get? key := by
  rw [sessions_clear]
  by_cases hm : s.method = .session
  · simp [Presents, hm, get?_withoutPresented]
  · simp [Presents, hm]

/-- Loading touches only the session that the request presents. -/
theorem get?_load_of_not_presents {s : Storage} (sessions : SessionStore) (now : Int)
    {request : Headers} {key : String} (h : ¬ s.Presents request key) :
    (s.load sessions now request).2.sessions.get? key = sessions.sessions.get? key := by
  unfold Presents at h
  unfold load
  cases hm : s.method with
  | cookie => rfl
  | session =>
    cases hp : presentedKey? request with
    | none => rfl
    | some presented =>
      have hne : key ≠ presented := by
        rintro rfl
        exact h ⟨hm, hp⟩
      simp [SessionStore.get?_get_snd, hne]

/-- A session that is presented and gives nothing is gone afterwards. -/
theorem get?_load_of_presents {s : Storage} (sessions : SessionStore) (now : Int)
    {request : Headers} {key : String} (h : s.Presents request key)
    (hl : (s.load sessions now request).1 = .ok none) :
    (s.load sessions now request).2.sessions.get? key = none := by
  unfold load at hl ⊢
  simp only [h.1, h.2] at hl ⊢
  have hnone : (sessions.get now key).1 = none := Except.ok.inj hl
  rw [SessionStore.get?_get_snd, if_pos rfl, Option.map_eq_none_iff]
  rw [(SessionStore.tracks_self sessions key now).get_fst] at hnone
  exact Option.map_eq_none_iff.mp hnone

/-- Only the cookie storage keeps what cannot be read, and it touches no session. -/
theorem load_of_error {s : Storage} {sessions : SessionStore} {now : Int} {request : Headers}
    {e : Error} (h : (s.load sessions now request).1 = .error e) :
    s.method = .cookie ∧ (s.load sessions now request).2 = sessions := by
  unfold load at h ⊢
  cases hm : s.method with
  | cookie => exact ⟨rfl, rfl⟩
  | session =>
    simp only [hm] at h
    split at h
    · cases h
    · cases h

end SignOn.Storage
