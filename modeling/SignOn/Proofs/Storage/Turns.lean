import SignOn.Proofs.Storage.Effects

/-!
# Turns of server sessions

What a storage that keeps sessions on the server does to the session of one key: loading reads the
session that the request presents, clearing drops it, and saving drops it and begins one under a new
key. The session of every other key is left alone.
-/

namespace SignOn.Storage

open Http (Headers)
open Session (advance given)

/-- Whether the cookie that keeps a session can be written to a response. -/
def CanWriteKey (s : Storage) (fresh : Fresh) : Prop :=
  (Http.FieldValue.ofText? (s.cookieOptions.setCookie Cookie.serverSessionName
    (SessionKey.ofRandom fresh.sessionKey))).isSome = true

instance (s : Storage) (fresh : Fresh) : Decidable (s.CanWriteKey fresh) :=
  inferInstanceAs (Decidable (_ = true))

variable {s : Storage} {sessions : SessionStore} {now : Int} {request cookies : Headers}
  {key : String} {held : Option Session}

@[simp] theorem window_load (s : Storage) (sessions : SessionStore) (now : Int)
    (request : Headers) : (s.load sessions now request).2.window = sessions.window := by
  unfold load
  split
  · rfl
  · split
    · rfl
    · exact SessionStore.window_get sessions now _

@[simp] theorem window_withoutPresented (sessions : SessionStore) (request : Headers) :
    (withoutPresented sessions request).window = sessions.window := by
  unfold withoutPresented
  cases presentedKey? request with
  | none => rfl
  | some presented => rfl

@[simp] theorem window_clear (s : Storage) (sessions : SessionStore) (request cookies : Headers) :
    (s.clear sessions request cookies).sessions.window = sessions.window := by
  rw [sessions_clear]
  split
  · exact window_withoutPresented sessions request
  · rfl

/-- Loading reads the session that the request presents. -/
theorem tracks_load (hm : s.method = .session) (h : sessions.Tracks key held now)
    (request : Headers) :
    (s.load sessions now request).2.Tracks key
      (advance sessions.window now held
        (if presentedKey? request = some key then .reads else .rests)) now := by
  unfold load
  rw [hm]
  cases hp : presentedKey? request with
  | none => simpa [advance] using h
  | some presented =>
    have hget := h.get_snd presented
    by_cases hk : key = presented
    · simpa [hk] using hget
    · simpa [hk, Ne.symm hk] using hget

/-- Loading finds what the presented session gives. -/
theorem load_of_presented (hm : s.method = .session) (h : sessions.Tracks key held now)
    (hp : presentedKey? request = some key) :
    (s.load sessions now request).1 = .ok (given sessions.window now held) := by
  unfold load
  simp only [hm, hp]
  rw [h.get_fst]

/-- Loading finds nothing if nothing is presented. -/
theorem load_of_not_presented (hm : s.method = .session) (hp : presentedKey? request = none) :
    (s.load sessions now request).1 = .ok none := by
  unfold load
  simp only [hm, hp]

/-- Dropping the presented session ends it. -/
theorem tracks_withoutPresented (h : sessions.Tracks key held now) (request : Headers) :
    (withoutPresented sessions request).Tracks key
      (advance sessions.window now held
        (if presentedKey? request = some key then .ends else .rests)) now := by
  unfold withoutPresented
  cases hp : presentedKey? request with
  | none => simpa [advance] using h
  | some presented =>
    have herase := h.erase presented
    by_cases hk : key = presented
    · simpa [hk] using herase
    · simpa [hk, Ne.symm hk] using herase

/-- The turn that saving a context is for the session of a key. -/
def saveTurn (s : Storage) (fresh : Fresh) (request : Headers) (key : String)
    (context : SecurityContext) : Turn :=
  if s.CanWriteKey fresh ∧ key = SessionKey.ofRandom fresh.sessionKey then .begins context
  else if presentedKey? request = some key then .ends
  else .rests

/-- Saving succeeds exactly when the cookie can be written. -/
theorem outcome_save (hm : s.method = .session) (sessions : SessionStore) (now : Int)
    (fresh : Fresh) (request cookies : Headers) (context : SecurityContext) :
    (s.save sessions now fresh request cookies context).outcome = .ok () ↔ s.CanWriteKey fresh := by
  cases hv : Http.FieldValue.ofText? (s.cookieOptions.setCookie Cookie.serverSessionName
      (SessionKey.ofRandom fresh.sessionKey)) with
  | none => simp [save, CanWriteKey, hm, Cookie.append, hv]
  | some field => simp [save, CanWriteKey, hm, Cookie.append, hv]

/-- Saving begins a session under the new key and ends the one that the request presents. -/
theorem tracks_save (hm : s.method = .session) (h : sessions.Tracks key held now) (fresh : Fresh)
    (request cookies : Headers) (context : SecurityContext) :
    (s.save sessions now fresh request cookies context).sessions.Tracks key
      (advance sessions.window now held (s.saveTurn fresh request key context)) now := by
  have hdrop := tracks_withoutPresented h request
  cases hv : Http.FieldValue.ofText? (s.cookieOptions.setCookie Cookie.serverSessionName
      (SessionKey.ofRandom fresh.sessionKey)) with
  | none =>
    simp only [save, saveTurn, CanWriteKey, hm, Cookie.append, hv]
    simpa using hdrop
  | some field =>
    simp only [save, saveTurn, CanWriteKey, hm, Cookie.append, hv]
    have hput := hdrop.put (SessionKey.ofRandom fresh.sessionKey) context
    by_cases hk : key = SessionKey.ofRandom fresh.sessionKey
    · simpa [hk, advance] using hput
    · simpa [hk, advance] using hput

@[simp] theorem window_save (s : Storage) (sessions : SessionStore) (now : Int) (fresh : Fresh)
    (request cookies : Headers) (context : SecurityContext) :
    (s.save sessions now fresh request cookies context).sessions.window = sessions.window := by
  unfold save
  split
  · rfl
  · simp only
    split
    · rw [SessionStore.window_put, window_withoutPresented]
    · exact window_withoutPresented sessions request

end SignOn.Storage
