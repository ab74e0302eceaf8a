import SignOn.Http.Message
import SignOn.Proofs.Crypto.Exactness
import SignOn.Storage.Basic

/-!
# Absent, present and unreadable contexts

What a storage finds in the cookie of a request depends on the first pair of the cookie's name
alone. Without such a pair, or with an empty one, there is nothing; with a sealed JSON text of a
context there is this context. All else is unreadable and never taken for either.
-/

namespace SignOn

namespace Cookie

open Http (Headers)

variable {request : Headers} {name value : String}

/-- Whether the first pair of a name has a value: no pair before it has the name. -/
def IsFirst (request : Headers) (name value : String) : Prop :=
  ∃ before after, requestPairs request = before ++ (name.toList, value.toList) :: after ∧
    ∀ pair ∈ before, pair.1 ≠ name.toList

/-- The value that is found is the first. -/
theorem find?_eq_some_iff : find? request name = some value ↔ IsFirst request name value := by
  rw [find?, Option.map_eq_some_iff]
  constructor
  · rintro ⟨⟨key, chars⟩, hfind, rfl⟩
    obtain ⟨hname, before, after, hsplit, hbefore⟩ := List.find?_eq_some_iff_append.mp hfind
    obtain rfl : key = name.toList := of_decide_eq_true hname
    refine ⟨before, after, by rw [hsplit, String.toList_ofList], fun pair hp => ?_⟩
    simpa using hbefore pair hp
  · rintro ⟨before, after, hsplit, hbefore⟩
    refine ⟨_, List.find?_eq_some_iff_append.mpr ⟨decide_eq_true rfl, before, after, hsplit,
      fun pair hp => ?_⟩, String.ofList_toList⟩
    simpa using hbefore pair hp

/-- Nothing is found when no text field has a pair of the name. -/
theorem find?_eq_none_iff : find? request name = none ↔
    ∀ text ∈ request.texts "cookie", ∀ pair ∈ pairs text, pair.1 ≠ name.toList := by
  simp only [find?, Option.map_eq_none_iff, List.find?_eq_none, requestPairs, List.mem_flatMap,
    decide_eq_true_eq]
  constructor
  · intro h text ht pair hp
    exact h pair ⟨text, ht, hp⟩
  · rintro h pair ⟨text, ht, hp⟩
    exact h text ht pair hp

/-- A value that is found and not empty is the first. -/
theorem findNonempty?_eq_some_iff :
    findNonempty? request name = some value ↔ IsFirst request name value ∧ value ≠ "" := by
  rw [findNonempty?, Option.filter_eq_some_iff, find?_eq_some_iff, decide_eq_true_eq]

/-- There is no value when there is no pair of the name or the first one is empty. -/
theorem findNonempty?_eq_none_iff : findNonempty? request name = none ↔
    (∀ text ∈ request.texts "cookie", ∀ pair ∈ pairs text, pair.1 ≠ name.toList) ∨
      IsFirst request name "" := by
  rw [← find?_eq_none_iff, ← find?_eq_some_iff, findNonempty?]
  cases find? request name with
  | none => simp
  | some value => simp [Option.filter_some]

end Cookie

/-- Sealed texts are not empty: the empty text does not open. -/
theorem Cipher.encrypt_ne_empty {c : Cipher} (h : Aes256.IsSchedule c.roundKeys) (nonce : Nonce)
    (octets : Octets) : c.encrypt nonce octets ≠ "" := by
  intro he
  have hopen := decrypt_encrypt h nonce octets
  rw [he] at hopen
  cases hopen

namespace Storage

open Cookie (IsFirst contextName)
open Http (Headers)

/-- Whether a request sends no context: there is no pair of the cookie's name in any text field, or
the first one is empty. -/
def LacksContext (request : Headers) : Prop :=
  (∀ text ∈ request.texts "cookie", ∀ pair ∈ Cookie.pairs text, pair.1 ≠ contextName.toList) ∨
    IsFirst request contextName ""

/-- Whether a request sends a context: the first value of the cookie is a sealed JSON text of it. -/
def SendsContext (cipher : Cipher) (request : Headers) (context : SecurityContext) : Prop :=
  ∃ nonce octets, IsFirst request contextName (cipher.encrypt nonce octets) ∧
    SecurityContext.ofJson octets = .ok context

variable {cipher : Cipher} {request : Headers} {context : SecurityContext}

/-- Nothing is loaded exactly when nothing is sent. -/
theorem loadCookie_eq_none_iff : loadCookie cipher request = .ok none ↔ LacksContext request := by
  rw [LacksContext, ← Cookie.findNonempty?_eq_none_iff, loadCookie]
  cases hf : Cookie.findNonempty? request contextName with
  | none => simp
  | some sealedText =>
    simp only [reduceCtorEq, iff_false]
    cases hopen : cipher.decrypt sealedText with
    | error e => simp
    | ok octets =>
      cases hjson : SecurityContext.ofJson octets with
      | error fault => simp [hjson]
      | ok context => simp [hjson]

/-- A context is loaded exactly when it is sent. -/
theorem loadCookie_eq_some_iff (h : Aes256.IsSchedule cipher.roundKeys) :
    loadCookie cipher request = .ok (some context) ↔ SendsContext cipher request context := by
  constructor
  · intro hload
    unfold loadCookie at hload
    split at hload
    · cases hload
    next sealedText hfind =>
    split at hload
    · cases hload
    next octets hopen =>
    split at hload
    · next other hjson =>
      obtain rfl := Option.some.inj (Except.ok.inj hload)
      obtain ⟨nonce, rfl⟩ := Cipher.eq_encrypt_of_decrypt h hopen
      exact ⟨nonce, octets, (Cookie.findNonempty?_eq_some_iff.mp hfind).1, hjson⟩
    · cases hload
  · rintro ⟨nonce, octets, hfirst, hjson⟩
    have hfind := Cookie.findNonempty?_eq_some_iff.mpr
      ⟨hfirst, Cipher.encrypt_ne_empty h nonce octets⟩
    simp only [loadCookie, hfind, Cipher.decrypt_encrypt h, hjson]

/-- Requests with the same first value are taken for the same. -/
theorem loadCookie_congr {other : Headers} {value : String}
    (hfirst : IsFirst request contextName value) (hother : IsFirst other contextName value) :
    loadCookie cipher other = loadCookie cipher request := by
  rw [← Cookie.find?_eq_some_iff] at hfirst hother
  have hsame : Cookie.findNonempty? other contextName =
      Cookie.findNonempty? request contextName := by
    rw [Cookie.findNonempty?, Cookie.findNonempty?, hfirst, hother]
  rw [loadCookie, loadCookie, hsame]

/-- How a storage takes what a request sends. -/
structure TellsApart (s : Storage) (sessions : SessionStore) (now : Int) (request : Headers) :
    Prop where
  /-- Nothing is found exactly when nothing is sent. -/
  absent : (s.load sessions now request).1 = .ok none ↔ LacksContext request
  /-- A context is found exactly when it is sent. -/
  present : ∀ context, (s.load sessions now request).1 = .ok (some context) ↔
    SendsContext s.cipher request context
  /-- All else is unreadable. -/
  unreadable : ¬ LacksContext request → (∀ context, ¬ SendsContext s.cipher request context) →
    ∃ e, (s.load sessions now request).1 = .error e ∧ e.isContextUnreadable = true
  /-- There is no other way to fail. -/
  failure : ∀ e, (s.load sessions now request).1 = .error e → e.isContextUnreadable = true
  /-- Nothing but the first value counts. -/
  first : ∀ other value, IsFirst request contextName value → IsFirst other contextName value →
    (s.load sessions now other).1 = (s.load sessions now request).1

/-- A storage that keeps contexts in cookies tells what is absent, present and unreadable apart, in
every request. -/
theorem tellsApart_of_ofSecret {s : Storage} (hm : s.method = .cookie) {secret : String}
    (hsecret : Cipher.ofSecret secret = .ok s.cipher) (sessions : SessionStore) (now : Int)
    (request : Headers) : s.TellsApart sessions now request := by
  have hload : ∀ r, (s.load sessions now r).1 = loadCookie s.cipher r := by
    intro r
    rw [load, hm]
  have hschedule := Cipher.isSchedule_of_ofSecret hsecret
  refine ⟨?_, fun context => ?_, fun hsent hnone => ?_, fun e => isContextUnreadable_of_load,
    fun other value hfirst hother => ?_⟩
  · rw [hload, loadCookie_eq_none_iff]
  · rw [hload, loadCookie_eq_some_iff hschedule]
  · cases hl : (s.load sessions now request).1 with
    | error e => exact ⟨e, rfl, isContextUnreadable_of_load hl⟩
    | ok found =>
      rw [hload] at hl
      cases found with
      | none => exact absurd (loadCookie_eq_none_iff.mp hl) hsent
      | some context => exact absurd ((loadCookie_eq_some_iff hschedule).mp hl) (hnone context)
  · rw [hload, hload, loadCookie_congr hfirst hother]

/-- A storage that keeps contexts in cookies. -/
def sampleSealed : Storage where
  method := .cookie
  cipher := .sample
  cookieOptions := {}

/-- It tells apart what it finds in a request with a text that does not open and an empty one. -/
theorem tellsApart_sampleSealed :
    sampleSealed.method = .cookie ∧
      Cipher.ofSecret "a secret of enough length" = .ok sampleSealed.cipher ∧
      sampleSealed.TellsApart (.create 10 0) 0 (.single "cookie"
        (Http.FieldValue.ofText? "security_context=AAAA; security_context=")) := by
  have hsecret : Cipher.ofSecret "a secret of enough length" = .ok sampleSealed.cipher := rfl
  exact ⟨rfl, hsecret, tellsApart_of_ofSecret rfl hsecret _ _ _⟩

/-- The first value counts, whatever follows. -/
example : (["security_context=AAAA; security_context=", "security_context=; security_context=AAAA",
      "x_security_context=AAAA"].map fun field =>
    match (sampleSealed.load (.create 10 0) 0
      (.single "cookie" (Http.FieldValue.ofText? field))).1 with
    | .ok found => some found.isSome
    | .error _ => none) = [none, some false, some false] := by decide +kernel

end Storage

end SignOn
