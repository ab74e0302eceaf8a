import SignOn.Proofs.Cookie.Carried
import SignOn.Proofs.Crypto.Sealing
import SignOn.Proofs.Json.RoundTrip
import SignOn.Proofs.Url.Reading
import SignOn.Storage.Basic

/-!
# Saved contexts that are found again

What a storage writes to cookies it finds in a request that carries them back. The cookie storage
finds the context itself, provided that its endpoint, once written, is read as the same URL; the
session storage finds the key.
-/

namespace SignOn

namespace SecurityContext

/-- The record of a context takes the members of every context whose endpoint is read back. -/
theorem fits_members {c : SecurityContext} (h : Url.parse c.endpoint.text = .ok c.endpoint) :
    shape.Fits c.members := by
  have hurl : isUrl c.endpoint.text = true := by
    rw [isUrl, h]
    rfl
  exact .of_forall₂ (by decide) (by simp [shape, members, hurl])

/-- A context is read back if its endpoint is. -/
theorem ofJson_json {c : SecurityContext} (h : Url.parse c.endpoint.text = .ok c.endpoint) :
    ofJson (Octets.ofText c.json) = .ok c := by
  have hread := Json.read_writeRecord (fits_members h)
  have hendpoint : c.members.textOrEmpty "endpoint" = c.endpoint.text := rfl
  rw [json, ofJson, hread]
  simp only [bind, Except.bind, hendpoint, h]
  rfl

end SecurityContext

namespace Base64Url

/-- Written octets consist of digits. -/
theorem exists_digit_of_mem_encode {bs : Octets} {c : Char} (h : c ∈ encode bs) :
    ∃ n < 64, c = digit n := by
  fun_induction encode bs with
  | case1 x y z rest ih =>
    have hx := x.toNat_lt
    have hy := y.toNat_lt
    simp only [List.mem_cons] at h
    rcases h with rfl | rfl | rfl | rfl | h
    · exact ⟨_, by omega, rfl⟩
    · exact ⟨_, by omega, rfl⟩
    · exact ⟨_, by have := z.toNat_lt; omega, rfl⟩
    · exact ⟨_, by omega, rfl⟩
    · exact ih h
  | case2 x y =>
    have hx := x.toNat_lt
    have hy := y.toNat_lt
    simp only [List.mem_cons, List.not_mem_nil, or_false] at h
    rcases h with rfl | rfl | rfl
    · exact ⟨_, by omega, rfl⟩
    · exact ⟨_, by omega, rfl⟩
    · exact ⟨_, by omega, rfl⟩
  | case3 x =>
    have hx := x.toNat_lt
    simp only [List.mem_cons, List.not_mem_nil, or_false] at h
    rcases h with rfl | rfl
    · exact ⟨_, by omega, rfl⟩
    · exact ⟨_, by omega, rfl⟩
  | case4 => exact absurd h List.not_mem_nil

/-- Digits are visible, and none is a semicolon. -/
theorem visible_digit {n : Nat} (h : n < 64) :
    (0x21 ≤ (digit n).toNat ∧ (digit n).toNat ≤ 0x7E) ∧ digit n ≠ ';' := by
  revert n
  decide

end Base64Url

namespace Storage

open Http (Headers)

/-- The cookies that a storage sets to keep a context. -/
def contextPairs (s : Storage) (fresh : Fresh) (context : SecurityContext) :
    List (String × String) :=
  match s.method with
  | .cookie => contextCookies s.cipher fresh.nonce context
  | .session => [(Cookie.serverSessionName, SessionKey.ofRandom fresh.sessionKey)]

private theorem octets_appendCookies {o : Cookie.Options} {cookies : Headers}
    {pairs : List (String × String)} (h : (appendCookies o cookies pairs).1 = .ok ())
    (field : String) :
    (appendCookies o cookies pairs).2.octets field =
      cookies.octets field ++
        if Text.lower Cookie.setCookieField = Text.lower field then
          pairs.map fun pair => Octets.ofText (o.setCookie pair.1 pair.2)
        else [] := by
  induction pairs generalizing cookies with
  | nil => simp [appendCookies]
  | cons pair pairs ih =>
    rw [appendCookies] at h ⊢
    cases ha : Cookie.append cookies o pair.1 pair.2 with
    | error e =>
      simp only [ha] at h
      cases h
    | ok written =>
      simp only [ha] at h ⊢
      rw [ih h, Cookie.octets_append ha, List.append_assoc]
      split
      · rfl
      · rfl

/-- A context that could be saved is in the cookies. -/
theorem octets_save {s : Storage} {sessions : SessionStore} {now : Int} {fresh : Fresh}
    {request cookies : Headers} {context : SecurityContext}
    (h : (s.save sessions now fresh request cookies context).outcome = .ok ()) (field : String) :
    (s.save sessions now fresh request cookies context).cookies.octets field =
      cookies.octets field ++
        if Text.lower Cookie.setCookieField = Text.lower field then
          (s.contextPairs fresh context).map fun pair =>
            Octets.ofText (s.cookieOptions.setCookie pair.1 pair.2)
        else [] := by
  cases hm : s.method with
  | cookie =>
    simp only [save, hm] at h ⊢
    simp only [contextPairs, hm]
    exact octets_appendCookies h field
  | session =>
    simp only [save, hm] at h ⊢
    cases ha : Cookie.append cookies s.cookieOptions Cookie.serverSessionName
        (SessionKey.ofRandom fresh.sessionKey) with
    | error e =>
      simp only [ha] at h
      cases h
    | ok written =>
      simp only [contextPairs, hm]
      exact Cookie.octets_append ha field

/-- What a browser keeps of a context's cookies. -/
def keptPairs (s : Storage) (fresh : Fresh) (context : SecurityContext) : List (String × String) :=
  (s.contextPairs fresh context).map fun pair => (pair.1, Cookie.keptValue pair.2)

variable {s : Storage} {fresh : Fresh} {context : SecurityContext}

private theorem name_mem_contextPairs {pair : String × String}
    (h : pair ∈ s.contextPairs fresh context) :
    Cookie.IsName pair.1 ∧ Text.AsciiFrom 0x21 pair.1.toList := by
  have hall : ∀ name ∈ Cookie.serverSessionName :: cookieNames,
      Cookie.IsName name ∧ Text.AsciiFrom 0x21 name.toList := by
    rw [cookieNames]
    simp only [List.forall_mem_cons]
    exact ⟨⟨by decide, Text.asciiFrom_of_all (by decide)⟩,
      ⟨by decide, Text.asciiFrom_of_all (by decide)⟩,
      ⟨by decide, Text.asciiFrom_of_all (by decide)⟩,
      ⟨by decide, Text.asciiFrom_of_all (by decide)⟩, fun _ h => absurd h List.not_mem_nil⟩
  apply hall
  unfold contextPairs at h
  split at h
  · refine List.mem_cons_of_mem _ ?_
    simp only [contextCookies, List.mem_cons, List.not_mem_nil, or_false] at h
    rcases h with rfl | rfl | rfl
    · simp [cookieNames]
    · simp [cookieNames]
    · simp [cookieNames]
  · rw [List.mem_singleton.mp h]
    exact List.mem_cons_self

/-- A response that carries the cookies of a saved context sets what a browser keeps of them. -/
theorem setPairs_eq_keptPairs {response : Headers}
    (ho : response.octets Cookie.setCookieField = (s.contextPairs fresh context).map fun pair =>
      Octets.ofText (s.cookieOptions.setCookie pair.1 pair.2)) :
    Cookie.setPairs response = s.keptPairs fresh context :=
  Cookie.setPairs_of_octets ho fun _ hp => (name_mem_contextPairs hp).1

/-- Sealed texts are visible and hold no semicolon. -/
theorem visible_encrypt (cipher : Cipher) (nonce : Nonce) (octets : Octets) :
    Text.AsciiFrom 0x21 (cipher.encrypt nonce octets).toList ∧
      ';' ∉ (cipher.encrypt nonce octets).toList := by
  rw [Cipher.encrypt, String.toList_ofList]
  constructor
  · intro c hc
    obtain ⟨n, hn, rfl⟩ := Base64Url.exists_digit_of_mem_encode hc
    exact (Base64Url.visible_digit hn).1
  · intro hc
    obtain ⟨n, hn, hd⟩ := Base64Url.exists_digit_of_mem_encode hc
    exact (Base64Url.visible_digit hn).2 hd.symm

/-- Session keys are visible and hold no semicolon. -/
theorem visible_key (random : Vector UInt8 16) :
    Text.AsciiFrom 0x21 (SessionKey.ofRandom random).toList ∧
      ';' ∉ (SessionKey.ofRandom random).toList := by
  refine ⟨Text.asciiFrom_hexOfOctets _, fun hm => ?_⟩
  have hdigit : ∀ n < 16, Text.lowerHex n ≠ ';' := by decide
  rw [SessionKey.ofRandom, Text.hexOfOctets, String.toList_ofList] at hm
  obtain ⟨b, -, hb⟩ := List.mem_flatMap.mp hm
  have hlt := b.toNat_lt
  simp only [List.mem_cons, List.not_mem_nil, or_false] at hb
  rcases hb with hb | hb
  · exact hdigit _ (by omega) hb.symm
  · exact hdigit _ (by omega) hb.symm

private theorem asciiFrom_contextPairs (hsid : Text.AsciiFrom 0x20 context.sessionId.toList)
    (hendpoint : Text.AsciiFrom 0x20 context.endpoint.text.toList) :
    ∀ pair ∈ s.contextPairs fresh context, Text.AsciiFrom 0x20 pair.2.toList := by
  have hle : 0x20 ≤ 0x21 := by decide
  intro pair hp
  unfold contextPairs at hp
  split at hp
  · simp only [contextCookies, List.mem_cons, List.not_mem_nil, or_false] at hp
    rcases hp with rfl | rfl | rfl
    · exact (visible_encrypt _ _ _).1.mono hle
    · exact hsid
    · exact hendpoint
  · rw [List.mem_singleton.mp hp]
    exact (visible_key _).1.mono hle

/-- What a browser keeps of a context can stand in `Cookie` fields. -/
theorem isPair_keptPairs (hsid : Text.AsciiFrom 0x20 context.sessionId.toList)
    (hendpoint : Text.AsciiFrom 0x20 context.endpoint.text.toList) :
    ∀ pair ∈ s.keptPairs fresh context, Cookie.IsPair pair := by
  intro pair hp
  obtain ⟨cookie, hc, rfl⟩ := List.mem_map.mp hp
  have hname := name_mem_contextPairs hc
  exact Cookie.isPair_keptValue hname.1 hname.2 (asciiFrom_contextPairs hsid hendpoint cookie hc)

private theorem exists_appendCookies {o : Cookie.Options} (ho : o.IsWritable)
    {pairs : List (String × String)}
    (hpairs : ∀ pair ∈ pairs, Text.AsciiFrom 0x20 pair.1.toList ∧ Text.AsciiFrom 0x20 pair.2.toList)
    (cookies : Headers) : (appendCookies o cookies pairs).1 = .ok () := by
  induction pairs generalizing cookies with
  | nil => rfl
  | cons pair pairs ih =>
    obtain ⟨hname, hvalue⟩ := hpairs pair List.mem_cons_self
    obtain ⟨written, hw⟩ := Cookie.exists_append ho (Http.FieldValue.isFieldChar_of_asciiFrom hname)
      (Http.FieldValue.isFieldChar_of_asciiFrom hvalue) cookies
    simp only [appendCookies, hw]
    exact ih (fun p hp => hpairs p (List.mem_cons_of_mem _ hp)) written

/-- Where cookies can be written at all, a printable context can be saved. -/
theorem outcome_save_of_isWritable (ho : s.cookieOptions.IsWritable)
    (hsid : Text.AsciiFrom 0x20 context.sessionId.toList)
    (hendpoint : Text.AsciiFrom 0x20 context.endpoint.text.toList) (sessions : SessionStore)
    (now : Int) (request cookies : Headers) :
    (s.save sessions now fresh request cookies context).outcome = .ok () := by
  have hle : 0x20 ≤ 0x21 := by decide
  have hpairs : ∀ pair ∈ s.contextPairs fresh context,
      Text.AsciiFrom 0x20 pair.1.toList ∧ Text.AsciiFrom 0x20 pair.2.toList := fun pair hp =>
    ⟨(name_mem_contextPairs hp).2.mono hle, asciiFrom_contextPairs hsid hendpoint pair hp⟩
  cases hm : s.method with
  | cookie =>
    simp only [contextPairs, hm] at hpairs
    simp only [save, hm]
    exact exists_appendCookies ho hpairs cookies
  | session =>
    simp only [contextPairs, hm, List.forall_mem_singleton] at hpairs
    obtain ⟨written, hw⟩ := Cookie.exists_append ho
      (Http.FieldValue.isFieldChar_of_asciiFrom hpairs.1)
      (Http.FieldValue.isFieldChar_of_asciiFrom hpairs.2) cookies
    simp only [save, hm, hw]

variable {request : Headers} {fields : List (List (String × String))}

/-- The session storage finds the key. -/
theorem find?_of_carries (hm : s.method = .session)
    (h : Cookie.Carries request (s.keptPairs fresh context) fields) :
    Cookie.find? request Cookie.serverSessionName =
      some (SessionKey.ofRandom fresh.sessionKey) := by
  have hkey := visible_key fresh.sessionKey
  have hkept : s.keptPairs fresh context =
      [(Cookie.serverSessionName, SessionKey.ofRandom fresh.sessionKey)] := by
    simp only [keptPairs, contextPairs, hm, List.map_cons, List.map_nil,
      Cookie.keptValue_of_not_mem hkey.2]
  rw [hkept] at h
  refine Cookie.find?_of_carries h (fun pair hp => ?_) List.mem_cons_self (fun other ho => ?_)
    fun c hc => Cookie.isBlank_of_visible (hkey.1 c hc)
  · have hpair : Cookie.IsPair (Cookie.serverSessionName,
        Cookie.keptValue (SessionKey.ofRandom fresh.sessionKey)) :=
      Cookie.isPair_keptValue (by decide) (Text.asciiFrom_of_all (by decide))
        (hkey.1.mono (by decide))
    rw [Cookie.keptValue_of_not_mem hkey.2] at hpair
    rwa [List.mem_singleton.mp hp]
  · exact congrArg Prod.snd (List.mem_singleton.mp ho)

/-- A sealed context that is presented is read back. -/
theorem loadCookie_of_sealed {cipher : Cipher} {nonce : Nonce}
    (hcipher : Aes256.IsSchedule cipher.roundKeys)
    (hurl : Url.parse context.endpoint.text = .ok context.endpoint)
    (h : Cookie.findNonempty? request Cookie.contextName =
      some (cipher.encrypt nonce (Octets.ofText context.json))) :
    loadCookie cipher request = .ok (some context) := by
  have hopen := Cipher.decrypt_encrypt hcipher nonce (Octets.ofText context.json)
  simp only [loadCookie, h, hopen, SecurityContext.ofJson_json hurl]

/-- The cookie storage finds the context. -/
theorem load_of_carries (hm : s.method = .cookie)
    (hcipher : Aes256.IsSchedule s.cipher.roundKeys)
    (hsid : Text.AsciiFrom 0x20 context.sessionId.toList)
    (hendpoint : Text.AsciiFrom 0x20 context.endpoint.text.toList)
    (hurl : Url.parse context.endpoint.text = .ok context.endpoint)
    (h : Cookie.Carries request (s.keptPairs fresh context) fields) (sessions : SessionStore)
    (now : Int) : (s.load sessions now request).1 = .ok (some context) := by
  have hopen := Cipher.decrypt_encrypt hcipher fresh.nonce (Octets.ofText context.json)
  have hsealed := visible_encrypt s.cipher fresh.nonce (Octets.ofText context.json)
  have hkept : s.keptPairs fresh context = [
      (Cookie.contextName, s.cipher.encrypt fresh.nonce (Octets.ofText context.json)),
      (Cookie.sessionIdName, Cookie.keptValue context.sessionId),
      (Cookie.endpointName, Cookie.keptValue context.endpoint.text)] := by
    simp only [keptPairs, contextPairs, hm, contextCookies, List.map_cons, List.map_nil,
      Cookie.keptValue_of_not_mem hsealed.2]
  have hfind : Cookie.find? request Cookie.contextName =
      some (s.cipher.encrypt fresh.nonce (Octets.ofText context.json)) := by
    refine Cookie.find?_of_carries h (isPair_keptPairs hsid hendpoint) (by simp [hkept])
      (fun other ho => ?_) fun c hc => Cookie.isBlank_of_visible (hsealed.1 c hc)
    have hdiffer : Cookie.contextName ≠ Cookie.sessionIdName ∧
        Cookie.contextName ≠ Cookie.endpointName := by decide
    simpa [hkept, hdiffer.1, hdiffer.2] using ho
  have hne : s.cipher.encrypt fresh.nonce (Octets.ofText context.json) ≠ "" := by
    -- the empty text does not open
    intro he
    rw [he] at hopen
    cases hopen
  have hpresent : Cookie.findNonempty? request Cookie.contextName =
      some (s.cipher.encrypt fresh.nonce (Octets.ofText context.json)) := by
    rw [Cookie.findNonempty?, hfind, Option.filter_some, if_pos (decide_eq_true hne)]
  rw [load, hm]
  exact loadCookie_of_sealed hcipher hurl hpresent

end Storage

end SignOn
