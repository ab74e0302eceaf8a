import SignOn.Proofs.Cookie.Jar
import SignOn.Proofs.Storage.Foreign

/-!
# What saving writes

A context that is saved in cookies adds three `Set-Cookie` fields to a response: the sealed text,
the session id and the endpoint, each before the attributes that the options prescribe. The values
stand between semicolons as they are. A value without one is written whole; of any other one the
rest joins the attributes (`splitOn_setCookie`), and only what stands before is read back.
-/

namespace SignOn

namespace Text

/-- The first piece of a text is what stands before the first separator. -/
theorem splitOn_eq_cons (sep : Char) (cs : List Char) :
    splitOn sep cs = cs.takeWhile (· ≠ sep) :: (splitOn sep cs).drop 1 := by
  induction cs with
  | nil => rfl
  | cons c cs ih =>
    rw [splitOn]
    split
    · next h => simp [h]
    · next h =>
      cases hpieces : splitOn sep cs with
      | nil => exact absurd hpieces (splitOn_ne_nil sep cs)
      | cons piece pieces =>
        rw [hpieces, List.cons.injEq] at ih
        simp [h, ih.1]

/-- What stands before the first separator does not matter to the pieces after it. -/
theorem drop_splitOn_append {sep : Char} {cs : List Char} (h : sep ∉ cs) (ds : List Char) :
    (splitOn sep (cs ++ ds)).drop 1 = (splitOn sep ds).drop 1 := by
  induction cs with
  | nil => rfl
  | cons c cs ih =>
    have hc : ¬ c = sep := fun e => h (e ▸ List.mem_cons_self)
    rw [← ih fun hm => h (List.mem_cons_of_mem _ hm), List.cons_append, splitOn, if_neg hc]
    cases hpieces : splitOn sep (cs ++ ds) with
    | nil => exact absurd hpieces (splitOn_ne_nil sep _)
    | cons piece pieces => rfl

/-- There are no pieces after the first exactly when there is no separator. -/
theorem drop_splitOn_eq_nil_iff {sep : Char} {cs : List Char} :
    (splitOn sep cs).drop 1 = [] ↔ sep ∉ cs := by
  constructor
  · intro h hm
    have hwhole := flatMap_splitOn sep cs
    rw [splitOn_eq_cons, h, List.flatMap_singleton, List.cons.injEq] at hwhole
    rw [← hwhole.2] at hm
    exact absurd (List.all_eq_true.mp List.all_takeWhile _ hm) (by simp)
  · intro h
    rw [splitOn_of_not_mem h]
    rfl

/-- Up to the first mark, texts begin alike only if they are the same there. -/
theorem prefix_append_cons_iff {mark : Char} {a b : List Char} (ha : mark ∉ a) (hb : mark ∉ b)
    (rest : List Char) : a ++ [mark] <+: b ++ mark :: rest ↔ a = b := by
  constructor
  · rintro ⟨after, h⟩
    have hcut := congrArg (cutAt mark) h
    rw [List.append_assoc, List.singleton_append, cutAt_append_cons ha, cutAt_append_cons hb]
      at hcut
    exact (Prod.mk.inj (Option.some.inj hcut)).1
  · rintro rfl
    exact ⟨rest, by simp⟩

end Text

namespace Cookie

open Http (Headers IsTextChar)

variable {o : Options} {name : String}

/-! ## The parts of a field -/

/-- The parts of a field with the attributes that options prescribe. -/
def prescribed (o : Options) : List (List Char) :=
  (o.scope ++ o.policy).map fun text => ' ' :: text.toList

/-- What a value brings along after its first semicolon. -/
def injected (value : String) : List (List Char) := (Text.splitOn ';' value.toList).drop 1

/-- Only a semicolon can bring something along. -/
theorem injected_eq_nil_iff {value : String} : injected value = [] ↔ ';' ∉ value.toList :=
  Text.drop_splitOn_eq_nil_iff

private theorem not_mem_name (hname : IsName name) : ';' ∉ (name ++ "=").toList := by
  rw [String.toList_append, List.mem_append]
  rintro (h | h)
  · exact (hname _ h).2 rfl
  · exact absurd h (by decide)

/-- At its semicolons a field comes apart into the pair, what the value brings along and the
attributes of the options. -/
theorem splitOn_setCookie (ho : o.IsClosed) (hname : IsName name) (value : String) :
    Text.splitOn ';' (o.setCookie name value).toList =
      (pairText (name, keptValue value)).toList :: (injected value ++ prescribed o) := by
  have hattributes : ∀ s ∈ o.scope ++ o.policy, ';' ∉ s.toList :=
    List.forall_mem_append.mpr ⟨not_mem_scope ho, fun s hs => (isPolicy_policy o s hs).1⟩
  have hfirst : ((name ++ "=").toList ++ value.toList).takeWhile (· ≠ ';') =
      (pairText (name, keptValue value)).toList := by
    have hall : ∀ c ∈ (name ++ "=").toList, (decide (c ≠ ';')) = true := fun c hc =>
      decide_eq_true (ne_of_mem_of_not_mem hc (not_mem_name hname))
    rw [List.takeWhile_append_of_pos hall]
    simp [pairText, keptValue]
  rw [Options.setCookie, List.cons_append, Text.splitOn_join hattributes, String.toList_append,
    Text.splitOn_eq_cons, hfirst, Text.drop_splitOn_append (not_mem_name hname)]
  rfl

/-- Exactly a value without semicolon is written whole, before the attributes of the options. -/
theorem splitOn_setCookie_eq_iff (ho : o.IsClosed) (hname : IsName name) {value : String} :
    Text.splitOn ';' (o.setCookie name value).toList =
        (pairText (name, value)).toList :: prescribed o ↔
      ';' ∉ value.toList := by
  rw [splitOn_setCookie ho hname, ← injected_eq_nil_iff]
  constructor
  · intro h
    exact List.append_left_eq_self.mp (List.cons.inj h).2
  · intro h
    rw [h, keptValue_of_not_mem (injected_eq_nil_iff.mp h)]
    rfl

/-! ## Reading a response -/

/-- The value that a field shows for a name. -/
def shownValue? (name : String) (field : Octets) : Option String :=
  (Http.shownText? field).bind fun text =>
    if !Text.contains text expirationMark && isAbout name text then
      some (String.ofList ((text.toList.drop (name ++ "=").toList.length).takeWhile (· ≠ ';')))
    else none

/-- The value that a response sets is the first that one of its fields shows. -/
theorem valueSetIn?_eq (response : Headers) (name : String) :
    valueSetIn? response name =
      (response.octets setCookieField).findSome? (shownValue? name) := by
  rw [valueSetIn?, Headers.texts_eq]
  generalize response.octets setCookieField = fields
  induction fields with
  | nil => rfl
  | cons field fields ih =>
    rw [List.findSome?_cons, ← ih, shownValue?, List.filterMap_cons]
    cases Http.shownText? field with
    | none => rfl
    | some text =>
      rw [Option.bind_some, List.filter_cons]
      cases hmark : Text.contains text expirationMark with
      | true => rfl
      | false =>
        cases habout : isAbout name text with
        | true => simp [habout]
        | false => simp [habout]

/-- Whether a `Set-Cookie` text is shown as one that sets a value: it is text and not marked as an
expiration. -/
def IsShown (field : String) : Prop :=
  (∀ c ∈ field.toList, IsTextChar c) ∧ Text.contains field expirationMark = false

instance (field : String) : Decidable (IsShown field) :=
  @instDecidableAnd _ _ (List.decidableBAll (fun c => IsTextChar c) field.toList) inferInstance

/-- A field that sets a cookie is about this cookie and no other. -/
theorem isAbout_setCookie {other : String} (hname : IsName name) (hother : IsName other)
    (o : Options) (value : String) :
    isAbout name (o.setCookie other value) = decide (name = other) ∧
      ((o.setCookie other value).toList.drop (other ++ "=").toList.length).takeWhile (· ≠ ';') =
        (keptValue value).toList := by
  have hsep : (decide (';' ≠ ';')) = false := by decide
  have htext : (o.setCookie other value).toList = (other ++ "=").toList ++
      Text.joinWith "; ".toList (value.toList :: (o.scope ++ o.policy).map String.toList) := by
    rw [Options.setCookie, Text.join, String.toList_ofList, List.cons_append, List.map_cons,
      String.toList_append, Text.joinWith_append_cons]
  rw [htext]
  constructor
  · rw [isAbout, htext, Bool.eq_iff_iff, List.isPrefixOf_iff_prefix, decide_eq_true_iff,
      String.toList_append, String.toList_append, List.append_assoc, ← String.toList_inj]
    exact Text.prefix_append_cons_iff (fun h => (hname _ h).1 rfl) (fun h => (hother _ h).1 rfl) _
  · rw [List.drop_left, toList_keptValue]
    change (Text.joinWith (';' :: [' ']) _).takeWhile _ = _
    exact Text.takeWhile_joinWith hsep _ _ _

/-- A field that sets a cookie shows its value up to the first semicolon, if it is shown at all. -/
theorem shownValue?_setCookie {other : String} (hname : IsName name) (hother : IsName other)
    (o : Options) (value : String) :
    shownValue? name (Octets.ofText (o.setCookie other value)) =
      if name = other ∧ IsShown (o.setCookie other value) then some (keptValue value) else none := by
  obtain ⟨habout, hvalue⟩ := isAbout_setCookie hname hother o value
  rw [shownValue?]
  by_cases htext : ∀ c ∈ (o.setCookie other value).toList, IsTextChar c
  · rw [Http.shownText?_ofText_eq_some_iff.mpr ⟨rfl, htext⟩, Option.bind_some, habout]
    by_cases hsame : name = other
    · subst hsame
      rw [hvalue, String.ofList_toList]
      cases hmark : Text.contains (o.setCookie name value) expirationMark with
      | true => simp [IsShown, hmark]
      | false => simpa [IsShown, hmark] using htext
    · simp [hsame]
  · have hnone : Http.shownText? (Octets.ofText (o.setCookie other value)) = none := by
      rw [Option.eq_none_iff_forall_ne_some]
      exact fun t ht => htext (Http.shownText?_ofText_eq_some_iff.mp ht).2
    rw [hnone, if_neg fun h => htext h.2.1]
    rfl

/-- Of fields that set cookies of different names, the one of a name decides on what is read of it. -/
theorem findSome?_shownValue? {cookies : List (String × String)}
    (hnames : ∀ cookie ∈ cookies, IsName cookie.1) (hnodup : (cookies.map Prod.fst).Nodup)
    (o : Options) {cookie : String × String} (h : cookie ∈ cookies) :
    (cookies.map fun c => Octets.ofText (o.setCookie c.1 c.2)).findSome? (shownValue? cookie.1) =
      if IsShown (o.setCookie cookie.1 cookie.2) then some (keptValue cookie.2) else none := by
  induction cookies with
  | nil => exact absurd h List.not_mem_nil
  | cons first rest ih =>
    have hfirst := hnames first List.mem_cons_self
    rw [List.map_cons, List.nodup_cons] at hnodup
    have hothers := fun c hc => hnames c (List.mem_cons_of_mem _ hc)
    rw [List.map_cons, List.findSome?_cons, shownValue?_setCookie (hnames cookie h) hfirst]
    rcases List.mem_cons.mp h with rfl | hrest
    · by_cases hshown : IsShown (o.setCookie cookie.1 cookie.2)
      · rw [if_pos ⟨rfl, hshown⟩, if_pos hshown]
      · rw [if_neg fun h => hshown h.2, if_neg hshown, List.findSome?_eq_none_iff,
          List.forall_mem_map]
        intro other ho
        have hne : cookie.1 ≠ other.1 := fun e => hnodup.1 (e ▸ List.mem_map_of_mem ho)
        rw [shownValue?_setCookie hfirst (hothers other ho), if_neg fun h => hne h.1]
    · have hne : cookie.1 ≠ first.1 := fun e => hnodup.1 (e ▸ List.mem_map_of_mem hrest)
      rw [if_neg fun h => hne h.1]
      exact ih hothers hnodup.2 hrest

/-! ## Written cookies -/

/-- What a response has after cookies were added to it, of these names and values. -/
structure Written (o : Options) (cookies : List (String × String)) (before after : Headers) :
    Prop where
  /-- There is one more field for each cookie, in order, and no other field is touched. -/
  fields : ∀ field, after.octets field = before.octets field ++
    if Text.lower setCookieField = Text.lower field then
      cookies.map fun cookie => Octets.ofText (o.setCookie cookie.1 cookie.2)
    else []
  /-- At its semicolons a field comes apart into the pair, what the value brings along and the
  attributes of the options. -/
  parts : ∀ cookie ∈ cookies, Text.splitOn ';' (o.setCookie cookie.1 cookie.2).toList =
    (pairText (cookie.1, keptValue cookie.2)).toList :: (injected cookie.2 ++ prescribed o)
  /-- Exactly a value without semicolon is written whole, before the attributes of the options. -/
  whole : ∀ cookie ∈ cookies, Text.splitOn ';' (o.setCookie cookie.1 cookie.2).toList =
    (pairText cookie).toList :: prescribed o ↔ ';' ∉ cookie.2.toList
  /-- Unless the response has set the cookie before, what is kept of the value is read. -/
  read : ∀ cookie ∈ cookies, valueSetIn? after cookie.1 = (valueSetIn? before cookie.1).or
    (if IsShown (o.setCookie cookie.1 cookie.2) then some (keptValue cookie.2) else none)
  /-- Exactly a value without semicolon, in a field that is shown, is read back whole. -/
  readWhole : ∀ cookie ∈ cookies, valueSetIn? before cookie.1 = none →
    (valueSetIn? after cookie.1 = some cookie.2 ↔
      ';' ∉ cookie.2.toList ∧ IsShown (o.setCookie cookie.1 cookie.2))

/-- Cookies of different names that were added to a response. -/
theorem written_of_octets {cookies : List (String × String)} {before after : Headers}
    (ho : o.IsClosed) (hnames : ∀ cookie ∈ cookies, IsName cookie.1)
    (hnodup : (cookies.map Prod.fst).Nodup)
    (h : ∀ field, after.octets field = before.octets field ++
      if Text.lower setCookieField = Text.lower field then
        cookies.map fun cookie => Octets.ofText (o.setCookie cookie.1 cookie.2)
      else []) : Written o cookies before after := by
  have hread : ∀ cookie ∈ cookies, valueSetIn? after cookie.1 = (valueSetIn? before cookie.1).or
      (if IsShown (o.setCookie cookie.1 cookie.2) then some (keptValue cookie.2) else none) := by
    intro cookie hc
    rw [valueSetIn?_eq, valueSetIn?_eq, h, if_pos rfl, List.findSome?_append,
      findSome?_shownValue? hnames hnodup o hc]
  refine ⟨h, fun cookie hc => splitOn_setCookie ho (hnames cookie hc) cookie.2,
    fun cookie hc => splitOn_setCookie_eq_iff ho (hnames cookie hc), hread,
    fun cookie hc hbefore => ?_⟩
  rw [hread cookie hc, hbefore, Option.none_or]
  by_cases hshown : IsShown (o.setCookie cookie.1 cookie.2)
  · rw [if_pos hshown, Option.some.injEq, and_iff_left hshown, keptValue_eq_self_iff]
  · rw [if_neg hshown]
    exact iff_of_false (fun h => nomatch h) fun h => hshown h.2

end Cookie

namespace Storage

open Http (Headers)

/-- The names of the cookies of a context end where their values begin, and no two are the same. -/
private theorem names_contextCookies (cipher : Cipher) (nonce : Nonce) (context : SecurityContext) :
    (∀ cookie ∈ contextCookies cipher nonce context, Cookie.IsName cookie.1) ∧
      ((contextCookies cipher nonce context).map Prod.fst).Nodup := by
  have hnames : ∀ name ∈ cookieNames, Cookie.IsName name := by decide
  have hnodup : cookieNames.Nodup := by decide
  exact ⟨fun cookie hc => hnames cookie.1 (List.mem_map_of_mem hc), hnodup⟩

private theorem octets_contextCookies {s : Storage} {sessions : SessionStore} {now : Int}
    {fresh : Fresh} {request response : Headers} {context : SecurityContext}
    (hm : s.method = .cookie)
    (h : (s.save sessions now fresh request response context).outcome = .ok ()) (field : String) :
    (s.save sessions now fresh request response context).cookies.octets field =
      response.octets field ++
        if Text.lower Cookie.setCookieField = Text.lower field then
          (contextCookies s.cipher fresh.nonce context).map fun cookie =>
            Octets.ofText (s.cookieOptions.setCookie cookie.1 cookie.2)
        else [] := by
  rw [octets_save h field, contextPairs, hm]

/-- Saving a context in cookies, where it does not fail, adds the fields of the sealed text, the
session id and the endpoint, each value whole and nothing but the attributes of the options after
it, exactly if the value has no semicolon. The sealed text has none. -/
theorem written_of_save {s : Storage} {sessions : SessionStore} {now : Int} {fresh : Fresh}
    {request response : Headers} {context : SecurityContext} (hm : s.method = .cookie)
    (ho : s.cookieOptions.IsClosed)
    (h : (s.save sessions now fresh request response context).outcome = .ok ()) :
    Cookie.Written s.cookieOptions (contextCookies s.cipher fresh.nonce context) response
        (s.save sessions now fresh request response context).cookies ∧
      ';' ∉ (s.cipher.encrypt fresh.nonce (Octets.ofText context.json)).toList := by
  obtain ⟨hnames, hnodup⟩ := names_contextCookies s.cipher fresh.nonce context
  exact ⟨Cookie.written_of_octets ho hnames hnodup (octets_contextCookies hm h),
    (visible_encrypt _ _ _).2⟩

/-- Random values for a save. -/
def sampleFresh : Fresh := ⟨.replicate 12 0, .replicate 16 0⟩

/-- What saving a context under the sample storage writes to an empty response. -/
def sampleSaved (context : SecurityContext) : Stored :=
  sampleSealed.save (.create 10 0) 0 sampleFresh .empty .empty context

private theorem isWritable_sampleSealed : sampleSealed.cookieOptions.IsWritable :=
  ⟨fun _ h => (nomatch h), Http.forall_isFieldChar (by decide)⟩

/-- The session id of a context without semicolons is read back from the response. -/
theorem written_sampleKept :
    sampleSealed.method = .cookie ∧ sampleSealed.cookieOptions.IsClosed ∧
      (sampleSaved sampleKept).outcome = .ok () ∧
      Cookie.valueSetIn? (sampleSaved sampleKept).cookies Cookie.sessionIdName = some "id" := by
  have hclosed : sampleSealed.cookieOptions.IsClosed := by decide
  have houtcome : (sampleSaved sampleKept).outcome = .ok () :=
    outcome_save_of_isWritable isWritable_sampleSealed (Text.asciiFrom_of_all (by decide))
      (Text.asciiFrom_of_all (by decide)) _ _ _ _
  have hwritten := (written_of_save rfl hclosed houtcome).1
  have hread := hwritten.readWhole (Cookie.sessionIdName, sampleKept.sessionId)
    (by simp [contextCookies]) rfl
  exact ⟨rfl, hclosed, houtcome, hread.mpr (by decide)⟩

/-- A context whose session id has a semicolon. -/
def sampleInjecting : SecurityContext :=
  { sampleKept with sessionId := "abc; Domain=example.org" }

/-- It is saved, with an attribute that the options do not prescribe, and only the part of its
session id before the semicolon is read back. -/
theorem injects_sampleInjecting :
    sampleSealed.cookieOptions.IsClosed ∧ (sampleSaved sampleInjecting).outcome = .ok () ∧
      Octets.ofText "force_sid=abc; Domain=example.org; Path=/; Secure; HttpOnly; SameSite=Lax" ∈
        (sampleSaved sampleInjecting).cookies.octets Cookie.setCookieField ∧
      " Domain=example.org".toList ∉ Cookie.prescribed sampleSealed.cookieOptions ∧
      Cookie.valueSetIn? (sampleSaved sampleInjecting).cookies Cookie.sessionIdName =
        some "abc" := by
  have houtcome : (sampleSealed.save (.create 10 0) 0 sampleFresh .empty .empty
      sampleInjecting).outcome = .ok () :=
    outcome_save_of_isWritable isWritable_sampleSealed (Text.asciiFrom_of_all (by decide))
      (Text.asciiFrom_of_all (by decide)) _ _ _ _
  have hclosed : sampleSealed.cookieOptions.IsClosed := by decide
  obtain ⟨hnames, hnodup⟩ := names_contextCookies sampleSealed.cipher sampleFresh.nonce
    sampleInjecting
  have hfields := octets_contextCookies rfl houtcome
  have hwritten := Cookie.written_of_octets hclosed hnames hnodup hfields
  have hsid : (Cookie.sessionIdName, sampleInjecting.sessionId) ∈
      contextCookies sampleSealed.cipher sampleFresh.nonce sampleInjecting := by
    simp [contextCookies]
  refine ⟨hclosed, houtcome, ?_, by decide, ?_⟩
  · rw [sampleSaved, hfields, if_pos rfl]
    refine List.mem_append_right _ (List.mem_map.mpr ⟨_, hsid, congrArg Octets.ofText ?_⟩)
    decide
  · exact (hwritten.read _ hsid).trans (by decide)

end Storage

end SignOn
