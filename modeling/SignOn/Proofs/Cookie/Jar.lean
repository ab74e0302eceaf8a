import Mathlib.Data.List.Find
import SignOn.Proofs.Cookie.Carried

/-!
# Cookie jars

A browser keeps cookies in a jar, under keys of three parts: the name and the two attributes of the
scope. A `Set-Cookie` field whose lifetime is zero or less takes the cookie of its key out, any
other one puts it in. All that is in the jar is sent with each request, in one `Cookie` field and in
an order of the browser's own. The two forms of `Set-Cookie` fields, one to set a cookie and one to
expire it, reach the same key (`ofField?_setCookie`, `ofField?_expireCookie`), and what a request
shows under a name that is in the jar at most once does not depend on the order (`find?_of_sends`).
-/

namespace SignOn

namespace Cookie

open Http (Headers IsTextChar)

/-! ## Keys and attributes -/

/-- What tells the cookies of a browser apart. -/
structure Key where
  name : String
  domain : Option String
  path : Option String
  deriving DecidableEq

/-- A text without the blanks at its ends. -/
def stripped (cs : List Char) : String :=
  String.ofList (Text.trimBy (fun c => c = ' ' || c = '\t') cs)

/-- The key of the cookies of a name that are written with these options. -/
def Options.key (o : Options) (name : String) : Key where
  name
  domain := o.domain.map fun domain => stripped domain.toList
  path := some (stripped o.path.toList)

/-- The name of an attribute, in lower case, and its value. -/
def readAttribute (part : List Char) : String × String :=
  match Text.cutAt '=' part with
  | some (name, value) => (Text.lower (stripped name), stripped value)
  | none => (Text.lower (stripped part), "")

/-- The attributes of a `Set-Cookie` field: the parts after the pair. -/
def attributes (field : Octets) : List (String × String) :=
  match Octets.text? field with
  | some text => ((Text.splitOn ';' text.toList).drop 1).map readAttribute
  | none => []

/-- The value of the last attribute with a name. -/
def lastOf? (name : String) (attributes : List (String × String)) : Option String :=
  (attributes.filter (·.1 = name)).getLast?.map Prod.snd

/-- Whether a text is a number of seconds that is zero or less. -/
def isOver (seconds : String) : Bool :=
  match seconds.toList with
  | '-' :: digits => digits ≠ [] && digits.all Char.isDigit
  | digits => digits ≠ [] && digits.all (· = '0')

/-- What a `Set-Cookie` field asks for: to keep a value under a key, or to forget the key. -/
structure Setting where
  key : Key
  value : String
  forgets : Bool
  deriving DecidableEq

/-- What a browser reads of a `Set-Cookie` field. -/
def Setting.ofField? (field : Octets) : Option Setting :=
  (setPair? field).map fun pair => {
    key := ⟨pair.1, lastOf? "domain" (attributes field), lastOf? "path" (attributes field)⟩
    value := pair.2
    forgets := (lastOf? "max-age" (attributes field)).any isOver }

/-- Whether domain and path hold no semicolon, which would end the attribute. -/
def Options.IsClosed (o : Options) : Prop :=
  (∀ domain ∈ o.domain, ';' ∉ domain.toList) ∧ ';' ∉ o.path.toList

instance (o : Options) : Decidable o.IsClosed := inferInstanceAs (Decidable (_ ∧ _))

/-- Whether a text is one attribute, and none of the scope. -/
def IsPolicy (s : String) : Prop :=
  ';' ∉ s.toList ∧ (readAttribute (' ' :: s.toList)).1 ≠ "domain" ∧
    (readAttribute (' ' :: s.toList)).1 ≠ "path"

instance (s : String) : Decidable (IsPolicy s) := inferInstanceAs (Decidable (_ ∧ _))

/-! ## Reading what is written -/

variable {o : Options} {name value : String}

private theorem lastOf?_append (name : String) (a b : List (String × String)) :
    lastOf? name (a ++ b) = (lastOf? name b).or (lastOf? name a) := by
  rw [lastOf?, lastOf?, lastOf?, List.filter_append, List.getLast?_append]
  cases (b.filter (·.1 = name)).getLast? with
  | none => rfl
  | some last => rfl

private theorem lastOf?_eq_none {attributes : List (String × String)}
    (h : ∀ a ∈ attributes, a.1 ≠ name) : lastOf? name attributes = none := by
  have hnone : attributes.filter (·.1 = name) = [] :=
    List.filter_eq_nil_iff.mpr fun a ha => by simpa using h a ha
  rw [lastOf?, hnone]
  rfl

/-- The pieces of a field come apart if none holds a semicolon. -/
private theorem attributes_join {first : String} {rest : List String}
    (h : ∀ s ∈ first :: rest, ';' ∉ s.toList) :
    attributes (Octets.ofText (Text.join "; " (first :: rest))) =
      rest.map fun s => readAttribute (' ' :: s.toList) := by
  rw [attributes, Octets.text?_ofText]
  simp only [Text.splitOn_join_cons h, List.drop_one, List.tail_cons, List.map_map]
  rfl

/-- An attribute with a value is read as its name and the value. -/
private theorem readAttribute_of_value {label : List Char} (h : '=' ∉ label) (value : List Char) :
    readAttribute (label ++ '=' :: value) = (Text.lower (stripped label), stripped value) := by
  rw [readAttribute, Text.cutAt_append_cons h]

/-- The attributes of a scope. -/
private theorem map_readAttribute_scope (o : Options) :
    (o.scope.map fun s => readAttribute (' ' :: s.toList)) =
      o.domain.toList.map (fun domain => ("domain", stripped domain.toList)) ++
        [("path", stripped o.path.toList)] := by
  have hdomain : ∀ d : String,
      ' ' :: ("Domain=" ++ d).toList = " Domain".toList ++ '=' :: d.toList := fun d => by simp
  have hpath : ' ' :: ("Path=" ++ o.path).toList = " Path".toList ++ '=' :: o.path.toList := by simp
  rw [Options.scope, List.map_append, List.map_map, List.map_singleton, hpath,
    readAttribute_of_value (by decide)]
  congr 1
  refine List.map_congr_left fun d _ => ?_
  rw [Function.comp_apply, hdomain, readAttribute_of_value (by decide)]
  rfl

/-- The attributes of a scope give the key, if none after them has their names. -/
private theorem lastOf?_scope (o : Options) (name : String) {rest : List (String × String)}
    (h : ∀ a ∈ rest, a.1 ≠ "domain" ∧ a.1 ≠ "path") :
    lastOf? "domain" ((o.scope.map fun s => readAttribute (' ' :: s.toList)) ++ rest) =
        (o.key name).domain ∧
      lastOf? "path" ((o.scope.map fun s => readAttribute (' ' :: s.toList)) ++ rest) =
        (o.key name).path := by
  rw [lastOf?_append, lastOf?_append, lastOf?_eq_none fun a ha => (h a ha).1,
    lastOf?_eq_none fun a ha => (h a ha).2, map_readAttribute_scope]
  cases hd : o.domain with
  | none => simp [lastOf?, Options.key, hd]
  | some d => simp [lastOf?, Options.key, hd]

private theorem not_mem_toString_int (n : Int) : ';' ∉ (toString n).toList := by
  have hdigits : ∀ n : Nat, ';' ∉ (toString n).toList :=
    fun n h => absurd (Text.isDigit_of_mem_toString h) (by decide)
  cases n with
  | ofNat n => exact hdigits n
  | negSucc n =>
    change ';' ∉ ("-" ++ toString (n + 1)).toList
    rw [String.toList_append, List.mem_append, not_or]
    exact ⟨by decide, hdigits (n + 1)⟩

/-- What is written after the scope of a cookie that sets a value is policy. -/
theorem isPolicy_policy (o : Options) : ∀ s ∈ o.policy, IsPolicy s := by
  have hage : ∀ t : String,
      ' ' :: ("Max-Age=" ++ t).toList = " Max-Age".toList ++ '=' :: t.toList := fun t => by simp
  have hname : Text.lower (stripped " Max-Age".toList) ≠ "domain" ∧
      Text.lower (stripped " Max-Age".toList) ≠ "path" := by decide
  rw [Options.policy, List.forall_mem_append, List.forall_mem_append, List.forall_mem_append,
    List.forall_mem_map, List.forall_mem_singleton]
  refine ⟨⟨⟨fun seconds _ => ⟨?_, ?_⟩, ?_⟩, ?_⟩, ?_⟩
  · simpa using not_mem_toString_int seconds
  · rw [hage, readAttribute_of_value (by decide)]
    exact hname
  · split
    · exact List.forall_mem_singleton.mpr (by decide)
    · exact fun _ h => absurd h List.not_mem_nil
  · split
    · exact List.forall_mem_singleton.mpr (by decide)
    · exact fun _ h => absurd h List.not_mem_nil
  · cases o.sameSite with
    | strict => decide
    | lax => decide
    | none => decide

/-- The attributes of a closed scope hold no semicolon. -/
theorem not_mem_scope (h : o.IsClosed) : ∀ s ∈ o.scope, ';' ∉ s.toList := by
  rw [Options.scope, List.forall_mem_append, List.forall_mem_map, List.forall_mem_singleton]
  refine ⟨fun d hd => ?_, ?_⟩
  · simpa using h.1 d (Option.mem_toList.mp hd)
  · simpa using h.2

private theorem not_mem_pair (hname : IsName name) (hvalue : ';' ∉ value.toList) :
    ';' ∉ (name ++ "=" ++ value).toList := by
  rw [String.toList_append, String.toList_append, List.mem_append, List.mem_append]
  rintro ((h | h) | h)
  · exact (hname _ h).2 rfl
  · exact absurd h (by decide)
  · exact hvalue h

/-- What is read of a pair that is followed by a scope and some policy. -/
private theorem ofField?_join (ho : o.IsClosed) (hname : IsName name) (hvalue : ';' ∉ value.toList)
    {rest : List String} (hrest : ∀ s ∈ rest, IsPolicy s) :
    Setting.ofField? (Octets.ofText
        (Text.join "; " ((name ++ "=" ++ value) :: (o.scope ++ rest)))) = some {
      key := o.key name
      value
      forgets := (lastOf? "max-age" ((o.scope ++ rest).map fun s =>
        readAttribute (' ' :: s.toList))).any isOver } := by
  have hclosed : ∀ s ∈ (name ++ "=" ++ value) :: (o.scope ++ rest), ';' ∉ s.toList := by
    rw [List.forall_mem_cons, List.forall_mem_append]
    exact ⟨not_mem_pair hname hvalue, not_mem_scope ho, fun s hs => (hrest s hs).1⟩
  have hnames : ∀ a ∈ rest.map fun s => readAttribute (' ' :: s.toList),
      a.1 ≠ "domain" ∧ a.1 ≠ "path" := List.forall_mem_map.mpr fun s hs => (hrest s hs).2
  obtain ⟨hdomain, hpath⟩ := lastOf?_scope o name hnames
  rw [Setting.ofField?, setPair?_join hname, attributes_join hclosed, keptValue_of_not_mem hvalue,
    List.map_append, hdomain, hpath]
  rfl

/-- A cookie that is set, to whatever value, has its name and a value without semicolon. If it was
set to one, it has the key of its name. -/
theorem ofField?_setCookie (hname : IsName name) (o : Options) (value : String) :
    ∃ s, Setting.ofField? (Octets.ofText (o.setCookie name value)) = some s ∧ s.key.name = name ∧
      ';' ∉ s.value.toList ∧ (o.IsClosed → ';' ∉ value.toList → s.key = o.key name) := by
  refine ⟨_, by rw [Setting.ofField?, setPair?_setCookie hname o value, Option.map_some], rfl, ?_,
    fun ho hvalue => ?_⟩
  · exact not_mem_keptValue value
  · have hread := ofField?_join ho hname hvalue (isPolicy_policy o)
    have hpair := setPair?_join hname value (o.scope ++ o.policy)
    rw [Setting.ofField?, hpair, Option.map_some] at hread
    exact congrArg Setting.key (Option.some.inj hread)

/-- An expired cookie is forgotten, under the key of its name. -/
theorem ofField?_expireCookie (ho : o.IsClosed) (hname : IsName name) :
    Setting.ofField? (Octets.ofText (o.expireCookie name)) =
      some { key := o.key name, value := "", forgets := true } := by
  have hage : ∀ s ∈ ["Max-Age=0"], IsPolicy s := by decide
  have hread := ofField?_join ho hname (by decide : ';' ∉ "".toList) hage
  rw [String.append_empty, List.map_append, lastOf?_append] at hread
  exact hread

/-! ## Jars -/

/-- The cookies of a browser. -/
structure Jar where
  stored : List (Key × String) := []
  /-- No key has two values. -/
  distinct : (stored.map Prod.fst).Nodup := by simp

namespace Jar

/-- A jar without the cookie of a key. -/
def drop (jar : Jar) (key : Key) : Jar where
  stored := jar.stored.filter (·.1 ≠ key)
  distinct := jar.distinct.sublist (List.filter_sublist.map _)

/-- A jar in which a key has a given value. -/
def keep (jar : Jar) (key : Key) (value : String) : Jar where
  stored := (key, value) :: (jar.drop key).stored
  distinct := by
    refine List.nodup_cons.mpr ⟨fun hmem => ?_, (jar.drop key).distinct⟩
    obtain ⟨entry, he, hkey⟩ := List.mem_map.mp hmem
    exact absurd hkey (of_decide_eq_true (List.mem_filter.mp he).2)

/-- What a `Set-Cookie` field does to a jar; nothing if it sets no cookie. -/
def obey (jar : Jar) (field : Octets) : Jar :=
  match Setting.ofField? field with
  | some s => if s.forgets then jar.drop s.key else jar.keep s.key s.value
  | none => jar

/-- What the fields of a response do to a jar. -/
def receive (jar : Jar) (response : Headers) : Jar :=
  (response.octets setCookieField).foldl obey jar

/-- The pairs in a jar. -/
def pairs (jar : Jar) : List (String × String) :=
  jar.stored.map fun entry => (entry.1.name, entry.2)

/-- Whether a request sends all that is in a jar: in one field, in any order. -/
def Sends (jar : Jar) (request : Headers) : Prop :=
  ∃ pairs, pairs.Perm jar.pairs ∧
    request.octets "cookie" = if pairs = [] then [] else [Octets.ofText (fieldText pairs)]

/-- Whether all values in a jar are text. A field with another one is passed over as a whole. -/
def IsText (jar : Jar) : Prop := ∀ entry ∈ jar.stored, ∀ c ∈ entry.2.toList, IsTextChar c

instance (jar : Jar) : Decidable jar.IsText :=
  decidable_of_iff (jar.stored.all fun entry => entry.2.toList.all (IsTextChar ·)) (by simp [IsText])

/-- What requests from a jar show under a name. -/
def shown? (jar : Jar) (name : String) : Option String :=
  if jar.IsText then
    (jar.pairs.find? (·.1 = name)).map fun pair =>
      String.ofList (Text.trimEndBy Text.isBlank pair.2.toList)
  else none

variable {jar : Jar} {key : Key} {value name : String} {request : Headers}

@[simp] theorem mem_drop {entry : Key × String} :
    entry ∈ (jar.drop key).stored ↔ entry ∈ jar.stored ∧ entry.1 ≠ key := by
  simp [drop]

@[simp] theorem mem_keep {entry : Key × String} :
    entry ∈ (jar.keep key value).stored ↔
      entry = (key, value) ∨ entry ∈ jar.stored ∧ entry.1 ≠ key := by
  rw [keep, List.mem_cons, mem_drop]

/-- What a jar holds after a field was in it before, or the field has put it there. -/
theorem of_mem_obey {field : Octets} {entry : Key × String} (h : entry ∈ (jar.obey field).stored) :
    entry ∈ jar.stored ∨ ∃ s, Setting.ofField? field = some s ∧ entry = (s.key, s.value) := by
  unfold obey at h
  split at h
  · next s hs =>
    split at h
    · exact .inl (mem_drop.mp h).1
    · rcases mem_keep.mp h with hnew | hold
      · exact .inr ⟨s, hs, hnew⟩
      · exact .inl hold.1
  · exact .inl h

/-- Expirations take the cookies of their keys out of a jar and leave all others. -/
theorem stored_foldl_expirations {o : Options} (hwritable : o.IsWritable) (ho : o.IsClosed)
    {names : List String} (hnames : ∀ name ∈ names, IsName name) (jar : Jar) :
    ((expirations o names).foldl obey jar).stored =
      jar.stored.filter fun entry => entry.1 ∉ names.map o.key := by
  rw [expirations, if_pos hwritable]
  induction names generalizing jar with
  | nil => simp
  | cons name names ih =>
    have hobey : jar.obey (Octets.ofText (o.expireCookie name)) = jar.drop (o.key name) := by
      rw [obey, ofField?_expireCookie ho (hnames name List.mem_cons_self)]
      rfl
    rw [List.map_cons, List.foldl_cons, hobey, ih fun n hn => hnames n (List.mem_cons_of_mem _ hn),
      drop, List.filter_filter, List.map_cons]
    refine List.filter_congr fun entry _ => ?_
    rw [← Bool.decide_and]
    exact decide_eq_decide.mpr (by rw [List.mem_cons, not_or, and_comm])

/-! ## What a jar sends -/

/-- Whether the cookies in a jar can stand in `Cookie` fields, text or not. -/
def IsSendable (jar : Jar) : Prop :=
  ∀ entry ∈ jar.stored, (IsName entry.1.name ∧ Text.AsciiFrom 0x21 entry.1.name.toList) ∧
    ';' ∉ entry.2.toList

/-- The pairs of a sendable jar are pairs of a field if all values are text. -/
private theorem isPair_of_isText (h : jar.IsSendable) (ht : jar.IsText) :
    ∀ pair ∈ jar.pairs, IsPair pair := by
  rw [pairs, List.forall_mem_map]
  intro entry he
  obtain ⟨⟨hname, hvisible⟩, hvalue⟩ := h entry he
  refine ⟨hname, fun c hc => isBlank_of_visible (hvisible c (List.mem_of_mem_head? hc)), ?_, hvalue,
    ht entry he⟩
  intro c hc
  have := hvisible c hc
  exact .inl ⟨by omega, by omega⟩

/-- A field of a jar with a value that is no text is no text. -/
private theorem texts_eq_nil {field : String}
    (hsent : request.octets "cookie" = [Octets.ofText field])
    (hno : ¬ ∀ c ∈ field.toList, IsTextChar c) : request.texts "cookie" = [] := by
  rw [Headers.texts_eq, hsent, List.filterMap_eq_nil_iff, List.forall_mem_singleton,
    Option.eq_none_iff_forall_ne_some]
  exact fun s hs => hno (Http.shownText?_ofText_eq_some_iff.mp hs).2

private theorem find?_of_texts_eq_nil (h : request.texts "cookie" = []) (name : String) :
    find? request name = none := by
  rw [find?, requestPairs, h]
  rfl

/-- The pairs of a request from a jar whose values are all text. -/
private theorem requestPairs_of_isText (hjar : jar.IsSendable) (ht : jar.IsText)
    {pairs : List (String × String)} (hperm : pairs.Perm jar.pairs)
    (hsent : request.octets "cookie" = [Octets.ofText (fieldText pairs)]) :
    requestPairs request = pairs.map readPair := by
  have hpairs : ∀ pair ∈ pairs, IsPair pair := fun pair hp =>
    isPair_of_isText hjar ht pair (hperm.mem_iff.mp hp)
  have hcarries : Carries request pairs [pairs] :=
    ⟨hsent, fun pair hp => by simpa using hp, fun pair hp => .inl (by simpa using hp)⟩
  rw [requestPairs_of_carries hcarries hpairs, List.flatten_singleton]

/-- All requests from a jar show the same under a name that is in it at most once. -/
theorem find?_of_sends (hjar : jar.IsSendable)
    (honce : ∀ pair ∈ jar.pairs, ∀ other ∈ jar.pairs, pair.1 = name → other.1 = name →
      pair = other) (h : jar.Sends request) : find? request name = jar.shown? name := by
  obtain ⟨pairs, hperm, hsent⟩ := h
  by_cases hnil : pairs = []
  · -- an empty jar shows nothing
    rw [if_pos hnil] at hsent
    rw [hnil, List.nil_perm] at hperm
    have hnone : request.texts "cookie" = [] := by
      rw [Headers.texts, List.map_eq_nil_iff.mp hsent, List.filterMap_nil]
    rw [find?_of_texts_eq_nil hnone, shown?, hperm]
    split
    · rfl
    · rfl
  rw [if_neg hnil] at hsent
  by_cases ht : jar.IsText
  · have htest : ∀ pair : String × String,
        decide ((readPair pair).1 = name.toList) = decide (pair.1 = name) :=
      fun pair => decide_eq_decide.mpr String.toList_inj
    have hsame : pairs.find? (·.1 = name) = jar.pairs.find? (·.1 = name) :=
      List.find?_eq_find?_of_perm hperm fun a ha b hb =>
        honce a (hperm.mem_iff.mp ha.1) b (hperm.mem_iff.mp hb.1) (of_decide_eq_true ha.2)
          (of_decide_eq_true hb.2)
    rw [find?, requestPairs_of_isText hjar ht hperm hsent, List.find?_map, Function.comp_def]
    simp only [htest]
    rw [hsame, shown?, if_pos ht, Option.map_map]
    rfl
  · have hno : ¬ ∀ c ∈ (fieldText pairs).toList, IsTextChar c := by
      intro hall
      refine ht fun entry he => ?_
      exact (isTextChar_fieldText_iff.mp hall _ (hperm.mem_iff.mpr (List.mem_map_of_mem he))).2
    rw [find?_of_texts_eq_nil (texts_eq_nil hsent hno), shown?, if_neg ht]

/-- A jar shows nothing under a name that is not in it. -/
theorem shown?_eq_none (h : ∀ entry ∈ jar.stored, entry.1.name ≠ name) :
    jar.shown? name = none := by
  have hnone : jar.pairs.find? (·.1 = name) = none := by
    rw [List.find?_eq_none, pairs, List.forall_mem_map]
    exact fun entry he => by simpa using h entry he
  rw [shown?, hnone]
  split
  · rfl
  · rfl

/-- Cookies that are text show nothing under the names of others, whether they are there or not. -/
theorem shown?_of_stored {other : Jar} {stays : Key × String → Bool}
    (hstored : other.stored = jar.stored.filter stays)
    (h : ∀ entry ∈ jar.stored, stays entry = false →
      entry.1.name ≠ name ∧ ∀ c ∈ entry.2.toList, IsTextChar c) :
    other.shown? name = jar.shown? name := by
  have htext : other.IsText ↔ jar.IsText := by
    rw [IsText, IsText, hstored]
    constructor
    · intro hother entry he
      cases hs : stays entry with
      | true => exact hother entry (List.mem_filter.mpr ⟨he, hs⟩)
      | false => exact (h entry he hs).2
    · exact fun hjar entry he => hjar entry (List.mem_filter.mp he).1
  have hfind : other.pairs.find? (·.1 = name) = jar.pairs.find? (·.1 = name) := by
    rw [pairs, pairs, List.find?_map, List.find?_map, hstored, List.find?_filter]
    congr 1
    refine List.find?_congr fun entry he => ?_
    cases hs : stays entry with
    | true => simp
    | false => simpa using (h entry he hs).1
  rw [shown?, shown?, hfind]
  simp only [htext]

end Jar

end Cookie

end SignOn
