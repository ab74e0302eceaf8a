import SignOn.Proofs.Storage.Written

/-!
# Reading written cookies off a response

A response that is told to set and to expire cookies is asked afterwards what it sets and what it
expires. An expiration is told by a mark that stands anywhere in the text of a field, so a field
that sets a cookie counts as one too if the mark stands in its pair, in its domain or in its path
(`contains_setCookie_iff`). Apart from these fields the answers are what was written
(`inspects_changes`).
-/

namespace SignOn

namespace Text

/-- The texts that stand somewhere in a text are its infixes. -/
theorem hasInfix_iff {needle cs : List Char} : hasInfix needle cs = true ↔ needle <:+: cs := by
  induction cs with
  | nil => rw [hasInfix, List.isEmpty_iff, List.infix_nil]
  | cons c cs ih =>
    rw [hasInfix, Bool.or_eq_true, List.isPrefixOf_iff_prefix, ih, List.infix_cons_iff]

/-- A text without a separator stands on one side of it. -/
theorem infix_append_cons_iff {sep : Char} {needle : List Char} (h : sep ∉ needle)
    (a b : List Char) : needle <:+: a ++ sep :: b ↔ needle <:+: a ∨ needle <:+: b := by
  constructor
  · rintro ⟨before, after, heq⟩
    rcases List.append_eq_append_iff.mp heq with ⟨rest, ha, -⟩ | ⟨rest, hfront, hrest⟩
    · exact .inl ⟨before, rest, ha.symm⟩
    cases rest with
    | nil =>
      rw [List.append_nil] at hfront
      exact .inl ⟨before, [], by rw [List.append_nil, hfront]⟩
    | cons c rest =>
      obtain ⟨rfl, rfl⟩ := List.cons.inj hrest
      rcases List.append_eq_append_iff.mp hfront with ⟨tail, -, htail⟩ | ⟨tail, -, htail⟩
      · exact absurd (htail ▸ List.mem_append_right _ List.mem_cons_self) h
      · cases tail with
        | nil =>
          rw [List.nil_append] at htail
          exact absurd (htail ▸ List.mem_cons_self) h
        | cons d tail =>
          obtain ⟨-, rfl⟩ := List.cons.inj htail
          exact .inr ⟨tail, after, rfl⟩
  · rintro (h | h)
    · exact List.infix_append_of_infix_left h
    · exact List.infix_append_of_infix_right (List.infix_cons h)

/-- A text that lacks both characters between joined pieces stands in one of the pieces. -/
theorem infix_joinWith_iff {c d : Char} {needle : List Char} (hne : needle ≠ []) (hc : c ∉ needle)
    (hd : d ∉ needle) (pieces : List (List Char)) :
    needle <:+: joinWith [c, d] pieces ↔ ∃ piece ∈ pieces, needle <:+: piece := by
  induction pieces with
  | nil => simp [joinWith, hne]
  | cons piece pieces ih =>
    cases pieces with
    | nil => simp [joinWith]
    | cons next pieces =>
      have hblank : needle <:+: d :: joinWith [c, d] (next :: pieces) ↔
          needle <:+: joinWith [c, d] (next :: pieces) := by
        have := infix_append_cons_iff hd [] (joinWith [c, d] (next :: pieces))
        simpa [hne] using this
      rw [joinWith, List.append_assoc, List.cons_append, List.singleton_append,
        infix_append_cons_iff hc, hblank, ih, List.exists_mem_cons_iff _ piece]

/-- What stands in a text does not begin before its first character does. -/
theorem infix_append_iff_of_not_mem {c : Char} {label : List Char} (h : c ∉ label)
    (needle cs : List Char) : c :: needle <:+: label ++ cs ↔ c :: needle <:+: cs := by
  induction label with
  | nil => rfl
  | cons d label ih =>
    obtain ⟨hd, hlabel⟩ := not_or.mp (List.mem_cons.not.mp h)
    rw [List.cons_append, List.infix_cons_iff, List.cons_prefix_cons, ih hlabel]
    exact or_iff_right fun hp => hd hp.1

/-- Only the numeral of zero begins with a zero. -/
theorem head?_toString_eq_zero_iff {n : Nat} : (toString n).toList.head? = some '0' ↔ n = 0 := by
  have hdigit : ∀ n < 10, [Nat.digitChar n].head? = some '0' ↔ n = 0 := by decide
  have hdigits : (toString n).toList = Nat.toDigits 10 n := by simp
  rw [hdigits]
  clear hdigits
  induction n using Nat.strongRecOn with
  | ind n ih =>
    by_cases hn : n < 10
    · rw [Nat.toDigits_of_lt_base hn, hdigit n hn]
    · rw [Nat.toDigits_of_base_le (by decide) (by omega),
        List.head?_append_of_ne_nil _ Nat.toDigits_ne_nil]
      refine (ih (n / 10) (by omega)).trans ?_
      omega

end Text

namespace Cookie

open Http (FieldValue Headers IsFieldChar IsTextChar)

variable {o : Options} {name other value : String}

/-! ## The mark of an expiration -/

/-- Whether the field that sets a cookie holds the mark of an expiration: in its pair, in the domain,
in the path, or as its lifetime. -/
def Marks (o : Options) (name value : String) : Prop :=
  Text.contains (pairText (name, value)) expirationMark = true ∨
    o.domain.any (Text.contains · expirationMark) = true ∨
    Text.contains o.path expirationMark = true ∨ o.maxAge = some 0

instance (o : Options) (name value : String) : Decidable (Marks o name value) :=
  inferInstanceAs (Decidable (_ ∨ _))

/-- The mark stands in a text exactly when it is an infix. -/
private theorem contains_mark_iff {s : String} :
    Text.contains s expirationMark = true ↔ expirationMark.toList <:+: s.toList :=
  Text.hasInfix_iff

/-- A label in front of a text holds no part of the mark. -/
private theorem contains_label_append {label : String} (h : 'M' ∉ label.toList) (s : String) :
    Text.contains (label ++ s) expirationMark = true ↔
      Text.contains s expirationMark = true := by
  rw [contains_mark_iff, contains_mark_iff, String.toList_append]
  exact Text.infix_append_iff_of_not_mem h _ s.toList

/-- The mark is the lifetime of zero seconds. -/
private theorem contains_maxAge_iff {seconds : Int} :
    Text.contains ("Max-Age=" ++ toString seconds) expirationMark = true ↔ seconds = 0 := by
  have hM : 'M' ∉ (toString seconds).toList := by
    intro h
    cases seconds with
    | ofNat n => exact absurd (Text.isDigit_of_mem_toString h) (by decide)
    | negSucc n =>
      change 'M' ∈ ("-" ++ toString (n + 1)).toList at h
      rw [String.toList_append, List.mem_append] at h
      rcases h with h | h
      · exact absurd h (by decide)
      · exact absurd (Text.isDigit_of_mem_toString h) (by decide)
  have hzero : (toString seconds).toList.head? = some '0' ↔ seconds = 0 := by
    cases seconds with
    | ofNat n =>
      refine Text.head?_toString_eq_zero_iff.trans ?_
      rw [Int.ofNat_eq_natCast, Int.natCast_eq_zero]
    | negSucc n =>
      change ("-" ++ toString (n + 1)).toList.head? = some '0' ↔ _
      rw [String.toList_append]
      exact iff_of_false (by simp) (by simp)
  have hlabel : ("Max-Age=" ++ toString seconds).toList =
      'M' :: ("ax-Age=".toList ++ (toString seconds).toList) := by simp
  have htail : ¬ expirationMark.toList <:+: "ax-Age=".toList ++ (toString seconds).toList := by
    intro h
    rcases List.mem_append.mp (h.subset (show 'M' ∈ expirationMark.toList by decide)) with h | h
    · exact absurd h (by decide)
    · exact hM h
  have hmark : expirationMark.toList = ('M' :: "ax-Age=".toList) ++ ['0'] := rfl
  rw [contains_mark_iff, hlabel, List.infix_cons_iff, or_iff_left htail, hmark, ← List.cons_append,
    List.prefix_append_right_inj, ← hzero,
    List.singleton_prefix_iff_head?_eq_some]

/-- The mark stands in joined texts exactly when it stands in one of them. -/
private theorem contains_join_iff {pieces : List String} :
    Text.contains (Text.join "; " pieces) expirationMark = true ↔
      ∃ piece ∈ pieces, Text.contains piece expirationMark = true := by
  rw [contains_mark_iff, Text.join, String.toList_ofList]
  refine (Text.infix_joinWith_iff (c := ';') (d := ' ') (by decide) (by decide) (by decide) _).trans ?_
  simp only [List.mem_map, exists_exists_and_eq_and, contains_mark_iff]

private theorem marks_scope_iff :
    (∃ piece ∈ o.scope, Text.contains piece expirationMark = true) ↔
      o.domain.any (Text.contains · expirationMark) = true ∨
        Text.contains o.path expirationMark = true := by
  have hlabels : 'M' ∉ "Domain=".toList ∧ 'M' ∉ "Path=".toList := by decide
  have hdomain := contains_label_append hlabels.1
  have hpath := contains_label_append hlabels.2
  rw [Options.scope]
  cases o.domain with
  | none => simp [hpath]
  | some domain => simp [hdomain, hpath]

private theorem marks_policy_iff :
    (∃ piece ∈ o.policy, Text.contains piece expirationMark = true) ↔ o.maxAge = some 0 := by
  have hsecure : Text.contains "Secure" expirationMark = false := by decide
  have hhttpOnly : Text.contains "HttpOnly" expirationMark = false := by decide
  have hsite : Text.contains ("SameSite=" ++ o.sameSite.text) expirationMark = false := by
    cases o.sameSite with
    | strict => decide
    | lax => decide
    | none => decide
  have hflag : ∀ (b : Bool) (flag : String), Text.contains flag expirationMark = false →
      ¬ ∃ piece ∈ (if b then [flag] else []), Text.contains piece expirationMark = true := by
    intro b flag hflag
    cases b with
    | true => simp [hflag]
    | false => simp
  simp only [Options.policy, List.mem_append, or_and_right, exists_or, hflag _ _ hsecure,
    hflag _ _ hhttpOnly, List.mem_singleton, exists_eq_left, hsite, Bool.false_eq_true, or_false]
  cases o.maxAge with
  | none => simp
  | some seconds => simpa using contains_maxAge_iff

/-- The field that sets a cookie holds the mark exactly where a part of it does. -/
theorem contains_setCookie_iff :
    Text.contains (o.setCookie name value) expirationMark = true ↔ Marks o name value := by
  rw [Options.setCookie, contains_join_iff, List.cons_append, List.exists_mem_cons_iff]
  simp only [List.mem_append, or_and_right, exists_or, marks_scope_iff, marks_policy_iff, or_assoc]
  rfl

/-- The field that expires a cookie holds the mark. -/
theorem contains_expireCookie (o : Options) (name : String) :
    Text.contains (o.expireCookie name) expirationMark = true := by
  rw [Options.expireCookie, contains_join_iff]
  exact ⟨"Max-Age=0", by simp, by decide⟩

/-! ## One field -/

/-- Whether a field counts as an expiration of a cookie. -/
def isExpiration (name : String) (field : Octets) : Bool :=
  (Http.shownText? field).any fun text => isAbout name text && Text.contains text expirationMark

/-- A response expires a cookie if one of its fields does. -/
theorem isExpiredIn_eq (response : Headers) (name : String) :
    isExpiredIn response name = (response.octets setCookieField).any (isExpiration name) := by
  rw [isExpiredIn, Headers.texts_eq, List.any_filterMap]
  rfl

/-- The field that expires a cookie is about this cookie and no other. -/
theorem isAbout_expireCookie (hname : IsName name) (hother : IsName other) (o : Options) :
    isAbout name (o.expireCookie other) = decide (name = other) := by
  have htext : (o.expireCookie other).toList = (other ++ "=").toList ++
      Text.joinWith "; ".toList ([] :: (o.scope ++ ["Max-Age=0"]).map String.toList) := by
    rw [Options.expireCookie, Text.join, String.toList_ofList, List.cons_append, List.map_cons,
      ← Text.joinWith_append_cons, List.append_nil]
  rw [isAbout, htext, Bool.eq_iff_iff, List.isPrefixOf_iff_prefix, decide_eq_true_iff,
    String.toList_append, String.toList_append, List.append_assoc, ← String.toList_inj]
  exact Text.prefix_append_cons_iff (fun h => (hname _ h).1 rfl) (fun h => (hother _ h).1 rfl) _

/-! ## Changes of a response -/

/-- Whether a text is one of header fields and lacks the semicolon that ends a part of a field. -/
def IsPlain (s : String) : Prop := ∀ c ∈ s.toList, IsTextChar c ∧ c ≠ ';'

instance (s : String) : Decidable (IsPlain s) :=
  List.decidableBAll (fun c => IsTextChar c ∧ c ≠ ';') s.toList

/-- Whether domain and path are plain texts. -/
def Options.IsPlain (o : Options) : Prop := (∀ domain ∈ o.domain, Cookie.IsPlain domain) ∧
  Cookie.IsPlain o.path

instance (o : Options) : Decidable o.IsPlain := inferInstanceAs (Decidable (_ ∧ _))

/-- A change of the cookies of a response. -/
inductive Change where
  | set (name value : String)
  | expire (name : String)
  deriving DecidableEq

namespace Change

/-- The field that a change adds. -/
def text (o : Options) : Change → String
  | set name value => o.setCookie name value
  | expire name => o.expireCookie name

/-- The response after a change. -/
def apply (o : Options) (response : Headers) : Change → Except Error Headers
  | set name value => append response o name value
  | expire name => .ok (appendExpired response o name)

/-- The value that a change sets a cookie to. -/
def setValue? (name : String) : Change → Option String
  | set other value => if name = other then some value else none
  | expire _ => none

/-- Whether a change is about a name that ends where a value begins, and made of plain texts. -/
def IsPlain : Change → Prop
  | set name value => IsName name ∧ Cookie.IsPlain name ∧ Cookie.IsPlain value
  | expire name => IsName name ∧ Cookie.IsPlain name

instance : (change : Change) → Decidable change.IsPlain
  | set _ _ => inferInstanceAs (Decidable (_ ∧ _ ∧ _))
  | expire _ => inferInstanceAs (Decidable (_ ∧ _))

/-- Whether a change sets a cookie by a field that holds the mark of an expiration. -/
def IsMarked (o : Options) : Change → Prop
  | set name value => Marks o name value
  | expire _ => False

instance (o : Options) : (change : Change) → Decidable (change.IsMarked o)
  | set name value => inferInstanceAs (Decidable (Marks o name value))
  | expire _ => inferInstanceAs (Decidable False)

end Change

/-- The response after changes, made one after the other. -/
def applyAll (o : Options) (response : Headers) (changes : List Change) : Except Error Headers :=
  changes.foldlM (Change.apply o) response

theorem IsPlain.text {s : String} (h : IsPlain s) : ∀ c ∈ s.toList, IsTextChar c :=
  fun c hc => (h c hc).1

theorem IsPlain.closed {s : String} (h : IsPlain s) : ';' ∉ s.toList := fun hmem => (h _ hmem).2 rfl

theorem IsPlain.legal {s : String} (h : IsPlain s) : ∀ c ∈ s.toList, IsFieldChar c :=
  fun c hc => (h c hc).1.imp (fun h => ⟨h.1, Nat.ne_of_lt h.2⟩) id

/-- Plain options can be written. -/
theorem Options.IsPlain.isWritable (h : o.IsPlain) : o.IsWritable :=
  ⟨fun domain hd => (h.1 domain hd).legal, h.2.legal⟩

/-- The field of a plain change is text. -/
theorem Change.IsPlain.isTextChar_text {change : Change} (h : change.IsPlain) (ho : o.IsPlain) :
    ∀ c ∈ (change.text o).toList, IsTextChar c := by
  have hsep := Http.forall_isTextChar (by decide : "; ".toList.all (IsTextChar ·) = true)
  have hmark := Http.forall_isTextChar (by decide : "=".toList.all (IsTextChar ·) = true)
  have hage := Http.forall_isTextChar (by decide : "Max-Age=0".toList.all (IsTextChar ·) = true)
  have hdomain := Http.forall_isTextChar (by decide : "Domain=".toList.all (IsTextChar ·) = true)
  have hpath := Http.forall_isTextChar (by decide : "Path=".toList.all (IsTextChar ·) = true)
  have hscope : ∀ text ∈ o.scope, ∀ c ∈ text.toList, IsTextChar c := by
    rw [Options.scope, List.forall_mem_append, List.forall_mem_map, List.forall_mem_singleton]
    simp only [String.toList_append, List.forall_mem_append, Option.mem_toList]
    exact ⟨fun domain hd => ⟨hdomain, (ho.1 domain hd).text⟩, hpath, ho.2.text⟩
  cases change with
  | set name value =>
    rw [text, Options.setCookie, Text.join, String.toList_ofList,
      Text.forall_mem_joinWith_iff hsep, List.forall_mem_map, List.cons_append,
      List.forall_mem_cons, List.forall_mem_append]
    simp only [String.toList_append, List.forall_mem_append]
    exact ⟨⟨⟨h.2.1.text, hmark⟩, h.2.2.text⟩, hscope, isTextChar_policy o⟩
  | expire name =>
    rw [text, Options.expireCookie, Text.join, String.toList_ofList,
      Text.forall_mem_joinWith_iff hsep, List.forall_mem_map, List.cons_append,
      List.forall_mem_cons, List.forall_mem_append, List.forall_mem_singleton]
    simp only [String.toList_append, List.forall_mem_append]
    exact ⟨⟨h.2.text, hmark⟩, hscope, hage⟩

/-- A plain change is made, and adds its field to the response. -/
theorem octets_apply {change : Change} (h : change.IsPlain) (ho : o.IsPlain) (response : Headers) :
    ∃ after, change.apply o response = .ok after ∧
      after.octets setCookieField =
        response.octets setCookieField ++ [Octets.ofText (change.text o)] := by
  cases change with
  | set name value =>
    obtain ⟨after, hafter⟩ := exists_append ho.isWritable h.2.1.legal h.2.2.legal response
    exact ⟨after, hafter, by rw [octets_append hafter, if_pos rfl, Change.text]⟩
  | expire name =>
    refine ⟨_, rfl, ?_⟩
    rw [octets_appendExpired h.2.legal, if_pos rfl, expirations, if_pos ho.isWritable]
    rfl

/-- Plain changes are all made, and each adds its field to the response. -/
theorem octets_applyAll {changes : List Change} (h : ∀ change ∈ changes, change.IsPlain)
    (ho : o.IsPlain) (response : Headers) :
    ∃ after, applyAll o response changes = .ok after ∧
      after.octets setCookieField = response.octets setCookieField ++
        changes.map fun change => Octets.ofText (change.text o) := by
  induction changes generalizing response with
  | nil => exact ⟨response, rfl, by simp⟩
  | cons change changes ih =>
    obtain ⟨next, happly, hnext⟩ := octets_apply (h change List.mem_cons_self) ho response
    obtain ⟨after, hall, hafter⟩ := ih (fun c hc => h c (List.mem_cons_of_mem _ hc)) next
    refine ⟨after, ?_, ?_⟩
    · rw [applyAll, List.foldlM_cons, happly]
      exact hall
    · rw [hafter, hnext, List.append_assoc, List.map_cons, List.singleton_append]

/-! ## What is read -/

/-- The value that the field of a change shows for a name: none if the field is marked. -/
def Change.shownValue? (o : Options) (name : String) (change : Change) : Option String :=
  if change.IsMarked o then none else change.setValue? name

/-- The field of a plain change shows the value that is set, unless the field is marked. -/
theorem shownValue?_text {change : Change} (h : change.IsPlain) (ho : o.IsPlain)
    (hname : IsName name) :
    shownValue? name (Octets.ofText (change.text o)) = change.shownValue? o name := by
  cases change with
  | set other value =>
    have hshown : IsShown (o.setCookie other value) ↔ ¬ Marks o other value := by
      rw [← contains_setCookie_iff, Bool.not_eq_true]
      exact and_iff_right (h.isTextChar_text ho)
    rw [Change.text, shownValue?_setCookie hname h.1, keptValue_of_not_mem h.2.2.closed,
      Change.shownValue?, Change.setValue?]
    by_cases hm : Marks o other value
    · have hmarked : (Change.set other value).IsMarked o := hm
      rw [if_neg fun h => hshown.mp h.2 hm, if_pos hmarked]
    · have hmarked : ¬ (Change.set other value).IsMarked o := hm
      simp only [hshown, hm, not_false_eq_true, and_true, if_neg hmarked]
  | expire other =>
    have hshow : Http.shownText? (Octets.ofText (o.expireCookie other)) =
        some (o.expireCookie other) :=
      Http.shownText?_ofText_eq_some_iff.mpr ⟨rfl, h.isTextChar_text ho⟩
    rw [Change.text, Cookie.shownValue?, hshow, Option.bind_some, contains_expireCookie]
    rfl

/-- The field of a plain change counts as an expiration if it is one or is marked. -/
theorem isExpiration_text {change : Change} (h : change.IsPlain) (ho : o.IsPlain)
    (hname : IsName name) :
    isExpiration name (Octets.ofText (change.text o)) = true ↔
      change = .expire name ∨ ∃ value, change = .set name value ∧ Marks o name value := by
  have hshow : Http.shownText? (Octets.ofText (change.text o)) = some (change.text o) :=
    Http.shownText?_ofText_eq_some_iff.mpr ⟨rfl, h.isTextChar_text ho⟩
  rw [isExpiration, hshow, Option.any_some, Bool.and_eq_true]
  cases change with
  | set other value =>
    rw [Change.text, (isAbout_setCookie hname h.1 o value).1, contains_setCookie_iff,
      decide_eq_true_iff]
    constructor
    · rintro ⟨rfl, hm⟩
      exact .inr ⟨value, rfl, hm⟩
    · rintro (h | ⟨v, h, hm⟩)
      · cases h
      · obtain ⟨rfl, rfl⟩ := Change.set.inj h
        exact ⟨rfl, hm⟩
  | expire other =>
    rw [Change.text, isAbout_expireCookie hname h.1, contains_expireCookie, decide_eq_true_iff,
      and_iff_left rfl]
    constructor
    · rintro rfl
      exact .inl rfl
    · rintro (h | ⟨v, h, -⟩)
      · exact (Change.expire.inj h).symm
      · cases h

/-- What is shown first is what is set first exactly if the field of that is not marked. -/
private theorem findSome?_shownValue?_eq_iff (o : Options) (name : String)
    (changes : List Change) :
    changes.findSome? (Change.shownValue? o name) =
        changes.findSome? (Change.setValue? name) ↔
      ∀ value ∈ changes.findSome? (Change.setValue? name), ¬ Marks o name value := by
  have hset : ∀ (change : Change) (value : String), change.setValue? name = some value →
      change = .set name value := by
    intro change value h
    cases change with
    | set other v =>
      simp only [Change.setValue?, Option.ite_none_right_eq_some, Option.some.injEq] at h
      rw [h.1, h.2]
    | expire other => cases h
  constructor
  · intro heq value hvalue
    rw [← heq] at hvalue
    obtain ⟨change, -, hread⟩ := List.exists_of_findSome?_eq_some hvalue
    rw [Change.shownValue?, Option.ite_none_left_eq_some] at hread
    obtain rfl := hset change value hread.2
    exact hread.1
  · intro h
    induction changes with
    | nil => rfl
    | cons change changes ih =>
      rw [List.findSome?_cons] at h ⊢
      cases hread : change.setValue? name with
      | some value =>
        rw [hread] at h
        have hkept : ¬ change.IsMarked o := hset change value hread ▸ h value rfl
        rw [List.findSome?_cons, Change.shownValue?, if_neg hkept, hread]
      | none =>
        rw [hread] at h
        rw [List.findSome?_cons, Change.shownValue?, hread, ite_self, ih h]

/-- What a response answers about a cookie after changes. -/
structure Inspects (o : Options) (changes : List Change) (after : Headers) (name : String) :
    Prop where
  /-- The value is the first that is set by a field without the mark. -/
  value : valueSetIn? after name = changes.findSome? (Change.shownValue? o name)
  /-- The cookie counts as expired if it was expired or set by a field with the mark. -/
  expired : isExpiredIn after name = true ↔
    .expire name ∈ changes ∨ ∃ value, .set name value ∈ changes ∧ Marks o name value
  /-- The value is the first that was set exactly if its field has no mark. -/
  valueAgrees : valueSetIn? after name = changes.findSome? (Change.setValue? name) ↔
    ∀ value ∈ changes.findSome? (Change.setValue? name), ¬ Marks o name value
  /-- Expirations are told exactly if there is one or no field of the cookie has the mark. -/
  expiredAgrees : (isExpiredIn after name = true ↔ .expire name ∈ changes) ↔
    (.expire name ∈ changes ∨ ∀ value, .set name value ∈ changes → ¬ Marks o name value)

private theorem valueSetIn?_of_octets {changes : List Change} {after : Headers} (ho : o.IsPlain)
    (hchanges : ∀ change ∈ changes, change.IsPlain) (hname : IsName name)
    (hafter : after.octets setCookieField =
      changes.map fun change => Octets.ofText (change.text o)) :
    valueSetIn? after name = changes.findSome? (Change.shownValue? o name) := by
  rw [valueSetIn?_eq, hafter, List.findSome?_map, ← List.head?_filterMap, ← List.head?_filterMap]
  refine congrArg List.head? (List.filterMap_congr fun change hc => ?_)
  exact shownValue?_text (hchanges change hc) ho hname

private theorem isExpiredIn_of_octets {changes : List Change} {after : Headers} (ho : o.IsPlain)
    (hchanges : ∀ change ∈ changes, change.IsPlain) (hname : IsName name)
    (hafter : after.octets setCookieField =
      changes.map fun change => Octets.ofText (change.text o)) :
    isExpiredIn after name = true ↔
      .expire name ∈ changes ∨ ∃ value, .set name value ∈ changes ∧ Marks o name value := by
  have hread : ∀ change ∈ changes, isExpiration name (Octets.ofText (change.text o)) = true ↔
      change = .expire name ∨ ∃ value, change = .set name value ∧ Marks o name value :=
    fun change hc => isExpiration_text (hchanges change hc) ho hname
  simp only [isExpiredIn_eq, hafter, List.any_map, List.any_eq_true, Function.comp_apply]
  constructor
  · rintro ⟨change, hc, h⟩
    rcases (hread change hc).mp h with rfl | ⟨value, rfl, hm⟩
    · exact .inl hc
    · exact .inr ⟨value, hc, hm⟩
  · rintro (hc | ⟨value, hc, hm⟩)
    · exact ⟨_, hc, (hread _ hc).mpr (.inl rfl)⟩
    · exact ⟨_, hc, (hread _ hc).mpr (.inr ⟨value, rfl, hm⟩)⟩

/-- Plain changes of a response without cookies are all made, and what is read of the response
afterwards is what was written, fields with the mark of an expiration apart. -/
theorem inspects_changes {changes : List Change} {before : Headers} (ho : o.IsPlain)
    (hchanges : ∀ change ∈ changes, change.IsPlain) (hbefore : before.octets setCookieField = []) :
    ∃ after, applyAll o before changes = .ok after ∧
      ∀ name, IsName name → Inspects o changes after name := by
  obtain ⟨after, hafter, hoctets⟩ := octets_applyAll hchanges ho before
  rw [hbefore, List.nil_append] at hoctets
  refine ⟨after, hafter, fun name hname => ?_⟩
  have hvalue := valueSetIn?_of_octets ho hchanges hname hoctets
  have hexpired := isExpiredIn_of_octets ho hchanges hname hoctets
  refine ⟨hvalue, hexpired, ?_, ?_⟩
  · rw [hvalue]
    exact findSome?_shownValue?_eq_iff o name changes
  · rw [hexpired, or_iff_left_iff_imp]
    constructor
    · intro h
      by_cases hmem : .expire name ∈ changes
      · exact .inl hmem
      · exact .inr fun value hc hm => hmem (h ⟨value, hc, hm⟩)
    · rintro (hmem | hno) ⟨value, hc, hm⟩
      · exact hmem
      · exact absurd hm (hno value hc)

/-- Changes of two cookies, one set twice and one expired and set. -/
def sampleChanges : List Change :=
  [.set "force_sid" "a=b", .expire "force_ep", .set "force_sid" "c", .set "force_ep" "d"]

/-- Both cookies are read as they were written. -/
theorem inspects_sampleChanges :
    ({} : Options).IsPlain ∧ (∀ change ∈ sampleChanges, change.IsPlain) ∧
      Headers.empty.octets setCookieField = [] ∧
      ∃ after, applyAll {} .empty sampleChanges = .ok after ∧
        valueSetIn? after "force_sid" = some "a=b" ∧
        (isExpiredIn after "force_sid" = true ↔ .expire "force_sid" ∈ sampleChanges) ∧
        valueSetIn? after "force_ep" = some "d" ∧ isExpiredIn after "force_ep" = true := by
  have hplain : ({} : Options).IsPlain := by decide
  have hchanges : ∀ change ∈ sampleChanges, change.IsPlain := by decide
  have hempty : Headers.empty.octets setCookieField = [] := rfl
  obtain ⟨after, hafter, hread⟩ := inspects_changes hplain hchanges hempty
  have hsid := hread "force_sid" (by decide)
  have hep := hread "force_ep" (by decide)
  refine ⟨hplain, hchanges, rfl, after, hafter, ?_, ?_, ?_, ?_⟩
  · exact hsid.value.trans (by decide)
  · refine hsid.expiredAgrees.mpr (.inr fun value hmem => ?_)
    simp only [sampleChanges, List.mem_cons, Change.set.injEq, reduceCtorEq, String.reduceEq,
      true_and, false_and, false_or, or_false, List.not_mem_nil] at hmem
    rcases hmem with rfl | rfl <;> decide
  · exact hep.value.trans (by decide)
  · exact hep.expired.mpr (.inl (by decide))

/-- A cookie that is set to the mark of an expiration counts as expired and has no value. -/
theorem hides_sampleMarked :
    ∃ after, applyAll {} .empty [.set "force_sid" "Max-Age=0"] = .ok after ∧
      valueSetIn? after "force_sid" = none ∧ isExpiredIn after "force_sid" = true := by
  have hplain : ({} : Options).IsPlain := by decide
  have hname : IsName "force_sid" := by decide
  have hchanges : ∀ change ∈ [Change.set "force_sid" "Max-Age=0"], change.IsPlain := by decide
  obtain ⟨after, hafter, hoctets⟩ := octets_applyAll hchanges hplain .empty
  refine ⟨after, hafter, ?_, ?_⟩
  · exact (valueSetIn?_of_octets hplain hchanges hname hoctets).trans (by decide)
  · exact (isExpiredIn_of_octets hplain hchanges hname hoctets).mpr
      (.inr ⟨"Max-Age=0", List.mem_singleton_self _, by decide⟩)

end Cookie

end SignOn
