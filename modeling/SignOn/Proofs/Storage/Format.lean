import Mathlib.Data.List.Perm.Basic
import Mathlib.Data.Set.List
import SignOn.Proofs.Json.Members
import SignOn.Proofs.Storage.RoundTrip

/-!
# The format of saved contexts

A context is read off nine named texts and nothing else (`ofJson_eq_ok_iff`): off an object with
these members in any order, or off an array with the texts by position. No member may be missing,
come twice or be added.
-/

namespace SignOn

namespace Json

/-- The text under a name, of a record that was read off named texts. -/
theorem textOrEmpty_map_some (entries : List (String × String)) (name : String) :
    Members.textOrEmpty (entries.map fun entry => (entry.1, some entry.2)) name =
      (entries.lookup name).getD "" := by
  rw [Members.textOrEmpty, Members.text?]
  induction entries with
  | nil => rfl
  | cons entry entries ih =>
    rw [List.map_cons, List.lookup_cons, List.lookup_cons]
    cases name == entry.1 with
    | true => rfl
    | false => exact ih

/-- Named texts are those of the names, in some order. -/
theorem perm_map_lookup {entries : List (String × String)} {names : List String}
    (hnames : names.Nodup) (hp : (entries.map Prod.fst).Perm names) :
    entries.Perm (names.map fun name => (name, (entries.lookup name).getD "")) := by
  have hdistinct : (entries.map Prod.fst).Nodup := hp.nodup_iff.mpr hnames
  have hself : entries.map (fun entry => (entry.1, (entries.lookup entry.1).getD "")) =
      entries := by
    refine (List.map_congr_left fun entry he => ?_).trans (List.map_id entries)
    rw [(lookup_eq_some_iff_mem hdistinct).mpr he]
    rfl
  have hmap := hp.map fun name => (name, (entries.lookup name).getD "")
  rw [List.map_map] at hmap
  exact (List.Perm.of_eq hself.symm).trans hmap

/-- The names of members with a name and a text. -/
theorem map_name_of_map_entry? {members : List (Member Value)} {entries : List (String × String)}
    (h : members.map Member.entry? = entries.map some) :
    members.map (fun member => text? member.name) = (entries.map Prod.fst).map some := by
  induction members generalizing entries with
  | nil =>
    obtain rfl := List.map_eq_nil_iff.mp h.symm
    rfl
  | cons member members ih =>
    cases entries with
    | nil => cases h
    | cons entry entries =>
      obtain ⟨hentry, hrest⟩ := List.cons.inj h
      obtain ⟨name, hname, hvalue⟩ := Option.bind_eq_some_iff.mp hentry
      obtain ⟨text, -, rfl⟩ := Option.map_eq_some_iff.mp hvalue
      rw [List.map_cons, hname, ih hrest]
      rfl

end Json

namespace SecurityContext

open Json (Document Value Member Item Blank)

/-- The names of the members of a context. -/
def names : List String := ["sessionId", "endpoint", "orgId", "userId", "userName", "role",
  "locale", "language", "timeZone"]

/-- The texts of a context under their names, with a spelling of its endpoint. -/
def texts (c : SecurityContext) (endpoint : String) : List (String × String) := [
  ("sessionId", c.sessionId),
  ("endpoint", endpoint),
  ("orgId", c.orgId),
  ("userId", c.userId),
  ("userName", c.userName),
  ("role", c.role),
  ("locale", c.locale),
  ("language", c.language),
  ("timeZone", c.timeZone)]

/-- The context with an endpoint that named texts give. -/
def ofTexts (text : String → String) (endpoint : Url) : SecurityContext where
  sessionId := text "sessionId"
  endpoint := endpoint
  orgId := text "orgId"
  userId := text "userId"
  userName := text "userName"
  role := text "role"
  locale := text "locale"
  language := text "language"
  timeZone := text "timeZone"

theorem nodup_names : names.Nodup := by decide

theorem isStrict_shape : shape.IsStrict where
  closed := rfl
  distinct := nodup_names
  plain := by simp [shape]

private theorem takesText_texts {c : SecurityContext} {endpoint : String} {url : Url}
    (h : Url.parse endpoint = .ok url) : ∀ entry ∈ c.texts endpoint, shape.TakesText entry := by
  have hurl : isUrl endpoint = true := by
    rw [isUrl, h]
    rfl
  simp [texts, shape, Json.Shape.TakesText, hurl]

private theorem ofJson_eq_ok_iff_read {bs : Octets} {c : SecurityContext} :
    ofJson bs = .ok c ↔ ∃ found endpoint, shape.read bs = .ok found ∧
      Url.parse (found.textOrEmpty "endpoint") = .ok endpoint ∧
        c = ofTexts found.textOrEmpty endpoint := by
  rw [ofJson]
  cases shape.read bs with
  | error fault => simp [bind, Except.bind]
  | ok found =>
    cases hu : Url.parse (found.textOrEmpty "endpoint") with
    | error e => simp [bind, Except.bind, hu]
    | ok endpoint => simp [bind, Except.bind, hu, pure, Except.pure, ofTexts, eq_comm]

/-- A context is read off a value that lists its texts, in any order where they have names. -/
theorem ofJson_eq_ok_iff {d : Document} {c : SecurityContext} :
    ofJson d.octets = .ok c ↔ ∃ entries endpoint, d.value.Lists names entries ∧
      entries.Perm (c.texts endpoint) ∧ Url.parse endpoint = .ok c.endpoint := by
  rw [ofJson_eq_ok_iff_read]
  constructor
  · rintro ⟨found, url, hread, hurl, rfl⟩
    obtain ⟨entries, hl, hp, -, rfl⟩ := isStrict_shape.read_eq_ok_iff.mp hread
    have hsame := Json.perm_map_lookup nodup_names hp
    simp only [← Json.textOrEmpty_map_some] at hsame
    exact ⟨entries, _, hl, hsame, hurl⟩
  · rintro ⟨entries, endpoint, hl, hp, hurl⟩
    have hnames : (entries.map Prod.fst).Perm names := hp.map Prod.fst
    have hdistinct : (entries.map Prod.fst).Nodup := hnames.nodup_iff.mpr nodup_names
    have htext : ∀ name, Json.Members.textOrEmpty (entries.map fun e => (e.1, some e.2)) name =
        ((c.texts endpoint).lookup name).getD "" := fun name => by
      rw [Json.textOrEmpty_map_some, Json.lookup_eq_of_perm hdistinct hp]
    refine ⟨_, c.endpoint, isStrict_shape.read_eq_ok_iff.mpr ⟨entries, hl, hnames, fun entry he =>
      takesText_texts hurl entry (hp.mem_iff.mp he), rfl⟩, ?_, ?_⟩
    · rw [htext]
      exact hurl
    · rw [funext htext]
      rfl

/-- A context can be read off a value that lists a text under each name, for the endpoint a URL. -/
theorem exists_ofJson_iff {d : Document} :
    (∃ c, ofJson d.octets = .ok c) ↔ ∃ entries, d.value.Lists names entries ∧
      (entries.map Prod.fst).Perm names ∧ ∃ endpoint url, ("endpoint", endpoint) ∈ entries ∧
        Url.parse endpoint = .ok url := by
  constructor
  · rintro ⟨c, hc⟩
    obtain ⟨entries, endpoint, hl, hp, hurl⟩ := ofJson_eq_ok_iff.mp hc
    exact ⟨entries, hl, hp.map Prod.fst, endpoint, c.endpoint,
      hp.mem_iff.mpr (by simp [texts]), hurl⟩
  · rintro ⟨entries, hl, hp, endpoint, url, hm, hurl⟩
    have hdistinct : (entries.map Prod.fst).Nodup := hp.nodup_iff.mpr nodup_names
    have hendpoint : (entries.lookup "endpoint").getD "" = endpoint := by
      rw [(Json.lookup_eq_some_iff_mem hdistinct).mpr hm]
      rfl
    rw [← hendpoint] at hurl
    exact ⟨ofTexts (fun name => (entries.lookup name).getD "") url, ofJson_eq_ok_iff.mpr
      ⟨entries, _, hl, Json.perm_map_lookup nodup_names hp, hurl⟩⟩

private theorem exists_entries_of_perm {α : Type} {l : List (Option α)} {entries : List α}
    (h : l.Perm (entries.map some)) :
    ∃ entries' : List α, l = entries'.map some ∧ entries'.Perm entries := by
  have hsome : l ∈ Set.range (List.map some) := by
    rw [Set.range_list_map]
    intro x hx
    obtain ⟨entry, -, he⟩ := List.mem_map.mp (h.mem_iff.mp hx)
    exact ⟨entry, he⟩
  obtain ⟨entries', rfl⟩ := hsome
  exact ⟨entries', rfl, (List.map_perm_map_iff (Option.some_injective α)).mp h⟩

/-- Neither blanks nor the order of members matter for the context that is read. -/
private theorem ofJson_of_perm {d d' : Document} {inner inner' : List Blank}
    {members members' : List (Member Value)} {c : SecurityContext}
    (hd : d.value = .object inner members) (hd' : d'.value = .object inner' members')
    (hp : (members.map Member.entry?).Perm (members'.map Member.entry?))
    (h : ofJson d.octets = .ok c) : ofJson d'.octets = .ok c := by
  obtain ⟨entries, endpoint, hl, he, hurl⟩ := ofJson_eq_ok_iff.mp h
  rw [hd] at hl
  cases hl with
  | object hentries =>
    obtain ⟨entries', hentries', hsame⟩ := exists_entries_of_perm (hentries ▸ hp.symm)
    exact ofJson_eq_ok_iff.mpr
      ⟨entries', endpoint, hd' ▸ .object hentries', hsame.trans he, hurl⟩

/-- Blanks do not matter for a context that is read by position either. -/
private theorem ofJson_of_items {d d' : Document} {inner inner' : List Blank}
    {items items' : List (Item Value)} {c : SecurityContext} (hd : d.value = .array inner items)
    (hd' : d'.value = .array inner' items')
    (ht : items.map (·.value.text?) = items'.map (·.value.text?))
    (h : ofJson d.octets = .ok c) : ofJson d'.octets = .ok c := by
  obtain ⟨entries, endpoint, hl, he, hurl⟩ := ofJson_eq_ok_iff.mp h
  rw [hd] at hl
  cases hl with
  | array htexts hlength =>
    exact ofJson_eq_ok_iff.mpr ⟨_, endpoint, hd' ▸ .array (ht ▸ htexts) hlength, he, hurl⟩

private theorem toOption_eq_of_forall {α : Type} {x y : Except Json.Fault α}
    (h : ∀ a, x = .ok a ↔ y = .ok a) : x.toOption = y.toOption := by
  cases x with
  | ok a => rw [(h a).mp rfl]
  | error fault =>
    cases y with
    | ok a => cases (h a).mpr rfl
    | error fault => rfl

/-- How contexts are stored in JSON: what is written is read back, and nothing is read but an object
with the nine members, each once in any order, or an array with the nine texts by position. -/
structure StoredStrictly : Prop where
  lossless : ∀ c : SecurityContext, Url.parse c.endpoint.text = .ok c.endpoint →
    ofJson (Octets.ofText c.json) = .ok c
  accepted : ∀ d : Document, (∃ c, ofJson d.octets = .ok c) ↔
    ∃ entries, d.value.Lists names entries ∧ (entries.map Prod.fst).Perm names ∧
      ∃ endpoint url, ("endpoint", endpoint) ∈ entries ∧ Url.parse endpoint = .ok url
  exact : ∀ (d : Document) (c : SecurityContext), ofJson d.octets = .ok c ↔
    ∃ entries endpoint, d.value.Lists names entries ∧ entries.Perm (c.texts endpoint) ∧
      Url.parse endpoint = .ok c.endpoint
  unordered : ∀ (d d' : Document) (inner inner' : List Blank)
      (members members' : List (Member Value)),
    d.value = .object inner members → d'.value = .object inner' members' →
      (members.map Member.entry?).Perm (members'.map Member.entry?) →
        (ofJson d.octets).toOption = (ofJson d'.octets).toOption
  positional : ∀ (d d' : Document) (inner inner' : List Blank) (items items' : List (Item Value)),
    d.value = .array inner items → d'.value = .array inner' items' →
      items.map (·.value.text?) = items'.map (·.value.text?) →
        (ofJson d.octets).toOption = (ofJson d'.octets).toOption
  refused : ∀ (d : Document) (inner : List Blank) (members : List (Member Value)),
    d.value = .object inner members →
      ¬ (members.map fun member => Json.text? member.name).Perm (names.map some) →
        ∃ fault, ofJson d.octets = .error fault

theorem stored_strictly : StoredStrictly where
  lossless := fun c => ofJson_json
  accepted := fun d => exists_ofJson_iff
  exact := fun d c => ofJson_eq_ok_iff
  unordered := by
    intro d d' inner inner' members members' hd hd' hp
    exact toOption_eq_of_forall fun c => ⟨ofJson_of_perm hd hd' hp, ofJson_of_perm hd' hd hp.symm⟩
  positional := by
    intro d d' inner inner' items items' hd hd' ht
    exact toOption_eq_of_forall fun c => ⟨ofJson_of_items hd hd' ht, ofJson_of_items hd' hd ht.symm⟩
  refused := by
    intro d inner members hd hnames
    cases h : ofJson d.octets with
    | error fault => exact ⟨fault, rfl⟩
    | ok c =>
      obtain ⟨entries, endpoint, hl, hp, -⟩ := ofJson_eq_ok_iff.mp h
      rw [hd] at hl
      cases hl with
      | object hentries =>
        refine absurd ?_ hnames
        rw [Json.map_name_of_map_entry? hentries]
        exact (hp.map Prod.fst).map some

/-- A context of one letter for each text. -/
def sampleStored : SecurityContext where
  sessionId := "x"
  endpoint := { scheme := "https", authority := some { host := .domain "na1.example.com" }
                path := .rooted [""] }
  orgId := "x"
  userId := "x"
  userName := "x"
  role := "x"
  locale := "x"
  language := "x"
  timeZone := "x"

/-- An object with texts under the given names and blanks between them. -/
def sampleDocument (names : List String) : Document where
  before := [.lineFeed]
  value := .object [.space] (names.map fun name => {
    before := [.tab]
    name := Json.plainGlyphs name
    item := {
      value := .string (Json.plainGlyphs
        (if name = "endpoint" then "https://na1.example.com/" else "x")) } })

/-- The texts of a context are read in any order, and refused with another one beside them. -/
theorem stored_sample :
    ofJson (Octets.ofText sampleStored.json) = .ok sampleStored ∧
      ofJson (sampleDocument names.reverse).octets = .ok sampleStored ∧
      ∃ fault, ofJson (sampleDocument ("theme" :: names)).octets = .error fault := by
  have hurl : Url.parse sampleStored.endpoint.text = .ok sampleStored.endpoint := by
    decide +kernel
  refine ⟨stored_strictly.lossless sampleStored hurl, ?_, ?_⟩
  · refine (stored_strictly.exact _ _).mpr ⟨(sampleStored.texts sampleStored.endpoint.text).reverse,
      _, .object ?_, List.reverse_perm _, hurl⟩
    decide +kernel
  · refine stored_strictly.refused _ _ _ rfl fun hp => ?_
    exact absurd hp.length_eq (by decide)

end SecurityContext

end SignOn
