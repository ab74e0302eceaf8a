import SignOn.Config.Parameter
import SignOn.Proofs.Cookie.Grammar

/-!
# White space around texts

White space at the ends of a text is neither seen by `trim` nor by a list of trimmed parts, and
trimming commutes with lower case.
-/

namespace SignOn.Text

variable {drops : Char → Bool} {sep : Char} {a b cs : List Char}

/-- What is trimmed at the end of a text may be left out before. -/
theorem trimBy_append_back (hb : ∀ c ∈ b, drops c = true) :
    trimBy drops (cs ++ b) = trimBy drops cs := by
  have hback : b.reverse.dropWhile drops = [] :=
    List.dropWhile_eq_nil_iff.mpr fun c hc => hb c (List.mem_reverse.mp hc)
  have hfront : b.dropWhile drops = [] := List.dropWhile_eq_nil_iff.mpr hb
  rw [trimBy, trimBy, List.dropWhile_append]
  split
  · next h => rw [List.isEmpty_iff.mp h, hfront]
  · rw [List.reverse_append, List.dropWhile_append, hback]
    rfl

/-- What is trimmed does not matter at either end. -/
theorem trimBy_surrounded (ha : ∀ c ∈ a, drops c = true) (hb : ∀ c ∈ b, drops c = true) :
    trimBy drops (a ++ cs ++ b) = trimBy drops cs := by
  rw [trimBy_append_back hb, trimBy_append ha]

/-- A text without the separator joins the first piece of the one behind it. -/
theorem splitOn_append_front (ha : sep ∉ a) {piece : List Char} {pieces : List (List Char)}
    (h : splitOn sep cs = piece :: pieces) : splitOn sep (a ++ cs) = (a ++ piece) :: pieces := by
  induction a with
  | nil => exact h
  | cons c a ih =>
    have hc : ¬ c = sep := fun e => ha (e ▸ List.mem_cons_self)
    rw [List.cons_append, splitOn, if_neg hc, ih fun hm => ha (List.mem_cons_of_mem _ hm)]
    rfl

/-- A text without the separator joins the last piece of the one before it. -/
theorem splitOn_append_back (hb : sep ∉ b) (cs : List Char) :
    ∃ pieces piece, splitOn sep cs = pieces ++ [piece] ∧
      splitOn sep (cs ++ b) = pieces ++ [piece ++ b] := by
  induction cs with
  | nil => exact ⟨[], [], rfl, splitOn_of_not_mem hb⟩
  | cons c cs ih =>
    obtain ⟨pieces, piece, hcs, hboth⟩ := ih
    rw [List.cons_append, splitOn, splitOn, hcs, hboth]
    by_cases hc : c = sep
    · exact ⟨[] :: pieces, piece, if_pos hc, if_pos hc⟩
    · rw [if_neg hc, if_neg hc]
      cases pieces with
      | nil => exact ⟨[], c :: piece, rfl, rfl⟩
      | cons first pieces => exact ⟨(c :: first) :: pieces, piece, rfl, rfl⟩

/-- What is trimmed from parts does not matter at the ends of the whole. -/
theorem map_trimBy_splitOn_surrounded (hsep : drops sep = false) (ha : ∀ c ∈ a, drops c = true)
    (hb : ∀ c ∈ b, drops c = true) :
    (splitOn sep (a ++ cs ++ b)).map (trimBy drops) = (splitOn sep cs).map (trimBy drops) := by
  have hclosed : ∀ ds : List Char, (∀ c ∈ ds, drops c = true) → sep ∉ ds := by
    intro ds hds hm
    rw [hds sep hm] at hsep
    cases hsep
  obtain ⟨pieces, piece, hfront, hboth⟩ := splitOn_append_back (hclosed b hb) (a ++ cs)
  have hback : (splitOn sep (a ++ cs ++ b)).map (trimBy drops) =
      (splitOn sep (a ++ cs)).map (trimBy drops) := by
    rw [hboth, hfront, List.map_append, List.map_append, List.map_singleton, List.map_singleton,
      trimBy_append_back hb]
  cases h : splitOn sep cs with
  | nil => exact absurd h (splitOn_ne_nil sep cs)
  | cons first rest =>
    rw [hback, splitOn_append_front (hclosed a ha) h, List.map_cons, trimBy_append ha,
      List.map_cons]

/-- Trimming commutes with a change of characters that keeps apart what is trimmed. -/
theorem trimBy_map {f : Char → Char} (h : ∀ c, drops (f c) = drops c) (cs : List Char) :
    trimBy drops (cs.map f) = (trimBy drops cs).map f := by
  have hf : drops ∘ f = drops := funext h
  rw [trimBy, trimBy, List.dropWhile_map, hf, ← List.map_reverse, List.dropWhile_map, hf,
    List.map_reverse]

/-- Lower case is white space as little as upper case is. -/
theorem isBlank_toLower (c : Char) : isBlank c.toLower = isBlank c := by
  have hletter : ∀ c : Char, c.toNat < 0x80 → isBlank c.toLower = isBlank c :=
    forall_ascii (by decide)
  by_cases hc : 0x41 ≤ c.toNat ∧ c.toNat < 0x5B
  · exact hletter c (by omega)
  · have hsame : c.toLower = c := dif_neg fun ⟨hlow, hhigh⟩ =>
      hc ⟨UInt32.le_iff_toNat_le.mp hlow, Nat.lt_succ_of_le (UInt32.le_iff_toNat_le.mp hhigh)⟩
    rw [hsame]

/-- White space around a text does not matter to what is trimmed. -/
theorem trim_surrounded {before after : String} (hbefore : ∀ c ∈ before.toList, isBlank c = true)
    (hafter : ∀ c ∈ after.toList, isBlank c = true) (s : String) :
    trim (before ++ s ++ after) = trim s := by
  rw [trim, trim, String.toList_append, String.toList_append, trimBy_surrounded hbefore hafter]

/-- A text in lower case is trimmed as the text is. -/
theorem trim_lower (s : String) : trim (lower s) = lower (trim s) := by
  rw [trim, lower, lower, trim, String.toList_ofList, String.toList_ofList,
    trimBy_map isBlank_toLower]

end SignOn.Text
