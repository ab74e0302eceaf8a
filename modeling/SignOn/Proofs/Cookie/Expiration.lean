import SignOn.Proofs.Http.Redirect

/-!
# Expired cookies

Expiring cookies adds one `Set-Cookie` field for each name, in the order of the names, and no field
of another name. Only a domain or a path that cannot stand in a field prevents that, and then no
cookie can be expired.
-/

namespace SignOn

namespace Cookie

open Http (FieldValue Headers IsFieldChar)

/-- Whether domain and path can stand in a field. -/
def Options.IsWritable (o : Options) : Prop :=
  (∀ domain ∈ o.domain, ∀ c ∈ domain.toList, IsFieldChar c) ∧ ∀ c ∈ o.path.toList, IsFieldChar c

instance (o : Options) : Decidable o.IsWritable := inferInstanceAs (Decidable (_ ∧ _))

/-- The octets of the fields that expire cookies. -/
def expirations (o : Options) (names : List String) : List Octets :=
  if o.IsWritable then names.map fun name => Octets.ofText (o.expireCookie name) else []

/-- Expirations of several lists of names follow each other. -/
theorem expirations_append (o : Options) (names others : List String) :
    expirations o (names ++ others) = expirations o names ++ expirations o others := by
  unfold expirations
  split
  · exact List.map_append
  · rfl

/-- The attributes that name the scope of a cookie can stand in fields exactly when domain and path
can. -/
theorem isFieldChar_scope_iff {o : Options} :
    (∀ text ∈ o.scope, ∀ c ∈ text.toList, IsFieldChar c) ↔ o.IsWritable := by
  have hdomain := Http.forall_isFieldChar (by decide : "Domain=".toList.all (IsFieldChar ·) = true)
  have hpath := Http.forall_isFieldChar (by decide : "Path=".toList.all (IsFieldChar ·) = true)
  rw [Options.scope, List.forall_mem_append, List.forall_mem_singleton, String.toList_append,
    List.forall_mem_append, and_iff_right hpath, Options.IsWritable, List.forall_mem_map]
  apply and_congr_left'
  constructor
  · intro h d hd c hc
    exact h d (Option.mem_toList.mpr hd) c (by simp [hc])
  · intro h d hd
    rw [String.toList_append, List.forall_mem_append]
    exact ⟨hdomain, h d (Option.mem_toList.mp hd)⟩

/-- The expiration of a legal name can stand in a field exactly when domain and path can. -/
theorem isFieldChar_expireCookie_iff {o : Options} {name : String}
    (hname : ∀ c ∈ name.toList, IsFieldChar c) :
    (∀ c ∈ (o.expireCookie name).toList, IsFieldChar c) ↔ o.IsWritable := by
  have hsep := Http.forall_isFieldChar (by decide : "; ".toList.all (IsFieldChar ·) = true)
  have hage := Http.forall_isFieldChar (by decide : "Max-Age=0".toList.all (IsFieldChar ·) = true)
  have hset : ∀ c ∈ (name ++ "=").toList, IsFieldChar c := by
    rw [String.toList_append, List.forall_mem_append]
    exact ⟨hname, Http.forall_isFieldChar (by decide)⟩
  rw [Options.expireCookie, Text.join, String.toList_ofList, Text.forall_mem_joinWith_iff hsep,
    List.forall_mem_map, List.cons_append, List.forall_mem_cons, List.forall_mem_append,
    List.forall_mem_singleton, and_iff_right hset, and_iff_left hage, isFieldChar_scope_iff]

/-- What expiring a cookie adds to the fields of a response. -/
theorem octets_appendExpired {name : String} (hname : ∀ c ∈ name.toList, IsFieldChar c)
    (response : Headers) (o : Options) (field : String) :
    (appendExpired response o name).octets field =
      response.octets field ++
        if Text.lower setCookieField = Text.lower field then expirations o [name] else [] := by
  rw [appendExpired]
  cases hv : FieldValue.ofText? (o.expireCookie name) with
  | none =>
    have hno : ¬ o.IsWritable := by
      rw [← isFieldChar_expireCookie_iff hname, ← FieldValue.isSome_ofText?_iff, hv]
      simp
    simp [expirations, hno]
  | some v =>
    have hyes : o.IsWritable := by
      rw [← isFieldChar_expireCookie_iff hname, ← FieldValue.isSome_ofText?_iff, hv]
      rfl
    simp only [Headers.octets, Headers.values_append, List.map_append]
    split
    · simp [expirations, hyes, FieldValue.ofText?_eq_some_iff.mp hv]
    · rfl

/-- What expiring several cookies adds to the fields of a response. -/
theorem octets_appendAllExpired {names : List String}
    (hnames : ∀ name ∈ names, ∀ c ∈ name.toList, IsFieldChar c) (response : Headers) (o : Options)
    (field : String) :
    (appendAllExpired response o names).octets field =
      response.octets field ++
        if Text.lower setCookieField = Text.lower field then expirations o names else [] := by
  induction names generalizing response with
  | nil => simp [appendAllExpired, expirations]
  | cons name names ih =>
    have hcons : appendAllExpired response o (name :: names) =
        appendAllExpired (appendExpired response o name) o names := rfl
    rw [hcons, ih fun n hn => hnames n (List.mem_cons_of_mem _ hn),
      octets_appendExpired (hnames name List.mem_cons_self), List.append_assoc]
    split
    · rw [← expirations_append, List.singleton_append]
    · rfl

end Cookie

end SignOn
