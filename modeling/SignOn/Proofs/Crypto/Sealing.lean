import SignOn.Cipher

/-!
# Sealed texts open

Under the key and the nonce that it was sealed with a text opens to what it was. Counter mode is its
own inverse as long as the key stream is not shorter than the text; that it never is comes down to
the lengths of blocks and round keys, which the key schedule keeps.
-/

namespace SignOn

namespace Aes256

/-- Round keys have the length of a block. -/
def IsSchedule (keys : List Octets) : Prop := ∀ key ∈ keys, key.length = 16

@[simp] theorem length_xor (a b : Octets) : (xor a b).length = min a.length b.length :=
  List.length_zipWith

/-- Adding a stream that is long enough twice gives the text back. -/
theorem xor_xor {text stream : Octets} (h : text.length ≤ stream.length) :
    xor (xor text stream) stream = text := by
  induction text generalizing stream with
  | nil => rfl
  | cons a text ih =>
    cases stream with
    | nil => exact absurd h (by simp)
    | cons b stream =>
      have hrest := ih (Nat.le_of_succ_le_succ h)
      simp only [xor, List.zipWith_cons_cons] at hrest ⊢
      rw [hrest, UInt8.xor_assoc, UInt8.xor_self, UInt8.xor_zero]

@[simp] theorem length_shiftRows (state : Octets) : (shiftRows state).length = 16 := by
  rw [shiftRows, List.length_map]
  rfl

/-- Mixing columns keeps whole columns. -/
theorem length_mixColumns (state : Octets) :
    (mixColumns state).length = state.length / 4 * 4 := by
  fun_induction mixColumns state with
  | case1 a b c d rest ih =>
    simp only [List.length_cons, ih]
    omega
  | case2 state h =>
    match state, h with
    | [], _ => simp
    | [_], _ => simp
    | [_, _], _ => simp
    | [_, _, _], _ => simp
    | a :: b :: c :: d :: rest, h => exact absurd rfl (h a b c d rest)

/-- Rounds keep the length of a block. -/
theorem length_rounds {keys : List Octets} {state : Octets} (hkeys : IsSchedule keys)
    (hstate : state.length = 16) : (rounds keys state).length = 16 := by
  fun_induction rounds keys state with
  | case1 state => exact hstate
  | case2 last state => simp [hkeys last List.mem_cons_self]
  | case3 key keys state hne ih =>
    apply ih (fun k hk => hkeys k (List.mem_cons_of_mem _ hk))
    simp [hkeys key List.mem_cons_self, length_mixColumns]

/-- The image of a block is a block. -/
theorem length_encryptBlock {keys : List Octets} {block : Octets} (hkeys : IsSchedule keys)
    (hblock : block.length = 16) : (encryptBlock keys block).length = 16 := by
  cases keys with
  | nil => exact hblock
  | cons first rest =>
    rw [encryptBlock]
    apply length_rounds (fun k hk => hkeys k (List.mem_cons_of_mem _ hk))
    simp [hblock, hkeys first List.mem_cons_self]

/-! ## The key schedule -/

/-- A sequence of whole parts is cut into parts of the full length, as many as there are. -/
theorem length_chunks {n : Nat} (hn : 0 < n) (count : Nat) {bs : Octets}
    (h : bs.length = n * count) :
    (chunks n bs).length = count ∧ ∀ part ∈ chunks n bs, part.length = n := by
  induction count generalizing bs with
  | zero =>
    have hnil : bs = [] := List.length_eq_zero_iff.mp (by rw [h, Nat.mul_zero])
    rw [chunks, dif_pos (.inl hnil)]
    exact ⟨rfl, fun _ hp => absurd hp List.not_mem_nil⟩
  | succ count ih =>
    have hlong : n ≤ bs.length := by
      rw [h, Nat.mul_succ]
      omega
    have hne : ¬ (bs = [] ∨ n = 0) := by
      rintro (rfl | rfl)
      · rw [List.length_nil] at hlong
        omega
      · omega
    have hdrop : (bs.drop n).length = n * count := by
      rw [List.length_drop, h, Nat.mul_succ]
      omega
    have hrest := ih hdrop
    rw [chunks, dif_neg hne]
    refine ⟨by rw [List.length_cons, hrest.1], ?_⟩
    intro part hp
    rcases List.mem_cons.mp hp with rfl | hp
    · rw [List.length_take, Nat.min_eq_left hlong]
    · exact hrest.2 part hp

/-- A key schedule has as many words as were asked for, of four octets each. -/
theorem length_expand {n : Nat} {constant : UInt8} {words : List Octets}
    (hwords : ∀ word ∈ words, word.length = 4) (hlen : 8 ≤ words.length) :
    (expand n constant words).length = n + words.length ∧
      ∀ word ∈ expand n constant words, word.length = 4 := by
  induction n generalizing constant words with
  | zero => exact ⟨(Nat.zero_add _).symm, hwords⟩
  | succ n ih =>
    have hget : ∀ i < 8, (words.getD i []).length = 4 := by
      intro i hi
      rw [List.getD_eq_getElem?_getD, List.getElem?_eq_getElem (by omega), Option.getD_some]
      exact hwords _ (List.getElem_mem _)
    have hlast := hget 0 (by decide)
    have hrotated : ∀ a rest, words.getD 0 [] = a :: rest →
        (xor ((rest ++ [a]).map sBox) [constant, 0, 0, 0]).length = 4 := by
      intro a rest hl
      rw [hl, List.length_cons] at hlast
      simp only [length_xor, List.length_map, List.length_append, List.length_cons,
        List.length_nil]
      omega
    -- whichever way the new word is made, it has four octets
    have hstep : ∀ constant' word, word.length = 4 →
        (expand n constant' (xor (words.getD 7 []) word :: words)).length = n + 1 + words.length ∧
          ∀ w ∈ expand n constant' (xor (words.getD 7 []) word :: words), w.length = 4 := by
      intro constant' word hword
      have hnew : ∀ w ∈ xor (words.getD 7 []) word :: words, w.length = 4 := by
        rw [List.forall_mem_cons, length_xor, hget 7 (by decide), hword]
        exact ⟨rfl, hwords⟩
      have hrest := @ih constant' _ hnew (by rw [List.length_cons]; omega)
      rw [List.length_cons] at hrest
      exact ⟨by omega, hrest.2⟩
    rw [expand]
    simp only
    split
    · refine hstep _ _ ?_
      split
      · next a rest hl => exact hrotated a rest hl
      · next hl =>
        rw [hl] at hlast
        cases hlast
    · split
      · exact hstep _ _ (by rw [List.length_map, hlast])
      · exact hstep _ _ hlast

/-- Words of four octets have four times as many octets. -/
private theorem length_flatten_words {words : List Octets}
    (h : ∀ word ∈ words, word.length = 4) : words.flatten.length = 4 * words.length := by
  induction words with
  | nil => rfl
  | cons word words ih =>
    rw [List.flatten_cons, List.length_append, h word List.mem_cons_self,
      ih fun w hw => h w (List.mem_cons_of_mem _ hw), List.length_cons]
    omega

/-- The round keys of a key have the length of a block. -/
theorem isSchedule_roundKeys {key : Octets} (h : key.length = 32) : IsSchedule (roundKeys key) := by
  have hwords := length_chunks (show 0 < 4 by decide) 8 h
  have hfirst : ∀ word ∈ (chunks 4 key).reverse, word.length = 4 :=
    fun word hw => hwords.2 word (List.mem_reverse.mp hw)
  have hcount : (chunks 4 key).reverse.length = 8 := by rw [List.length_reverse, hwords.1]
  have hexpand := @length_expand 52 1 _ hfirst (Nat.le_of_eq hcount.symm)
  have hall : ∀ word ∈ (expand 52 1 (chunks 4 key).reverse).reverse, word.length = 4 :=
    fun word hw => hexpand.2 word (List.mem_reverse.mp hw)
  have hflatten := length_flatten_words hall
  rw [List.length_reverse, hexpand.1, hcount] at hflatten
  exact (length_chunks (show 0 < 16 by decide) 15 hflatten).2

end Aes256

namespace Gcm

variable {keys : List Octets} {nonce : Octets}

/-- The key stream has whole blocks. -/
theorem length_keyStream (hkeys : Aes256.IsSchedule keys) (hnonce : nonce.length = 12)
    (blocks counter : Nat) : (keyStream keys nonce blocks counter).length = 16 * blocks := by
  induction blocks generalizing counter with
  | zero => rfl
  | succ blocks ih =>
    have hblock : (counterBlock nonce counter).length = 16 := by
      rw [counterBlock, List.length_append, hnonce]
      rfl
    rw [keyStream, List.length_append, Aes256.length_encryptBlock hkeys hblock, ih, Nat.mul_succ]
    omega

/-- The key stream is longer than the text. -/
private theorem length_lt_keyStream (hkeys : Aes256.IsSchedule keys) (hnonce : nonce.length = 12)
    (n : Nat) : n < (keyStream keys nonce (n / 16 + 1) 2).length := by
  rw [length_keyStream hkeys hnonce]
  omega

/-- The counter mode keeps the length of a text. -/
theorem length_crypt (hkeys : Aes256.IsSchedule keys) (hnonce : nonce.length = 12)
    (text : Octets) : (crypt keys nonce text).length = text.length := by
  have hlt := length_lt_keyStream hkeys hnonce text.length
  rw [crypt, Aes256.length_xor]
  omega

/-- The counter mode is its own inverse. -/
theorem crypt_crypt (hkeys : Aes256.IsSchedule keys) (hnonce : nonce.length = 12)
    (text : Octets) : crypt keys nonce (crypt keys nonce text) = text := by
  have hlen := length_crypt hkeys hnonce text
  have hlt := length_lt_keyStream hkeys hnonce text.length
  rw [crypt, hlen, crypt]
  exact Aes256.xor_xor (by omega)

/-- Tags have sixteen octets. -/
theorem length_tag (keys : List Octets) (nonce ciphertext : Octets) :
    (tag keys nonce ciphertext).length = tagLength := by
  rw [tag, bitsOctets, List.length_map, List.length_range]
  rfl

/-- Decryption inverts encryption. -/
theorem decrypt?_encrypt (hkeys : Aes256.IsSchedule keys) (hnonce : nonce.length = 12)
    (text : Octets) : decrypt? keys nonce (encrypt keys nonce text) = some text := by
  have htag := length_tag keys nonce (crypt keys nonce text)
  have hlen : (encrypt keys nonce text).length =
      (crypt keys nonce text).length + tagLength := by rw [encrypt, List.length_append, htag]
  have htake : (encrypt keys nonce text).take ((encrypt keys nonce text).length - tagLength) =
      crypt keys nonce text := by
    rw [hlen, Nat.add_sub_cancel, encrypt, List.take_left]
  have hdrop : (encrypt keys nonce text).drop ((encrypt keys nonce text).length - tagLength) =
      tag keys nonce (crypt keys nonce text) := by
    rw [hlen, Nat.add_sub_cancel, encrypt, List.drop_left]
  rw [decrypt?, if_neg (by omega)]
  simp only [htake, hdrop, if_true]
  rw [crypt_crypt hkeys hnonce]

end Gcm

namespace Cipher

/-- The cipher of a secret has round keys of the right length. -/
theorem isSchedule_of_ofSecret {secret : String} {c : Cipher} (h : ofSecret secret = .ok c) :
    Aes256.IsSchedule c.roundKeys := by
  unfold ofSecret at h
  simp only at h
  split at h
  · cases h
  · obtain rfl := Except.ok.inj h
    exact Aes256.isSchedule_roundKeys (Sha256.length_digest _)

/-- A sealed text opens under its key. -/
theorem decrypt_encrypt {c : Cipher} (h : Aes256.IsSchedule c.roundKeys) (nonce : Nonce)
    (octets : Octets) : c.decrypt (c.encrypt nonce octets) = .ok octets := by
  have hnonce : nonce.toList.length = 12 := Vector.length_toList
  have hlen : ¬ (nonce.toList ++ Gcm.encrypt c.roundKeys nonce.toList octets).length ≤ 12 := by
    rw [List.length_append, hnonce, Gcm.encrypt, List.length_append, Gcm.length_tag]
    simp only [Gcm.tagLength]
    omega
  have htake : (nonce.toList ++ Gcm.encrypt c.roundKeys nonce.toList octets).take 12 =
      nonce.toList := List.take_left' hnonce
  have hdrop : (nonce.toList ++ Gcm.encrypt c.roundKeys nonce.toList octets).drop 12 =
      Gcm.encrypt c.roundKeys nonce.toList octets := List.drop_left' hnonce
  rw [decrypt, encrypt, String.toList_ofList, Base64Url.decode?_encode]
  simp only [hlen, if_false, htake, hdrop, Gcm.decrypt?_encrypt h hnonce]

end Cipher

end SignOn
