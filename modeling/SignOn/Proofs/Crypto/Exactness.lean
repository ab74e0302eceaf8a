import SignOn.Proofs.Crypto.Sealing
import SignOn.Proofs.Encoding.Base64Url

/-!
# Exactly the sealed texts open

A text opens to octets when it is their sealed form under some nonce, and only then: the encoding
has one spelling of each sequence of octets, the tag one value for each nonce and ciphertext, and
the counter mode one ciphertext for each nonce and text. Every other text is found unreadable.
Lengths are those that the mode allows.
-/

namespace SignOn

namespace Gcm

variable {keys : List Octets} {nonce : Octets}

/-- Decryption accepts exactly what encryption produces. -/
theorem decrypt?_eq_some_iff (hkeys : Aes256.IsSchedule keys) (hnonce : nonce.length = 12)
    {sealedOctets text : Octets} :
    decrypt? keys nonce sealedOctets = some text ↔ sealedOctets = encrypt keys nonce text := by
  constructor
  · intro h
    unfold decrypt? at h
    split at h
    · cases h
    simp only at h
    split at h
    · next htag =>
      obtain rfl := Option.some.inj h
      rw [encrypt, crypt_crypt hkeys hnonce, ← htag, List.take_append_drop]
    · cases h
  · rintro rfl
    exact decrypt?_encrypt hkeys hnonce text

end Gcm

namespace Cipher

variable {c : Cipher} {text : String} {octets : Octets}

/-- Whatever opens is the sealed form of what it opens to, under the nonce at its front. -/
theorem eq_encrypt_of_decrypt (h : Aes256.IsSchedule c.roundKeys)
    (hopen : c.decrypt text = .ok octets) : ∃ nonce, text = c.encrypt nonce octets := by
  unfold decrypt at hopen
  split at hopen
  · cases hopen
  next bytes hbytes =>
  split at hopen
  · cases hopen
  next hlong =>
  split at hopen
  · next plain hplain =>
    obtain rfl := Except.ok.inj hopen
    have hnonce : (bytes.take 12).length = 12 := by
      rw [List.length_take]
      omega
    have hrest := (Gcm.decrypt?_eq_some_iff h hnonce).mp hplain
    refine ⟨⟨(bytes.take 12).toArray, by rw [List.size_toArray, hnonce]⟩, ?_⟩
    rw [encrypt, Vector.toList_mk, List.toList_toArray, ← hrest, List.take_append_drop,
      ← Base64Url.eq_encode_of_decode? hbytes, String.ofList_toList]
  · cases hopen

/-- The cipher of a secret that is long enough. -/
def sample : Cipher :=
  ⟨Aes256.roundKeys (Sha256.digest (Octets.ofText "a secret of enough length"))⟩

/-- A text with stray bits in its last digit, one that is padded and one with a nonce alone. -/
example : (["AB", "AA==", "AAAAAAAAAAAAAAAA"].map fun text =>
    match sample.decrypt text with
    | .ok _ => ""
    | .error e => e.message) = [
      "Security context unreadable: invalid encoding",
      "Security context unreadable: invalid encoding",
      "Security context unreadable: value too short"] := by decide +kernel

end Cipher

end SignOn
