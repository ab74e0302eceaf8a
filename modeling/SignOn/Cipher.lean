import SignOn.Crypto.Gcm
import SignOn.Crypto.Sha256
import SignOn.Encoding.Base64Url
import SignOn.Error
import SignOn.Text.Quoted

/-!
# Sealed texts

A cipher turns octets into a text that is safe in a cookie and can be neither read nor changed
without the key: base64url of a nonce and the AES-256-GCM ciphertext with its tag. The key is the
SHA-256 digest of a secret, so all who share the secret read each other's texts.
-/

namespace SignOn

/-- A key for sealed texts, as its round keys. -/
structure Cipher where
  roundKeys : List Octets

/-- The part of a sealed text that is drawn afresh each time. -/
abbrev Nonce := Vector UInt8 12

namespace Cipher

/-- The least length of a secret, in octets. -/
def minSecretLength : Nat := 16

/-- The cipher of a secret. -/
def ofSecret (secret : String) : Except Error Cipher :=
  let octets := Octets.ofText secret
  if octets.length < minSecretLength then
    .error {
      kind := .config ("cookie secret must be at least " ++ toString minSecretLength ++ " bytes") }
  else .ok ⟨Aes256.roundKeys (Sha256.digest octets)⟩

/-- The sealed form of octets under a nonce. -/
def encrypt (c : Cipher) (nonce : Nonce) (octets : Octets) : String :=
  String.ofList (Base64Url.encode (nonce.toList ++ Gcm.encrypt c.roundKeys nonce.toList octets))

/-- The octets of a sealed text. -/
def decrypt (c : Cipher) (sealedText : String) : Except Error Octets :=
  match Base64Url.decode? sealedText.toList with
  | none => .error { kind := .contextUnreadable "invalid encoding" }
  | some octets =>
    if octets.length ≤ 12 then .error { kind := .contextUnreadable "value too short" }
    else
      match Gcm.decrypt? c.roundKeys (octets.take 12) (octets.drop 12) with
      | some text => .ok text
      | none => .error { kind := .contextUnreadable "decryption failed" }

/-- A cipher as diagnostics show it. -/
def describe (_ : Cipher) : String := Text.showRecord "ContextCipher" [("key", Text.redacted)]

/-- Only a text that was found but cannot be read fails to open. -/
theorem isContextUnreadable_of_decrypt {c : Cipher} {sealedText : String} {e : Error}
    (h : c.decrypt sealedText = .error e) : e.isContextUnreadable = true := by
  unfold decrypt at h
  split at h
  · cases h
    rfl
  split at h
  · cases h
    rfl
  split at h
  · cases h
  · cases h
    rfl

end Cipher

end SignOn
