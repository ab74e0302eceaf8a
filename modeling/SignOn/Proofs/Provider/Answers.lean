import SignOn.Proofs.Json.Leniency
import SignOn.Provider.Answers

/-!
# Answers are read leniently and without loss

Tokens and user records are read back from what is written for them. Members that are not known do
not matter, nor does the order of those that are (`answers_read_leniently`), as long as all names
are texts: a name with half of a surrogate pair spoils the answer (`spoils_sampleToken`).
-/

namespace SignOn

open Json (Document Value Member Item Blank Glyph ReadsLeniently)

namespace Token

/-- The record of a token takes the members of every token. -/
theorem fits_members (t : Token) : shape.Fits t.members :=
  .of_forall₂ (by decide) (by simp [shape, members, Json.Field.takes_of_nullable])

/-- A token is read back. -/
theorem ofJson_json (t : Token) : ofJson (Octets.ofText t.json) = .ok t := by
  rw [json, ofJson, Json.read_writeRecord (fits_members t)]
  rfl

/-- A token is read leniently. -/
theorem readsLeniently : ReadsLeniently ["access_token", "instance_url"] []
    ["id", "token_type", "scope", "signature", "issued_at"] json ofJson :=
  shape.readsLeniently rfl (by decide) (by simp [shape])
    (fun found found' h => by simp only [Json.Members.textOrEmpty, h]) ofJson_json

end Token

namespace UserRecord

/-- The record of a user takes the members of every user record. -/
theorem fits_members (u : UserRecord) : shape.Fits u.members :=
  .of_forall₂ (by decide) (by simp [shape, members, Json.Field.takes_of_nullable])

/-- A user record is read back. -/
theorem ofJson_json (u : UserRecord) : ofJson (Octets.ofText u.json) = .ok u := by
  rw [json, ofJson, Json.read_writeRecord (fits_members u)]
  rfl

/-- A user record is read leniently. -/
theorem readsLeniently : ReadsLeniently ["user_id", "organization_id"]
    ["preferred_username", "locale", "language", "zoneinfo"] ["role"] json ofJson :=
  shape.readsLeniently rfl (by decide) (by simp [shape])
    (fun found found' h => by simp only [Json.Members.textOrEmpty, h]) ofJson_json

end UserRecord

/-- Tokens and user records are read back, and other members of an answer do not matter. -/
theorem answers_read_leniently :
    ReadsLeniently ["access_token", "instance_url"] []
      ["id", "token_type", "scope", "signature", "issued_at"] Token.json Token.ofJson ∧
    ReadsLeniently ["user_id", "organization_id"]
      ["preferred_username", "locale", "language", "zoneinfo"] ["role"]
      UserRecord.json UserRecord.ofJson :=
  ⟨Token.readsLeniently, UserRecord.readsLeniently⟩

/-- A token without optional parts. -/
def sampleToken : Token where
  accessToken := "AT"
  instanceUrl := "https://na1.example.com"

/-- A member of an answer that is a string. -/
def textMember (name text : String) : Member Value where
  name := Json.plainGlyphs name
  item := { value := .string (Json.plainGlyphs text) }

/-- An answer with some members. -/
def answer (members : List (Member Value)) : Document := { value := .object [] members }

/-- The members of a token without optional parts. -/
def sampleMembers : List (Member Value) :=
  [textMember "access_token" "AT", textMember "instance_url" "https://na1.example.com"]

theorem ofJson_sampleMembers : Token.ofJson (answer sampleMembers).octets = .ok sampleToken := by
  have hread : Token.shape.read (answer sampleMembers).octets = .ok [("access_token", some "AT"),
      ("instance_url", some "https://na1.example.com")] :=
    Json.Shape.read_eq_ok_iff.mpr (by decide +kernel)
  rw [Token.ofJson, hread]
  rfl

/-- A member of an answer that is null. -/
def nullMember (name : String) : Member Value where
  name := Json.plainGlyphs name
  item := { value := .null }

/-- Neither another member, nor the order of those that are known, nor a `null` for a scope that is
missing changes a token; but there is none without an instance. -/
theorem answers_sampleMembers :
    Token.ofJson (answer (textMember "sfdc_site" "x" :: sampleMembers.reverse)).octets =
        .ok sampleToken ∧
      Token.ofJson (answer (sampleMembers ++ [nullMember "scope"])).octets = .ok sampleToken ∧
      ∃ fault, Token.ofJson (answer [textMember "access_token" "AT"]).octets = .error fault := by
  refine ⟨?_, ?_, ?_⟩
  · refine answers_read_leniently.1.rearranged _ _ _ _ _ _ _ rfl rfl ofJson_sampleMembers
      (by decide +kernel) ?_
    exact (List.reverse_perm _).symm
  · refine answers_read_leniently.1.nulled _ _ _ _ sampleMembers [] (nullMember "scope") "scope" _
      (by rfl) rfl ofJson_sampleMembers (by decide) (by decide +kernel) rfl (by decide +kernel)
  · exact answers_read_leniently.1.missing _ _ _ "instance_url" rfl (by decide) (by decide +kernel)

/-- A member that is named by half of a surrogate pair. -/
def sampleHalf : Member Value where
  name := [.unit ⟨0xD, false⟩ ⟨8, false⟩ ⟨0, false⟩ ⟨0, false⟩]
  item := { value := .null }

/-- A member that is not known spoils an answer if its name is no text. -/
theorem spoils_sampleToken : Token.ofJson (answer sampleMembers).octets = .ok sampleToken ∧
    (∀ name ∈ Token.shape.names, Json.text? sampleHalf.name ≠ some name) ∧
      ∃ fault, Token.ofJson (answer (sampleMembers ++ [sampleHalf])).octets = .error fault := by
  refine ⟨ofJson_sampleMembers, by decide +kernel, ?_⟩
  exact Token.readsLeniently.nameless _ [] _ sampleHalf rfl (by simp) (by decide)

end SignOn
