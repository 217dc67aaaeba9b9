import ChatService.Password.Base64
import ChatService.Password.Sha256
import ChatService.Text.Encoding

/-!
# Passwords

A password is reduced to a digest of fixed length before it is hashed, so passwords of
any length are told apart. How a digest is hashed and checked is a parameter.
-/

namespace ChatService

namespace Password

/-- The text that stands for a password: the SHA-256 of its UTF-8 bytes in base64. -/
def digest (password : String) : String :=
  String.ofList (Base64.encode (Sha256.digest password.toUTF8.toList))

/-- The digest of a password, unless the password has no bytes. -/
def digest? (password : Text) : Except EncodeFault String := password.encode.map digest

@[simp] theorem digest?_ofString (password : String) : digest? (Text.ofString password) = .ok (digest password) := by
  simp only [digest?, Text.encode_ofString]
  rfl

/-- Two passwords have a digest, and the same one. -/
def SameDigest (password other : Text) : Prop := ∃ digest, digest? password = .ok digest ∧ digest? other = .ok digest

end Password

/-- A slow one-way function with a salt, and the check of a digest against a stored hash. -/
structure Hasher where
  /-- The hash of a digest with the salt of a number. -/
  hash (salt : Nat) (digest : String) : String
  /-- Whether a digest is the one that a hash was made of; there is no answer for a text that is no hash. -/
  check (digest hash : String) : Option Bool

namespace Hasher

/-- What a hasher promises: a hash is not empty, and a digest verifies exactly against the hashes made of it. -/
structure Exact (h : Hasher) : Prop where
  hash_ne_empty (salt : Nat) (digest : String) : h.hash salt digest ≠ ""
  check_hash (salt : Nat) (digest other : String) : h.check other (h.hash salt digest) = some (decide (other = digest))

/-- Whether a password is the one that was hashed. Nothing verifies against a text that is no hash, and a
password without bytes against none. -/
def verify (h : Hasher) (password : Text) (hash : String) : Bool :=
  hash ≠ "" &&
    match Password.digest? password with
    | .ok digest => (h.check digest hash).getD false
    | .error _ => false

/-- A hash that was made of a password, with some salt. -/
def Made (h : Hasher) (password : Text) (hash : String) : Prop :=
  ∃ salt digest, Password.digest? password = .ok digest ∧ hash = h.hash salt digest

/-- Against the hash of a password those of the same digest verify. -/
theorem Exact.verify_iff {h : Hasher} (exact : h.Exact) {password : Text} {hash : String} (made : h.Made password hash)
    (other : Text) : h.verify other hash = true ↔ Password.SameDigest password other := by
  obtain ⟨salt, digest, digested, rfl⟩ := made
  unfold verify Password.SameDigest
  rw [digested]
  cases found : Password.digest? other with
  | ok digest' => simp [exact.hash_ne_empty, exact.check_hash, eq_comm]
  | error fault => simp

/-! ## A hasher in plain sight -/

/-- A hasher whose hashes are the number of the salt, a dollar sign and the digest. It is exact, and hides
nothing. -/
def plain : Hasher where
  hash salt digest := toString salt ++ "$" ++ digest
  check digest hash :=
    match hash.toList.dropWhile (· != '$') with
    | [] => none
    | _ :: kept => some (decide (digest.toList = kept))

theorem plain_exact : plain.Exact where
  hash_ne_empty salt digest := by
    intro empty
    have empty := congrArg String.toList empty
    simp [plain] at empty
  check_hash salt digest other := by
    have digits : ∀ c ∈ (toString salt).toList, (c != '$') = true := by
      intro c member
      have member : c ∈ Nat.toDigits 10 salt := by simpa [Nat.toString_eq_repr, Nat.repr] using member
      have digit : c.isDigit = true := Nat.isDigit_of_mem_toDigits (by decide) (by decide) member
      rw [bne_iff_ne]
      rintro rfl
      exact absurd digit (by decide)
    have behind : (plain.hash salt digest).toList.dropWhile (· != '$') = '$' :: digest.toList := by
      simp only [plain, String.toList_append, List.append_assoc]
      rw [List.dropWhile_append_of_pos digits]
      rfl
    show (match (plain.hash salt digest).toList.dropWhile (· != '$') with
      | [] => none
      | _ :: kept => some (decide (other.toList = kept))) = _
    rw [behind]
    simp only [String.toList_inj]

end Hasher

end ChatService
