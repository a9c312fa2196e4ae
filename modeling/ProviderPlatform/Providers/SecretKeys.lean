import ProviderPlatform.Bundle.Types
import ProviderPlatform.Encoding.Base64

/-! # Secret keys at rest

The secret key of a PP is stored as the base64 of a salt, an initialization
vector and the ciphertext, under a key that is derived from the salt and the
secret of the deployment. -/
namespace ProviderPlatform
open Encoding

/-- Web Crypto, and the decoder of UTF-8 that puts a replacement for what is none. -/
structure WebPlatform where
  /-- PBKDF2 with 100000 iterations of SHA-256, for a key of 256 bits. -/
  deriveKey : Encoding.Bytes → Encoding.Bytes → Encoding.Bytes
  encrypt : Encoding.Bytes → Encoding.Bytes → Encoding.Bytes → Encoding.Bytes
  decrypt : Encoding.Bytes → Encoding.Bytes → Encoding.Bytes → Except Err Encoding.Bytes
  decodeText : Encoding.Bytes → String

def encodeText (text : String) : Encoding.Bytes := text.toUTF8.data.toList

/-- AES-GCM decrypts what it has encrypted, and a text is decoded from its own
encoding, unless it begins with a byte order mark. -/
structure WebPlatform.Lawful (web : WebPlatform) : Prop where
  decrypt_encrypt : ∀ key iv plaintext,
    web.decrypt key iv (web.encrypt key iv plaintext) = .ok plaintext
  decode_encode : ∀ text : String, text.toList.head? ≠ some (Char.ofNat 0xFEFF) →
    web.decodeText (encodeText text) = text

def saltLength : Nat := 16

def ivLength : Nat := 12

/-- What `encryptSk` hands back. -/
def sealedSk (salt iv encrypted : Encoding.Bytes) : String :=
  String.ofList (Base64.btoa (salt ++ iv ++ encrypted))

def decryptSk (web : WebPlatform) (ciphertext secret : String) : Except Err String :=
  match Base64.atob ciphertext.toList with
  | none => .error (.error "Failed to decode base64")
  | some combined => do
    let salt := combined.take saltLength
    let iv := (combined.take (saltLength + ivLength)).drop saltLength
    let encrypted := combined.drop (saltLength + ivLength)
    let key := web.deriveKey (encodeText secret) salt
    let decrypted ← web.decrypt key iv encrypted
    pure (web.decodeText decrypted)

/-- **Round trip.** What is sealed under a secret is opened with it. -/
theorem decryptSk_sealedSk {web : WebPlatform} (hweb : web.Lawful) {salt iv : Encoding.Bytes}
    (hsalt : salt.length = saltLength) (hiv : iv.length = ivLength) {plaintext : String}
    (hmark : plaintext.toList.head? ≠ some (Char.ofNat 0xFEFF)) (secret : String) :
    decryptSk web (sealedSk salt iv (web.encrypt (web.deriveKey (encodeText secret) salt) iv
      (encodeText plaintext))) secret = .ok plaintext := by
  have hboth : (salt ++ iv).length = saltLength + ivLength := by
    rw [List.length_append, hsalt, hiv]
  have hdecrypt := hweb.decrypt_encrypt (web.deriveKey (encodeText secret) salt) iv
    (encodeText plaintext)
  unfold decryptSk sealedSk
  rw [String.toList_ofList, Base64.atob_btoa]
  simp only [List.append_assoc salt iv, List.take_left' hsalt]
  rw [← List.append_assoc, List.take_left' hboth, List.drop_left' hboth, List.drop_left' hsalt,
    hdecrypt]
  exact congrArg Except.ok (hweb.decode_encode plaintext hmark)

end ProviderPlatform
