import DBClaw.Library.Text

/-! # Authenticated encryption of text
A cipher turns a text into a token, with fresh randomness for each token, and refuses to decrypt what is no
token. A token is longer than its text, so that no text is its own token. -/

namespace DBClaw

/-- **A cipher**: `encrypt nonce text` is a token of the text, and `decrypt` is `none` for what is no token. -/
structure Cipher where
  encrypt : ℕ → Text → Text
  decrypt : Text → Option Text
  decrypt_encrypt : ∀ nonce {text : Text}, text ≠ [] → decrypt (encrypt nonce text) = some text
  exists_eq_encrypt : ∀ {token text : Text}, decrypt token = some text → ∃ nonce, token = encrypt nonce text
  length_lt : ∀ {token text : Text}, decrypt token = some text → text.length < token.length

namespace Cipher

variable (c : Cipher)

/-- A token of a text. -/
def IsToken (token text : Text) : Prop := ∃ nonce, token = c.encrypt nonce text

variable {c}

/-- A token of a text is what decrypts to it. -/
theorem isToken_iff {token text : Text} (h : text ≠ []) :
    c.IsToken token text ↔ c.decrypt token = some text := by
  constructor
  · rintro ⟨nonce, rfl⟩
    exact c.decrypt_encrypt nonce h
  · exact c.exists_eq_encrypt

end Cipher

/-- **A token marks its text** with a character in front. -/
def markingCipher : Cipher where
  encrypt _ text := '*' :: text
  decrypt
    | '*' :: text => some text
    | _ => none
  decrypt_encrypt _ _ _ := rfl
  exists_eq_encrypt := by
    intro token text h
    split at h
    · exact ⟨0, by rw [Option.some.inj h]⟩
    · cases h
  length_lt := by
    intro token text h
    split at h
    · rw [← Option.some.inj h, List.length_cons]
      exact Nat.lt_succ_self _
    · cases h

end DBClaw
