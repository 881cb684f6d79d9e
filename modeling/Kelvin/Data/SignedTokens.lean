import Mathlib.Data.List.Basic

/-!
# Signed tokens

An authority issues tokens for claims that expire. Whoever presents a token may have got it from
anyone, but nobody else can sign.

* `Signer`: the signing and the checking of tokens.
* `Unforged`: in a run, a token that passes the check has been issued before.
* `decode_iff`: what is read from the tokens that are presented in such a run.
-/

namespace Kelvin

/-- Tokens that say what was signed until it expires. -/
class Signer (Claims Token : Type) where
  expiry : Claims → Int
  encode : Claims → Token
  decode : Int → Token → Option Claims
  decode_encode : ∀ now claims,
    decode now (encode claims) = if now < expiry claims then some claims else none

section Runs

variable {Claims Token ev : Type} [Signer Claims Token]

/-- Every token of the run that passes the check when it is presented is one of those issued
earlier. -/
def Unforged (issued : ev → Option Claims) (presented : ev → Option (Int × Token))
    (run : List ev) : Prop :=
  ∀ pre e post, run = pre ++ e :: post → ∀ now token, presented e = some (now, token) →
    ∀ claims : Claims, Signer.decode now token = some claims →
      ∃ e₀ ∈ pre, ∃ claims₀, issued e₀ = some claims₀ ∧ Signer.encode claims₀ = token

/-- The claims that are read from a token are the ones it was issued for, until they expire. -/
theorem Unforged.decode_iff {issued : ev → Option Claims} {presented : ev → Option (Int × Token)}
    {run pre post : List ev} {e : ev} (h : Unforged issued presented run)
    (hrun : run = pre ++ e :: post) {now : Int} {token : Token}
    (hpresented : presented e = some (now, token)) {claims : Claims} :
    Signer.decode now token = some claims ↔ now < Signer.expiry Token claims ∧
      ∃ e₀ ∈ pre, issued e₀ = some claims ∧ Signer.encode claims = token := by
  constructor
  · intro hdecode
    obtain ⟨e₀, he₀, claims₀, hissued, rfl⟩ := h pre e post hrun now token hpresented claims hdecode
    rw [Signer.decode_encode] at hdecode
    split at hdecode
    · next hnow =>
      obtain rfl := Option.some.inj hdecode
      exact ⟨hnow, e₀, he₀, hissued, rfl⟩
    · cases hdecode
  · rintro ⟨hnow, e₀, -, -, rfl⟩
    rw [Signer.decode_encode, if_pos hnow]

end Runs

end Kelvin
