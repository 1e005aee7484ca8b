import Turnstile.Token.Compact
import Turnstile.Proofs.Encoding
import Turnstile.Proofs.Json.Shape

/-!
Compact tokens that were made with paired keys are opened again: the text of the claims
comes out as it went in.
-/

namespace Turnstile

/-- Everything can be signed, and what was signed is verified. -/
def TokenKeys.Paired (keys : TokenKeys) : Prop :=
  ∀ message, ∃ signature, keys.sign message = .ok signature ∧ keys.verify message signature = true

namespace CompactToken

/-! ### Parts -/

theorem splitLast?_append {front back : List Char} (h : '.' ∉ back) :
    splitLast? (front ++ '.' :: back) = some (front, back) := by
  have hne : ∀ c ∈ back.reverse, decide (c ≠ '.') = true := by
    intro c hc
    refine decide_eq_true ?_
    rintro rfl
    exact h (List.mem_reverse.mp hc)
  have hreverse : (front ++ '.' :: back).reverse = back.reverse ++ '.' :: front.reverse := by
    simp
  unfold splitLast?
  rw [if_pos (by simp)]
  simp only [hreverse, List.dropWhile_append_of_pos hne, List.takeWhile_append_of_pos hne]
  simp

theorem decode_encode (bs : Bytes) : decode (Base64.urlSafe.encode bs) = .ok bs := by
  unfold decode
  rw [Base64.decode?_encode_urlSafe]
  rfl

theorem textOfBytes_utf8 (cs : List Char) : textOfBytes (utf8 cs) = .ok (String.ofList cs) := by
  unfold textOfBytes
  rw [ofUtf8?_utf8]
  rfl

/-- The header that is written is read as it was. -/
theorem headerShape_read : headerShape.read header.text = .ok header := by
  refine Shape.read_record ⟨by decide, ?_, ?_⟩ (by decide)
  · intro f hf
    simp only [List.mem_cons, List.not_mem_nil, or_false] at hf
    rcases hf with rfl | rfl
    · exact .str "JWT"
    · exact .str "RS256"
  · intro f hf m hm
    simp only [List.mem_cons, List.not_mem_nil, or_false] at hf
    rcases hf with rfl | rfl
    · cases hm
      exact ⟨.optional (.text "JWT"), by decide⟩
    · cases hm
      exact ⟨.choice (by decide), by decide⟩

/-- It names the algorithm that is asked for. -/
theorem algorithmOf_header : algorithmOf (encodeText header.chars) = .ok "RS256" := by
  unfold algorithmOf encodeText
  rw [decode_encode]
  simp only [bind, Except.bind, textOfBytes_utf8]
  rw [show String.ofList header.chars = header.text from rfl, headerShape_read]
  rfl

/-! ### Tokens -/

/-- The part of a token that is signed: its header and its claims. -/
def signedPart (claims : TokenClaims) : List Char :=
  encodeText header.chars ++ '.' :: encodeText claims.toJson.chars

theorem make_of_sign {keys : TokenKeys} {claims : TokenClaims} {signature : Bytes}
    (h : keys.sign (utf8 (signedPart claims)) = .ok signature) :
    make keys claims =
      .ok (String.ofList (signedPart claims ++ '.' :: Base64.urlSafe.encode signature)) := by
  unfold signedPart at h
  unfold make
  simp only [bind, Except.bind, h]
  rfl

theorem claimsText_of_verify {keys : TokenKeys} {claims : TokenClaims} {signature : Bytes}
    (h : keys.verify (utf8 (signedPart claims)) signature = true) :
    claimsText keys
        (String.ofList (signedPart claims ++ '.' :: Base64.urlSafe.encode signature)) =
      .ok claims.toJson.text := by
  have hparts : splitLast? (signedPart claims) =
      some (encodeText header.chars, encodeText claims.toJson.chars) :=
    splitLast?_append (Base64.dot_not_mem_encode _)
  have hclaims : decode (encodeText claims.toJson.chars) = .ok (utf8 claims.toJson.chars) :=
    decode_encode _
  unfold claimsText
  rw [String.toList_ofList, splitLast?_append (Base64.dot_not_mem_encode _)]
  simp only [hparts, bind, Except.bind, algorithmOf_header, decode_encode, h, hclaims]
  exact textOfBytes_utf8 claims.toJson.chars

/-- A token that was made with paired keys is opened with them. -/
theorem claimsText_make {keys : TokenKeys} (hkeys : keys.Paired) (claims : TokenClaims) :
    ∃ token, make keys claims = .ok token ∧ claimsText keys token = .ok claims.toJson.text := by
  obtain ⟨signature, hsign, hverify⟩ := hkeys (utf8 (signedPart claims))
  exact ⟨_, make_of_sign hsign, claimsText_of_verify hverify⟩

end CompactToken

end Turnstile
