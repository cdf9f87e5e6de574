import RootedStore.Proofs.Text.Utf8
import RootedStore.Url.Percent

/-!
# Decoding percent signs

Encoding is undone by decoding, whatever set of characters is encoded, as long as the percent sign is one
of them: what is left as it is is no percent sign then, and an encoded byte is read back from its digits.
-/
namespace RootedStore.Url

theorem utf8EncodeChar_ascii {c : Char} (h : c.toNat < 0x80) :
    String.utf8EncodeChar c = [UInt8.ofNat c.toNat] := if_pos (Nat.le_of_lt_succ h)

/-- A byte that is no percent sign stays, and what follows it is decoded. -/
theorem percentDecode_cons {b : UInt8} (hb : b ≠ 0x25) (rest : Bytes) :
    percentDecode (b :: rest) = b :: percentDecode rest := by
  rcases rest with _ | ⟨h, _ | ⟨l, rest⟩⟩
  · rfl
  · rfl
  · rw [percentDecode, if_neg hb]

/-- The digits of a half byte are one byte each, which has its value. -/
theorem utf8EncodeChar_hexDigit {n : Nat} (h : n < 16) :
    ∃ b : UInt8, String.utf8EncodeChar (Text.hexDigit true n) = [b] ∧
      Text.digitValue? 16 (Char.ofNat b.toNat) = some n := by
  have hall : ∀ n < 16, (Text.hexDigit true n).toNat < 0x80 ∧
      Text.digitValue? 16 (Char.ofNat (UInt8.ofNat (Text.hexDigit true n).toNat).toNat) = some n := by
    decide
  have ⟨hascii, hvalue⟩ := hall n h
  exact ⟨_, utf8EncodeChar_ascii hascii, hvalue⟩

theorem percentDecode_percentByte (b : UInt8) (rest : Bytes) :
    percentDecode ((percentByte b).flatMap String.utf8EncodeChar ++ rest) = b :: percentDecode rest := by
  have hb : b.toNat < 256 := b.toNat_lt
  obtain ⟨high, hhigh, hx⟩ := @utf8EncodeChar_hexDigit (b.toNat / 16) (by omega)
  obtain ⟨low, hlow, hy⟩ := @utf8EncodeChar_hexDigit (b.toNat % 16) (by omega)
  have hbytes : (percentByte b).flatMap String.utf8EncodeChar = [0x25, high, low] := by
    rw [percentByte, Text.hexByte, List.flatMap_cons, List.flatMap_cons, List.flatMap_cons, hhigh, hlow]
    rfl
  have hvalue : UInt8.ofNat (16 * (b.toNat / 16) + b.toNat % 16) = b := by
    rw [Nat.div_add_mod]
    exact UInt8.ofNat_toNat
  rw [hbytes, List.cons_append, List.cons_append, List.cons_append, List.nil_append, percentDecode,
    if_pos rfl, hx, hy]
  dsimp only
  rw [hvalue]

theorem percentDecode_flatMap_percentByte (bytes rest : Bytes) :
    percentDecode ((bytes.flatMap percentByte).flatMap String.utf8EncodeChar ++ rest) =
      bytes ++ percentDecode rest := by
  induction bytes with
  | nil => rfl
  | cons b bytes ih =>
    rw [List.flatMap_cons, List.flatMap_append, List.append_assoc, percentDecode_percentByte, ih]
    rfl

section sets

variable {inSet : Char → Bool} (hpercent : inSet '%' = true)
include hpercent

/-- A character is decoded to its bytes, whether it is in the set or not. -/
theorem percentDecode_encodeChar (c : Char) (rest : Bytes) :
    percentDecode ((encodeChar inSet c).flatMap String.utf8EncodeChar ++ rest) =
      String.utf8EncodeChar c ++ percentDecode rest := by
  rw [encodeChar]
  split
  · rename_i hc
    have ⟨hascii, hset⟩ := Bool.and_eq_true_iff.mp hc
    have hascii : c.toNat < 0x80 := of_decide_eq_true hascii
    have hne : UInt8.ofNat c.toNat ≠ 0x25 := by
      intro he
      have hnat : c.toNat = '%'.toNat := by
        rw [← Text.toNat_byte (show c.toNat < 256 by omega), he]
        rfl
      have hchar : c = '%' := by rw [← Char.ofNat_toNat c, hnat, Char.ofNat_toNat]
      simp [hchar, hpercent] at hset
    rw [List.flatMap_singleton, utf8EncodeChar_ascii hascii, List.cons_append, List.nil_append,
      percentDecode_cons hne]
    rfl
  · exact percentDecode_flatMap_percentByte _ rest

/-- What was encoded is decoded to the bytes of the text. -/
theorem percentDecode_percentEncode (s : List Char) (rest : Bytes) :
    percentDecode ((percentEncode inSet s).flatMap String.utf8EncodeChar ++ rest) =
      s.flatMap String.utf8EncodeChar ++ percentDecode rest := by
  induction s with
  | nil => rfl
  | cons c s ih =>
    rw [percentEncode, List.flatMap_cons, List.flatMap_append, List.append_assoc,
      percentDecode_encodeChar hpercent]
    rw [percentEncode] at ih
    rw [ih, List.flatMap_cons, List.append_assoc]

end sets

/-- No character is encoded as nothing. -/
theorem encodeChar_ne_nil (inSet : Char → Bool) (c : Char) : encodeChar inSet c ≠ [] := by
  rw [encodeChar]
  split
  · exact List.cons_ne_nil _ _
  · rw [String.utf8EncodeChar]
    split
    · exact List.cons_ne_nil _ _
    · split
      · exact List.cons_ne_nil _ _
      · split <;> exact List.cons_ne_nil _ _

end RootedStore.Url
