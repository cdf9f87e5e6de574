import Mathlib.Data.List.Basic
import RootedStore.Text.Bytes

/-!
# Decoding what was encoded

The bytes of a text are decoded to that text. A character is read back from the ranges that its lead byte
allows for the byte after it: no character is encoded in more bytes than it needs, and none is a surrogate.
-/
namespace RootedStore.Text

theorem toNat_byte {n : Nat} (h : n < 256) : (UInt8.ofNat n).toNat = n := by
  rw [UInt8.toNat_ofNat']
  exact Nat.mod_eq_of_lt h

theorem units_cons {b : UInt8} {rest : Bytes} {owed value low high : Nat}
    (h : leadByte? b.toNat = some (owed, value, low, high)) :
    units (b :: rest) = (tailBytes owed low high value rest).1.map Char.ofNat ::
      units (tailBytes owed low high value rest).2 := by
  rw [units, h]

theorem leadByte?_one {n : Nat} (h : n < 128) : leadByte? n = some (0, n, 0, 0) := if_pos h

theorem leadByte?_two {n : Nat} (h : 2 ≤ n) (h' : n < 32) :
    leadByte? (n + 192) = some (1, n, 0x80, 0xBF) := by
  have hall : ∀ m < 30, leadByte? (m + 2 + 192) = some (1, m + 2, 0x80, 0xBF) := by decide
  have := hall (n - 2) (by omega)
  rwa [Nat.sub_add_cancel h] at this

theorem leadByte?_three {n : Nat} (h : n < 16) : leadByte? (n + 224) =
    some (2, n, if n = 0 then 0xA0 else 0x80, if n = 13 then 0x9F else 0xBF) := by
  have hall : ∀ n < 16, leadByte? (n + 224) =
      some (2, n, if n = 0 then 0xA0 else 0x80, if n = 13 then 0x9F else 0xBF) := by decide
  exact hall n h

theorem leadByte?_four {n : Nat} (h : n < 5) : leadByte? (n + 240) =
    some (3, n, if n = 0 then 0x90 else 0x80, if n = 4 then 0x8F else 0xBF) := by
  have hall : ∀ n < 5, leadByte? (n + 240) =
      some (3, n, if n = 0 then 0x90 else 0x80, if n = 4 then 0x8F else 0xBF) := by decide
  exact hall n h

/-- A byte with six bits of a character, where the range of the byte allows it. -/
theorem tailBytes_cons {owed low high value n : Nat} {rest : Bytes} (hn : n < 64) (hlow : low ≤ n + 128)
    (hhigh : n + 128 ≤ high) :
    tailBytes (owed + 1) low high value (UInt8.ofNat (n + 128) :: rest) =
      tailBytes owed 0x80 0xBF (value * 64 + n) rest := by
  rw [tailBytes, toNat_byte (by omega), if_pos ⟨hlow, hhigh⟩, Nat.add_sub_cancel]

theorem tailBytes_next {owed value n : Nat} {rest : Bytes} (hn : n < 64) :
    tailBytes (owed + 1) 0x80 0xBF value (UInt8.ofNat (n + 128) :: rest) =
      tailBytes owed 0x80 0xBF (value * 64 + n) rest :=
  tailBytes_cons hn (by omega) (by omega)

section widths

variable {v : Nat} (rest : Bytes)

theorem units_one (h : v < 0x80) : units (UInt8.ofNat v :: rest) = some (Char.ofNat v) :: units rest := by
  have hlead : leadByte? (UInt8.ofNat v).toNat = some (0, v, 0, 0) := by
    rw [toNat_byte (by omega)]
    exact leadByte?_one h
  rw [units_cons hlead, tailBytes, Option.map_some]

theorem units_two (h : 0x80 ≤ v) (h' : v < 0x800) :
    units (UInt8.ofNat (v / 64 % 32 + 192) :: UInt8.ofNat (v % 64 + 128) :: rest) =
      some (Char.ofNat v) :: units rest := by
  have hlead : leadByte? (UInt8.ofNat (v / 64 % 32 + 192)).toNat = some (1, v / 64 % 32, 0x80, 0xBF) := by
    rw [toNat_byte (by omega)]
    exact leadByte?_two (by omega) (by omega)
  have hvalue : v / 64 % 32 * 64 + v % 64 = v := by omega
  rw [units_cons hlead, tailBytes_next (by omega), hvalue, tailBytes, Option.map_some]

/-- The range of the second byte excludes what two bytes could hold, and the surrogates. -/
theorem units_three (h : 0x800 ≤ v) (h' : v < 0x10000) (hs : v < 0xD800 ∨ 0xDFFF < v) :
    units (UInt8.ofNat (v / 4096 % 16 + 224) :: UInt8.ofNat (v / 64 % 64 + 128) ::
      UInt8.ofNat (v % 64 + 128) :: rest) = some (Char.ofNat v) :: units rest := by
  have hlead : leadByte? (UInt8.ofNat (v / 4096 % 16 + 224)).toNat = some (2, v / 4096 % 16,
      if v / 4096 % 16 = 0 then 0xA0 else 0x80, if v / 4096 % 16 = 13 then 0x9F else 0xBF) := by
    rw [toNat_byte (by omega)]
    exact leadByte?_three (by omega)
  have hlow : (if v / 4096 % 16 = 0 then 0xA0 else 0x80) ≤ v / 64 % 64 + 128 := by split <;> omega
  have hhigh : v / 64 % 64 + 128 ≤ if v / 4096 % 16 = 13 then 0x9F else 0xBF := by split <;> omega
  have hvalue : (v / 4096 % 16 * 64 + v / 64 % 64) * 64 + v % 64 = v := by omega
  rw [units_cons hlead, tailBytes_cons (by omega) hlow hhigh, tailBytes_next (by omega), hvalue, tailBytes,
    Option.map_some]

/-- The range of the second byte excludes what three bytes could hold, and what lies beyond U+10FFFF. -/
theorem units_four (h : 0x10000 ≤ v) (h' : v < 0x110000) :
    units (UInt8.ofNat (v / 262144 % 8 + 240) :: UInt8.ofNat (v / 4096 % 64 + 128) ::
      UInt8.ofNat (v / 64 % 64 + 128) :: UInt8.ofNat (v % 64 + 128) :: rest) =
      some (Char.ofNat v) :: units rest := by
  have hlead : leadByte? (UInt8.ofNat (v / 262144 % 8 + 240)).toNat = some (3, v / 262144 % 8,
      if v / 262144 % 8 = 0 then 0x90 else 0x80, if v / 262144 % 8 = 4 then 0x8F else 0xBF) := by
    rw [toNat_byte (by omega)]
    exact leadByte?_four (by omega)
  have hlow : (if v / 262144 % 8 = 0 then 0x90 else 0x80) ≤ v / 4096 % 64 + 128 := by split <;> omega
  have hhigh : v / 4096 % 64 + 128 ≤ if v / 262144 % 8 = 4 then 0x8F else 0xBF := by split <;> omega
  have hvalue : ((v / 262144 % 8 * 64 + v / 4096 % 64) * 64 + v / 64 % 64) * 64 + v % 64 = v := by omega
  rw [units_cons hlead, tailBytes_cons (by omega) hlow hhigh, tailBytes_next (by omega),
    tailBytes_next (by omega), hvalue, tailBytes, Option.map_some]

end widths

/-- A character is read back from its bytes, and what follows them is read after it. -/
theorem units_utf8EncodeChar (c : Char) (rest : Bytes) :
    units (String.utf8EncodeChar c ++ rest) = some c :: units rest := by
  have hvalid : c.toNat < 0xD800 ∨ 0xDFFF < c.toNat ∧ c.toNat < 0x110000 := c.valid
  have hback : Char.ofNat c.toNat = c := Char.ofNat_toNat c
  have hval : c.val.toNat = c.toNat := rfl
  rw [String.utf8EncodeChar, hval]
  generalize c.toNat = v at hvalid hback
  rw [← hback]
  split
  · exact units_one (v := v) rest (by omega)
  · split
    · exact units_two (v := v) rest (by omega) (by omega)
    · split
      · exact units_three (v := v) rest (by omega) (by omega) (by omega)
      · exact units_four (v := v) rest (by omega) (by omega)

theorem units_flatMap (cs : List Char) (rest : Bytes) :
    units (cs.flatMap String.utf8EncodeChar ++ rest) = cs.map some ++ units rest := by
  induction cs with
  | nil => rfl
  | cons c cs ih =>
    rw [List.flatMap_cons, List.append_assoc, units_utf8EncodeChar, ih]
    rfl

theorem mapM_id_map_some {α : Type} (l : List α) : (l.map some).mapM id = some l := by
  induction l with
  | nil => rfl
  | cons a l ih =>
    rw [List.map_cons, List.mapM_cons, ih]
    rfl

theorem units_encode (s : String) : units (encode s) = s.toList.map some := by
  simpa [encode, units] using units_flatMap s.toList []

/-- A text is decoded from its bytes. -/
theorem decode?_encode (s : String) : decode? (encode s) = some s := by
  rw [decode?, units_encode, mapM_id_map_some, Option.map_some, String.ofList_toList]

/-- Nothing of a text is replaced. -/
theorem decodeLossy_encode (s : String) : decodeLossy (encode s) = s := by
  have hchars : (s.toList.map some).map (·.getD (Char.ofNat 0xFFFD)) = s.toList := by
    rw [List.map_map]
    exact List.map_id _
  rw [decodeLossy, units_encode, hchars, String.ofList_toList]

end RootedStore.Text
