import Mathlib.Data.List.Basic
import Mathlib.Data.List.TakeDrop
import RootedStore.Json.Printer
import RootedStore.Json.Syntax

/-!
# Reading back strings and whole numbers

A string is read back from its quotes whatever its characters are, each from the way in which it is escaped. A
whole number is written as a numeral without fraction and exponent and without zeros in front, and that is read
back as long as nothing follows that would go on with it. The numeral stands for the number.
-/
namespace RootedStore.Json

open RootedStore.Json.Tree

/-- The characters between the parts of a text. -/
def IsSpace (c : Char) : Prop := c = ' ' ∨ c = '\n' ∨ c = '\t' ∨ c = '\r'

instance (c : Char) : Decidable (IsSpace c) := inferInstanceAs (Decidable (_ ∨ _))

theorem skipBlanks_append {blanks : List Char} (h : ∀ c ∈ blanks, IsSpace c) (s : List Char) :
    skipBlanks (blanks ++ s) = skipBlanks s := by
  rw [skipBlanks, List.dropWhile_append_of_pos]
  · rfl
  · simpa [IsSpace] using h

theorem skipBlanks_cons {c : Char} (h : ¬ IsSpace c) (s : List Char) : skipBlanks (c :: s) = c :: s := by
  rw [skipBlanks, List.dropWhile_cons_of_neg]
  simpa [IsSpace] using h

theorem isSpace_newline (style : Style) (depth : Nat) : ∀ c ∈ style.newline depth, IsSpace c := by
  cases style with
  | compact => simp [Style.newline]
  | pretty => simp [Style.newline, IsSpace]

/-- The digits of a control character. -/
theorem hex4?_control {n : Nat} (h : n < 32) :
    hex4? '0' '0' (Text.hexDigit false (n / 16)) (Text.hexDigit false (n % 16)) = some n := by
  have hall : ∀ n < 32,
      hex4? '0' '0' (Text.hexDigit false (n / 16)) (Text.hexDigit false (n % 16)) = some n := by decide +kernel
  exact hall n h

theorem readString_control {n : Nat} (h : n < 32) (read : List Char) (whole : Bool) (rest : List Char) :
    readString read whole ('\\' :: 'u' :: '0' :: '0' :: Text.hexDigit false (n / 16) ::
      Text.hexDigit false (n % 16) :: rest) = readString (Char.ofNat n :: read) whole rest := by
  have hpaired : ¬ (0xD800 ≤ n ∧ n < 0xE000) := by omega
  rw [readString, hex4?_control h]
  simp [hpaired]

theorem readString_letter {letter c : Char} (h : escaped? letter = some c) (read : List Char) (whole : Bool)
    (rest : List Char) : readString read whole ('\\' :: letter :: rest) = readString (c :: read) whole rest := by
  have hu : letter ≠ 'u' := by
    rintro rfl
    cases h
  rw [readString]
  · simp [h]
  · simp [hu]

/-- A character is read back from the way in which it is escaped. -/
theorem readString_escape (c : Char) (read : List Char) (whole : Bool) (rest : List Char) :
    readString read whole (escape c ++ rest) = readString (c :: read) whole rest := by
  have hletter {letter d : Char} (h : escaped? letter = some d) (hc : c = d) :
      readString read whole (['\\', letter] ++ rest) = readString (c :: read) whole rest :=
    hc ▸ readString_letter h read whole rest
  unfold escape
  split
  · exact hletter rfl ‹_›
  split
  · exact hletter rfl ‹_›
  split
  · exact hletter rfl ‹_›
  split
  · exact hletter rfl ‹_›
  split
  · exact hletter rfl ‹_›
  split
  · exact hletter rfl ‹_›
  split
  · exact hletter rfl ‹_›
  split
  · rename_i hcontrol
    have hbyte : c.toNat.toUInt8.toNat = c.toNat := Nat.mod_eq_of_lt (by omega)
    have hread := readString_control hcontrol read whole rest
    rw [Char.ofNat_toNat] at hread
    simpa [Text.hexByte, hbyte] using hread
  · rename_i hquote hslash _ _ _ _ _ hplain
    rw [List.singleton_append, readString]
    · simp [hplain, hslash]
    all_goals simp_all

theorem readString_flatMap_escape (cs read : List Char) (rest : List Char) :
    readString read true (cs.flatMap escape ++ '"' :: rest) =
      some (some (String.ofList (read.reverse ++ cs)), rest) := by
  induction cs generalizing read with
  | nil => simp [readString]
  | cons c cs ih =>
    rw [List.flatMap_cons, List.append_assoc, readString_escape, ih]
    simp

/-- A string is read back from its quotes. -/
theorem readString_quote (s : String) (rest : List Char) :
    ∃ tail, quote s ++ rest = '"' :: tail ∧ readString [] true tail = some (some s, rest) := by
  refine ⟨s.toList.flatMap escape ++ '"' :: rest, by simp [quote], ?_⟩
  rw [readString_flatMap_escape]
  simp

/-- What a number may be followed by: nothing that goes on with it. -/
def Stops (rest : List Char) : Prop :=
  ∀ c ∈ rest.head?, c.isDigit = false ∧ c ≠ '.' ∧ c ≠ 'e' ∧ c ≠ 'E'

/-- The numeral that a whole number is written as. Doubles are left out, they have no digits here. -/
def Number.numeral : Number → Numeral
  | .natural n => ⟨false, Nat.toDigits 10 n.toNat, [], none⟩
  | .negative k => ⟨true, Nat.toDigits 10 (k.val + 1), [], none⟩
  | .double _ => ⟨false, [], [], none⟩

theorem spanDigits_append {ds rest : List Char} (hds : ∀ c ∈ ds, c.isDigit = true) (h : Stops rest) :
    spanDigits (ds ++ rest) = (ds, rest) := by
  have hrest : rest.takeWhile Char.isDigit = [] ∧ rest.dropWhile Char.isDigit = rest := by
    cases rest with
    | nil => simp
    | cons c rest => simp [(h c rfl).1]
  rw [spanDigits, List.span_eq_takeWhile_dropWhile, List.takeWhile_append_of_pos hds,
    List.dropWhile_append_of_pos hds, hrest.1, hrest.2, List.append_nil]

theorem readExponent_of_stops {rest : List Char} (h : Stops rest) : readExponent rest = some (none, rest) := by
  cases rest with
  | nil => rfl
  | cons c rest =>
    have ⟨_, _, he, hE⟩ := h c rfl
    simp [readExponent, he, hE]

/-- The first digit of a number other than zero is not zero. -/
theorem head?_toDigits_ne_zero {n : Nat} (h : 0 < n) : (Nat.toDigits 10 n).head? ≠ some '0' := by
  induction n using Nat.strongRecOn with
  | ind n ih =>
    rw [Nat.toDigits_eq_if (by decide)]
    split
    · have hdigit : Nat.digitChar n ≠ '0' := fun hc => by
        rw [Nat.digitChar_eq_zero] at hc
        omega
      simpa using hdigit
    · have hrest := ih (n / 10) (by omega) (by omega)
      rwa [List.head?_append_of_ne_nil _ Nat.toDigits_ne_nil]

theorem toDigits_ne_zero_cons (n : Nat) (d : Char) (ds : List Char) : Nat.toDigits 10 n ≠ '0' :: d :: ds := by
  intro h
  rcases Nat.eq_zero_or_pos n with rfl | hn
  · cases h
  · exact head?_toDigits_ne_zero hn (by rw [h]; rfl)

theorem readUnsigned_toDigits (negative : Bool) (n : Nat) {rest : List Char} (h : Stops rest) :
    readUnsigned negative (Nat.toDigits 10 n ++ rest) =
      some (⟨negative, Nat.toDigits 10 n, [], none⟩, rest) := by
  have hdigits : ∀ c ∈ Nat.toDigits 10 n, c.isDigit = true :=
    fun c hc => Nat.isDigit_of_mem_toDigits (by decide) (by decide) hc
  rw [readUnsigned, spanDigits_append hdigits h]
  split
  · rename_i heq
    exact absurd (Prod.mk.inj heq).1 Nat.toDigits_ne_nil
  · rename_i heq
    exact absurd (Prod.mk.inj heq).1 (toDigits_ne_zero_cons n _ _)
  · rename_i heq
    have hpoint := (Prod.mk.inj heq).2
    exact absurd rfl (h '.' (by rw [hpoint]; rfl)).2.1
  · rename_i heq
    obtain ⟨rfl, rfl⟩ := Prod.mk.inj heq
    rw [readExponent_of_stops h]
    rfl

/-- Digits are taken in as long as the number that they spell fits 64 bits. -/
theorem significand_eq {ds : List Char} {n : Nat} (h : Nat.ofDigitChars 10 ds n < UInt64.size) :
    Numeral.significand ds n = (Nat.ofDigitChars 10 ds n, []) := by
  induction ds generalizing n with
  | nil => rfl
  | cons c ds ih =>
    rw [Nat.ofDigitChars_cons] at h ⊢
    have hzero : '0'.toNat = 48 := rfl
    rw [hzero, Nat.mul_comm] at h ⊢
    have hgrows : n * 10 + (c.toNat - 48) ≤ Nat.ofDigitChars 10 ds (n * 10 + (c.toNat - 48)) := by
      rw [Nat.ofDigitChars_eq_ofDigitChars_zero]
      exact Nat.le_add_right_of_le (Nat.le_mul_of_pos_left _ (Nat.pow_pos (by decide)))
    rw [Numeral.significand, if_pos (by omega), ih h]

theorem significand_toDigits {n : Nat} (h : n < UInt64.size) :
    Numeral.significand (Nat.toDigits 10 n) 0 = (n, []) := by
  have hvalue : Nat.ofDigitChars 10 (Nat.toDigits 10 n) 0 = n := Nat.ofDigitChars_toDigits (by decide) (by decide)
  rw [significand_eq (by rwa [hvalue]), hvalue]

/-- A number is whole. -/
def Number.IsWhole : Number → Prop
  | .natural _ | .negative _ => True
  | .double _ => False

instance : DecidablePred Number.IsWhole := fun n =>
  match n with
  | .natural _ | .negative _ => isTrue trivial
  | .double _ => isFalse id

variable {n : Number}

/-- The numeral stands for the number. -/
theorem number?_numeral (h : n.IsWhole) : n.numeral.number? = some n := by
  cases n with
  | natural n =>
    simp [Number.numeral, Numeral.number?, significand_toDigits n.toNat_lt]
  | negative k =>
    have hk : k.val + 1 ≤ 0x8000000000000000 := k.isLt
    simp [Number.numeral, Numeral.number?, significand_toDigits (Nat.lt_of_le_of_lt hk (by decide)), hk]
  | double bits => exact absurd h id

/-- The sign and the digits of a whole number. -/
theorem toList_text (h : n.IsWhole) :
    n.text.toList = if n.numeral.negative then '-' :: n.numeral.whole else n.numeral.whole := by
  cases n with
  | natural n => simp [Number.text, Number.numeral]
  | negative k => simp [Number.text, Number.numeral]
  | double bits => exact absurd h id

theorem toDigits_eq_cons (n : Nat) : ∃ c cs, Nat.toDigits 10 n = c :: cs ∧ c.isDigit = true := by
  obtain ⟨c, cs, hcs⟩ := List.exists_cons_of_ne_nil (Nat.toDigits_ne_nil (n := n) (b := 10))
  exact ⟨c, cs, hcs, Nat.isDigit_of_mem_toDigits (by decide) (by decide) (hcs ▸ List.mem_cons_self)⟩

/-- A whole number starts with its sign or with a digit. -/
theorem toList_text_eq_cons (h : n.IsWhole) :
    ∃ c cs, n.text.toList = c :: cs ∧ (c = '-' ∨ c.isDigit = true) := by
  rw [toList_text h]
  cases n with
  | natural n =>
    obtain ⟨c, cs, hcs, hdigit⟩ := toDigits_eq_cons n.toNat
    exact ⟨c, cs, hcs, .inr hdigit⟩
  | negative k => exact ⟨'-', _, rfl, .inl rfl⟩
  | double bits => exact absurd h id

theorem readNumeral_cons_of_isDigit {c : Char} (h : c.isDigit = true) (s : List Char) :
    readNumeral (c :: s) = readUnsigned false (c :: s) := by
  have hsign : c ≠ '-' := by
    rintro rfl
    exact absurd h (by decide)
  simp [readNumeral, hsign]

/-- A whole number is read back as the numeral that it is written as. -/
theorem readNumeral_text (h : n.IsWhole) {rest : List Char} (hrest : Stops rest) :
    readNumeral (n.text.toList ++ rest) = some (n.numeral, rest) := by
  rw [toList_text h]
  cases n with
  | natural n =>
    have hread := readUnsigned_toDigits false n.toNat hrest
    obtain ⟨c, cs, hcs, hdigit⟩ := toDigits_eq_cons n.toNat
    have hunsigned := readNumeral_cons_of_isDigit hdigit (cs ++ rest)
    rw [← List.cons_append, ← hcs] at hunsigned
    exact hunsigned.trans hread
  | negative k => exact readUnsigned_toDigits true (k.val + 1) hrest
  | double bits => exact absurd h id

end RootedStore.Json
