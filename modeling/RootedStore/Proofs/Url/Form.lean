import RootedStore.Proofs.Path.Canonical
import RootedStore.Proofs.Url.Percent

/-!
# Reading forms

A form is read piece by piece between its ampersands, pieces without a character left out. A piece is a name
and a value around its first equals sign; in both of them a plus sign is a space, and percent signs are decoded
after that. What is added to a form is read behind all that was in it, byte for byte as it was given.
-/
namespace RootedStore.Url

/-- The name and the value of a piece of a form. Without an equals sign all of it is the name. -/
def splitPair (s : List Char) : List Char × List Char :=
  (s.takeWhile (· ≠ '='), (s.dropWhile (· ≠ '=')).drop 1)

/-- The bytes that a name or a value in a form stands for. -/
def formDecode (s : List Char) : Bytes :=
  percentDecode ((s.map fun c => if c = '+' then ' ' else c).flatMap String.utf8EncodeChar)

/-- The names and values of a form in order, as bytes. -/
def formPairs (query : List Char) : List (Bytes × Bytes) :=
  ((Path.pieces (· = '&') query).filter (· ≠ [])).map fun s =>
    (formDecode (splitPair s).1, formDecode (splitPair s).2)

/-- The names and values of a form as texts, U+FFFD in the place of what is malformed. -/
def formTexts (query : List Char) : List (String × String) :=
  (formPairs query).map fun p => (Text.decodeLossy p.1, Text.decodeLossy p.2)

def encodePair (p : String × String) : Bytes × Bytes := (Text.encode p.1, Text.encode p.2)

def formByte (b : UInt8) : List Char :=
  if isFormByte b then [Char.ofNat b.toNat] else if b = 0x20 then ['+'] else percentByte b

theorem formEncode_eq (s : String) : formEncode s = (Text.encode s).flatMap formByte := rfl

/-- What stands for itself in a form is one byte as a character, and has no meaning of its own there. -/
theorem plain_of_isFormByte {b : UInt8} (h : isFormByte b = true) :
    String.utf8EncodeChar (Char.ofNat b.toNat) = [b] ∧ Char.ofNat b.toNat ∉ ['+', '%', '&', '='] := by
  have hall : ∀ n < 256, isFormByte (UInt8.ofNat n) = true →
      String.utf8EncodeChar (Char.ofNat n) = [UInt8.ofNat n] ∧ Char.ofNat n ∉ ['+', '%', '&', '='] := by
    decide +kernel
  have hb := hall b.toNat b.toNat_lt
  rw [UInt8.ofNat_toNat] at hb
  exact hb h

theorem percentByte_plain (b : UInt8) : ∀ c ∈ percentByte b, c ∉ ['+', '&', '='] := by
  have hdigit : ∀ n < 16, Text.hexDigit true n ∉ ['+', '&', '='] := by decide
  have hb : b.toNat < 256 := b.toNat_lt
  intro c hc
  rw [percentByte, Text.hexByte] at hc
  simp only [List.mem_cons, List.not_mem_nil, or_false] at hc
  rcases hc with rfl | rfl | rfl
  · decide
  · exact hdigit _ (by omega)
  · exact hdigit _ (by omega)

/-- No byte is written with a sign that cuts a form into pieces, or a piece into name and value. -/
theorem formByte_uncut (b : UInt8) : ∀ c ∈ formByte b, c ≠ '&' ∧ c ≠ '=' := by
  intro c hc
  rw [formByte] at hc
  split at hc
  · rename_i hform
    obtain rfl := List.mem_singleton.mp hc
    have hplain := (plain_of_isFormByte hform).2
    simp only [List.mem_cons, not_or] at hplain
    exact ⟨hplain.2.2.1, hplain.2.2.2.1⟩
  · split at hc
    · obtain rfl := List.mem_singleton.mp hc
      decide
    · have hplain := percentByte_plain b c hc
      simp only [List.mem_cons, not_or] at hplain
      exact ⟨hplain.2.1, hplain.2.2.1⟩

theorem formDecode_formByte (b : UInt8) (s : List Char) : formDecode (formByte b ++ s) = b :: formDecode s := by
  rw [formDecode, List.map_append, List.flatMap_append, formByte]
  split
  · rename_i hform
    have ⟨hbytes, hplain⟩ := plain_of_isFormByte hform
    simp only [List.mem_cons, not_or] at hplain
    have hne : b ≠ 0x25 := by
      rintro rfl
      exact hplain.2.1 rfl
    rw [List.map_singleton, if_neg hplain.1, List.flatMap_singleton, hbytes, List.cons_append, List.nil_append,
      percentDecode_cons hne, formDecode]
  · split
    · rename_i hspace
      subst hspace
      exact percentDecode_cons (by decide) _
    · have hplus : (percentByte b).map (fun c => if c = '+' then ' ' else c) = percentByte b := by
        refine (List.map_congr_left fun c hc => if_neg ?_).trans (List.map_id _)
        rintro rfl
        exact percentByte_plain b '+' hc List.mem_cons_self
      rw [hplus, percentDecode_percentByte, formDecode]

theorem formDecode_formEncode (s : String) : formDecode (formEncode s) = Text.encode s := by
  rw [formEncode_eq]
  induction Text.encode s with
  | nil => rfl
  | cons b bytes ih => rw [List.flatMap_cons, formDecode_formByte, ih]

theorem formEncode_uncut (s : String) : ∀ c ∈ formEncode s, c ≠ '&' ∧ c ≠ '=' := by
  intro c hc
  rw [formEncode_eq] at hc
  obtain ⟨b, _, hb⟩ := List.mem_flatMap.mp hc
  exact formByte_uncut b c hb

theorem splitPair_formPair (p : String × String) : splitPair (formPair p) = (formEncode p.1, formEncode p.2) := by
  have hname : ∀ c ∈ formEncode p.1, decide (c ≠ '=') = true :=
    fun c hc => decide_eq_true (formEncode_uncut p.1 c hc).2
  rw [splitPair, formPair, List.takeWhile_append_of_pos hname, List.dropWhile_append_of_pos hname]
  simp

theorem formPair_uncut (p : String × String) : ∀ c ∈ formPair p, decide (c = '&') = false := by
  intro c hc
  rw [formPair] at hc
  rcases List.mem_append.mp hc with hc | hc
  · exact decide_eq_false (formEncode_uncut _ c hc).1
  · rcases List.mem_cons.mp hc with rfl | hc
    · rfl
    · exact decide_eq_false (formEncode_uncut _ c hc).1

theorem formPairs_formPair (p : String × String) : formPairs (formPair p) = [encodePair p] := by
  have hkept : [formPair p].filter (· ≠ []) = [formPair p] := by simp [formPair]
  rw [formPairs, Path.pieces_unbroken (formPair_uncut p), hkept, List.map_singleton, splitPair_formPair,
    formDecode_formEncode, formDecode_formEncode]
  rfl

/-- An ampersand cuts a form into what is read before it and what is read behind it. -/
theorem formPairs_append (query more : List Char) :
    formPairs (query ++ '&' :: more) = formPairs query ++ formPairs more := by
  rw [formPairs, Path.pieces_append (by decide), List.filter_append, List.map_append]
  rfl

/-- What was in a form is read first, and after it the pairs that were added, each as it was given. -/
theorem formPairs_formAppend (query : List Char) (pairs : List (String × String)) :
    formPairs (formAppend query pairs) = formPairs query ++ pairs.map encodePair := by
  induction pairs generalizing query with
  | nil => simp [formAppend]
  | cons p pairs ih =>
    have hone : formPairs ((if query.isEmpty then [] else query ++ ['&']) ++ formPair p) =
        formPairs query ++ [encodePair p] := by
      cases query with
      | nil => exact formPairs_formPair p
      | cons c query =>
        have hcut : (if (c :: query).isEmpty then [] else c :: query ++ ['&']) ++ formPair p =
            c :: query ++ '&' :: formPair p := by simp
        rw [hcut, formPairs_append, formPairs_formPair]
    rw [formAppend, List.foldl_cons, ← formAppend, ih, hone, List.map_cons, List.append_assoc]
    rfl

theorem formTexts_formAppend (query : List Char) (pairs : List (String × String)) :
    formTexts (formAppend query pairs) = formTexts query ++ pairs := by
  have hback : (pairs.map encodePair).map (fun p => (Text.decodeLossy p.1, Text.decodeLossy p.2)) = pairs := by
    rw [List.map_map]
    refine (List.map_congr_left fun p _ => ?_).trans (List.map_id _)
    exact Prod.ext (Text.decodeLossy_encode p.1) (Text.decodeLossy_encode p.2)
  rw [formTexts, formPairs_formAppend, List.map_append, hback, ← formTexts]

end RootedStore.Url
