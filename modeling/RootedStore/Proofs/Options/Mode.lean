import RootedStore.Proofs.Options.Field
import RootedStore.Proofs.Text.Numeral

/-!
# Modes as texts

A mode may be given as a text: an octal numeral, the mark of such numerals before it or not. What is read is more
than that: any number of marks, and a plus sign behind them. Where neither a second mark nor a sign is in the text
the two agree, and everything else is refused.
-/
namespace RootedStore.Options

open RootedStore.Text (IsNumeral)

/-- The mark of octal numerals. -/
def mark : List Char := ['0', 'o']

/-- A text spells a mode: an octal numeral of at most twelve bits, with at most one mark before it. -/
def SpellsMode (s : String) (n : Nat) : Prop := ∃ lead ds, (Text.trim s).toList = lead ++ ds ∧
  (lead = [] ∨ lead = mark) ∧ IsNumeral 8 ds n ∧ n ≤ 0o7777

/-- A text is taken for a mode: the same with any number of marks, and perhaps a plus sign, before the digits. -/
def PassesForMode (s : String) (n : Nat) : Prop := ∃ k sign ds, (Text.trim s).toList =
  (List.replicate k mark).flatten ++ (sign ++ ds) ∧ (sign = [] ∨ sign = ['+']) ∧ IsNumeral 8 ds n ∧ n ≤ 0o7777

/-- All marks at the start of a text are dropped, and nothing else. -/
theorem exists_marks (t : List Char) : ∃ k, t = (List.replicate k mark).flatten ++ dropOctalMarks t := by
  induction t using dropOctalMarks.induct with
  | case1 rest ih =>
    obtain ⟨k, hk⟩ := ih
    refine ⟨k + 1, ?_⟩
    rw [dropOctalMarks, List.replicate_succ, List.flatten_cons, List.append_assoc, ← hk]
    rfl
  | case2 t hnone =>
    refine ⟨0, ?_⟩
    rw [dropOctalMarks]
    · rfl
    · exact hnone

theorem dropOctalMarks_marks (k : Nat) (t : List Char) :
    dropOctalMarks ((List.replicate k mark).flatten ++ t) = dropOctalMarks t := by
  induction k with
  | zero => rfl
  | succ k ih =>
    rw [List.replicate_succ, List.flatten_cons, List.append_assoc]
    exact ih

theorem dropOctalMarks_eq_self {t : List Char} (h : 'o' ∉ t) : dropOctalMarks t = t := by
  rw [dropOctalMarks]
  rintro rest rfl
  simp at h

theorem count_marks (k : Nat) : (List.replicate k mark).flatten.count 'o' = k := by
  simp [List.count_flatten, mark]

theorem plus_not_mem_marks (k : Nat) : '+' ∉ (List.replicate k mark).flatten := by
  simp [mark]

section numerals

variable {sign ds : List Char} {n : Nat}

theorem o_not_mem (hsign : sign = [] ∨ sign = ['+']) (hds : IsNumeral 8 ds n) : 'o' ∉ sign ++ ds := by
  have hdigits : 'o' ∉ ds := fun hm => absurd (hds.digits _ hm) (by decide)
  rcases hsign with rfl | rfl <;> simpa using hdigits

theorem plus_not_mem (hds : IsNumeral 8 ds n) : '+' ∉ ds :=
  fun hm => absurd (hds.digits _ hm) (by decide)

/-- What is read as an octal number: a numeral, behind marks and perhaps a sign. -/
theorem octal?_eq_some_iff {s : String} : octal? s = some n ↔ ∃ k sign ds, (Text.trim s).toList =
    (List.replicate k mark).flatten ++ (sign ++ ds) ∧ (sign = [] ∨ sign = ['+']) ∧ IsNumeral 8 ds n := by
  rw [octal?]
  generalize (Text.trim s).toList = t
  constructor
  · intro h
    obtain ⟨k, hk⟩ := exists_marks t
    split at h
    · rename_i ds hsign
      rw [hsign] at hk
      exact ⟨k, ['+'], ds, hk, .inr rfl, (Text.digitsValue?_eq_some_iff (by decide)).mp h⟩
    · exact ⟨k, [], _, hk, .inl rfl, (Text.digitsValue?_eq_some_iff (by decide)).mp h⟩
  · rintro ⟨k, sign, ds, rfl, hsign, hds⟩
    rw [dropOctalMarks_marks, dropOctalMarks_eq_self (o_not_mem hsign hds)]
    rcases hsign with rfl | rfl
    · rw [List.nil_append]
      split
      · exact absurd List.mem_cons_self (plus_not_mem hds)
      · exact (Text.digitsValue?_eq_some_iff (by decide)).mpr hds
    · exact (Text.digitsValue?_eq_some_iff (by decide)).mpr hds

/-- What spells a mode is what passes for it, as far as neither a second mark nor a sign is in the text. -/
theorem spellsMode_iff {s : String} : SpellsMode s n ↔
    PassesForMode s n ∧ '+' ∉ (Text.trim s).toList ∧ (Text.trim s).toList.count 'o' ≤ 1 := by
  constructor
  · rintro ⟨lead, ds, ht, hlead, hds, hn⟩
    have ho : ds.count 'o' = 0 := List.count_eq_zero.mpr (o_not_mem (.inl rfl) hds)
    have hmarks : ∃ k ≤ 1, lead = (List.replicate k mark).flatten := by
      rcases hlead with rfl | rfl
      · exact ⟨0, by omega, rfl⟩
      · exact ⟨1, by omega, rfl⟩
    obtain ⟨k, hk, rfl⟩ := hmarks
    refine ⟨⟨k, [], ds, ht, .inl rfl, hds, hn⟩, ?_, ?_⟩
    · rw [ht, List.mem_append, not_or]
      exact ⟨plus_not_mem_marks k, plus_not_mem hds⟩
    · rw [ht, List.count_append, count_marks, ho]
      exact hk
  · rintro ⟨⟨k, sign, ds, ht, hsign, hds, hn⟩, hplus, hcount⟩
    have hk : k ≤ 1 := by
      rw [ht, List.count_append, count_marks] at hcount
      omega
    have hsign : sign = [] := by
      refine hsign.resolve_right ?_
      rintro rfl
      exact hplus (by simp [ht])
    subst hsign
    refine ⟨_, ds, ht, ?_, hds, hn⟩
    obtain rfl | rfl : k = 0 ∨ k = 1 := by omega
    · exact .inl rfl
    · exact .inr rfl

end numerals

theorem readMode_string_eq_ok_iff {s : String} {m : UInt32} :
    readMode (.string s) = .ok m ↔ PassesForMode s m.toNat := by
  have hbound : m ≤ 0o7777 ↔ m.toNat ≤ 0o7777 := UInt32.le_iff_toNat_le
  rw [readMode_string, checkedMode_eq_ok_iff, octal?_eq_some_iff, hbound]
  constructor
  · rintro ⟨⟨k, sign, ds, ht, hsign, hds⟩, hm⟩
    exact ⟨k, sign, ds, ht, hsign, hds, hm⟩
  · rintro ⟨k, sign, ds, ht, hsign, hds, hm⟩
    exact ⟨⟨k, sign, ds, ht, hsign, hds⟩, hm⟩

theorem readMode_string_eq_error {s : String} (h : ∀ n, ¬ PassesForMode s n) :
    readMode (.string s) = .error (.invalidMode maskKey (.string s)) := by
  cases hread : readMode (.string s) with
  | ok m => exact absurd (readMode_string_eq_ok_iff.mp hread) (h _)
  | error why =>
    rw [readMode_string] at hread
    rw [error_of_checkedMode hread]

/-- A text passes for one mode at most, which is the one that is read. -/
theorem readMode_of_passesForMode {s : String} {n : Nat} (h : PassesForMode s n) :
    readMode (.string s) = .ok n.toUInt32 ∧ n.toUInt32.toNat = n := by
  have hback : n.toUInt32.toNat = n := by
    obtain ⟨_, _, _, _, _, _, hn⟩ := h
    exact Nat.mod_eq_of_lt (by omega)
  rw [readMode_string_eq_ok_iff, hback]
  exact ⟨h, rfl⟩

section options

variable {fields : List (String × Json.Value)} {s : String}

theorem value?_mask (h : valueAt (.object fields) maskKey = .string s) : value? fields maskKey = some (.string s) := by
  rw [value?_eq, h]

/-- The mode of accepted options is the one that the text passes for. -/
theorem readMode_of_ofValue {o : Options} (h : valueAt (.object fields) maskKey = .string s)
    (ho : ofValue (.object fields) = .ok o) : readMode (.string s) = .ok o.mask := by
  have ⟨_, _, _, hmask, _⟩ := ofFields_eq_ok_iff.mp (mapError_eq_ok_iff.mp ho)
  rw [value?_mask h, Option.map_some, Option.getD_some] at hmask
  exact hmask

/-- The mode is the only thing wrong with options of which every other field is admitted. -/
theorem ofFields_of_readMode_eq_error {why : OptionError} (h : valueAt (.object fields) maskKey = .string s)
    (hothers : ∀ f ≠ Field.mask, f.Admits (valueAt (.object fields) f.key))
    (hread : readMode (.string s) = .error why) : ofFields fields = .error why := by
  obtain ⟨root, hroot⟩ := (decides_root fields).ok.mpr (hothers .root (by decide))
  obtain ⟨namenode, hnamenode⟩ := (decides_namenode fields).ok.mpr (hothers .namenode (by decide))
  obtain ⟨user, huser⟩ := (decides_user fields).ok.mpr (hothers .user (by decide))
  simp only [ofFields, ← bind_assoc (m := Except OptionError)]
  rw [hroot, hnamenode, huser, value?_mask h, Option.map_some, Option.getD_some, hread]
  rfl

/-- Every other field must be admitted, and the text must pass for the mode. -/
theorem exists_mask_iff {n : Nat} (h : valueAt (.object fields) maskKey = .string s) :
    (∃ o, ofValue (.object fields) = .ok o ∧ o.mask.toNat = n) ↔
      (∀ f ≠ Field.mask, f.Admits (valueAt (.object fields) f.key)) ∧ PassesForMode s n := by
  constructor
  · rintro ⟨o, ho, rfl⟩
    have ⟨_, hadmits⟩ := exists_ofValue_iff.mp ⟨o, ho⟩
    exact ⟨fun f _ => hadmits f, readMode_string_eq_ok_iff.mp (readMode_of_ofValue h ho)⟩
  · rintro ⟨hothers, hpasses⟩
    have ⟨hread, hback⟩ := readMode_of_passesForMode hpasses
    have hadmits : ∀ f : Field, f.Admits (valueAt (.object fields) f.key) := by
      intro f
      by_cases hf : f = .mask
      · rw [hf, Field.key, h]
        exact .inr ⟨_, hread⟩
      · exact hothers f hf
    obtain ⟨o, ho⟩ := exists_ofValue_iff.mpr ⟨.inr ⟨fields, rfl⟩, hadmits⟩
    have hmask := readMode_of_ofValue h ho
    rw [hread] at hmask
    exact ⟨o, ho, by rw [← Except.ok.inj hmask, hback]⟩

/-- A text that passes for no mode is refused, and named in the error unless something before it is. -/
theorem exists_refusal (h : valueAt (.object fields) maskKey = .string s) (hnone : ∀ n, ¬ PassesForMode s n) :
    ∃ why, ofValue (.object fields) = .error (.invalidConfig why) ∧
      ((∀ f ≠ Field.mask, f.Admits (valueAt (.object fields) f.key)) → why = .invalidMode maskKey (.string s)) := by
  have hread := readMode_string_eq_error hnone
  cases ho : ofFields fields with
  | ok o =>
    have hmask := readMode_of_ofValue h (mapError_eq_ok_iff.mpr ho)
    rw [hread] at hmask
    cases hmask
  | error why =>
    refine ⟨why, congrArg (Except.mapError StorageError.invalidConfig) ho, fun hothers => ?_⟩
    rw [ofFields_of_readMode_eq_error h hothers hread] at ho
    exact (Except.error.inj ho).symm

/-- Where a mode is given as a text, options are accepted exactly if every other field is admitted and the text
passes for a mode, which is theirs. Otherwise they are refused, for the text if all else is right. What spells a
mode passes for it, and nothing else does but texts with a second mark or a plus sign. -/
theorem mode_text (h : valueAt (.object fields) maskKey = .string s) :
    (∀ n, (∃ o, ofValue (.object fields) = .ok o ∧ o.mask.toNat = n) ↔
      (∀ f ≠ Field.mask, f.Admits (valueAt (.object fields) f.key)) ∧ PassesForMode s n) ∧
    ((∀ n, ¬ PassesForMode s n) → ∃ why, ofValue (.object fields) = .error (.invalidConfig why) ∧
      ((∀ f ≠ Field.mask, f.Admits (valueAt (.object fields) f.key)) → why = .invalidMode maskKey (.string s))) ∧
    ∀ n, SpellsMode s n ↔
      PassesForMode s n ∧ '+' ∉ (Text.trim s).toList ∧ (Text.trim s).toList.count 'o' ≤ 1 :=
  ⟨fun _ => exists_mask_iff h, exists_refusal h, fun _ => spellsMode_iff⟩

/-- With two marks a text passes for a mode that it does not spell. -/
theorem mode_text_marks :
    (∃ o, ofValue (.object [(maskKey, .string "0o0o755"), (namenodeKey, .string "nn")]) = .ok o ∧
      o.mask.toNat = 0o755) ∧ ¬ SpellsMode "0o0o755" 0o755 := by
  have h : valueAt (.object [(maskKey, .string "0o0o755"), (namenodeKey, .string "nn")]) maskKey =
    .string "0o0o755" := rfl
  have ⟨haccepted, _, hspells⟩ := mode_text h
  have hread : readMode (.string "0o0o755") = .ok 0o755 := rfl
  have hpasses : PassesForMode "0o0o755" 0o755 := readMode_string_eq_ok_iff.mp hread
  refine ⟨(haccepted _).mpr ⟨?_, hpasses⟩, fun h => ?_⟩
  · rintro (_ | _ | _ | _ | _) hf
    · exact .inl rfl
    · exact ⟨"nn", rfl, 'n', by decide, by decide⟩
    · exact .inl rfl
    · exact absurd rfl hf
    · exact .inl rfl
  · exact absurd ((hspells _).mp h).2.2 (by decide)

/-- A text with a sign is taken for a mode, and spells none. -/
theorem signed_mode_accepted :
    (∃ o, ofValue (.object [(maskKey, .string "+755"), (namenodeKey, .string "nn")]) = .ok o) ∧
      ∀ n, ¬ SpellsMode "+755" n := by
  refine ⟨⟨{ sample with mask := 0o755 }, rfl⟩, fun n h => ?_⟩
  exact absurd (spellsMode_iff.mp h).2.1 (by decide)

end options

end RootedStore.Options
