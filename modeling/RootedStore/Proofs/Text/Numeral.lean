import RootedStore.Text.Bytes

/-!
# Numerals

A numeral is one digit or more of a base, and spells a number; zeros in front change nothing. What is read as a
number is exactly a numeral, and a number is written as one.
-/
namespace RootedStore.Text

/-- Whether a character is a digit of a base. The bases are those up to ten. -/
def IsDigit (base : Nat) (c : Char) : Prop := '0'.toNat ≤ c.toNat ∧ c.toNat < '0'.toNat + base

instance (base : Nat) (c : Char) : Decidable (IsDigit base c) := inferInstanceAs (Decidable (_ ∧ _))

/-- A text of digits and the number that it spells. -/
structure IsNumeral (base : Nat) (ds : List Char) (n : Nat) : Prop where
  ne_nil : ds ≠ []
  digits : ∀ c ∈ ds, IsDigit base c
  value : base.ofDigitChars ds 0 = n

variable {base n : Nat} {ds : List Char}

section reading

variable (hbase : base ≤ 10)
include hbase

theorem digitValue?_eq_some_iff {c : Char} {d : Nat} :
    digitValue? base c = some d ↔ IsDigit base c ∧ d = c.toNat - '0'.toNat := by
  have hzero : '0'.toNat = 48 := rfl
  have hle : ∀ a b : Char, a ≤ b ↔ a.toNat ≤ b.toNat := fun _ _ => Iff.rfl
  simp only [digitValue?, hle, IsDigit, hzero, Option.filter_eq_some_iff, decide_eq_true_eq]
  have hnine : '9'.toNat = 57 := rfl
  have hlower : 'a'.toNat = 97 ∧ 'f'.toNat = 102 := ⟨rfl, rfl⟩
  have hupper : 'A'.toNat = 65 ∧ 'F'.toNat = 70 := ⟨rfl, rfl⟩
  rw [hnine, hlower.1, hlower.2, hupper.1, hupper.2]
  split
  · grind
  · split
    · grind
    · split <;> grind

/-- Digits are read one after the other onto the number that those before them spell. -/
theorem foldlM_digitValue?_eq_some_iff {value : Nat} :
    ds.foldlM (fun value c => (digitValue? base c).map (value * base + ·)) value = some n ↔
      (∀ c ∈ ds, IsDigit base c) ∧ base.ofDigitChars ds value = n := by
  induction ds generalizing value with
  | nil => simp [Nat.ofDigitChars_nil]
  | cons c ds ih =>
    rw [List.foldlM_cons, List.forall_mem_cons, Nat.ofDigitChars_cons, Nat.mul_comm base value]
    cases hc : digitValue? base c with
    | none =>
      have hnot : ¬ IsDigit base c := by
        intro hd
        have hsome := (digitValue?_eq_some_iff hbase).mpr ⟨hd, rfl⟩
        rw [hc] at hsome
        cases hsome
      exact iff_of_false nofun fun h => hnot h.1.1
    | some d =>
      obtain ⟨hd, rfl⟩ := (digitValue?_eq_some_iff hbase).mp hc
      rw [Option.map_some, Option.bind_eq_bind, Option.bind_some, ih]
      simp [hd]

/-- What is read as a number is a numeral. -/
theorem digitsValue?_eq_some_iff : digitsValue? base ds = some n ↔ IsNumeral base ds n := by
  cases ds with
  | nil => exact iff_of_false nofun fun h => h.ne_nil rfl
  | cons c ds =>
    rw [digitsValue?, foldlM_digitValue?_eq_some_iff hbase]
    · exact ⟨fun ⟨hdigits, hvalue⟩ => ⟨List.cons_ne_nil _ _, hdigits, hvalue⟩, fun h => ⟨h.digits, h.value⟩⟩
    · exact List.cons_ne_nil _ _

end reading

section writing

variable (hbase : 1 < base) (hbase' : base ≤ 10)
include hbase hbase'

theorem isDigit_of_mem_toDigits {c : Char} (h : c ∈ Nat.toDigits base n) : IsDigit base c := by
  have hchar : ∀ d < 10, (Nat.digitChar d).toNat = '0'.toNat + d := by decide
  have hone : ∀ d < base, IsDigit base (Nat.digitChar d) := by
    intro d hd
    rw [IsDigit, hchar d (by omega)]
    omega
  induction n using Nat.strongRecOn with
  | ind n ih =>
    rw [Nat.toDigits_eq_if hbase] at h
    split at h
    · rename_i hn
      rw [List.mem_singleton.mp h]
      exact hone n hn
    · rename_i hn
      rcases List.mem_append.mp h with h | h
      · exact ih (n / base) (Nat.div_lt_self (by omega) hbase) h
      · rw [List.mem_singleton.mp h]
        exact hone _ (Nat.mod_lt _ (by omega))

/-- A number is written as a numeral. -/
theorem isNumeral_toDigits : IsNumeral base (Nat.toDigits base n) n :=
  ⟨Nat.toDigits_ne_nil, fun _ hc => isDigit_of_mem_toDigits hbase hbase' hc, Nat.ofDigitChars_toDigits hbase hbase'⟩

end writing

end RootedStore.Text
