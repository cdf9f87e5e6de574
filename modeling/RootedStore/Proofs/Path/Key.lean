import RootedStore.Path.Grammar
import RootedStore.Proofs.Path.Canonical

/-!
# Keys

A key spells a list of words, so its components are these words. A word may be a dot or a double dot: the
grammar lets a key through that stays where it is or climbs. A key without such words is a canonical path.
-/
namespace RootedStore.Path

theorem isSeparator_of_isKeyChar {c : Char} (h : isKeyChar c = true) : isSeparator c = false := by
  cases hs : isSeparator c with
  | false => rfl
  | true =>
    simp only [isSeparator, Bool.or_eq_true, decide_eq_true_eq] at hs
    rcases hs with rfl | rfl
    · exact absurd h (by decide)
    · exact absurd h (by decide)

theorem unbroken_of_isKeyWord {w : List Char} (h : isKeyWord w = true) : ∀ c ∈ w, isSeparator c = false := by
  have hall := (Bool.and_eq_true_iff.mp h).2
  intro c hc
  exact isSeparator_of_isKeyChar (List.all_eq_true.mp hall c hc)

/-- What words consist of: ASCII letters and digits, and three marks. -/
def IsWordChar (c : Char) : Prop :=
  ('A' ≤ c ∧ c ≤ 'Z') ∨ ('a' ≤ c ∧ c ≤ 'z') ∨ ('0' ≤ c ∧ c ≤ '9') ∨ c = '.' ∨ c = '_' ∨ c = '-'

theorem isKeyChar_iff {c : Char} : isKeyChar c = true ↔ IsWordChar c := by
  delta isKeyChar Char.isAlphanum Char.isAlpha Char.isUpper Char.isLower Char.isDigit
  simp only [Bool.or_eq_true, Bool.and_eq_true, decide_eq_true_eq, IsWordChar, Char.le_def]
  tauto

theorem isKeyWord_iff {w : List Char} : isKeyWord w = true ↔ w ≠ [] ∧ ∀ c ∈ w, IsWordChar c := by
  simp [isKeyWord, isKeyChar_iff]

/-- The keys are what one or more words spell. -/
theorem isKey_iff {path : String} : isKey path = true ↔
    ∃ ws, ws ≠ [] ∧ path.toList = spell ws ∧ ∀ w ∈ ws, isKeyWord w = true := by
  constructor
  · intro h
    rw [isKey] at h
    split at h
    · rename_i w ws hp
      refine ⟨w :: ws, nofun, ?_, List.all_eq_true.mp h⟩
      have hspell : spell (pieces (· = '/') path.toList) = '/' :: path.toList := spell_pieces (by simp)
      rw [hp] at hspell
      exact (List.cons.inj hspell).2.symm
    · cases h
  · rintro ⟨ws, hne, hp, hws⟩
    have hunbroken : ∀ w ∈ ws, ∀ c ∈ w, decide (c = '/') = false :=
      fun w hw c hc => ne_slash_of_isSeparator (unbroken_of_isKeyWord (hws w hw) c hc)
    have hpieces : pieces (· = '/') path.toList = [] :: ws := by
      rw [hp]
      exact pieces_spell rfl hunbroken (v := []) (by simp)
    cases ws with
    | nil => exact absurd rfl hne
    | cons w ws =>
      rw [isKey, hpieces]
      exact List.all_eq_true.mpr hws

theorem components_of_spell {path : String} {ws : List (List Char)} (hp : path.toList = spell ws)
    (hws : ∀ w ∈ ws, isKeyWord w = true) : components path = [] :: ws :=
  components_of_unbroken hp fun w hw => unbroken_of_isKeyWord (hws w hw)

/-- Whether a word of a path stands for the directory itself or for its parent. -/
def HasDots (path : String) : Prop := here ∈ components path ∨ above ∈ components path

instance (path : String) : Decidable (HasDots path) := inferInstanceAs (Decidable (_ ∨ _))

/-- A key without dots is the canonical path of its words. -/
theorem exists_names_of_isKey {path : String} (hkey : isKey path = true) (hdots : ¬ HasDots path) :
    ∃ ws, ws ≠ [] ∧ (∀ w ∈ ws, IsName w) ∧ path = ofNames ws ∧ components path = [] :: ws := by
  obtain ⟨ws, hne, hp, hws⟩ := isKey_iff.mp hkey
  have hc := components_of_spell hp hws
  refine ⟨ws, hne, ?_, ?_, hc⟩
  · intro w hw
    have hmem : w ∈ components path := hc ▸ List.mem_cons_of_mem _ hw
    have hword := hws w hw
    constructor
    · rintro rfl
      cases hword
    · rintro rfl
      exact hdots (.inl hmem)
    · rintro rfl
      exact hdots (.inr hmem)
    · exact unbroken_of_isKeyWord hword
  · rw [ofNames, render_of_ne_nil hne, ← hp, String.ofList_toList]

theorem canonical_of_isKey {path : String} (hkey : isKey path = true) (hdots : ¬ HasDots path) :
    normalize path = path ∧ names path ≠ [] := by
  obtain ⟨ws, hne, hnames, rfl, _⟩ := exists_names_of_isKey hkey hdots
  exact ⟨normalize_ofNames hnames, by rwa [names_ofNames hnames]⟩

end RootedStore.Path
