import Mathlib.Data.List.Basic
import RootedStore.Path.Basic

/-!
# Canonical paths

A path is evaluated to its names, the components that are left on the stack. The rendering of names is
read back to the same names, so normalising is idempotent and its results are exactly the canonical
paths: a leading slash, no backslash, and no component that the stack would drop.
-/
namespace RootedStore.Path

/-- The components of a path that are left on the stack, in order. -/
def names (path : String) : List (List Char) := resolve (components path)

/-- The canonical path of a list of names. -/
def ofNames (ws : List (List Char)) : String := String.ofList (render ws)

/-- Every name after a slash; nothing at all where there is no name. -/
def spell (ws : List (List Char)) : List Char := ws.flatMap ('/' :: ·)

/-- A component that the stack keeps, and that is a single component when it is written. -/
structure IsName (w : List Char) : Prop where
  ne_nil : w ≠ []
  ne_here : w ≠ here
  ne_above : w ≠ above
  unbroken : ∀ c ∈ w, isSeparator c = false

/-- Whether a component other than the double dot is kept. -/
def isKept (w : List Char) : Bool := w ≠ [] ∧ w ≠ here

theorem normalize_eq (path : String) : normalize path = ofNames (names path) := rfl

theorem parent_eq (path : String) : parent path = ofNames (names path).dropLast := rfl

@[simp] theorem toList_ofNames (ws : List (List Char)) : (ofNames ws).toList = render ws :=
  String.toList_ofList

@[simp] theorem spell_nil : spell [] = [] := rfl

@[simp] theorem spell_cons (w : List Char) (ws : List (List Char)) :
    spell (w :: ws) = '/' :: w ++ spell ws := rfl

@[simp] theorem spell_append (ws vs : List (List Char)) : spell (ws ++ vs) = spell ws ++ spell vs := by
  simp [spell]

theorem spell_eq_nil {ws : List (List Char)} (h : spell ws = []) : ws = [] := by
  cases ws with
  | nil => rfl
  | cons w ws => simp at h

theorem render_of_ne_nil {ws : List (List Char)} (h : ws ≠ []) : render ws = spell ws := by
  cases ws with
  | nil => exact absurd rfl h
  | cons w ws => rfl

section pieces

variable {sep : Char → Bool}

theorem pieces_ne_nil (s : List Char) : pieces sep s ≠ [] := by
  cases s with
  | nil => simp [pieces]
  | cons c s =>
    rw [pieces]
    split
    · simp
    · split <;> simp

/-- A separator cuts the pieces of a text into those before it and those behind it. -/
theorem pieces_append {c : Char} (hc : sep c = true) (a b : List Char) :
    pieces sep (a ++ c :: b) = pieces sep a ++ pieces sep b := by
  induction a with
  | nil => simp [pieces, hc]
  | cons d a ih =>
    by_cases hd : sep d = true
    · simp [pieces, hd, ih]
    · cases ha : pieces sep a with
      | nil => exact absurd ha (pieces_ne_nil a)
      | cons w ws => simp [pieces, hd, ih, ha]

/-- A text without separators is its only piece. -/
theorem pieces_unbroken {w : List Char} (hw : ∀ c ∈ w, sep c = false) : pieces sep w = [w] := by
  induction w with
  | nil => rfl
  | cons c w ih =>
    have hc : sep c = false := hw c List.mem_cons_self
    have ht : pieces sep w = [w] := ih fun d hd => hw d (List.mem_cons_of_mem _ hd)
    simp [pieces, hc, ht]

theorem unbroken_of_mem_pieces {s w : List Char} (hw : w ∈ pieces sep s) :
    ∀ c ∈ w, sep c = false := by
  induction s generalizing w with
  | nil =>
    simp only [pieces, List.mem_singleton] at hw
    simp [hw]
  | cons d s ih =>
    rw [pieces] at hw
    split at hw
    · rcases List.mem_cons.mp hw with rfl | hw
      · simp
      · exact ih hw
    · rename_i hd
      have hd : sep d = false := by simpa using hd
      cases hs : pieces sep s with
      | nil => exact absurd hs (pieces_ne_nil s)
      | cons v vs =>
        rw [hs] at hw ih
        rcases List.mem_cons.mp hw with rfl | hw
        · intro c hc
          rcases List.mem_cons.mp hc with rfl | hc
          · exact hd
          · exact ih List.mem_cons_self c hc
        · exact ih (List.mem_cons_of_mem _ hw)

/-- Where the slash is the only separator that occurs, the pieces spell the text again. -/
theorem spell_pieces {s : List Char} (hs : ∀ c ∈ s, sep c = true ↔ c = '/') :
    spell (pieces sep s) = '/' :: s := by
  induction s with
  | nil => rfl
  | cons c s ih =>
    have ih := ih fun d hd => hs d (List.mem_cons_of_mem _ hd)
    rw [pieces]
    split
    · rename_i hc
      have hc : c = '/' := (hs c List.mem_cons_self).mp hc
      simp [hc, ih]
    · cases hp : pieces sep s with
      | nil => exact absurd hp (pieces_ne_nil s)
      | cons w ws =>
        rw [hp, spell_cons] at ih
        simpa using List.cons_inj_right '/' |>.mp ih

/-- Names that are spelled after an unbroken text are its pieces, with that text before them. -/
theorem pieces_spell {ws : List (List Char)} (hslash : sep '/' = true)
    (hws : ∀ w ∈ ws, ∀ c ∈ w, sep c = false) {v : List Char} (hv : ∀ c ∈ v, sep c = false) :
    pieces sep (v ++ spell ws) = v :: ws := by
  induction ws generalizing v with
  | nil => simpa using pieces_unbroken hv
  | cons w ws ih =>
    have hw : pieces sep (w ++ spell ws) = w :: ws :=
      ih (fun u hu => hws u (List.mem_cons_of_mem _ hu)) (hws w List.mem_cons_self)
    rw [spell_cons, List.cons_append, pieces_append hslash, pieces_unbroken hv, hw]
    rfl

end pieces

@[simp] theorem isSeparator_slash : isSeparator '/' = true := rfl

/-- What does not separate components is no slash. -/
theorem ne_slash_of_isSeparator {c : Char} (h : isSeparator c = false) : decide (c = '/') = false := by
  rw [isSeparator, Bool.or_eq_false_iff] at h
  exact h.1

/-- What is spelled by unbroken texts has them as its components, behind an empty one. -/
theorem components_of_unbroken {path : String} {ws : List (List Char)} (hp : path.toList = spell ws)
    (h : ∀ w ∈ ws, ∀ c ∈ w, isSeparator c = false) : components path = [] :: ws := by
  rw [components, hp]
  exact pieces_spell isSeparator_slash h (v := []) (by simp)

theorem components_append (a b : String) :
    components (a ++ "/" ++ b) = components a ++ components b := by
  have h : (a ++ "/" ++ b).toList = a.toList ++ '/' :: b.toList := by
    simp [String.toList_append]
  rw [components, h, pieces_append isSeparator_slash]
  rfl

/-- Without double dots the stack only skips components. -/
theorem foldl_push_plain {ws : List (List Char)} (h : above ∉ ws) (stack : List (List Char)) :
    ws.foldl push stack = (ws.filter isKept).reverse ++ stack := by
  induction ws generalizing stack with
  | nil => rfl
  | cons w ws ih =>
    have hw : w ≠ above := fun e => h (e ▸ List.mem_cons_self)
    have hws : above ∉ ws := fun e => h (List.mem_cons_of_mem _ e)
    rw [List.foldl_cons, ih hws]
    by_cases hk : w = [] ∨ w = here
    · have hf : isKept w = false := by simp only [isKept]; grind
      simp [push, hk, hf]
    · have hf : isKept w = true := by simp only [isKept]; grind
      simp [push, hk, hw, hf]

theorem resolve_append (ws vs : List (List Char)) :
    resolve (ws ++ vs) = (vs.foldl push (resolve ws).reverse).reverse := by
  simp [resolve]

theorem IsName.slash_not_mem {w : List Char} (h : IsName w) : '/' ∉ w := by
  intro hslash
  exact absurd (h.unbroken '/' hslash) (by decide)

theorem IsName.isKept {w : List Char} (h : IsName w) : isKept w = true := by
  simp [Path.isKept, h.ne_nil, h.ne_here]

theorem not_mem_above {ws : List (List Char)} (h : ∀ w ∈ ws, IsName w) : above ∉ ws :=
  fun hm => (h above hm).ne_above rfl

theorem filter_isKept {ws : List (List Char)} (h : ∀ w ∈ ws, IsName w) : ws.filter isKept = ws :=
  List.filter_eq_self.mpr fun w hw => (h w hw).isKept

/-- Names after an empty component are pushed one after the other. -/
theorem foldl_push_names {ws : List (List Char)} (h : ∀ w ∈ ws, IsName w) (stack : List (List Char)) :
    ([] :: ws).foldl push stack = ws.reverse ++ stack := by
  have hplain : above ∉ [] :: ws := by simpa [above] using not_mem_above h
  have hkept : ([] :: ws).filter isKept = ws := by simpa [isKept] using filter_isKept h
  rw [foldl_push_plain hplain, hkept]

theorem resolve_names {ws : List (List Char)} (h : ∀ w ∈ ws, IsName w) : resolve ([] :: ws) = ws := by
  rw [resolve, foldl_push_names h, List.append_nil, List.reverse_reverse]

theorem isName_push {stack : List (List Char)} {w : List Char} (hs : ∀ v ∈ stack, IsName v)
    (hw : ∀ c ∈ w, isSeparator c = false) : ∀ v ∈ push stack w, IsName v := by
  intro v hv
  rw [push] at hv
  split at hv
  · exact hs v hv
  · rename_i hskip
    split at hv
    · exact hs v (List.mem_of_mem_tail hv)
    · rename_i habove
      rcases List.mem_cons.mp hv with rfl | hv
      · exact ⟨fun e => hskip (.inl e), fun e => hskip (.inr e), habove, hw⟩
      · exact hs v hv

theorem isName_foldl_push {ws stack : List (List Char)} (hs : ∀ v ∈ stack, IsName v)
    (hws : ∀ w ∈ ws, ∀ c ∈ w, isSeparator c = false) : ∀ v ∈ ws.foldl push stack, IsName v := by
  induction ws generalizing stack with
  | nil => exact hs
  | cons w ws ih =>
    exact ih (isName_push hs (hws w List.mem_cons_self)) fun u hu => hws u (List.mem_cons_of_mem _ hu)

/-- What the stack leaves of a path are names. -/
theorem isName_of_mem_names {path : String} {w : List Char} (h : w ∈ names path) : IsName w := by
  refine isName_foldl_push (by simp) ?_ w (List.mem_reverse.mp h)
  intro v hv
  exact unbroken_of_mem_pieces hv

theorem components_ofNames {ws : List (List Char)} (hne : ws ≠ []) (h : ∀ w ∈ ws, IsName w) :
    components (ofNames ws) = [] :: ws := by
  refine components_of_unbroken ?_ fun w hw => (h w hw).unbroken
  rw [toList_ofNames, render_of_ne_nil hne]

@[simp] theorem names_ofNames_nil : names (ofNames []) = [] := rfl

/-- Names are read back from the path that they make. -/
theorem names_ofNames {ws : List (List Char)} (h : ∀ w ∈ ws, IsName w) : names (ofNames ws) = ws := by
  by_cases hne : ws = []
  · simp [hne]
  · rw [names, components_ofNames hne h, resolve_names h]

@[simp] theorem names_normalize (path : String) : names (normalize path) = names path :=
  names_ofNames fun _ hw => isName_of_mem_names hw

/-- Normalising is idempotent. -/
@[simp] theorem normalize_normalize (path : String) : normalize (normalize path) = normalize path := by
  rw [normalize_eq, names_normalize, ← normalize_eq]

theorem toList_of_canonical {path : String} (h : normalize path = path) :
    path.toList = render (names path) := by
  rw [← toList_ofNames, ← normalize_eq, h]

/-- Equal names make equal canonical paths. -/
theorem eq_of_names_eq {p q : String} (hp : normalize p = p) (hq : normalize q = q)
    (h : names p = names q) : p = q := by
  rw [← hp, ← hq, normalize_eq, normalize_eq, h]

theorem normalize_ofNames {ws : List (List Char)} (h : ∀ w ∈ ws, IsName w) :
    normalize (ofNames ws) = ofNames ws := by
  rw [normalize_eq, names_ofNames h]

/-- What a canonical path looks like: one slash at its start, none at its end unless it is the root,
no backslash, and between the slashes nothing that the stack would drop. -/
structure IsCanonical (path : String) : Prop where
  rooted : path.toList.head? = some '/'
  noBackslash : '\\' ∉ path.toList
  noTrailing : path ≠ "/" → path.toList.getLast? ≠ some '/'
  plain : path ≠ "/" → ∀ w ∈ (components path).tail, w ≠ [] ∧ w ≠ here ∧ w ≠ above

theorem mem_spell {ws : List (List Char)} {c : Char} (h : c ∈ spell ws) :
    c = '/' ∨ ∃ w ∈ ws, c ∈ w := by
  induction ws with
  | nil => simp at h
  | cons w ws ih =>
    simp only [spell_cons, List.cons_append, List.mem_cons, List.mem_append] at h
    rcases h with h | h | h
    · exact .inl h
    · exact .inr ⟨w, List.mem_cons_self, h⟩
    · rcases ih h with h | ⟨v, hv, hc⟩
      · exact .inl h
      · exact .inr ⟨v, List.mem_cons_of_mem _ hv, hc⟩

/-- Names do not end in a slash, so what they spell does not either. -/
theorem getLast?_spell {ws : List (List Char)} (h : ∀ w ∈ ws, IsName w) :
    (spell ws).getLast? ≠ some '/' := by
  rcases List.eq_nil_or_concat ws with rfl | ⟨init, w, rfl⟩
  · simp
  · have hw : IsName w := h w (by simp)
    rcases List.eq_nil_or_concat w with rfl | ⟨cs, c, rfl⟩
    · exact absurd rfl hw.ne_nil
    · intro hl
      have hs : spell (init.concat (cs.concat c)) = (spell init ++ '/' :: cs) ++ [c] := by simp
      rw [hs, List.getLast?_concat] at hl
      have hc : c = '/' := Option.some.inj hl
      exact hw.slash_not_mem (by simp [hc])

theorem isCanonical_ofNames {ws : List (List Char)} (h : ∀ w ∈ ws, IsName w) :
    IsCanonical (ofNames ws) := by
  by_cases hne : ws = []
  · subst hne
    constructor <;> simp [render, ofNames]
  · constructor
    · rw [toList_ofNames, render_of_ne_nil hne]
      cases ws with
      | nil => exact absurd rfl hne
      | cons w ws => rfl
    · rw [toList_ofNames, render_of_ne_nil hne]
      intro hm
      rcases mem_spell hm with hm | ⟨w, hw, hc⟩
      · exact absurd hm (by decide)
      · have := (h w hw).unbroken _ hc
        exact absurd this (by decide)
    · intro _
      rw [toList_ofNames, render_of_ne_nil hne]
      exact getLast?_spell h
    · intro _ w hw
      rw [components_ofNames hne h] at hw
      exact ⟨(h w hw).ne_nil, (h w hw).ne_here, (h w hw).ne_above⟩

/-- The canonical paths are those that normalising leaves as they are. -/
theorem isCanonical_iff {path : String} : IsCanonical path ↔ normalize path = path := by
  constructor
  · intro h
    by_cases hroot : path = "/"
    · subst hroot
      rfl
    · obtain ⟨rest, hrest⟩ : ∃ rest, path.toList = '/' :: rest := List.head?_eq_some_iff.mp h.rooted
      have hcomp : components path = [] :: pieces isSeparator rest := by
        rw [components, hrest]
        simp [pieces]
      have hnames : ∀ w ∈ pieces isSeparator rest, IsName w := by
        intro w hw
        have ⟨h₁, h₂, h₃⟩ := h.plain hroot w (by simpa [hcomp] using hw)
        exact ⟨h₁, h₂, h₃, unbroken_of_mem_pieces hw⟩
      have hspell : spell (pieces isSeparator rest) = '/' :: rest := by
        refine spell_pieces fun c hc => ?_
        have hne : c ≠ '\\' := by
          rintro rfl
          exact h.noBackslash (hrest ▸ List.mem_cons_of_mem _ hc)
        simp [isSeparator, hne]
      apply String.toList_injective
      rw [normalize_eq, toList_ofNames, names, hcomp, resolve_names hnames, hrest,
        render_of_ne_nil (pieces_ne_nil rest), hspell]
  · intro h
    rw [← h]
    exact isCanonical_ofNames fun _ hw => isName_of_mem_names hw

end RootedStore.Path
