import RootedStore.Json.Decode
import RootedStore.Proofs.Json.Lexical

/-!
# Reading back values

A value without doubles is read back from its text in either form: the text gives the tree of the value, and the
tree the value. The tree gives the value up to the number of levels that the reader allows, and a value that was
read has no more.
-/
namespace RootedStore.Json

open RootedStore.Json.Tree

/-- Every number in a value is whole. -/
inductive Value.IsWhole : Value → Prop where
  | null : IsWhole .null
  | bool (b : Bool) : IsWhole (.bool b)
  | number {n : Number} (h : n.IsWhole) : IsWhole (.number n)
  | string (s : String) : IsWhole (.string s)
  | array {vs : List Value} (h : ∀ v ∈ vs, IsWhole v) : IsWhole (.array vs)
  | object {fs : List (String × Value)} (h : ∀ f ∈ fs, IsWhole f.2) : IsWhole (.object fs)

theorem Value.isWhole_natural (n : UInt64) : (Value.number (.natural n)).IsWhole := .number trivial

theorem Value.isWhole_negative (k : Fin 0x8000000000000000) : (Value.number (.negative k)).IsWhole := .number trivial

mutual

/-- What the text of a value says. -/
def Value.tree : Value → Tree
  | .null => .null
  | .bool b => .bool b
  | .number n => .number n.numeral
  | .string s => .string (some s)
  | .array vs => .array (itemTrees vs)
  | .object fs => .object (fieldTrees fs)

def itemTrees : List Value → List Tree
  | [] => []
  | v :: vs => v.tree :: itemTrees vs

def fieldTrees : List (String × Value) → List (Option String × Tree)
  | [] => []
  | (k, v) :: fs => (some k, v.tree) :: fieldTrees fs

end

variable {style : Style} {depth fuel : Nat} {rest : List Char}

theorem readValue_append {blanks : List Char} (h : ∀ c ∈ blanks, IsSpace c) (s : List Char) :
    readValue fuel (blanks ++ s) = readValue fuel s := by
  cases fuel with
  | zero => simp [readValue]
  | succ fuel => simp [readValue, skipBlanks_append h]

/-- A sign or a digit starts a number. -/
theorem readValue_numeral {c : Char} (h : c = '-' ∨ c.isDigit = true) (s : List Char) :
    readValue (fuel + 1) (c :: s) = (readNumeral (c :: s)).map fun (m, r) => (.number m, r) := by
  have hne {d : Char} (hd : d ≠ '-' ∧ d.isDigit = false) : c ≠ d := by
    rintro rfl
    simp [hd.1, hd.2] at h
  have hblank : ¬ IsSpace c := by simp [IsSpace, hne]
  simp [readValue, skipBlanks_cons hblank, hne]

/-- A value that is read back from its text, whatever follows that does not go on with a number. Two steps for each
character are enough: one for a value and one for its place in an array or an object. -/
def Reads (style : Style) (depth : Nat) (v : Value) : Prop :=
  ∀ fuel rest, Stops rest → 2 * (v.chars style depth).length ≤ fuel →
    readValue fuel (v.chars style depth ++ rest) = some (v.tree, rest)

theorem stops_cons {c : Char} (h : IsSpace c ∨ c = ',' ∨ c = ']' ∨ c = '}') : Stops (c :: rest) := by
  intro d hd
  obtain rfl : c = d := by simpa using hd
  rcases h with (rfl | rfl | rfl | rfl) | rfl | rfl | rfl <;> decide

theorem stops_blanks {blanks : List Char} (h : ∀ c ∈ blanks, IsSpace c) (hrest : Stops rest) :
    Stops (blanks ++ rest) := by
  cases blanks with
  | nil => exact hrest
  | cons c blanks => exact stops_cons (.inl (h c List.mem_cons_self))

section steps

variable {s blanks : List Char} {t : Tree}

theorem readItems_comma (h : readValue fuel s = some (t, ',' :: rest)) (read : List Tree) :
    readItems (fuel + 1) read s = readItems fuel (t :: read) rest := by
  simp [readItems, h, skipBlanks_cons, IsSpace]

theorem readItems_close (hblanks : ∀ c ∈ blanks, IsSpace c)
    (h : readValue fuel s = some (t, blanks ++ ']' :: rest)) (read : List Tree) :
    readItems (fuel + 1) read s = some (read.reverse ++ [t], rest) := by
  simp [readItems, h, skipBlanks_append hblanks, skipBlanks_cons, IsSpace]

theorem readFields_comma (hblanks : ∀ c ∈ blanks, IsSpace c) (k : String)
    (h : readValue fuel s = some (t, ',' :: rest)) (read : List (Option String × Tree)) :
    readFields (fuel + 1) read (blanks ++ (quote k ++ ':' :: s)) =
      readFields fuel ((some k, t) :: read) rest := by
  obtain ⟨tail, htail, hread⟩ := readString_quote k (':' :: s)
  rw [htail, readFields, skipBlanks_append hblanks]
  simp [skipBlanks_cons, IsSpace, hread, h]

theorem readFields_close {close : List Char} (hblanks : ∀ c ∈ blanks, IsSpace c)
    (hclose : ∀ c ∈ close, IsSpace c) (k : String) (h : readValue fuel s = some (t, close ++ '}' :: rest))
    (read : List (Option String × Tree)) :
    readFields (fuel + 1) read (blanks ++ (quote k ++ ':' :: s)) =
      some (read.reverse ++ [(some k, t)], rest) := by
  obtain ⟨tail, htail, hread⟩ := readString_quote k (':' :: s)
  rw [htail, readFields, skipBlanks_append hblanks]
  simp [skipBlanks_append hclose, skipBlanks_cons, IsSpace, hread, h]

end steps

/-- The items of an array are read back one after the other. -/
theorem readItems_chars {close : List Char} (hclose : ∀ c ∈ close, IsSpace c) {v : Value} {vs : List Value}
    (hv : Reads style depth v) (hvs : ∀ w ∈ vs, Reads style depth w) (read : List Tree)
    (hfuel : 2 * ((v.chars style depth).length + (moreItems style depth vs).length) + 1 ≤ fuel) :
    readItems fuel read (style.newline depth ++ (v.chars style depth ++
        (moreItems style depth vs ++ (close ++ ']' :: rest)))) =
      some (read.reverse ++ v.tree :: itemTrees vs, rest) := by
  induction vs generalizing v read fuel with
  | nil =>
    obtain ⟨fuel, rfl⟩ : ∃ n, fuel = n + 1 := ⟨fuel - 1, by omega⟩
    have hlast := hv fuel (close ++ ']' :: rest) (stops_blanks hclose (stops_cons (by simp))) (by omega)
    rw [← readValue_append (isSpace_newline style depth)] at hlast
    exact readItems_close hclose hlast read
  | cons w ws ih =>
    obtain ⟨fuel, rfl⟩ : ∃ n, fuel = n + 1 := ⟨fuel - 1, by omega⟩
    simp only [moreItems, List.length_cons, List.length_append] at hfuel
    have hitem := hv fuel (moreItems style depth (w :: ws) ++ (close ++ ']' :: rest))
      (stops_cons (by simp)) (by omega)
    have hfuelRest : 2 * ((w.chars style depth).length + (moreItems style depth ws).length) + 1 ≤ fuel := by omega
    have hrest := ih (hvs w List.mem_cons_self) (fun u hu => hvs u (List.mem_cons_of_mem _ hu)) (v.tree :: read)
      hfuelRest
    rw [← readValue_append (isSpace_newline style depth)] at hitem
    simp only [moreItems, List.cons_append, List.append_assoc] at hitem ⊢
    rw [readItems_comma hitem, hrest]
    simp [itemTrees]

theorem colon_eq_cons (style : Style) : ∃ gap, style.colon = ':' :: gap ∧ ∀ c ∈ gap, IsSpace c := by
  cases style with
  | compact => exact ⟨[], rfl, by simp⟩
  | pretty => exact ⟨[' '], rfl, by simp [IsSpace]⟩

/-- The fields of an object are read back one after the other. -/
theorem readFields_chars {close : List Char} (hclose : ∀ c ∈ close, IsSpace c) {k : String} {v : Value}
    {fs : List (String × Value)} (hv : Reads style depth v) (hfs : ∀ f ∈ fs, Reads style depth f.2)
    (read : List (Option String × Tree))
    (hfuel : 2 * ((v.chars style depth).length + (moreFields style depth fs).length) + 1 ≤ fuel) :
    readFields fuel read (style.newline depth ++ (quote k ++ (style.colon ++ (v.chars style depth ++
        (moreFields style depth fs ++ (close ++ '}' :: rest)))))) =
      some (read.reverse ++ (some k, v.tree) :: fieldTrees fs, rest) := by
  obtain ⟨gap, hcolon, hgap⟩ := colon_eq_cons style
  have hnewline := isSpace_newline style depth
  induction fs generalizing k v read fuel with
  | nil =>
    obtain ⟨fuel, rfl⟩ : ∃ n, fuel = n + 1 := ⟨fuel - 1, by omega⟩
    have hlast := hv fuel (close ++ '}' :: rest) (stops_blanks hclose (stops_cons (by simp))) (by omega)
    rw [← readValue_append hgap] at hlast
    rw [hcolon]
    exact readFields_close hnewline hclose k hlast read
  | cons f fs ih =>
    obtain ⟨fuel, rfl⟩ : ∃ n, fuel = n + 1 := ⟨fuel - 1, by omega⟩
    simp only [moreFields, List.length_cons, List.length_append] at hfuel
    have hfield := hv fuel (moreFields style depth (f :: fs) ++ (close ++ '}' :: rest))
      (stops_cons (by simp)) (by omega)
    have hfuelRest : 2 * ((f.2.chars style depth).length + (moreFields style depth fs).length) + 1 ≤ fuel := by
      omega
    have hrest := ih (k := f.1) (hfs f List.mem_cons_self) (fun g hg => hfs g (List.mem_cons_of_mem _ hg))
      ((some k, v.tree) :: read) hfuelRest
    rw [← readValue_append hgap] at hfield
    simp only [moreFields, hcolon, List.cons_append, List.append_assoc] at hfield hrest ⊢
    rw [readFields_comma hnewline k hfield, hrest]
    simp [fieldTrees]

/-- The text of a value starts with no blank and does not start as the end of an array does. -/
theorem chars_eq_cons (style : Style) (depth : Nat) {v : Value} (h : v.IsWhole) :
    ∃ c cs, v.chars style depth = c :: cs ∧ ¬ IsSpace c ∧ c ≠ ']' := by
  cases h with
  | null => exact ⟨'n', _, rfl, by decide⟩
  | bool b =>
    cases b with
    | true => exact ⟨'t', _, rfl, by decide⟩
    | false => exact ⟨'f', _, rfl, by decide⟩
  | number h =>
    obtain ⟨c, cs, hcs, hc⟩ := toList_text_eq_cons h
    have hne {d : Char} (hd : d ≠ '-' ∧ d.isDigit = false) : c ≠ d := by
      rintro rfl
      simp [hd.1, hd.2] at hc
    exact ⟨c, cs, by rw [Value.chars, hcs], by simp [IsSpace, hne]⟩
  | string s => exact ⟨'"', _, by rw [Value.chars, quote], by decide⟩
  | @array vs h =>
    cases vs with
    | nil => exact ⟨'[', _, by rw [Value.chars], by decide⟩
    | cons v vs => exact ⟨'[', _, by rw [Value.chars], by decide⟩
  | @object fs h =>
    cases fs with
    | nil => exact ⟨'{', _, by rw [Value.chars], by decide⟩
    | cons f fs => exact ⟨'{', _, by rw [Value.chars], by decide⟩

/-- Reading a value takes a step. -/
theorem reads_of_succ {v : Value} (h : v.IsWhole)
    (hread : ∀ fuel rest, Stops rest → 2 * (v.chars style depth).length ≤ fuel + 1 →
      readValue (fuel + 1) (v.chars style depth ++ rest) = some (v.tree, rest)) : Reads style depth v := by
  intro fuel rest hrest hfuel
  obtain ⟨c, cs, hcs, -⟩ := chars_eq_cons style depth h
  obtain ⟨fuel, rfl⟩ : ∃ n, fuel = n + 1 := ⟨fuel - 1, by simp [hcs] at hfuel; omega⟩
  exact hread fuel rest hrest hfuel

theorem readValue_array {s cs : List Char} {c : Char} (hskip : skipBlanks s = c :: cs) (hend : c ≠ ']') :
    readValue (fuel + 1) ('[' :: s) = (readItems fuel [] s).map fun (ts, r) => (.array ts, r) := by
  simp [readValue, skipBlanks_cons, IsSpace, hskip, hend]

theorem readValue_object {s cs : List Char} {c : Char} (hskip : skipBlanks s = c :: cs) (hend : c ≠ '}') :
    readValue (fuel + 1) ('{' :: s) = (readFields fuel [] s).map fun (fs, r) => (.object fs, r) := by
  simp [readValue, skipBlanks_cons, IsSpace, hskip, hend]

theorem reads_array {vs : List Value} (hwhole : ∀ v ∈ vs, v.IsWhole)
    (h : ∀ v ∈ vs, Reads style (depth + 1) v) : Reads style depth (.array vs) := by
  refine reads_of_succ (.array hwhole) fun fuel rest _ hfuel => ?_
  cases vs with
  | nil => simp [Value.chars, readValue, skipBlanks_cons, IsSpace, Value.tree, itemTrees]
  | cons v vs =>
    simp only [Value.chars, List.length_cons, List.length_append] at hfuel
    obtain ⟨hv, hvs⟩ := List.forall_mem_cons.mp h
    have hitems :
        2 * ((v.chars style (depth + 1)).length + (moreItems style (depth + 1) vs).length) + 1 ≤ fuel := by omega
    obtain ⟨c, cs, hcs, hblank, hend⟩ := chars_eq_cons style (depth + 1) (hwhole v List.mem_cons_self)
    have hskip (s : List Char) :
        skipBlanks (style.newline (depth + 1) ++ (v.chars style (depth + 1) ++ s)) = c :: (cs ++ s) := by
      rw [skipBlanks_append (isSpace_newline style _), hcs, List.cons_append, skipBlanks_cons hblank]
    simp only [Value.chars, List.cons_append, List.append_assoc, List.nil_append]
    rw [readValue_array (hskip _) hend, readItems_chars (isSpace_newline style depth) hv hvs [] hitems]
    rfl

theorem reads_object {fs : List (String × Value)} (hwhole : ∀ f ∈ fs, f.2.IsWhole)
    (h : ∀ f ∈ fs, Reads style (depth + 1) f.2) : Reads style depth (.object fs) := by
  refine reads_of_succ (.object hwhole) fun fuel rest _ hfuel => ?_
  cases fs with
  | nil => simp [Value.chars, readValue, skipBlanks_cons, IsSpace, Value.tree, fieldTrees]
  | cons f fs =>
    simp only [Value.chars, List.length_cons, List.length_append] at hfuel
    obtain ⟨hf, hfs⟩ := List.forall_mem_cons.mp h
    have hfields :
        2 * ((f.2.chars style (depth + 1)).length + (moreFields style (depth + 1) fs).length) + 1 ≤ fuel := by omega
    have hquote : ¬ IsSpace '"' := by decide
    have hskip (s : List Char) : skipBlanks (style.newline (depth + 1) ++ (quote f.1 ++ s)) =
        '"' :: (f.1.toList.flatMap escape ++ ['"'] ++ s) := by
      rw [skipBlanks_append (isSpace_newline style _), quote, List.cons_append, skipBlanks_cons hquote]
    simp only [Value.chars, List.cons_append, List.append_assoc, List.nil_append]
    rw [readValue_object (hskip _) (by decide), readFields_chars (isSpace_newline style depth) hf hfs [] hfields]
    rfl

/-- A value is read back from its text. -/
theorem Value.IsWhole.reads {v : Value} (h : v.IsWhole) (style : Style) (depth : Nat) : Reads style depth v := by
  induction h generalizing depth with
  | null =>
    refine reads_of_succ .null fun fuel rest _ _ => ?_
    simp [Value.chars, Value.tree, readValue, skipBlanks_cons, IsSpace]
  | bool b =>
    refine reads_of_succ (.bool b) fun fuel rest _ _ => ?_
    cases b <;> simp [Value.chars, Value.tree, readValue, skipBlanks_cons, IsSpace]
  | number h =>
    refine reads_of_succ (.number h) fun fuel rest hrest _ => ?_
    obtain ⟨c, cs, hcs, hc⟩ := toList_text_eq_cons h
    have hread := readNumeral_text h hrest
    rw [hcs, List.cons_append] at hread
    rw [Value.chars, hcs, List.cons_append, readValue_numeral hc, hread]
    rfl
  | string s =>
    refine reads_of_succ (.string s) fun fuel rest _ _ => ?_
    obtain ⟨tail, htail, hread⟩ := readString_quote s rest
    rw [Value.chars, htail]
    simp [readValue, skipBlanks_cons, IsSpace, hread, Value.tree]
  | array h ih => exact reads_array h fun v hv => ih v hv (depth + 1)
  | object h ih => exact reads_object h fun f hf => ih f hf (depth + 1)

/-- The text of a value says its tree. -/
theorem parse?_text {v : Value} (h : v.IsWhole) : Tree.parse? (v.text style) = some v.tree := by
  have hread := h.reads style 0 (2 * (v.chars style 0).length + 2) [] (by simp [Stops]) (by omega)
  rw [List.append_nil] at hread
  simp [Tree.parse?, Value.text, hread, skipBlanks]

/-- A value as it is read: its fields are in the order of their keys, each key once, and no more than `n` arrays
and objects lie in one another. -/
inductive Value.Kept : Nat → Value → Prop where
  | null {n : Nat} : Kept n .null
  | bool {n : Nat} (b : Bool) : Kept n (.bool b)
  | number {n : Nat} (m : Number) : Kept n (.number m)
  | string {n : Nat} (s : String) : Kept n (.string s)
  | array {n : Nat} {vs : List Value} (h : ∀ v ∈ vs, Kept n v) : Kept (n + 1) (.array vs)
  | object {n : Nat} {fs : List (String × Value)} (h : ∀ f ∈ fs, Kept n f.2)
      (hsorted : fs.Pairwise (·.1 < ·.1)) : Kept (n + 1) (.object fs)

section fields

variable {fs es : List (String × Value)}

theorem put_of_forall_lt {k : String} (v : Value) (h : ∀ e ∈ es, e.1 < k) :
    Table.put k v es = es ++ [(k, v)] := by
  induction es with
  | nil => rfl
  | cons e es ih =>
    have hlt : e.1 < k := h e List.mem_cons_self
    have hne : k ≠ e.1 := fun heq => String.lt_irrefl k (heq ▸ hlt)
    rw [Table.put, if_neg (String.lt_asymm hlt), if_neg hne, ih fun e he => h e (List.mem_cons_of_mem _ he)]
    rfl

/-- Fields that are in order are set as they are. -/
theorem foldl_put_of_sorted (h : (es ++ fs).Pairwise (·.1 < ·.1)) :
    fs.foldl (fun es f => Table.put f.1 f.2 es) es = es ++ fs := by
  induction fs generalizing es with
  | nil => simp
  | cons f fs ih =>
    have hlast : ∀ e ∈ es, e.1 < f.1 := fun e he => (List.pairwise_append.mp h).2.2 e he f List.mem_cons_self
    rw [List.foldl_cons, put_of_forall_lt f.2 hlast, ih (by simpa using h)]
    simp

/-- Setting fields keeps them in order and makes none up. -/
theorem foldl_put_spec (fs : List (String × Value)) (h : es.Pairwise (·.1 < ·.1)) :
    (fs.foldl (fun es f => Table.put f.1 f.2 es) es).Pairwise (·.1 < ·.1) ∧
      ∀ e ∈ fs.foldl (fun es f => Table.put f.1 f.2 es) es, e ∈ es ∨ e ∈ fs := by
  induction fs generalizing es with
  | nil => exact ⟨h, fun e he => .inl he⟩
  | cons f fs ih =>
    have ⟨hsorted, hmem⟩ := ih (Table.pairwise_put (k := f.1) (v := f.2) h)
    refine ⟨hsorted, fun e he => ?_⟩
    rcases hmem e he with hput | hrest
    · rcases Table.mem_put hput with heq | hold
      · exact .inr (heq ▸ List.mem_cons_self)
      · exact .inl hold
    · exact .inr (List.mem_cons_of_mem _ hrest)

theorem kept_ofFields {n : Nat} (h : ∀ f ∈ fs, f.2.Kept n) : (Value.ofFields fs).Kept (n + 1) := by
  have ⟨hsorted, hmem⟩ := foldl_put_spec fs .nil
  exact .object (fun e he => h e ((hmem e he).resolve_left List.not_mem_nil)) hsorted

theorem isWhole_ofFields (h : ∀ f ∈ fs, f.2.IsWhole) : (Value.ofFields fs).IsWhole := by
  have ⟨_, hmem⟩ := foldl_put_spec fs .nil
  exact .object fun e he => h e ((hmem e he).resolve_left List.not_mem_nil)

end fields

mutual

/-- A value that was read has its fields in order and fewer levels than the reader allows. -/
theorem kept_of_value? {n : Nat} {v : Value} : ∀ {t : Tree}, Tree.value? (n + 1) t = some v → v.Kept n
  | .null, h => by
    cases h
    exact .null
  | .bool b, h => by
    cases h
    exact .bool b
  | .number m, h => by
    obtain ⟨number, -, rfl⟩ := Option.map_eq_some_iff.mp h
    exact .number number
  | .string s, h => by
    obtain ⟨string, -, rfl⟩ := Option.map_eq_some_iff.mp h
    exact .string string
  | .array ts, h => by
    cases n with
    | zero => cases h
    | succ n =>
      obtain ⟨vs, hvs, rfl⟩ := Option.map_eq_some_iff.mp h
      exact .array (kept_of_values? hvs)
  | .object fs, h => by
    cases n with
    | zero => cases h
    | succ n =>
      obtain ⟨fields, hfields, rfl⟩ := Option.map_eq_some_iff.mp h
      exact kept_ofFields (kept_of_fields? hfields)

theorem kept_of_values? {n : Nat} {vs : List Value} :
    ∀ {ts : List Tree}, Tree.values? (n + 1) ts = some vs → ∀ v ∈ vs, v.Kept n
  | [], h => by
    cases h
    simp
  | t :: ts, h => by
    simp only [Tree.values?, Option.bind_eq_bind, Option.bind_eq_some_iff, Option.pure_def, Option.some.injEq] at h
    obtain ⟨v, hv, ws, hws, rfl⟩ := h
    exact List.forall_mem_cons.mpr ⟨kept_of_value? hv, kept_of_values? hws⟩

theorem kept_of_fields? {n : Nat} {fs : List (String × Value)} :
    ∀ {ts : List (Option String × Tree)}, Tree.fields? (n + 1) ts = some fs → ∀ f ∈ fs, f.2.Kept n
  | [], h => by
    cases h
    simp
  | (key, t) :: ts, h => by
    simp only [Tree.fields?, Option.bind_eq_bind, Option.bind_eq_some_iff, Option.pure_def, Option.some.injEq] at h
    obtain ⟨k, -, v, hv, ws, hws, rfl⟩ := h
    exact List.forall_mem_cons.mpr ⟨kept_of_value? hv, kept_of_fields? hws⟩

end

theorem values?_itemTrees {n : Nat} {vs : List Value} (h : ∀ v ∈ vs, Tree.value? n v.tree = some v) :
    Tree.values? n (itemTrees vs) = some vs := by
  induction vs with
  | nil => rfl
  | cons v vs ih =>
    have hrest := ih fun w hw => h w (List.mem_cons_of_mem _ hw)
    simp [itemTrees, Tree.values?, h v List.mem_cons_self, hrest]

theorem fields?_fieldTrees {n : Nat} {fs : List (String × Value)}
    (h : ∀ f ∈ fs, Tree.value? n f.2.tree = some f.2) : Tree.fields? n (fieldTrees fs) = some fs := by
  induction fs with
  | nil => rfl
  | cons f fs ih =>
    have hrest := ih fun g hg => h g (List.mem_cons_of_mem _ hg)
    simp [fieldTrees, Tree.fields?, h f List.mem_cons_self, hrest]

/-- The tree of a value stands for the value. -/
theorem Value.Kept.value?_tree {n : Nat} {v : Value} (h : v.Kept n) (hwhole : v.IsWhole) :
    Tree.value? (n + 1) v.tree = some v := by
  induction h with
  | null => rfl
  | bool b => rfl
  | number m =>
    cases hwhole with
    | number hm => simp [Value.tree, Tree.value?, number?_numeral hm]
  | string s => rfl
  | array h ih =>
    cases hwhole with
    | array hitems =>
      have hvalues := values?_itemTrees fun v hv => ih v hv (hitems v hv)
      simp [Value.tree, Tree.value?, hvalues]
  | @object n fs h hsorted ih =>
    cases hwhole with
    | object hmembers =>
      have hvalues := fields?_fieldTrees fun f hf => ih f hf (hmembers f hf)
      have hset : fs.foldl (fun es f => Table.put f.1 f.2 es) [] = fs := foldl_put_of_sorted hsorted
      simp [Value.tree, Tree.value?, hvalues, Value.ofFields, hset]

end RootedStore.Json
