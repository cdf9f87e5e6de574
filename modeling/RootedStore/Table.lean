/-!
# Tables

Finite maps from texts, held as entries in strictly ascending order of their keys. The order is part
of the type, so two tables that agree on every key are equal (`Table.ext_find?`).
-/

namespace RootedStore

structure Table (α : Type) where
  entries : List (String × α)
  sorted : entries.Pairwise (·.1 < ·.1)

namespace Table

variable {α : Type}

def lookup (k : String) : List (String × α) → Option α
  | [] => none
  | (j, v) :: rest => if j = k then some v else lookup k rest

/-- The entries with the value of one key set, in order if they were. -/
def put (k : String) (v : α) : List (String × α) → List (String × α)
  | [] => [(k, v)]
  | (j, w) :: rest =>
    if k < j then (k, v) :: (j, w) :: rest
    else if k = j then (k, v) :: rest
    else (j, w) :: put k v rest

theorem mem_put {k : String} {v : α} {es : List (String × α)} {e : String × α}
    (h : e ∈ put k v es) : e = (k, v) ∨ e ∈ es := by
  induction es with
  | nil => simpa [put] using h
  | cons a rest ih =>
    obtain ⟨j, w⟩ := a
    rw [put] at h
    split at h
    · simpa using h
    · split at h
      · rcases List.mem_cons.1 h with h | h
        · exact .inl h
        · exact .inr (List.mem_cons_of_mem _ h)
      · rcases List.mem_cons.1 h with h | h
        · exact .inr (h ▸ List.mem_cons_self)
        · exact (ih h).imp_right (List.mem_cons_of_mem _)

theorem lt_of_not_lt_of_ne {a b : String} (h : ¬a < b) (hne : a ≠ b) : b < a :=
  Decidable.byContradiction fun hba => hne (String.le_antisymm (String.not_lt.1 hba) (String.not_lt.1 h))

theorem pairwise_put {k : String} {v : α} {es : List (String × α)}
    (h : es.Pairwise (·.1 < ·.1)) : (put k v es).Pairwise (·.1 < ·.1) := by
  induction es with
  | nil => simp [put]
  | cons a rest ih =>
    obtain ⟨j, w⟩ := a
    have ⟨hj, hrest⟩ := List.pairwise_cons.1 h
    rw [put]
    split
    · rename_i hk
      refine List.pairwise_cons.2 ⟨fun e he => ?_, h⟩
      rcases List.mem_cons.1 he with rfl | he
      · exact hk
      · exact String.lt_trans hk (hj e he)
    · rename_i hk
      split
      · rename_i hkj
        subst hkj
        exact List.pairwise_cons.2 ⟨hj, hrest⟩
      · rename_i hkj
        refine List.pairwise_cons.2 ⟨fun e he => ?_, ih hrest⟩
        rcases mem_put he with rfl | he
        · exact lt_of_not_lt_of_ne hk hkj
        · exact hj e he

theorem lookup_put (k j : String) (v : α) (es : List (String × α)) :
    lookup j (put k v es) = if k = j then some v else lookup j es := by
  induction es with
  | nil => simp [put, lookup]
  | cons a rest ih =>
    obtain ⟨i, w⟩ := a
    simp only [put]
    split
    · simp [lookup]
    · split
      · rename_i hki
        subst hki
        simp only [lookup]
        split <;> rfl
      · rename_i hki
        simp only [lookup, ih]
        split
        · rename_i hij
          rw [if_neg (fun h => hki (h.trans hij.symm))]
        · rfl

theorem lookup_filter (p : String → Bool) (k : String) (es : List (String × α)) :
    lookup k (es.filter fun e => p e.1) = if p k then lookup k es else none := by
  induction es with
  | nil => simp [lookup]
  | cons a rest ih =>
    obtain ⟨j, w⟩ := a
    by_cases hjk : j = k
    · subst hjk
      by_cases hp : p j <;> simp_all [lookup]
    · by_cases hp : p j <;> simp_all [lookup]

theorem lookup_eq_none {k : String} {es : List (String × α)} (h : ∀ e ∈ es, k < e.1) :
    lookup k es = none := by
  induction es with
  | nil => rfl
  | cons a rest ih =>
    obtain ⟨j, w⟩ := a
    rw [lookup, if_neg, ih fun e he => h e (List.mem_cons_of_mem _ he)]
    rintro rfl
    exact String.lt_irrefl _ (h (j, w) List.mem_cons_self)

/-- Ordered entries are determined by the values of the keys. -/
theorem eq_of_lookup {es fs : List (String × α)} (he : es.Pairwise (·.1 < ·.1))
    (hf : fs.Pairwise (·.1 < ·.1)) (h : ∀ k, lookup k es = lookup k fs) : es = fs := by
  induction es generalizing fs with
  | nil =>
    cases fs with
    | nil => rfl
    | cons b fs => simpa [lookup] using h b.1
  | cons a es ih =>
    have ⟨ha, hes⟩ := List.pairwise_cons.1 he
    cases fs with
    | nil => simpa [lookup] using h a.1
    | cons b fs =>
      have ⟨hb, hfs⟩ := List.pairwise_cons.1 hf
      have hlt {c d : String × α} {gs : List (String × α)} (hd : ∀ e ∈ gs, d.1 < e.1)
          (hc : lookup c.1 (d :: gs) = some c.2) (hcd : c.1 < d.1) : False := by
        have : lookup c.1 (d :: gs) = none := lookup_eq_none fun e he => by
          rcases List.mem_cons.1 he with rfl | he
          · exact hcd
          · exact String.lt_trans hcd (hd e he)
        simp [this] at hc
      have hkey : a.1 = b.1 := by
        refine Decidable.byContradiction fun hne => ?_
        by_cases hab : a.1 < b.1
        · exact hlt hb (by rw [← h a.1]; simp [lookup]) hab
        · exact hlt ha (by rw [h b.1]; simp [lookup]) (lt_of_not_lt_of_ne hab hne)
      have hval : a.2 = b.2 := by simpa [lookup, hkey] using h a.1
      have hab : a = b := Prod.ext hkey hval
      subst hab
      refine congrArg (a :: ·) (ih hes hfs fun k => ?_)
      by_cases hk : a.1 = k
      · subst hk
        rw [lookup_eq_none ha, lookup_eq_none hb]
      · simpa [lookup, hk] using h k

def empty : Table α := ⟨[], .nil⟩

def find? (t : Table α) (k : String) : Option α := lookup k t.entries

def contains (t : Table α) (k : String) : Bool := (t.find? k).isSome

def keys (t : Table α) : List String := t.entries.map (·.1)

def insert (t : Table α) (k : String) (v : α) : Table α := ⟨put k v t.entries, pairwise_put t.sorted⟩

def filterKeys (t : Table α) (p : String → Bool) : Table α :=
  ⟨t.entries.filter (fun e => p e.1), t.sorted.filter _⟩

def erase (t : Table α) (k : String) : Table α := t.filterKeys (· ≠ k)

theorem ext_find? {t u : Table α} (h : ∀ k, t.find? k = u.find? k) : t = u := by
  obtain ⟨es, hes⟩ := t
  obtain ⟨fs, hfs⟩ := u
  have : es = fs := eq_of_lookup hes hfs h
  subst this
  rfl

@[simp] theorem find?_empty (k : String) : (empty : Table α).find? k = none := rfl

theorem find?_insert (t : Table α) (k j : String) (v : α) :
    (t.insert k v).find? j = if k = j then some v else t.find? j := lookup_put ..

theorem find?_filterKeys (t : Table α) (p : String → Bool) (k : String) :
    (t.filterKeys p).find? k = if p k then t.find? k else none := lookup_filter ..

theorem find?_erase (t : Table α) (k j : String) :
    (t.erase k).find? j = if j = k then none else t.find? j := by
  rw [erase, find?_filterKeys]
  by_cases h : j = k <;> simp [h]

end Table

end RootedStore
