import RootedStore.Program

/-!
# What a program may ask

A program conforms if it asks only what is allowed and ends with a good result, whatever replies it gets,
as long as these are sound. It is built from programs that conform. What one run of a program asks, with
the replies that it happens to get, is a log; a program that goes on from the result of another one has
the logs of both, one after the other.
-/
namespace RootedStore.Program

variable {Q : Type} {Reply : Q → Type} {α β : Type}
variable {allowed : Q → Prop} {sound : (q : Q) → Reply q → Prop} {good : α → Prop} {better : β → Prop}

/-- Every question is allowed and the result is good, provided that the replies are sound. -/
def Conforms (allowed : Q → Prop) (sound : (q : Q) → Reply q → Prop) (good : α → Prop) :
    Program Reply α → Prop
  | .done a => good a
  | .ask q next => allowed q ∧ ∀ r, sound q r → (next r).Conforms allowed sound good

theorem conforms_bind {p : Program Reply α} {f : α → Program Reply β}
    (hp : p.Conforms allowed sound good) (hf : ∀ a, good a → (f a).Conforms allowed sound better) :
    (p.bind f).Conforms allowed sound better := by
  induction p with
  | done a => exact hf a hp
  | ask q next ih =>
    refine ⟨hp.1, ?_⟩
    intro r hr
    exact ih r (hp.2 r hr)

theorem Conforms.mono {allowed' : Q → Prop} {good' : α → Prop} {p : Program Reply α}
    (h : p.Conforms allowed sound good) (ha : ∀ q, allowed q → allowed' q) (hg : ∀ a, good a → good' a) :
    p.Conforms allowed' sound good' := by
  induction p with
  | done a => exact hg a h
  | ask q next ih =>
    refine ⟨ha q h.1, ?_⟩
    intro r hr
    exact ih r (h.2 r hr)

/-- A run to the end: what is asked on the way, what is replied, and the result. -/
inductive Ends : Program Reply α → List (Sigma Reply) → α → Prop where
  | done (a : α) : Ends (.done a) [] a
  | ask {q : Q} {next : Reply q → Program Reply α} {r : Reply q} {log : List (Sigma Reply)} {a : α}
      (rest : Ends (next r) log a) : Ends (.ask q next) (⟨q, r⟩ :: log) a

theorem ends_done_iff {a b : α} {log : List (Sigma Reply)} :
    (Program.done a).Ends log b ↔ log = [] ∧ b = a := by
  constructor
  · rintro ⟨⟩
    exact ⟨rfl, rfl⟩
  · rintro ⟨rfl, rfl⟩
    exact .done b

theorem ends_ask_iff {q : Q} {next : Reply q → Program Reply α} {log : List (Sigma Reply)} {a : α} :
    (Program.ask q next).Ends log a ↔ ∃ r rest, log = ⟨q, r⟩ :: rest ∧ (next r).Ends rest a := by
  constructor
  · rintro ⟨⟩
    exact ⟨_, _, rfl, ‹_›⟩
  · rintro ⟨r, rest, rfl, h⟩
    exact .ask h

/-- What is asked before the result is there, and what is asked after that. -/
theorem ends_bind_iff {p : Program Reply α} {f : α → Program Reply β} {log : List (Sigma Reply)} {b : β} :
    (p.bind f).Ends log b ↔ ∃ first a rest, log = first ++ rest ∧ p.Ends first a ∧ (f a).Ends rest b := by
  induction p generalizing log with
  | done a =>
    rw [done_bind]
    constructor
    · intro h
      exact ⟨[], a, log, rfl, .done a, h⟩
    · rintro ⟨first, a', rest, rfl, hp, hf⟩
      obtain ⟨rfl, rfl⟩ := ends_done_iff.mp hp
      exact hf
  | ask q next ih =>
    rw [ask_bind, ends_ask_iff]
    constructor
    · rintro ⟨r, tail, rfl, h⟩
      obtain ⟨first, a, rest, rfl, hp, hf⟩ := (ih r).mp h
      exact ⟨⟨q, r⟩ :: first, a, rest, rfl, .ask hp, hf⟩
    · rintro ⟨first, a, rest, rfl, hp, hf⟩
      obtain ⟨r, tail, rfl, h⟩ := ends_ask_iff.mp hp
      exact ⟨r, tail ++ rest, rfl, (ih r).mpr ⟨tail, a, rest, rfl, h, hf⟩⟩

theorem Ends.bind_done {p : Program Reply α} {f : α → Program Reply β} {log : List (Sigma Reply)} {a : α}
    {b : β} (h : p.Ends log a) (hf : f a = .done b) : (p.bind f).Ends log b := by
  refine ends_bind_iff.mpr ⟨log, a, [], (List.append_nil log).symm, h, ?_⟩
  rw [hf]
  exact .done b

/-- What is asked on the way when the replies come from a state. -/
def trace {σ : Type} (answer : (q : Q) → σ → Reply q × σ) : Program Reply α → σ → List (Sigma Reply)
  | .done _, _ => []
  | .ask q next, s => ⟨q, (answer q s).1⟩ :: (next (answer q s).1).trace answer (answer q s).2

theorem ends_trace {σ : Type} (answer : (q : Q) → σ → Reply q × σ) (p : Program Reply α) (s : σ) :
    p.Ends (p.trace answer s) (p.run answer s).1 := by
  induction p generalizing s with
  | done a => exact .done a
  | ask q next ih => exact .ask (ih _ _)

/-- A run of a program that conforms asks what is allowed and has a good result, if it got sound replies. -/
theorem Conforms.of_ends {p : Program Reply α} {log : List (Sigma Reply)} {a : α}
    (h : p.Conforms allowed sound good) (hends : p.Ends log a) (hs : ∀ x ∈ log, sound x.1 x.2) :
    good a ∧ ∀ x ∈ log, allowed x.1 := by
  induction hends with
  | done a => exact ⟨h, fun x hx => nomatch hx⟩
  | ask rest ih =>
    obtain ⟨hr, hlog⟩ := List.forall_mem_cons.mp hs
    obtain ⟨hgood, hrest⟩ := ih (h.2 _ hr) hlog
    exact ⟨hgood, List.forall_mem_cons.mpr ⟨h.1, hrest⟩⟩

/-- If there is a reply to every question, every program gets to an end. -/
theorem exists_ends (h : ∀ q, Nonempty (Reply q)) (p : Program Reply α) : ∃ log a, p.Ends log a := by
  induction p with
  | done a => exact ⟨[], a, .done a⟩
  | ask q next ih =>
    obtain ⟨r⟩ := h q
    obtain ⟨log, a, hrest⟩ := ih r
    exact ⟨⟨q, r⟩ :: log, a, .ask hrest⟩

/-- A sequence ends with the error of its first part, or as its second part does. -/
theorem ends_except_bind_iff {ε : Type} {p : ExceptT ε (Program Reply) α}
    {f : α → ExceptT ε (Program Reply) β} {log : List (Sigma Reply)} {r : Except ε β} :
    (p >>= f).run.Ends log r ↔
      (∃ e, p.run.Ends log (.error e) ∧ r = .error e) ∨
        ∃ first a rest, log = first ++ rest ∧ p.run.Ends first (.ok a) ∧ (f a).run.Ends rest r := by
  have hbind : (p >>= f).run = p.run.bind (ExceptT.bindCont f) := rfl
  rw [hbind, ends_bind_iff]
  constructor
  · rintro ⟨first, x, rest, rfl, hp, hf⟩
    cases x with
    | ok a => exact .inr ⟨first, a, rest, rfl, hp, hf⟩
    | error e =>
      obtain ⟨rfl, rfl⟩ := ends_done_iff.mp hf
      rw [List.append_nil]
      exact .inl ⟨e, hp, rfl⟩
  · rintro (⟨e, hp, rfl⟩ | ⟨first, a, rest, rfl, hp, hf⟩)
    · exact ⟨log, .error e, [], (List.append_nil log).symm, hp, .done _⟩
    · exact ⟨first, .ok a, rest, rfl, hp, hf⟩

/-- A sequence that succeeds ends as its second part does, after a first part that succeeded. -/
theorem ends_except_bind_ok_iff {ε : Type} {p : ExceptT ε (Program Reply) α}
    {f : α → ExceptT ε (Program Reply) β} {log : List (Sigma Reply)} {b : β} :
    (p >>= f).run.Ends log (.ok b) ↔
      ∃ first a rest, log = first ++ rest ∧ p.run.Ends first (.ok a) ∧ (f a).run.Ends rest (.ok b) := by
  rw [ends_except_bind_iff]
  constructor
  · rintro (⟨_, _, he⟩ | h)
    · cases he
    · exact h
  · exact .inr

/-- What a program that cannot fail asks is asked for its result as it is. -/
theorem ends_lift_iff {ε : Type} {p : Program Reply α} {log : List (Sigma Reply)} {r : Except ε α} :
    (ExceptT.lift p : ExceptT ε (Program Reply) α).run.Ends log r ↔ ∃ a, p.Ends log a ∧ r = .ok a := by
  have hlift : (ExceptT.lift p : ExceptT ε (Program Reply) α).run = p.bind fun a => .done (.ok a) := rfl
  rw [hlift, ends_bind_iff]
  constructor
  · rintro ⟨first, a, rest, rfl, hp, hf⟩
    obtain ⟨rfl, rfl⟩ := ends_done_iff.mp hf
    rw [List.append_nil]
    exact ⟨a, hp, rfl⟩
  · rintro ⟨a, hp, rfl⟩
    exact ⟨log, a, [], (List.append_nil log).symm, hp, .done _⟩

theorem ends_lift_bind_iff {ε : Type} {p : Program Reply α} {f : α → ExceptT ε (Program Reply) β}
    {log : List (Sigma Reply)} {r : Except ε β} :
    (ExceptT.lift p >>= f).run.Ends log r ↔
      ∃ first a rest, log = first ++ rest ∧ p.Ends first a ∧ (f a).run.Ends rest r := by
  rw [ends_except_bind_iff]
  constructor
  · rintro (⟨e, hp, _⟩ | ⟨first, a, rest, rfl, hp, hf⟩)
    · obtain ⟨_, _, he⟩ := ends_lift_iff.mp hp
      cases he
    · obtain ⟨_, hp, ha⟩ := ends_lift_iff.mp hp
      obtain rfl := Except.ok.inj ha
      exact ⟨first, a, rest, rfl, hp, hf⟩
  · rintro ⟨first, a, rest, rfl, hp, hf⟩
    exact .inr ⟨first, a, rest, rfl, ends_lift_iff.mpr ⟨a, hp, rfl⟩, hf⟩

variable {S : Type} {Other : S → Type} {f : (q : Q) → Program Other (Reply q)}

theorem interpret_bind (p : Program Reply α) (g : α → Program Reply β) :
    (p.bind g).interpret f = (p.interpret f).bind fun a => (g a).interpret f := by
  induction p with
  | done a => rfl
  | ask q next ih =>
    simp only [ask_bind, interpret, bind_assoc]
    exact congrArg ((f q).bind ·) (funext ih)

/-- Whoever replies to the other questions replies to these by way of the programs in their place. -/
theorem run_interpret {σ : Type} (answer : (s : S) → σ → Other s × σ) (p : Program Reply α) (s : σ) :
    (p.interpret f).run answer s = p.run (fun q => (f q).run answer) s := by
  induction p generalizing s with
  | done a => rfl
  | ask q next ih => exact (run_bind answer (f q) _ s).trans (ih _ _)

end RootedStore.Program
