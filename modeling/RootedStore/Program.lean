/-!
# Programs

A program asks questions and goes on with the replies. What a reply may be depends on the question.
Programs are data, so everything they may ask is before the reader, whoever replies: `run` takes the
replies from a state, `interpret` puts a program over other questions in the place of every
question.
-/

namespace RootedStore

/-- A computation that asks questions of type `Q` on the way to its result. -/
inductive Program {Q : Type} (Reply : Q → Type) (α : Type) : Type where
  | done (a : α)
  | ask (q : Q) (next : Reply q → Program Reply α)

namespace Program

variable {Q : Type} {Reply : Q → Type} {α β γ : Type}

def bind : Program Reply α → (α → Program Reply β) → Program Reply β
  | .done a, f => f a
  | .ask q next, f => .ask q fun r => (next r).bind f

instance : Monad (Program Reply) where
  pure := .done
  bind := .bind

@[simp] theorem done_bind (a : α) (f : α → Program Reply β) : (Program.done a).bind f = f a := rfl

@[simp] theorem ask_bind (q : Q) (next : Reply q → Program Reply α) (f : α → Program Reply β) :
    (Program.ask q next).bind f = .ask q fun r => (next r).bind f := rfl

theorem bind_done (p : Program Reply α) : p.bind .done = p := by
  induction p with
  | done a => rfl
  | ask q next ih => exact congrArg (Program.ask q) (funext ih)

theorem bind_assoc (p : Program Reply α) (f : α → Program Reply β) (g : β → Program Reply γ) :
    (p.bind f).bind g = p.bind fun a => (f a).bind g := by
  induction p with
  | done a => rfl
  | ask q next ih => exact congrArg (Program.ask q) (funext ih)

instance : LawfulMonad (Program Reply) :=
  LawfulMonad.mk' _ bind_done (fun _ _ => rfl) bind_assoc

/-- The result when the replies come from a state, and the state afterwards. -/
def run {σ : Type} (answer : (q : Q) → σ → Reply q × σ) : Program Reply α → σ → α × σ
  | .done a, s => (a, s)
  | .ask q next, s => (next (answer q s).1).run answer (answer q s).2

theorem run_bind {σ : Type} (answer : (q : Q) → σ → Reply q × σ) (p : Program Reply α)
    (f : α → Program Reply β) (s : σ) :
    (p.bind f).run answer s = (f (p.run answer s).1).run answer (p.run answer s).2 := by
  induction p generalizing s with
  | done a => rfl
  | ask q next ih => exact ih _ _

/-- The program over other questions that puts a program in the place of every question. -/
def interpret {S : Type} {Other : S → Type} (f : (q : Q) → Program Other (Reply q)) :
    Program Reply α → Program Other α
  | .done a => .done a
  | .ask q next => (f q).bind fun r => (next r).interpret f

end Program

end RootedStore
