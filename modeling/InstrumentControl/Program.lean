/-! Programs that perform operations one after the other and go on by what each of them answers.  A
program is a finite tree: `done` gives the result, and `step` performs an operation and has a
continuation for every reply.  `expand` replaces operations by programs over other operations. -/

namespace InstrumentControl

/-- A program over operations of type `Op`, where `op` answers with a `Reply op`. -/
inductive Program {Op : Type} (Reply : Op → Type) (α : Type) where
  | done (a : α)
  | step (op : Op) (next : Reply op → Program Reply α)

namespace Program

variable {Op Op' : Type} {Reply : Op → Type} {Reply' : Op' → Type} {α β γ : Type}

def bind : Program Reply α → (α → Program Reply β) → Program Reply β
  | done a, f => f a
  | step op next, f => step op fun reply => (next reply).bind f

instance : Monad (Program Reply) where
  pure := done
  bind := bind

/-- The program that performs one operation and gives its reply. -/
def perform (op : Op) : Program Reply (Reply op) := step op done

/-- The program with every operation replaced by a program. -/
def expand (f : (op : Op) → Program Reply' (Reply op)) : Program Reply α → Program Reply' α
  | done a => done a
  | step op next => (f op).bind fun reply => (next reply).expand f

@[simp] theorem pure_eq_done (a : α) : (pure a : Program Reply α) = done a := rfl

@[simp] theorem bind_eq (p : Program Reply α) (f : α → Program Reply β) : p >>= f = p.bind f := rfl

@[simp] theorem done_bind (a : α) (f : α → Program Reply β) : (done a).bind f = f a := rfl

@[simp] theorem step_bind (op : Op) (next : Reply op → Program Reply α)
    (f : α → Program Reply β) :
    (step op next).bind f = step op fun reply => (next reply).bind f := rfl

@[simp] theorem bind_done (p : Program Reply α) : p.bind done = p := by
  induction p with
  | done a => rfl
  | step op next ih => simp [ih]

theorem bind_assoc (p : Program Reply α) (f : α → Program Reply β) (g : β → Program Reply γ) :
    (p.bind f).bind g = p.bind fun a => (f a).bind g := by
  induction p with
  | done a => rfl
  | step op next ih => simp [ih]

theorem expand_bind (f : (op : Op) → Program Reply' (Reply op)) (p : Program Reply α)
    (g : α → Program Reply β) : (p.bind g).expand f = (p.expand f).bind fun a => (g a).expand f := by
  induction p with
  | done a => rfl
  | step op next ih => simp [expand, ih, bind_assoc]

end Program

end InstrumentControl
