/-!
Programs that ask a world questions. A program is a tree: it is done with a value, or it asks one
question and goes on by the reply. What the world replies is left open, so a property of a
program can be stated for every behaviour of the world at once, and a handler that keeps a state
makes the program run.
-/
namespace DriveHealth

inductive Program (Op : Type) (Reply : Op → Type) (α : Type) where
  | done (a : α)
  | ask (op : Op) (next : Reply op → Program Op Reply α)

namespace Program

variable {Op Op' : Type} {Reply : Op → Type} {Reply' : Op' → Type} {α β σ : Type}

def bind : Program Op Reply α → (α → Program Op Reply β) → Program Op Reply β
  | done a, f => f a
  | ask op next, f => ask op fun r => (next r).bind f

instance : Monad (Program Op Reply) where
  pure := done
  bind := bind

/-- Asks one question and answers with the reply. -/
def perform (op : Op) : Program Op Reply (Reply op) := ask op done

/-- Runs a program against a handler that keeps a state. -/
def run (handler : (op : Op) → σ → Reply op × σ) : Program Op Reply α → σ → α × σ
  | done a, s => (a, s)
  | ask op next, s =>
    let (r, s) := handler op s
    run handler (next r) s

/-- Runs a program by programs of another world, one for each question. -/
def interpret (f : (op : Op) → Program Op' Reply' (Reply op)) :
    Program Op Reply α → Program Op' Reply' α
  | done a => done a
  | ask op next => (f op).bind fun r => interpret f (next r)

/-- Runs a program that keeps a state by programs of another world, one for each question. -/
def interpretWith (f : (op : Op) → σ → Program Op' Reply' (Reply op × σ)) :
    Program Op Reply α → σ → Program Op' Reply' (α × σ)
  | done a, s => done (a, s)
  | ask op next, s => (f op s).bind fun (r, s) => interpretWith f (next r) s

/-- A conversation: the questions that were asked, each with its reply. -/
abbrev Trace (Op : Type) (Reply : Op → Type) := List ((op : Op) × Reply op)

/-- A program ends in a value after a conversation. -/
inductive Ends : Program Op Reply α → Trace Op Reply → α → Prop
  | done (a : α) : Ends (done a) [] a
  | ask (op : Op) (next : Reply op → Program Op Reply α) (r : Reply op)
      (t : Trace Op Reply) (a : α) : Ends (next r) t a → Ends (ask op next) (⟨op, r⟩ :: t) a

@[simp] theorem pure_eq (a : α) : (pure a : Program Op Reply α) = done a := rfl

@[simp] theorem bind_eq (p : Program Op Reply α) (f : α → Program Op Reply β) :
    (p >>= f) = p.bind f := rfl

@[simp] theorem done_bind (a : α) (f : α → Program Op Reply β) : (done a).bind f = f a := rfl

@[simp] theorem ask_bind (op : Op) (next : Reply op → Program Op Reply α)
    (f : α → Program Op Reply β) : (ask op next).bind f = ask op fun r => (next r).bind f := rfl

theorem run_bind (handler : (op : Op) → σ → Reply op × σ) (p : Program Op Reply α)
    (f : α → Program Op Reply β) (s : σ) :
    run handler (p.bind f) s = run handler (f (run handler p s).1) (run handler p s).2 := by
  induction p generalizing s with
  | done a => rfl
  | ask op next ih => exact ih _ _

end Program
end DriveHealth
