import ReportCompiler.Formula.Expr
import ReportCompiler.Formula.Fault

/-!
# Readings

The tokens of a formula do not say what its references stand for.  A reading is therefore a
tree of questions: it ends with a result, stops with a fault, or asks for a reference
and goes on with the expression given as answer.

* `Reading` - the trees, with `Reading.bind` and the monad they form.
* `Reading.run` - a reading with its questions answered by an effectful resolver.
-/

namespace ReportCompiler.Formula

/-- A computation that may ask what references stand for. -/
inductive Reading (α : Type) : Type
  /-- The result. -/
  | done (result : α)
  /-- The reading has stopped with a fault. -/
  | fault (why : Fault)
  /-- Asks for a reference, and goes on with the answer. -/
  | ask (reference : String) (next : Expr → Reading α)

namespace Reading

/-- One reading after another. -/
def bind {α β : Type} : Reading α → (α → Reading β) → Reading β
  | done a, f => f a
  | fault why, _ => fault why
  | ask reference next, f => ask reference fun e => (next e).bind f

instance : Monad Reading where
  pure := done
  bind := bind

/-- The reading with its questions answered by `resolve`; a fault is raised by `raise`. -/
def run {m : Type → Type} [Monad m] {α : Type} (resolve : String → m Expr)
    (raise : Fault → m α) : Reading α → m α
  | done a => pure a
  | fault why => raise why
  | ask reference next => resolve reference >>= fun e => (next e).run resolve raise

/-- A result or a fault as a reading that asks nothing. -/
def ofMalformed {α : Type} : Except Malformed α → Reading α
  | .ok a => done a
  | .error why => fault (.malformed why)

@[simp] theorem done_bind {α β : Type} (a : α) (f : α → Reading β) : (done a).bind f = f a := rfl

@[simp] theorem fault_bind {α β : Type} (why : Fault) (f : α → Reading β) :
    (fault why : Reading α).bind f = fault why := rfl

@[simp] theorem ask_bind {α β : Type} (reference : String) (next : Expr → Reading α)
    (f : α → Reading β) :
    (ask reference next).bind f = ask reference fun e => (next e).bind f := rfl

theorem bind_done {α : Type} (r : Reading α) : r.bind done = r := by
  induction r with
  | done a => rfl
  | fault why => rfl
  | ask reference next ih => rw [ask_bind, funext ih]

theorem bind_assoc {α β γ : Type} (r : Reading α) (f : α → Reading β) (g : β → Reading γ) :
    (r.bind f).bind g = r.bind fun a => (f a).bind g := by
  induction r with
  | done a => rfl
  | fault why => rfl
  | ask reference next ih =>
    rw [ask_bind, ask_bind, ask_bind]
    exact congrArg _ (funext ih)

end Reading

end ReportCompiler.Formula
