import Mathlib.Logic.Function.Basic
/-!
# Prog — programs as trees of operations

A program over a signature is a finite tree: it returns a value, or issues one operation and continues with the answer.
What an operation does is not part of the tree.  `History.lean` gives rules for the operations a tree issues, and
`Machine.lean` gives trees their runs.
-/
namespace Effects

/-- **An interface to the outside**: the operations a program may issue and the type of each one's answer. -/
structure Sig where
  Op : Type
  Res : Op → Type

/-- **A program over `S`**: a value, or an operation with one continuation for each answer. -/
inductive Prog (S : Sig) (α : Type) : Type where
  | pure (a : α)
  | call (op : S.Op) (k : S.Res op → Prog S α)

namespace Prog

variable {S : Sig} {α β γ : Type}

def bind : Prog S α → (α → Prog S β) → Prog S β
  | .pure a, f => f a
  | .call op k, f => .call op fun r => (k r).bind f

instance : Monad (Prog S) where
  pure := .pure
  bind := Prog.bind

/-- The program that issues one operation and returns its answer. -/
def op (o : S.Op) : Prog S (S.Res o) := .call o .pure

@[simp] theorem pure_eq (a : α) : (Pure.pure a : Prog S α) = .pure a := rfl
@[simp] theorem pure_bind' (a : α) (f : α → Prog S β) : (Prog.pure a >>= f) = f a := rfl
@[simp] theorem call_bind (o : S.Op) (k : S.Res o → Prog S α) (f : α → Prog S β) :
    (Prog.call o k >>= f) = .call o fun r => k r >>= f := rfl

theorem bind_pure_eq : ∀ p : Prog S α, p >>= Prog.pure = p
  | .pure _ => rfl
  | .call o k => congrArg (Prog.call o) (funext fun r => bind_pure_eq (k r))

theorem bind_assoc_eq (f : α → Prog S β) (g : β → Prog S γ) :
    ∀ p : Prog S α, (p >>= f) >>= g = p >>= fun a => f a >>= g
  | .pure _ => rfl
  | .call o k => congrArg (Prog.call o) (funext fun r => bind_assoc_eq f g (k r))

instance : LawfulMonad (Prog S) :=
  .mk' _ bind_pure_eq (fun _ _ => rfl) fun p f g => bind_assoc_eq f g p

end Prog
end Effects
