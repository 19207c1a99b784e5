import Mathlib.Logic.Function.Basic
import Mathlib.Tactic.Common

/-!
# Programs over an interface of atomic operations

A program is a well-founded tree of atomic operations: it returns, or performs one operation
and continues with the answer. Nothing here says what an operation does; `Machine.lean` adds
that, and `Outline.lean` adds other parties that act between two operations. Being a tree and not
a function of a state, a program can be looked into: what it can perform is a property of the
tree, proved by recursion on it, whatever the answers are.

* `Interface`, `Prog`: the operations with their answer types, and the programs over them, with
  the monad structure (`Prog.bind_ret`, `Prog.bind_assoc`), so that `do` blocks are programs.
* `Prog.All P p`: every operation `p` can perform satisfies `P`. `all_ret`, `all_op` and `All.bind`
  take a program apart along its `do` block.
* `Prog.Solvent gain cost p n`: along every path of `p`, started with a credit of `n`, no
  operation spends more than what is left of the credit and of the gains before it. This is the
  amortised form of "at most as many of these as of those": a program that is solvent from 0
  never has more costs behind it than gains.
-/

namespace Interaction

/-- The atomic operations of a program and the type of the answer to each. -/
structure Interface where
  /-- The operations. -/
  Op : Type
  /-- What an operation answers. -/
  Ans : Op → Type

/-- A program over `I`: a result, or one operation and a continuation for each of its answers. -/
inductive Prog (I : Interface) (α : Type) : Type
  | ret (a : α) : Prog I α
  | op (o : I.Op) (k : I.Ans o → Prog I α) : Prog I α

namespace Prog

variable {I : Interface} {α β γ : Type}

/-- Sequencing: graft `f` onto the results of a program. -/
def bind : Prog I α → (α → Prog I β) → Prog I β
  | ret a, f => f a
  | op o k, f => op o fun a => (k a).bind f

instance : Monad (Prog I) where
  pure := ret
  bind := bind

/-- `pure` is `ret`. -/
@[simp] lemma pure_eq_ret (a : α) : (pure a : Prog I α) = ret a := rfl

/-- A program after one that has returned. -/
@[simp] lemma bind_ret (a : α) (f : α → Prog I β) : (ret a : Prog I α) >>= f = f a := rfl

/-- A program after one that begins with an operation. -/
@[simp] lemma bind_op (o : I.Op) (k : I.Ans o → Prog I α) (f : α → Prog I β) :
    op o k >>= f = op o fun a => k a >>= f := rfl

/-- Sequencing is associative. -/
lemma bind_assoc (p : Prog I α) (f : α → Prog I β) (g : β → Prog I γ) :
    p >>= f >>= g = p >>= fun a => f a >>= g := by
  induction p with
  | ret a => rfl
  | op o k ih =>
      simp only [bind_op]
      exact congrArg (op o) (funext ih)

/-- The first operation of a program, if it performs any. -/
def next : Prog I α → Option I.Op
  | ret _ => none
  | op o _ => some o

instance [DecidableEq α] (a : α) : (p : Prog I α) → Decidable (p = ret a)
  | ret b => decidable_of_iff (b = a) ⟨congrArg ret, fun h => by injection h⟩
  | op _ _ => isFalse fun h => by cases h

/-! ## Programs that keep to a set of operations -/

/-- Every operation the program can perform satisfies `P`. -/
def All (P : I.Op → Prop) : Prog I α → Prop
  | ret _ => True
  | op o k => P o ∧ ∀ a, (k a).All P

/-- A program that has returned performs nothing. -/
@[simp] lemma all_ret (P : I.Op → Prop) (a : α) : (ret a : Prog I α).All P := trivial

/-- A program performs its first operation and those after it. -/
@[simp] lemma all_op {P : I.Op → Prop} {o : I.Op} {k : I.Ans o → Prog I α} :
    (op o k).All P ↔ P o ∧ ∀ a, (k a).All P := Iff.rfl

/-- One operation and nothing else. -/
lemma All.single {P : I.Op → Prop} {o : I.Op} (ho : P o) : (op o ret).All P :=
  ⟨ho, fun _ => trivial⟩

/-- The first operation is one of those the program can perform. -/
lemma All.of_next {P : I.Op → Prop} {p : Prog I α} (hp : p.All P) {o : I.Op}
    (ho : p.next = some o) : P o := by
  cases p with
  | ret a => cases ho
  | op o' k =>
      cases ho
      exact hp.1

/-- One operation, then the rest. -/
lemma All.step {P : I.Op → Prop} {o : I.Op} {f : I.Ans o → Prog I β} (ho : P o)
    (hf : ∀ a, (f a).All P) : (op o ret >>= f).All P := ⟨ho, hf⟩

/-- Every operation the program can perform after its first satisfies `P`. -/
def Tail (P : I.Op → Prop) : Prog I α → Prop
  | ret _ => True
  | op _ k => ∀ a, (k a).All P

/-- A sequence keeps to `P` when both halves do. -/
lemma All.bind {P : I.Op → Prop} {p : Prog I α} {f : α → Prog I β} (hp : p.All P)
    (hf : ∀ a, (f a).All P) : (p >>= f).All P := by
  induction p with
  | ret a => exact hf a
  | op o k ih => exact ⟨hp.1, fun a => ih a (hp.2 a)⟩

/-- `All` is monotone in the set of operations. -/
lemma All.mono {P P' : I.Op → Prop} (h : ∀ o, P o → P' o) {p : Prog I α} (hp : p.All P) :
    p.All P' := by
  induction p with
  | ret a => trivial
  | op o k ih => exact ⟨h o hp.1, fun a => ih a (hp.2 a)⟩

/-! ## Programs that never overdraw a credit -/

/-- From a credit of `n`, along every path, each operation first adds its `gain` and then pays
its `cost` out of what is there. -/
def Solvent (gain cost : I.Op → ℕ) : Prog I α → ℕ → Prop
  | ret _, _ => True
  | op o k, n => cost o ≤ n + gain o ∧ ∀ a, (k a).Solvent gain cost (n + gain o - cost o)

/-- More credit does not hurt. -/
lemma Solvent.mono {gain cost : I.Op → ℕ} {p : Prog I α} {m n : ℕ} (hmn : m ≤ n)
    (hp : p.Solvent gain cost m) : p.Solvent gain cost n := by
  induction p generalizing m n with
  | ret a => trivial
  | op o k ih =>
      have hcost : cost o ≤ m + gain o := hp.1
      exact ⟨by omega, fun a => ih a (by omega) (hp.2 a)⟩

/-- One operation, then the rest on what is left of the credit. -/
lemma Solvent.step {gain cost : I.Op → ℕ} {o : I.Op} {f : I.Ans o → Prog I β} {n : ℕ}
    (ho : cost o ≤ n + gain o) (hf : ∀ a, (f a).Solvent gain cost (n + gain o - cost o)) :
    (op o ret >>= f).Solvent gain cost n := ⟨ho, hf⟩

/-- A program that pays for nothing is solvent from nothing. -/
lemma Solvent.of_all {gain cost : I.Op → ℕ} {p : Prog I α} (hp : p.All fun o => cost o = 0)
    (n : ℕ) : p.Solvent gain cost n := by
  induction p generalizing n with
  | ret a => trivial
  | op o k ih =>
      obtain ⟨ho, hk⟩ := hp
      exact ⟨by omega, fun a => ih a (hk a) _⟩

/-- A sequence, with no credit left to the rest. -/
lemma Solvent.bind {gain cost : I.Op → ℕ} {p : Prog I α} {f : α → Prog I β} {n : ℕ}
    (hp : p.Solvent gain cost n) (hf : ∀ a, (f a).Solvent gain cost 0) :
    (p >>= f).Solvent gain cost n := by
  induction p generalizing n with
  | ret a => exact (hf a).mono (Nat.zero_le n)
  | op o k ih => exact ⟨hp.1, fun a => ih a (hp.2 a)⟩

/-- What pays for nothing leaves the credit to the rest. -/
lemma Solvent.after_all {gain cost : I.Op → ℕ} {p : Prog I α} {f : α → Prog I β} {n : ℕ}
    (hp : p.All fun o => cost o = 0) (hf : ∀ a, (f a).Solvent gain cost n) :
    (p >>= f).Solvent gain cost n := by
  induction p with
  | ret a => exact hf a
  | op o k ih =>
      obtain ⟨ho, hk⟩ := hp
      exact ⟨by omega, fun a => (ih a (hk a)).mono (by omega)⟩

end Prog

end Interaction
