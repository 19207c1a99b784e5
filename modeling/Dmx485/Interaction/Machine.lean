import Dmx485.Interaction.Prog
import Mathlib.Logic.Relation

/-!
# Machines, runs, and weakest preconditions under interference

A `Machine` gives each operation its effect on a state; the outside world enters as a *reply*,
one for each operation performed. A run against a script of replies is a function, so it can be
evaluated.

`wp` is the weakest precondition of a program that is not alone: before each of its operations
the environment may take any number of steps `Context.env`. `Context.allows` restricts the
replies, and `Context.guarantee` is what the program owes at each operation it performs. The
rules below are the usual ones (`Triple.bind`, `Triple.op`, `Triple.of_all`), stated for
`Triple P p Q`: from every state satisfying `P`, the program meets its guarantee at every step
and can only end in `Q`. With an environment that never moves, `wp` is the sequential weakest
precondition, and `wp_run` ties it to runs.

* `Machine.run`, `Machine.after`: a program against a script, with its result or the state only.
* `Stable`: an assertion that no step of the environment disturbs. As in every rely-guarantee
  method it is what an assertion between two operations has to be.
* `Triple.of_all`: a program all of whose operations preserve an assertion preserves it.
* `Triple.after`: a triple with no interference, read as a statement about one run.
-/

namespace Interaction

open Relation

/-- The effect of each operation on a state `σ`, given the outside world's reply `ρ`. -/
structure Machine (I : Interface) (σ ρ : Type) where
  /-- Perform one operation: the answer and the state after it. -/
  exec : (o : I.Op) → ρ → σ → I.Ans o × σ

/-- The replies of the outside world: the one to operation `o` when it is the `n`-th performed. -/
abbrev Script (I : Interface) (ρ : Type) := ℕ → I.Op → ρ

/-- The script from the next operation on. -/
def Script.rest {I : Interface} {ρ : Type} (f : Script I ρ) : Script I ρ :=
  fun n => f (n + 1)

/-- The replies to come are those after the first. -/
lemma Script.rest_apply {I : Interface} {ρ : Type} (f : Script I ρ) (n : ℕ) :
    f.rest n = f (n + 1) := rfl

/-- What a program may assume of the other parties and of the replies, and what it owes. -/
structure Context (I : Interface) (σ ρ : Type) where
  /-- One step of the environment. -/
  env : σ → σ → Prop
  /-- The replies that can be given to an operation performed in a state. -/
  allows : σ → I.Op → ρ → Prop
  /-- What must hold of the state in which an operation is performed. -/
  guarantee : σ → I.Op → ρ → Prop

variable {I : Interface} {σ ρ : Type} {α β : Type}

/-! ## Runs -/

namespace Machine

variable (M : Machine I σ ρ)

/-- Run a program against a script: its result, what is left of the script, and the state. -/
def run : Prog I α → Script I ρ → σ → α × Script I ρ × σ
  | .ret a, f, s => (a, f, s)
  | .op o k, f, s => run (k (M.exec o (f 0 o) s).1) f.rest (M.exec o (f 0 o) s).2

/-- The state a run ends in. -/
def after (p : Prog I α) (f : Script I ρ) (s : σ) : σ := (M.run p f s).2.2

/-- The state after a sequence. -/
lemma after_bind (p : Prog I α) (g : α → Prog I β) (f : Script I ρ) (s : σ) :
    M.after (p >>= g) f s =
      M.after (g (M.run p f s).1) (M.run p f s).2.1 (M.after p f s) := by
  induction p generalizing f s with
  | ret a => rfl
  | op o k ih => exact ih _ _ _

/-- A sequence runs its first half and then, on what is left of the script, its second. -/
lemma run_bind (p : Prog I α) (g : α → Prog I β) (f : Script I ρ) (s : σ) :
    M.run (p >>= g) f s =
      M.run (g (M.run p f s).1) (M.run p f s).2.1 (M.run p f s).2.2 := by
  induction p generalizing f s with
  | ret a => rfl
  | op o k ih => exact ih _ _ _

end Machine

/-- What every operation of a program leaves alone, a run leaves alone. -/
lemma Machine.after_of_all {τ : Type} {M : Machine I σ ρ} {F : σ → τ} {K : I.Op → Prop}
    (hK : ∀ o r s, K o → F (M.exec o r s).2 = F s) {p : Prog I α} (hp : p.All K)
    (f : Script I ρ) (s : σ) : F (M.after p f s) = F s := by
  induction p generalizing f s with
  | ret a => rfl
  | op o k ih => exact (ih _ (hp.2 _) f.rest _).trans (hK o (f 0 o) s hp.1)

/-! ## Weakest preconditions -/

section wp

variable (M : Machine I σ ρ) (C : Context I σ ρ)

/-- The weakest precondition of a program under interference. -/
def wp : Prog I α → (α → σ → Prop) → σ → Prop
  | .ret a, Q, s => Q a s
  | .op o k, Q, s => ∀ s₁, ReflTransGen C.env s s₁ → ∀ r, C.allows s₁ o r →
      C.guarantee s₁ o r ∧ wp (k (M.exec o r s₁).1) Q (M.exec o r s₁).2

/-- `P` is kept by every step of the environment. -/
def Stable (P : σ → Prop) : Prop := ∀ s s', P s → C.env s s' → P s'

/-- From every state in `P` the program keeps its guarantee and ends only in `Q`. -/
def Triple (P : σ → Prop) (p : Prog I α) (Q : α → σ → Prop) : Prop :=
  ∀ s, P s → wp M C p Q s

variable {M C}

/-- A stable assertion survives any number of environment steps. -/
lemma Stable.star {P : σ → Prop} (hP : Stable C P) {s s' : σ} (h : P s)
    (hs : ReflTransGen C.env s s') : P s' := by
  induction hs with
  | refl => exact h
  | tail _ hstep ih => exact hP _ _ ih hstep

/-- Postconditions may be weakened. -/
lemma wp_mono {Q Q' : α → σ → Prop} (h : ∀ a s, Q a s → Q' a s) {p : Prog I α} {s : σ}
    (hp : wp M C p Q s) : wp M C p Q' s := by
  induction p generalizing s with
  | ret a => exact h a s hp
  | op o k ih =>
      intro s₁ hs₁ r hr
      exact ⟨(hp s₁ hs₁ r hr).1, ih _ (hp s₁ hs₁ r hr).2⟩

/-- Before its first operation a program's precondition is stable by construction. -/
lemma wp_env {Q : α → σ → Prop} {o : I.Op} {k : I.Ans o → Prog I α} {s s' : σ}
    (hp : wp M C (.op o k) Q s) (hs : ReflTransGen C.env s s') : wp M C (.op o k) Q s' :=
  fun s₁ hs₁ r hr => hp s₁ (hs.trans hs₁) r hr

/-- One program after the other. -/
lemma wp_bind {Q : β → σ → Prop} {p : Prog I α} {f : α → Prog I β} {s : σ} :
    wp M C (p >>= f) Q s ↔ wp M C p (fun a => wp M C (f a) Q) s := by
  induction p generalizing s with
  | ret a => exact Iff.rfl
  | op o k ih =>
      constructor <;> intro h s₁ hs₁ r hr
      · exact ⟨(h s₁ hs₁ r hr).1, (ih _).mp (h s₁ hs₁ r hr).2⟩
      · exact ⟨(h s₁ hs₁ r hr).1, (ih _).mpr (h s₁ hs₁ r hr).2⟩

/-! ## Rules -/

/-- A program that has returned leaves the state as it is. -/
lemma Triple.ret {P : σ → Prop} {Q : α → σ → Prop} {a : α} (h : ∀ s, P s → Q a s) :
    Triple M C P (.ret a) Q := h

/-- Sequencing. -/
lemma Triple.bind {P : σ → Prop} {Q : α → σ → Prop} {R : β → σ → Prop} {p : Prog I α}
    {f : α → Prog I β} (hp : Triple M C P p Q) (hf : ∀ a, Triple M C (Q a) (f a) R) :
    Triple M C P (p >>= f) R :=
  fun s hs => wp_bind.mpr (wp_mono (fun a s' h => hf a s' h) (hp s hs))

/-- Consequence. -/
lemma Triple.conseq {P P' : σ → Prop} {Q Q' : α → σ → Prop} {p : Prog I α}
    (h : Triple M C P p Q) (hP : ∀ s, P' s → P s) (hQ : ∀ a s, Q a s → Q' a s) :
    Triple M C P' p Q' :=
  fun s hs => wp_mono hQ (h s (hP s hs))

/-- A stable precondition is carried to the operation, the rest starts from what it leaves. -/
lemma Triple.op {P : σ → Prop} {Q : α → σ → Prop} {o : I.Op} {k : I.Ans o → Prog I α}
    (hP : Stable C P)
    (h : ∀ s r, P s → C.allows s o r →
      C.guarantee s o r ∧ wp M C (k (M.exec o r s).1) Q (M.exec o r s).2) :
    Triple M C P (.op o k) Q :=
  fun _ hs s₁ hs₁ r hr => h s₁ r (hP.star hs hs₁) hr

/-- A program all of whose operations keep `P` keeps `P`. -/
lemma Triple.of_all {P : σ → Prop} {K : I.Op → Prop} {p : Prog I α} (hP : Stable C P)
    (hK : ∀ s o r, K o → P s → C.allows s o r →
      C.guarantee s o r ∧ P (M.exec o r s).2)
    (hp : p.All K) : Triple M C P p fun _ => P := by
  induction p with
  | ret a => exact fun s hs => hs
  | op o k ih =>
      refine Triple.op hP fun s r hs hr => ?_
      have hop := hK s o r hp.1 hs hr
      exact ⟨hop.1, ih _ (hp.2 _) _ hop.2⟩

/-! ## The sequential case -/

/-- With any environment, a run of the program alone against allowed replies ends in the
postcondition: it is the interleaving in which the environment does not move. -/
lemma wp_run {Q : α → σ → Prop} {p : Prog I α} {s : σ} (hp : wp M C p Q s)
    {f : Script I ρ} (hf : ∀ s n o, C.allows s o (f n o)) :
    Q (M.run p f s).1 (M.run p f s).2.2 := by
  induction p generalizing s f with
  | ret a => exact hp
  | op o k ih =>
      exact ih _ (hp s ReflTransGen.refl (f 0 o) (hf s 0 o)).2 fun s' n o' => hf s' (n + 1) o'

/-- What a run leaves of an allowed script is allowed. -/
lemma Machine.run_script_allowed {A : I.Op → ρ → Prop} {p : Prog I α} {s : σ}
    {f : Script I ρ} (hf : ∀ n o, A o (f n o)) :
    ∀ n o, A o ((M.run p f s).2.1 n o) := by
  induction p generalizing s f with
  | ret a => exact hf
  | op o k ih => exact ih _ fun n o' => hf (n + 1) o'

/-- A triple read as a statement about runs. -/
lemma Triple.after {P : σ → Prop} {Q : α → σ → Prop} {p : Prog I α} (h : Triple M C P p Q)
    {s : σ} (hs : P s) {f : Script I ρ} (hf : ∀ s n o, C.allows s o (f n o)) :
    Q (M.run p f s).1 (M.after p f s) :=
  wp_run (h s hs) hf

end wp

end Interaction
