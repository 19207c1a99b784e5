import Dmx485.Interaction.Outline

/-!
# Where values come from

Some operations are given a value that must come from somewhere, and the answers of some bring
values in. A program is sourced if, whatever it is answered, no operation is given a value that is
not known when the program begins and has not been brought in before. It is the flow of values
through answers and results that is followed, so it does not matter in which variables they are
kept or how often they are passed on.

* `Flow`: what operations need, and what answers bring, over any type of values.
* `Prog.Fed`: the program is sourced, and ends with a result and a state of knowledge that satisfy a
  postcondition. Its rules `Fed.step`, `Fed.bind` and `Fed.mono` follow the `do` block;
  `Prog.Sourced` forgets about the end.
* `sourced_of_all`: a program that needs nothing is sourced.
* `Position.sourced_step`: a process whose blocks are sourced stays so while knowledge grows, be it
  by its own answers or by those of others.
-/

namespace Interaction

/-- The values that operations need, and those that their answers bring. -/
structure Flow (I : Interface) (ι : Type) where
  needs : I.Op → ι → Prop
  brings : (o : I.Op) → I.Ans o → ι → Prop

variable {I : Interface} {ι α β σ ρ Λ : Type} {F : Flow I ι} {K K' : ι → Prop}

namespace Prog

/-- Beginning with the values in `K`, a program only ever needs what is known by then, and it ends
with a result and the values known then in `Q`. -/
def Fed (F : Flow I ι) : Prog I α → (ι → Prop) → (α → (ι → Prop) → Prop) → Prop
  | ret a, K, Q => Q a K
  | op o k, K, Q => (∀ i, F.needs o i → K i) ∧
      ∀ a, (k a).Fed F (fun i => K i ∨ F.brings o a i) Q

/-- One operation, then the rest. -/
lemma Fed.step {o : I.Op} {f : I.Ans o → Prog I β} {Q : β → (ι → Prop) → Prop}
    (ho : ∀ i, F.needs o i → K i)
    (hf : ∀ a, (f a).Fed F (fun i => K i ∨ F.brings o a i) Q) : (op o ret >>= f).Fed F K Q :=
  ⟨ho, hf⟩

/-- Sequencing. -/
lemma Fed.bind {p : Prog I α} {f : α → Prog I β} {Q : β → (ι → Prop) → Prop}
    (hp : p.Fed F K fun a K => (f a).Fed F K Q) : (p >>= f).Fed F K Q := by
  induction p generalizing K with
  | ret a => exact hp
  | op o k ih => exact ⟨hp.1, fun a => ih a (hp.2 a)⟩

/-- More can be known at the beginning, and less asked at the end. -/
lemma Fed.mono {p : Prog I α} {Q Q' : α → (ι → Prop) → Prop} (hK : ∀ i, K i → K' i)
    (hQ : ∀ a K K', (∀ i, K i → K' i) → Q a K → Q' a K') (hp : p.Fed F K Q) : p.Fed F K' Q' := by
  induction p generalizing K K' with
  | ret a => exact hQ a K K' hK hp
  | op o k ih =>
      exact ⟨fun i hi => hK i (hp.1 i hi), fun a => ih a (fun i => Or.imp_left (hK i)) (hp.2 a)⟩

/-- No operation needs what is not known by then. -/
def Sourced (F : Flow I ι) (p : Prog I α) (K : ι → Prop) : Prop := p.Fed F K fun _ _ => True

/-- It is enough to know more. -/
lemma Sourced.mono {p : Prog I α} (hK : ∀ i, K i → K' i) (hp : p.Sourced F K) :
    p.Sourced F K' :=
  Fed.mono hK (fun _ _ _ _ _ => trivial) hp

/-- A program that needs nothing. -/
lemma sourced_of_all {p : Prog I α} (hp : p.All fun o => ∀ i, ¬F.needs o i) (K : ι → Prop) :
    p.Sourced F K := by
  induction p generalizing K with
  | ret a => trivial
  | op o k ih => exact ⟨fun i hi => absurd hi (hp.1 i), fun a => ih a (hp.2 a) _⟩

/-- A sourced program before one that is. -/
lemma Sourced.bind {p : Prog I α} {f : α → Prog I β} (hp : p.Sourced F K)
    (hf : ∀ a, (f a).Sourced F K) : (p >>= f).Sourced F K := by
  refine Fed.bind ?_
  -- Whatever `p` brings in, `K` is still known when `f` begins.
  have hgrows : ∀ {p : Prog I α} {K : ι → Prop}, p.Sourced F K →
      p.Fed F K fun _ K' => ∀ i, K i → K' i := by
    intro p
    induction p with
    | ret a => exact fun _ _ h => h
    | op o k ih =>
        intro K hp
        exact ⟨hp.1, fun a => (ih a (hp.2 a)).mono (fun _ => id)
          fun _ _ _ hle h i hi => hle i (h i (Or.inl hi))⟩
  exact (hgrows hp).mono (fun _ => id) fun a _ _ hle h =>
    (hf a).mono fun i hi => hle i (h i hi)

end Prog

/-- **A step of a sourced process**: what it performs needs only what is known, and with what is
answered it stays sourced. -/
theorem Position.sourced_step {M : Machine I σ ρ} {block : Λ → Prog I Λ} {p : Position I σ Λ}
    (hp : (p.rest block).Sourced F K) (hblock : ∀ l, (block l).Sourced F K') (r : ρ) (s : σ)
    (hK : ∀ i, K i → K' i)
    (hbrings : ∀ o ∈ (p.rest block).next, ∀ i, F.brings o (M.exec o r s).1 i → K' i) :
    (∀ o ∈ (p.rest block).next, ∀ i, F.needs o i → K i) ∧
      ((p.step M block r s).1.rest block).Sourced F K' := by
  rcases hrest : p.rest block with l | ⟨o, k⟩
  · rw [step_of_ret hrest]
    exact ⟨fun o ho => absurd ho (by simp [Prog.next]), hblock l⟩
  · rw [hrest] at hp hbrings
    rw [step_of_op hrest]
    refine ⟨fun o' ho' => ?_, ?_⟩
    · cases ho'
      exact hp.1
    · have hnext : (k (M.exec o r s).1).Sourced F K' :=
        Prog.Sourced.mono (fun i hi => hi.elim (hK i) (hbrings o rfl i)) (hp.2 _)
      revert hnext
      cases k (M.exec o r s).1 with
      | ret l' => exact fun _ => hblock l'
      | op o' k' => exact id

end Interaction
