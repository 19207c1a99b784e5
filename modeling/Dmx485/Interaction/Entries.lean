import Dmx485.Interaction.Outline

/-!
# The state a block was entered in

Inside a block a position remembers the state the block was entered in. Two things are known of
that state at any time: it satisfied the assertion of the block, and a view that neither the block
nor the environment changes is still what it was there. So what is known at the starts of such
blocks is known throughout.

This is the way from a statement about places where a block begins, which is what outlines and
forecasts make, to a statement about every moment of a run.

* `Outline.Entered`: the entry state satisfied the assertion of its block; `entered_step` and
  `entered_env` are its step lemmas, for the process and for the environment.
* `Position.Keeps`: the view is what it was on entry; `Keeps.step`, `Keeps.env`. The blocks in
  which this is asked are given by a predicate on labels, so that only those need be examined.
-/

namespace Interaction

variable {I : Interface} {σ τ ρ Λ : Type} {M : Machine I σ ρ} {block : Λ → Prog I Λ}

/-! ## The assertion of the block -/

namespace Outline

/-- The block was entered in a state that satisfied its assertion. -/
def Entered (O : Outline I σ ρ Λ) (p : Position I σ Λ) (s : σ) : Prop :=
  O.pre p.label (p.entry s)

variable {O : Outline I σ ρ Λ} {p : Position I σ Λ} {s s' : σ}

/-- A step of the environment, after which the outline still holds. -/
lemma entered_env (h : O.Entered p s) (hholds : O.Holds M p s') : O.Entered p s' := by
  cases p with
  | start l => exact hholds
  | within l e k => exact h

/-- A step of the process. -/
lemma entered_step {r : ρ} (h : O.Entered p s)
    (hholds : O.Holds M (p.step M block r s).1 (p.step M block r s).2) :
    O.Entered (p.step M block r s).1 (p.step M block r s).2 := by
  rcases hrest : p.rest block with l' | ⟨o, k⟩
  · rw [Position.step_of_ret hrest] at hholds ⊢
    exact hholds
  · rw [Position.step_of_op hrest] at hholds ⊢
    revert hholds
    cases k (M.exec o r s).1 with
    | ret l' => exact fun hholds => hholds
    | op o' k' => exact fun _ => h

end Outline

/-! ## A view that the block leaves alone -/

namespace Position

/-- In the blocks of `L` the view is what it was when the block was entered, and what is left of
them does not change it. -/
structure Keeps (M : Machine I σ ρ) (block : Λ → Prog I Λ) (view : σ → τ) (L : Λ → Prop)
    (p : Position I σ Λ) (s : σ) : Prop where
  same : L p.label → view s = view (p.entry s)
  rest : L p.label → (p.rest block).All fun o => ∀ r s, view (M.exec o r s).2 = view s

variable {view : σ → τ} {L : Λ → Prop} {p : Position I σ Λ} {s s' : σ}

/-- The environment leaves the view alone. -/
lemma Keeps.env (h : p.Keeps M block view L s) (hs : view s' = view s) :
    p.Keeps M block view L s' := by
  refine ⟨fun hl => ?_, h.rest⟩
  cases p with
  | start l => rfl
  | within l e k => exact hs.trans (h.same hl)

section

variable (hblock : ∀ l, L l → (block l).All fun o => ∀ r s, view (M.exec o r s).2 = view s)

include hblock

/-- A process at the start of a block keeps the view. -/
lemma keeps_start (l : Λ) (s : σ) : (start l : Position I σ Λ).Keeps M block view L s :=
  ⟨fun _ => rfl, hblock l⟩

/-- So do the blocks of `L`. -/
theorem Keeps.step (h : p.Keeps M block view L s) (r : ρ) :
    (p.step M block r s).1.Keeps M block view L (p.step M block r s).2 := by
  rcases hrest : p.rest block with l' | ⟨o, k⟩
  · rw [step_of_ret hrest]
    exact keeps_start hblock l' s
  · rw [step_of_op hrest]
    have hk : L p.label → view (M.exec o r s).2 = view (p.entry s) ∧
        (k (M.exec o r s).1).All fun o => ∀ r s, view (M.exec o r s).2 = view s := by
      intro hl
      have hall := h.rest hl
      rw [hrest] at hall
      exact ⟨(hall.1 r s).trans (h.same hl), hall.2 _⟩
    revert hk
    cases k (M.exec o r s).1 with
    | ret l' => exact fun _ => keeps_start hblock l' _
    | op o' k' => exact fun hk => ⟨fun hl => (hk hl).1, fun hl => (hk hl).2⟩

end

end Position

end Interaction
