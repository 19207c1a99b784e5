import Dmx485.Interaction.Outline
import Mathlib.Data.List.Induction

/-!
# Listed actions, and actions that make no difference

A system with a partial step function is run on lists of actions, by `List.foldlM`. An `Erasure`
drops some of the actions, by a rule that may look at what has gone by. If the actions dropped keep
a relation to a second run that does not take them, and the actions kept can be repeated there, then
what is left of a run is a run, and the two end related: this is noninterference, by the two
unwinding conditions.

* `foldlM_last`, `reflTransGen_of_foldlM`: listed actions, from the end and as a run.
* `Erasure`, `Unwinds`, `Unwinds.run`: what is left of a run when actions are dropped.
* `Machine.Hides`, `Machine.Respects`: an operation that does not show in a view of the state, and
  one whose answer and whose effect on the view depend on the view only.
* `Position.Alike`: two processes at the same place; `Position.Alike.step` moves them in step. They
  may have entered their blocks in different states, which no step reads.
-/

namespace Interaction

/-! ## Listed actions -/

section listed

variable {α σ : Type} {step : σ → α → Option σ} {actions : List α} {s s' : σ}

/-- The last of the listed actions. -/
lemma foldlM_last {a : α} (h : (actions ++ [a]).foldlM step s = some s') :
    ∃ s₁, actions.foldlM step s = some s₁ ∧ step s₁ a = some s' := by
  rw [List.foldlM_append] at h
  obtain ⟨s₁, hs₁, hlast⟩ := Option.bind_eq_some_iff.mp h
  exact ⟨s₁, hs₁, by simpa using hlast⟩

/-- The listed actions lead along the steps they make. -/
lemma reflTransGen_of_foldlM {R : σ → σ → Prop} (hstep : ∀ s a s', step s a = some s' → R s s')
    (h : actions.foldlM step s = some s') : Relation.ReflTransGen R s s' := by
  induction actions using List.reverseRecOn generalizing s' with
  | nil =>
      cases h
      exact .refl
  | append_singleton actions a ih =>
      obtain ⟨s₁, hs₁, hlast⟩ := foldlM_last h
      exact (ih hs₁).tail (hstep _ _ _ hlast)

end listed

/-! ## Erasing actions -/

section erasing

variable {α μ σ : Type}

/-- A rule for dropping actions, in a mode that may change with every action. -/
structure Erasure (α μ : Type) where
  next : μ → α → μ
  drops : μ → α → Bool

/-- What is left of a list of actions. -/
def Erasure.erase (E : Erasure α μ) : μ → List α → List α
  | _, [] => []
  | m, a :: actions =>
    if E.drops m a then E.erase (E.next m a) actions else a :: E.erase (E.next m a) actions

/-- The unwinding conditions of a relation between a run and what is left of it. -/
structure Unwinds (E : Erasure α μ) (step : σ → α → Option σ) (R : μ → σ → σ → Prop) : Prop where
  dropped : ∀ {m a s t s'}, R m s t → E.drops m a = true → step s a = some s' →
    R (E.next m a) s' t
  kept : ∀ {m a s t s'}, R m s t → E.drops m a = false → step s a = some s' →
    ∃ t', step t a = some t' ∧ R (E.next m a) s' t'

/-- **What is left of a run is a run**, and the two end related. -/
theorem Unwinds.run {E : Erasure α μ} {step : σ → α → Option σ} {R : μ → σ → σ → Prop}
    (h : Unwinds E step R) {actions : List α} {m : μ} {s t s' : σ} (hR : R m s t)
    (hrun : actions.foldlM step s = some s') :
    ∃ t', (E.erase m actions).foldlM step t = some t' ∧ R (actions.foldl E.next m) s' t' := by
  induction actions generalizing m s t with
  | nil =>
      cases hrun
      exact ⟨t, rfl, hR⟩
  | cons a actions ih =>
      rw [List.foldlM_cons] at hrun
      obtain ⟨s₁, hstep, hrest⟩ := Option.bind_eq_some_iff.mp hrun
      rw [Erasure.erase, List.foldl_cons]
      cases hdrop : E.drops m a with
      | true =>
          rw [if_pos rfl]
          exact ih (h.dropped hR hdrop hstep) hrest
      | false =>
          obtain ⟨t₁, hstep', hR'⟩ := h.kept hR hdrop hstep
          obtain ⟨t', hrun', hend⟩ := ih hR' hrest
          refine ⟨t', ?_, hend⟩
          rw [if_neg Bool.false_ne_true, List.foldlM_cons, hstep']
          exact hrun'

end erasing

/-! ## Operations and a view -/

variable {I : Interface} {σ ρ Λ τ : Type}

/-- The operation does not show in the view. -/
def Machine.Hides (M : Machine I σ ρ) (view : σ → τ) (o : I.Op) : Prop :=
  ∀ r s, view (M.exec o r s).2 = view s

/-- The operation sees no more than the view, and shows no more in it. -/
structure Machine.Respects (M : Machine I σ ρ) (view : σ → τ) (o : I.Op) : Prop where
  answer : ∀ {s t}, view s = view t → ∀ r, (M.exec o r s).1 = (M.exec o r t).1
  effect : ∀ {s t}, view s = view t → ∀ r, view (M.exec o r s).2 = view (M.exec o r t).2

namespace Position

/-- Two processes at the same place, with the same left to do; the states in which they entered
the block may differ. -/
def Alike : Position I σ Λ → Position I σ Λ → Prop
  | start l, start l' => l = l'
  | within l _ k, within l' _ k' => l = l' ∧ k = k'
  | _, _ => False

/-- A place is like itself. -/
@[simp] lemma Alike.refl (p : Position I σ Λ) : p.Alike p := by
  cases p with
  | start l => exact rfl
  | within l e k => exact ⟨rfl, rfl⟩

/-- Alike places have the same label. -/
lemma Alike.label {p q : Position I σ Λ} (h : p.Alike q) : p.label = q.label := by
  cases p <;> cases q <;> first | exact h.elim | exact h | exact h.1

/-- Alike places have the same left to do. -/
lemma Alike.rest {p q : Position I σ Λ} (h : p.Alike q) (block : Λ → Prog I Λ) :
    p.rest block = q.rest block := by
  cases p <;> cases q
  · exact congrArg block h
  · exact h.elim
  · exact h.elim
  · exact h.2

/-- The same remainder resumed is at alike places. -/
lemma alike_resume (l : Λ) (e e' : σ) (k : Prog I Λ) : (resume l e k).Alike (resume l e' k) := by
  cases k with
  | ret l' => exact rfl
  | op o k => exact ⟨rfl, rfl⟩

/-- **Processes that see the same stay alike**, and what is seen stays the same. -/
theorem Alike.step {M : Machine I σ ρ} {view : σ → τ} (hrespects : ∀ o, M.Respects view o)
    (block : Λ → Prog I Λ) {p q : Position I σ Λ} {s t : σ} (halike : p.Alike q)
    (hview : view s = view t) (r : ρ) :
    (p.step M block r s).1.Alike (q.step M block r t).1 ∧
      view (p.step M block r s).2 = view (q.step M block r t).2 := by
  have hsame := halike.rest block
  rcases hrest : p.rest block with l | ⟨o, k⟩
  · rw [step_of_ret hrest, step_of_ret (hsame ▸ hrest)]
    exact ⟨rfl, hview⟩
  · rw [step_of_op hrest, step_of_op (hsame ▸ hrest), halike.label,
      (hrespects o).answer hview r]
    exact ⟨alike_resume _ _ _ _, (hrespects o).effect hview r⟩

end Position

end Interaction
