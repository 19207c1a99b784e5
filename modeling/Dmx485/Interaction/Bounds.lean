import Dmx485.Interaction.Outline

/-!
# Bounds on the steps of a process

`Prog.Bounded R p n`: along every path the program performs at most `n` operations and returns
something in `R`. For a looping process such bounds are added up block by block: a `Ranking` gives
each label, in each state of a view that only the first operations of blocks change, a number that
pays for the block and for what comes after it, until a goal is reached. `Position.Due` is what is
left to pay at a position, `Due.step` its step lemma. `Position.solvent_step` is the same for the
credit of `Prog.Solvent`.

A ranking bounds the steps of one process only. How often the environment moves in between does
not matter, as long as it leaves the view alone.

* `Prog.Bounded` and its rules, which follow the `do` block of a program.
* `Position.Inside`: what is left of a block keeps to the bound of the block.
* `Ranking`, `Position.Due`: the rule for a process, with `Due.env` for the environment.
  `Due.zero`: where nothing is left to pay, a block begins, and its rank is 0.
-/

namespace Interaction

variable {I : Interface} {σ τ ρ Λ : Type} {α β : Type}

/-! ## Programs -/

namespace Prog

/-- Every path performs at most `n` operations and ends in `R`. -/
def Bounded (R : α → Prop) : Prog I α → ℕ → Prop
  | ret a, _ => R a
  | op _ _, 0 => False
  | op _ k, n + 1 => ∀ a, (k a).Bounded R n

variable {R R' : α → Prop} {S : β → Prop}

/-- A program that has returned needs no steps. -/
lemma Bounded.ret {a : α} (ha : R a) (n : ℕ) : (ret a : Prog I α).Bounded R n := by
  cases n <;> exact ha

/-- A weaker bound. -/
lemma Bounded.mono (hR : ∀ a, R a → R' a) {p : Prog I α} {m n : ℕ} (hmn : m ≤ n)
    (h : p.Bounded R m) : p.Bounded R' n := by
  induction p generalizing m n with
  | ret a => exact .ret (hR a (by cases m <;> exact h)) n
  | op o k ih =>
      cases m with
      | zero => exact h.elim
      | succ m =>
          obtain ⟨n, rfl⟩ : ∃ n', n = n' + 1 := ⟨n - 1, by omega⟩
          exact fun a => ih a (by omega) (h a)

/-- One operation, then the rest. -/
lemma Bounded.step {o : I.Op} {f : I.Ans o → Prog I β} {n : ℕ} (h : ∀ a, (f a).Bounded S n) :
    (op o Prog.ret >>= f).Bounded S (n + 1) := h

/-- One operation and nothing else. -/
lemma Bounded.single {o : I.Op} : (op o Prog.ret).Bounded (fun _ => True) 1 :=
  fun _ => .ret trivial 0

/-- The bounds of a sequence are added. -/
lemma Bounded.bind {p : Prog I α} {f : α → Prog I β} {m n : ℕ} (hp : p.Bounded R m)
    (hf : ∀ a, R a → (f a).Bounded S n) : (p >>= f).Bounded S (m + n) := by
  induction p generalizing m with
  | ret a => exact (hf a (by cases m <;> exact hp)).mono (fun _ => id) (Nat.le_add_left n m)
  | op o k ih =>
      cases m with
      | zero => exact hp.elim
      | succ m =>
          rw [Nat.succ_add]
          exact fun a => ih a (hp a)

end Prog

/-! ## Processes -/

/-- **A step of a solvent process** is paid for, and what is left is solvent on what is left. -/
theorem Position.solvent_step {gain cost : I.Op → ℕ} {M : Machine I σ ρ} {block : Λ → Prog I Λ}
    (hblock : ∀ l, (block l).Solvent gain cost 0) {p : Position I σ Λ} {n : ℕ} {o : I.Op}
    {k : I.Ans o → Prog I Λ} (hrest : p.rest block = .op o k)
    (hp : (p.rest block).Solvent gain cost n) (r : ρ) (s : σ) :
    cost o ≤ n + gain o ∧
      ((p.step M block r s).1.rest block).Solvent gain cost (n + gain o - cost o) := by
  rw [hrest] at hp
  rw [step_of_op hrest]
  refine ⟨hp.1, ?_⟩
  have hnext := hp.2 (M.exec o r s).1
  revert hnext
  cases k (M.exec o r s).1 with
  | ret l' => exact fun _ => (hblock l').mono (Nat.zero_le _)
  | op o' k' => exact id

/-- A weaker condition on the remainders. -/
lemma Position.TailAll.imp {P P' : Λ → I.Op → Prop} (h : ∀ l o, P l o → P' l o)
    {p : Position I σ Λ} (hp : p.TailAll P) : p.TailAll P' := by
  cases p with
  | start l => trivial
  | within l e k => exact ⟨hp.1, hp.2.mono (h l)⟩

/-- What is left to pay at a position: the rank at the start of a block, and inside a block a bound
on the remainder and the rank of what it hands over to. -/
def Position.Due (view : σ → τ) (rank : Λ → τ → ℕ) : Position I σ Λ → σ → ℕ → Prop
  | .start l, s, n => rank l (view s) ≤ n
  | .within _ _ k, s, n => ∃ m n', n = n' + m ∧ k.Bounded (fun l' => rank l' (view s) ≤ n') m

/-- Outside the goal, the rank of a block pays for its operations and for what it hands over to. -/
structure Ranking (M : Machine I σ ρ) (block : Λ → Prog I Λ) (view : σ → τ) (rank : Λ → τ → ℕ)
    (goal : Λ → τ → Prop) : Prop where
  first : ∀ l s r, ¬goal l (view s) → ∃ o k m n, block l = .op o k ∧
    n + m + 1 ≤ rank l (view s) ∧
    (k (M.exec o r s).1).Bounded (fun l' => rank l' (view (M.exec o r s).2) ≤ n) m
  /-- Later operations of a block do not change the view. -/
  later : ∀ l, (block l).Tail fun o => ∀ r s, view (M.exec o r s).2 = view s

/-- Inside a block `l` there are at most `c l` operations left, and it hands over by `R`. -/
def Position.Inside (R : Λ → Λ → Prop) (c : Λ → ℕ) : Position I σ Λ → Prop
  | .start _ => True
  | .within l _ k => k.Bounded (R l) (c l)

/-- After its first operation every block is bounded. -/
def Bounding (M : Machine I σ ρ) (block : Λ → Prog I Λ) (R : Λ → Λ → Prop) (c : Λ → ℕ) : Prop :=
  ∀ l r s, ∃ o k, block l = .op o k ∧ (k (M.exec o r s).1).Bounded (R l) (c l)

section inside

variable {R : Λ → Λ → Prop} {c : Λ → ℕ} {M : Machine I σ ρ} {block : Λ → Prog I Λ}

/-- A remainder within the bounds is within them when it is resumed. -/
lemma Position.inside_resume {l : Λ} {e : σ} {k : Prog I Λ} (h : k.Bounded (R l) (c l)) :
    (Position.resume l e k).Inside R c := by
  cases k with
  | ret l' => trivial
  | op o k => exact h

/-- A step of the process stays within the bounds, and hands over by `R`. -/
lemma Position.Inside.step (hblock : Bounding M block R c) {p : Position I σ Λ} (h : p.Inside R c)
    (r : ρ) (s : σ) : (p.step M block r s).1.Inside R c := by
  cases p with
  | start l =>
      obtain ⟨o, k, hop, hk⟩ := hblock l r s
      rw [Position.step_of_op ((Position.rest_start block l).trans hop)]
      exact Position.inside_resume hk
  | within l e k =>
      rcases k with l' | ⟨o, k⟩
      · rw [Position.step_of_ret (Position.rest_within block l e _)]
        trivial
      · rw [Position.step_of_op (Position.rest_within block l e _)]
        obtain ⟨n, hn⟩ : ∃ n, c l = n + 1 := by
          cases hc : c l with
          | zero =>
              rw [Position.Inside, hc] at h
              exact h.elim
          | succ n => exact ⟨n, rfl⟩
        have hle : n ≤ c l := by omega
        rw [Position.Inside, hn] at h
        exact Position.inside_resume ((h _).mono (fun _ => id) hle)

/-- Inside a block the process stays there, or hands over by `R`. -/
lemma Position.Inside.handover {l : Λ} {e : σ} {k : Prog I Λ}
    (h : (Position.within l e k).Inside R c) (r : ρ) (s : σ) :
    (∃ k', ((Position.within l e k).step M block r s).1 = .within l e k') ∨
      ∃ l', R l l' ∧ ((Position.within l e k).step M block r s).1 = .start l' := by
  have hret : ∀ (l' : Λ) (n : ℕ), (Prog.ret l' : Prog I Λ).Bounded (R l) n → R l l' := by
    intro l' n hl'
    cases n <;> exact hl'
  rcases k with l' | ⟨o, k⟩
  · exact Or.inr ⟨l', hret l' (c l) h, rfl⟩
  · rw [Position.step_of_op (Position.rest_within block l e _)]
    cases hc : c l with
    | zero =>
        rw [Position.Inside, hc] at h
        exact h.elim
    | succ n =>
        rw [Position.Inside, hc] at h
        cases hk : k (M.exec o r s).1 with
        | ret l' => exact Or.inr ⟨l', hret l' n (hk ▸ h _), rfl⟩
        | op o' k' => exact Or.inl ⟨_, rfl⟩

end inside

section due

variable {view : σ → τ} {rank : Λ → τ → ℕ} {goal : Λ → τ → Prop} {M : Machine I σ ρ}
  {block : Λ → Prog I Λ}

/-- What is due when a remainder is resumed: its own bound, and the rank of what comes after it. -/
lemma Position.due_resume {l : Λ} {e s : σ} {k : Prog I Λ} {m n : ℕ}
    (h : k.Bounded (fun l' => rank l' (view s) ≤ n) m) :
    (Position.resume l e k).Due view rank s (n + m) := by
  cases k with
  | ret l' =>
      have hrank : rank l' (view s) ≤ n := by cases m <;> exact h
      exact Nat.le_add_right_of_le hrank
  | op o k => exact ⟨m, n, rfl, h⟩

/-- A later date. -/
lemma Position.Due.mono {p : Position I σ Λ} {s : σ} {m n : ℕ} (h : p.Due view rank s m)
    (hmn : m ≤ n) : p.Due view rank s n := by
  cases p with
  | start l => exact Nat.le_trans h hmn
  | within l e k =>
      obtain ⟨i, j, rfl, hk⟩ := h
      refine ⟨i, n - i, by omega, hk.mono (fun l' hl' => ?_) (Nat.le_refl i)⟩
      omega

/-- What does not change the view does not change what is due. -/
lemma Position.Due.env {p : Position I σ Λ} {s s' : σ} {n : ℕ} (h : p.Due view rank s n)
    (hview : view s' = view s) : p.Due view rank s' n := by
  cases p with
  | start l => exact Nat.le_trans (Nat.le_of_eq (congrArg (rank l) hview)) h
  | within l e k =>
      obtain ⟨m, n', hn, hm⟩ := h
      refine ⟨m, n', hn, ?_⟩
      rwa [hview]

/-- **A step of the process** outside the goal performs an operation, and pays for it. -/
theorem Position.Due.step (hrank : Ranking M block view rank goal) {p : Position I σ Λ} {s : σ}
    {n : ℕ} (h : p.Due view rank s n) (hgoal : ∀ l, p = .start l → ¬goal l (view s))
    (htail : p.TailAll fun _ o => ∀ r s, view (M.exec o r s).2 = view s) (r : ρ) :
    ∃ o k n', p.rest block = .op o k ∧ n = n' + 1 ∧
      (p.step M block r s).1.Due view rank (p.step M block r s).2 n' := by
  cases p with
  | start l =>
      obtain ⟨o, k, m, n', hblock, hpay, hk⟩ := hrank.first l s r (hgoal l rfl)
      have hn : rank l (view s) ≤ n := h
      refine ⟨o, k, n - 1, hblock, by omega, ?_⟩
      have hstep := Position.step_of_op ((Position.rest_start block l).trans hblock) (M := M) r s
      rw [hstep]
      exact (Position.due_resume hk).mono (by omega)
  | within l e k =>
      obtain ⟨m, n', rfl, hm⟩ := h
      rcases k with l' | ⟨o, k⟩
      · cases htail.1
      · cases m with
        | zero => exact hm.elim
        | succ m =>
            refine ⟨o, k, n' + m, rfl, rfl, ?_⟩
            rw [Position.step_of_op (Position.rest_within block l e _)]
            apply Position.due_resume
            rw [htail.2.1 r s]
            exact hm _

/-- Where nothing is left to pay, a block begins. -/
lemma Position.Due.zero {P : Λ → I.Op → Prop} {p : Position I σ Λ} {s : σ}
    (h : p.Due view rank s 0) (htail : p.TailAll P) : ∃ l, p = .start l ∧ rank l (view s) = 0 := by
  cases p with
  | start l => exact ⟨l, rfl, Nat.le_zero.mp h⟩
  | within l e k =>
      obtain ⟨m, n, hmn, hk⟩ := h
      obtain rfl : m = 0 := by omega
      cases k with
      | ret l' => cases htail.1
      | op o k => exact hk.elim

/-- What is due at a bounded position. -/
lemma Position.Inside.due {R : Λ → Λ → Prop} {c : Λ → ℕ} {p : Position I σ Λ} {s : σ} {n : ℕ}
    (h : p.Inside R c) (hstart : ∀ l, rank l (view s) ≤ n)
    (hwithin : ∀ l l', R l l' → rank l' (view s) + c l ≤ n) (hc : ∀ l, c l ≤ n) :
    p.Due view rank s n := by
  cases p with
  | start l => exact hstart l
  | within l e k =>
      refine ⟨c l, n - c l, by have := hc l; omega, ?_⟩
      refine Prog.Bounded.mono (fun l' hl' => ?_) (Nat.le_refl _) h
      have hpay := hwithin l l' hl'
      omega

end due

end Interaction
