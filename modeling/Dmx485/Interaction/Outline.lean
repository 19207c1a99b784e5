import Dmx485.Interaction.Machine

/-!
# Looping processes and proof outlines

A process that runs forever is given as labelled blocks: each block is a program that returns
the label of the block to run next. `Position` is where the process stands: at the start of a
block, or inside one with what is left of it. The position also remembers the state in which the
block was entered; no step reads it, assertions may.

An `Outline` annotates the labels, in the manner of a proof outline for a parallel program: what
holds at a label whatever the environment does there (`pre`), and what holds when a block is left,
relative to the state it was entered in (`post`). `Outline.Valid` asks one weakest precondition
for each block. `Holds` is the assertion the outline makes about a position, and the two step
lemmas (`holds_step`, `holds_env`) make it an invariant of every interleaving.

* `Position.step`: one operation of the process; `step_of_ret` and `step_of_op` are its two cases,
  a block that is done being resumed at the next one.
* `Position.TailAll`, `all_rest_step`: what holds of all that is left of a block goes on holding.
* `holds_guarantee`, `holds_post`: what an invariant outline says about the next operation, and
  about a block that is about to be left.
* `follow` chains blocks back into one program, and `alone_follow` runs that program as the steps
  the process takes when nobody interferes. So results about the chained program, which may be the
  loop body as somebody wrote it, are results about the process.
-/

namespace Interaction

open Relation

variable {I : Interface} {σ ρ Λ : Type}

/-- Where a looping process stands. -/
inductive Position (I : Interface) (σ Λ : Type) : Type
  /-- At the start of a block. -/
  | start (l : Λ)
  /-- Inside a block that was entered in state `entry`, with `rest` left of it. -/
  | within (l : Λ) (entry : σ) (rest : Prog I Λ)

namespace Position

/-- The block a process stands at or in. -/
def label : Position I σ Λ → Λ
  | start l => l
  | within l _ _ => l

/-- The state in which the current block was entered; at its start, the current state. -/
def entry (s : σ) : Position I σ Λ → σ
  | start _ => s
  | within _ e _ => e

/-- What is left of the current block. -/
def rest (block : Λ → Prog I Λ) : Position I σ Λ → Prog I Λ
  | start l => block l
  | within _ _ k => k

/-- The position with `k` left of block `l`: a finished block hands over to its successor. -/
def resume (l : Λ) (e : σ) : Prog I Λ → Position I σ Λ
  | .ret l' => start l'
  | .op o k => within l e (.op o k)

/-- One step of the process: the first operation of what is left. -/
def step (M : Machine I σ ρ) (block : Λ → Prog I Λ) (r : ρ) (p : Position I σ Λ) (s : σ) :
    Position I σ Λ × σ :=
  match p.rest block with
  | .ret l' => (start l', s)
  | .op o k => (resume p.label (p.entry s) (k (M.exec o r s).1), (M.exec o r s).2)

instance [DecidableEq Λ] (l : Λ) : (p : Position I σ Λ) → Decidable (p = start l)
  | start l' => decidable_of_iff (l' = l) ⟨congrArg start, fun h => by injection h⟩
  | within _ _ _ => isFalse fun h => by cases h

/-- The label at the start of a block. -/
@[simp] lemma label_start (l : Λ) : (start l : Position I σ Λ).label = l := rfl

/-- The label inside a block. -/
@[simp] lemma label_within (l : Λ) (e : σ) (k : Prog I Λ) : (within l e k).label = l := rfl

/-- At its start, a block is being entered in the current state. -/
@[simp] lemma entry_start (l : Λ) (s : σ) : (start l : Position I σ Λ).entry s = s := rfl

/-- Inside, it was entered in the state recorded. -/
@[simp] lemma entry_within (l : Λ) (e s : σ) (k : Prog I Λ) : (within l e k).entry s = e := rfl

/-- At its start, all of a block is left. -/
@[simp] lemma rest_start (block : Λ → Prog I Λ) (l : Λ) :
    (start l : Position I σ Λ).rest block = block l := rfl

/-- Inside, the remainder recorded is left. -/
@[simp] lemma rest_within (block : Λ → Prog I Λ) (l : Λ) (e : σ) (k : Prog I Λ) :
    (within l e k).rest block = k := rfl

/-- A remainder that performs something is inside its block. -/
@[simp] lemma resume_op (l : Λ) (e : σ) (o : I.Op) (k : I.Ans o → Prog I Λ) :
    (resume l e (.op o k) : Position I σ Λ) = within l e (.op o k) := rfl

/-- A block with nothing left hands over without performing anything. -/
lemma step_of_ret {M : Machine I σ ρ} {block : Λ → Prog I Λ} {p : Position I σ Λ} {l' : Λ}
    (h : p.rest block = .ret l') (r : ρ) (s : σ) : p.step M block r s = (start l', s) := by
  unfold step
  rw [h]

/-- Otherwise the first operation left is performed. -/
lemma step_of_op {M : Machine I σ ρ} {block : Λ → Prog I Λ} {p : Position I σ Λ} {o : I.Op}
    {k : I.Ans o → Prog I Λ} (h : p.rest block = .op o k) (r : ρ) (s : σ) :
    p.step M block r s =
      (resume p.label (p.entry s) (k (M.exec o r s).1), (M.exec o r s).2) := by
  unfold step
  rw [h]

/-- The remainder of an entered block `l` performs something and keeps to `P l`; nothing is said
at the start of a block. -/
def TailAll (P : Λ → I.Op → Prop) : Position I σ Λ → Prop
  | start _ => True
  | within l _ k => k.next.isSome ∧ k.All (P l)

/-- A remainder in `P` resumed stays in `P`. -/
lemma tailAll_resume {P : Λ → I.Op → Prop} {l : Λ} {e : σ} {k : Prog I Λ} (h : k.All (P l)) :
    (resume l e k).TailAll P := by
  cases k with
  | ret l' => trivial
  | op o k' => exact ⟨rfl, h⟩

/-- The remainders stay in `P` if, in every block, all operations but the first are in `P`. -/
lemma TailAll.step {M : Machine I σ ρ} {block : Λ → Prog I Λ} {P : Λ → I.Op → Prop}
    (hblock : ∀ l, (block l).Tail (P l)) {r : ρ} {p : Position I σ Λ} {s : σ}
    (h : p.TailAll P) : (p.step M block r s).1.TailAll P := by
  rcases hrest : p.rest block with l' | ⟨o, k⟩
  · rw [step_of_ret hrest]
    trivial
  · rw [step_of_op hrest]
    apply tailAll_resume
    cases p with
    | start l =>
        have htail := hblock l
        rw [rest_start] at hrest
        rw [hrest] at htail
        exact htail _
    | within l e k' =>
        rw [rest_within] at hrest
        subst hrest
        exact h.2.2 _

end Position

/-! ## Proof outlines -/

/-- Assertions for the labels of a looping process, with the context it runs in at each label. -/
structure Outline (I : Interface) (σ ρ Λ : Type) where
  /-- One step of the environment while the process is at or in block `l`. -/
  env : Λ → σ → σ → Prop
  /-- The replies that can be given. -/
  allows : σ → I.Op → ρ → Prop
  /-- What must hold of the state when the process performs an operation in block `l`. -/
  guarantee : Λ → σ → I.Op → ρ → Prop
  /-- What holds at the start of block `l`. -/
  pre : Λ → σ → Prop
  /-- What holds when block `l`, entered in `s₀`, hands over to `l'` in `s`. -/
  post : Λ → σ → Λ → σ → Prop

namespace Outline

variable (O : Outline I σ ρ Λ)

/-- The context of block `l`. -/
def ctx (l : Λ) : Context I σ ρ where
  env := O.env l
  allows := O.allows
  guarantee := O.guarantee l

/-- The verification conditions of an outline. -/
structure Valid (M : Machine I σ ρ) (block : Λ → Prog I Λ) : Prop where
  /-- The environment does not disturb an assertion. -/
  stable : ∀ l, Stable (O.ctx l) (O.pre l)
  /-- Each block leads from its assertion to its postcondition. -/
  block : ∀ l s, O.pre l s → wp M (O.ctx l) (block l) (O.post l s) s
  /-- A postcondition contains the assertion of the block handed over to. -/
  chain : ∀ l s₀ l' s, O.post l s₀ l' s → O.pre l' s

/-- What an outline says of a process that stands at `p` in state `s`. -/
def Holds (M : Machine I σ ρ) : Position I σ Λ → σ → Prop
  | .start l, s => O.pre l s
  | .within l e k, s => k.next.isSome ∧ wp M (O.ctx l) k (O.post l e) s

variable {O} {M : Machine I σ ρ} {block : Λ → Prog I Λ}

/-- The weakest precondition of what is left of the block. -/
lemma Holds.wp (hO : O.Valid M block) {p : Position I σ Λ} {s : σ} (h : O.Holds M p s) :
    wp M (O.ctx p.label) (p.rest block) (O.post p.label (p.entry s)) s := by
  cases p with
  | start l => exact hO.block l s h
  | within l e k => exact h.2

/-- Resuming a block establishes what the outline says there. -/
lemma holds_resume (hO : O.Valid M block) {l : Λ} {e s : σ} {k : Prog I Λ}
    (h : Interaction.wp M (O.ctx l) k (O.post l e) s) : O.Holds M (Position.resume l e k) s := by
  cases k with
  | ret l' => exact hO.chain l e l' s h
  | op o k' => exact ⟨rfl, h⟩

/-- **One step of the process** keeps the outline. -/
theorem holds_step (hO : O.Valid M block) {p : Position I σ Λ} {s : σ} {r : ρ}
    (h : O.Holds M p s) (hr : ∀ o, (p.rest block).next = some o → O.allows s o r) :
    O.Holds M (p.step M block r s).1 (p.step M block r s).2 := by
  have hwp := h.wp hO
  rcases hrest : p.rest block with l' | ⟨o, k⟩
  · rw [hrest] at hwp
    rw [Position.step_of_ret hrest]
    exact hO.chain _ _ _ _ hwp
  · rw [hrest] at hwp hr
    rw [Position.step_of_op hrest]
    exact holds_resume hO (hwp s ReflTransGen.refl r (hr o rfl)).2

/-- **The guarantee** holds at every operation the process performs. -/
theorem holds_guarantee (hO : O.Valid M block) {p : Position I σ Λ} {s : σ}
    (h : O.Holds M p s) {o : I.Op} (ho : (p.rest block).next = some o) (r : ρ)
    (hr : O.allows s o r) :
    O.guarantee p.label s o r := by
  have hwp := h.wp hO
  rcases hrest : p.rest block with l' | ⟨o', k⟩
  · rw [hrest] at ho
    cases ho
  · rw [hrest] at ho hwp
    cases ho
    exact (hwp s ReflTransGen.refl r hr).1

/-- **The postcondition** holds when the process hands over to the next block. -/
theorem holds_post (hO : O.Valid M block) {p : Position I σ Λ} {s : σ} {r : ρ}
    (h : O.Holds M p s) (hr : ∀ o, (p.rest block).next = some o → O.allows s o r) {l' : Λ}
    (hstart : (p.step M block r s).1 = .start l') :
    O.post p.label (p.entry s) l' (p.step M block r s).2 := by
  have hwp := h.wp hO
  rcases hrest : p.rest block with l | ⟨o, k⟩
  · rw [hrest] at hwp
    rw [Position.step_of_ret hrest] at hstart ⊢
    obtain rfl : l = l' := by injection hstart
    exact hwp
  · rw [hrest] at hwp hr
    rw [Position.step_of_op hrest] at hstart ⊢
    have hdone := (hwp s ReflTransGen.refl r (hr o rfl)).2
    rcases hk : k (M.exec o r s).1 with l | ⟨o', k'⟩
    · rw [hk] at hdone hstart
      obtain rfl : l = l' := by injection hstart
      exact hdone
    · rw [hk] at hstart
      cases hstart

/-- **One step of the environment** keeps the outline. -/
theorem holds_env (hO : O.Valid M block) {p : Position I σ Λ} {s s' : σ} (h : O.Holds M p s)
    (hs : O.env p.label s s') : O.Holds M p s' := by
  cases p with
  | start l => exact hO.stable l s s' h hs
  | within l e k =>
      refine ⟨h.1, ?_⟩
      cases k with
      | ret l' => cases h.1
      | op o k' => exact wp_env h.2 (ReflTransGen.single hs)

end Outline

/-! ## A process that nobody disturbs -/

/-- The program of at most `n` blocks from `l`, up to the first that hands over to `stop`. It
returns the label it has come to. -/
def follow [DecidableEq Λ] (block : Λ → Prog I Λ) (stop : Λ) : ℕ → Λ → Prog I Λ
  | 0, l => .ret l
  | n + 1, l => block l >>= fun l' => if l' = stop then .ret l' else follow block stop n l'

/-- A block that hands over to one label is followed by the blocks from there. -/
lemma follow_seq [DecidableEq Λ] {block : Λ → Prog I Λ} {stop l l' : Λ} {p : Prog I Unit}
    (hl : block l = p >>= fun _ => .ret l') (hne : l' ≠ stop) (n : ℕ) :
    follow block stop (n + 1) l = p >>= fun _ => follow block stop n l' := by
  rw [follow, hl, Prog.bind_assoc]
  simp only [Prog.bind_ret, if_neg hne]

section alone

variable (M : Machine I σ ρ) (block : Λ → Prog I Λ)

/-- Configurations joined by steps of the process alone. -/
def Alone : Position I σ Λ × σ → Position I σ Λ × σ → Prop :=
  ReflTransGen fun c c' => ∃ r, c' = c.1.step M block r c.2

variable {M block}

/-- Alone, the process finishes a resumed block as the program left of it runs. -/
lemma alone_resume (l : Λ) (e : σ) (k : Prog I Λ) (f : Script I ρ) (s : σ) :
    Alone M block (.resume l e k, s) (.start (M.run k f s).1, M.after k f s) := by
  induction k generalizing f s with
  | ret l' => exact ReflTransGen.refl
  | op o k ih =>
      refine ReflTransGen.head ⟨f 0 o, ?_⟩ (ih _ f.rest (M.exec o (f 0 o) s).2)
      rw [Position.resume_op, Position.step_of_op (Position.rest_within block l e _)]
      rfl

/-- Alone, the process runs the whole block it stands at. -/
lemma alone_block [Inhabited ρ] (l : Λ) (f : Script I ρ) (s : σ) :
    Alone M block (.start l, s) (.start (M.run (block l) f s).1, M.after (block l) f s) := by
  rcases hrest : block l with l' | ⟨o, k⟩
  · refine ReflTransGen.single ⟨default, ?_⟩
    rw [Position.step_of_ret ((Position.rest_start block l).trans hrest)]
    rfl
  · refine ReflTransGen.head ⟨f 0 o, ?_⟩ (alone_resume l s _ f.rest (M.exec o (f 0 o) s).2)
    rw [Position.step_of_op ((Position.rest_start block l).trans hrest)]
    rfl

/-- **Alone, the process does what the chained program does**: from the start of block `l` it
comes to the label and the state that `follow` ends in. -/
theorem alone_follow [Inhabited ρ] [DecidableEq Λ] (stop : Λ) (n : ℕ) (l : Λ) (f : Script I ρ)
    (s : σ) :
    Alone M block (.start l, s)
      (.start (M.run (follow block stop n l) f s).1, M.after (follow block stop n l) f s) := by
  induction n generalizing l f s with
  | zero => exact ReflTransGen.refl
  | succ n ih =>
      unfold Machine.after follow
      rw [Machine.run_bind]
      refine (alone_block l f s).trans ?_
      split_ifs with hstop
      · exact ReflTransGen.refl
      · exact ih _ _ _

end alone

end Interaction
