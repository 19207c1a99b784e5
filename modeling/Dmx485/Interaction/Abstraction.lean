import Dmx485.Interaction.Outline

/-!
# What can be seen of a process

An `Abstraction` is a coarser machine: it knows part of the state, leaves the rest of an answer
open, and shows a word for each operation. `Always N p Q t` says that the program `p`, run alone
from `t` with any answers `N` allows, ends in `Q`; it is a statement about sequential code.

The point of the module is the way back. If the environment does not touch what `N` sees, then
`Always` holds of the real machine under any interference (`wp_of_always`), and if every block of a
looping process makes a move of a labelled transition system, then whatever the process has shown
in an interleaving is the word along a path of that system (`Outline.ofMoves_valid`).

* `Abstraction`, `Abstraction.Abstracts`, `Always` and its rules.
* `Path`: paths of a labelled transition system and the words along them. `Accepted`,
  `Path.accepted`: a word is accepted by a monitor if every move is.
* `Outline.ofMoves`: the outline of a process that makes moves.
-/

namespace Interaction

open Relation

variable {I : Interface} {σ τ ρ Λ A : Type} {α β : Type}

/-! ## Abstractions -/

/-- A coarser machine with states in `τ` that shows words over `A`. -/
structure Abstraction (I : Interface) (τ A : Type) where
  /-- The answers an operation can have. -/
  allows : (o : I.Op) → τ → I.Ans o → Prop
  /-- The state after an operation with this answer. -/
  next : (o : I.Op) → I.Ans o → τ → τ
  /-- What is shown of an operation with this answer. -/
  shows : (o : I.Op) → I.Ans o → List A

/-- Against every answer allowed, the program run alone from `t` ends in `Q`, which also sees the
word shown. -/
def Always (N : Abstraction I τ A) : Prog I α → (α → List A → τ → Prop) → τ → Prop
  | .ret a, Q, t => Q a [] t
  | .op o k, Q, t => ∀ a, N.allows o t a →
      Always N (k a) (fun b d t' => Q b (N.shows o a ++ d) t') (N.next o a t)

section always

variable {N : Abstraction I τ A}

/-- A weaker postcondition. -/
lemma Always.mono {Q Q' : α → List A → τ → Prop} (h : ∀ a d t, Q a d t → Q' a d t)
    {p : Prog I α} {t : τ} (hp : Always N p Q t) : Always N p Q' t := by
  induction p generalizing Q Q' t with
  | ret a => exact h a [] t hp
  | op o k ih => exact fun a ha => ih a (fun b d t' hb => h b _ t' hb) (hp a ha)

/-- Sequencing: the words are joined. -/
lemma Always.bind {Q : β → List A → τ → Prop} {p : Prog I α} {f : α → Prog I β} {t : τ}
    (hp : Always N p (fun a d t' => Always N (f a) (fun b e t'' => Q b (d ++ e) t'') t') t) :
    Always N (p >>= f) Q t := by
  induction p generalizing Q t with
  | ret a => exact hp
  | op o k ih =>
      intro a ha
      refine ih a ((hp a ha).mono fun b d t' hb => hb.mono fun c e t'' hc => ?_)
      rwa [← List.append_assoc]

/-- One operation, then the rest. -/
lemma Always.step {Q : β → List A → τ → Prop} {o : I.Op} {f : I.Ans o → Prog I β} {t : τ}
    (h : ∀ a, N.allows o t a →
      Always N (f a) (fun b d t' => Q b (N.shows o a ++ d) t') (N.next o a t)) :
    Always N (.op o .ret >>= f) Q t := h

end always

/-! ## Back to the machine -/

/-- Through the view `f` of the state and the trace `g`, what `M` does against permitted replies
is something `N` does. -/
structure Abstraction.Abstracts (N : Abstraction I τ A) (M : Machine I σ ρ)
    (permitted : σ → I.Op → ρ → Prop) (f : σ → τ) (g : σ → List A) : Prop where
  allows : ∀ o r s, permitted s o r → N.allows o (f s) (M.exec o r s).1
  next : ∀ o r s, f (M.exec o r s).2 = N.next o (M.exec o r s).1 (f s)
  shows : ∀ o r s, g (M.exec o r s).2 = g s ++ N.shows o (M.exec o r s).1

/-- The environment touches neither the view nor the trace. -/
def Unseen (env : σ → σ → Prop) (f : σ → τ) (g : σ → List A) : Prop :=
  ∀ s s', env s s' → f s' = f s ∧ g s' = g s

/-- Any number of unseen steps are unseen. -/
lemma Unseen.star {env : σ → σ → Prop} {f : σ → τ} {g : σ → List A} (h : Unseen env f g)
    {s s' : σ} (hs : ReflTransGen env s s') : f s' = f s ∧ g s' = g s := by
  induction hs with
  | refl => exact ⟨rfl, rfl⟩
  | tail _ hstep ih =>
      obtain ⟨hf, hg⟩ := h _ _ hstep
      exact ⟨hf.trans ih.1, hg.trans ih.2⟩

section back

variable {N : Abstraction I τ A} {M : Machine I σ ρ} {C : Context I σ ρ} {f : σ → τ}
  {g : σ → List A}

/-- **From the abstraction to the machine**: what always holds of a program run alone on the
abstraction holds of it on the machine under interference that is not seen. -/
theorem wp_of_always (hN : N.Abstracts M C.allows f g) (henv : Unseen C.env f g)
    (hG : ∀ s o r, C.allows s o r → C.guarantee s o r) {Q : α → List A → τ → Prop}
    {p : Prog I α} {s : σ} (h : Always N p Q (f s)) :
    wp M C p (fun a s' => ∃ d, g s' = g s ++ d ∧ Q a d (f s')) s := by
  induction p generalizing Q s with
  | ret a => exact ⟨[], (List.append_nil _).symm, h⟩
  | op o k ih =>
      intro s₁ hs₁ r hr
      obtain ⟨hf, hg⟩ := henv.star hs₁
      have hk := h _ (hf ▸ hN.allows o r s₁ hr)
      rw [← hf, ← hN.next o r s₁] at hk
      refine ⟨hG s₁ o r hr, wp_mono ?_ (ih _ hk)⟩
      rintro a s' ⟨d, hd, hQ⟩
      refine ⟨_, ?_, hQ⟩
      rw [hd, hN.shows o r s₁, hg, List.append_assoc]

/-- A program under interference can be finished, if its operations can be answered, and the trace
only grows. -/
lemma wp_finish {K : I.Op → Prop} (hK : ∀ s o, K o → ∃ r, C.allows s o r)
    (hg : ∀ o r s, g s <+: g (M.exec o r s).2) {Q : α → σ → Prop} {p : Prog I α} {s : σ}
    (hp : p.All K) (h : wp M C p Q s) : ∃ a s', Q a s' ∧ g s <+: g s' := by
  induction p generalizing s with
  | ret a => exact ⟨a, s, h, List.prefix_rfl⟩
  | op o k ih =>
      obtain ⟨r, hr⟩ := hK s o hp.1
      obtain ⟨a, s', hQ, hgrow⟩ := ih _ (hp.2 _) (h s ReflTransGen.refl r hr).2
      exact ⟨a, s', hQ, (hg o r s).trans hgrow⟩

end back

/-! ## Paths -/

/-- The paths of a labelled transition system, with the word along them. -/
inductive Path {Γ : Type} (move : Γ → List A → Γ → Prop) : Γ → List A → Γ → Prop
  | refl (c : Γ) : Path move c [] c
  | tail {c c' c'' : Γ} {d e : List A} (h : Path move c d c') (hmove : move c' e c'') :
      Path move c (d ++ e) c''

section paths

variable {Γ : Type} {move : Γ → List A → Γ → Prop}

/-- What holds of all letters of every move holds of all letters of a path. -/
lemma Path.forall_mem {P : Γ → Prop} {R : A → Prop}
    (hmove : ∀ c d c', P c → move c d c' → P c' ∧ ∀ x ∈ d, R x) {c c' : Γ} {d : List A}
    (h : Path move c d c') (hc : P c) : P c' ∧ ∀ x ∈ d, R x := by
  induction h with
  | refl => exact ⟨hc, fun x hx => absurd hx List.not_mem_nil⟩
  | tail _ hm ih =>
      obtain ⟨hP, hR⟩ := hmove _ _ _ ih.1 hm
      refine ⟨hP, fun x hx => ?_⟩
      rcases List.mem_append.mp hx with hx | hx
      · exact ih.2 x hx
      · exact hR x hx

/-- The word along a path is made of the words of its moves; those that show nothing are left
out. -/
lemma Path.words {P : Γ → Prop} {R : List A → Prop}
    (hmove : ∀ c d c', P c → move c d c' → P c' ∧ (d = [] ∨ R d)) {c c' : Γ} {d : List A}
    (h : Path move c d c') (hc : P c) :
    P c' ∧ ∃ ws : List (List A), d = ws.flatten ∧ ∀ w ∈ ws, R w := by
  induction h with
  | refl => exact ⟨hc, [], rfl, fun w hw => absurd hw List.not_mem_nil⟩
  | tail _ hm ih =>
      obtain ⟨hbefore, ws, rfl, hws⟩ := ih
      obtain ⟨hP, rfl | hR⟩ := hmove _ _ _ hbefore hm
      · exact ⟨hP, ws, List.append_nil _, hws⟩
      · refine ⟨hP, ws ++ [_], List.flatten_concat.symm, ?_⟩
        simpa [or_imp, forall_and] using ⟨hws, hR⟩

/-! ## Monitors -/

variable {S : Type} (next : S → A → S) (ok : S → A → Prop)

/-- A monitor in state `q` accepts each letter of the word when it comes to it. -/
def Accepted : S → List A → Prop
  | _, [] => True
  | q, x :: d => ok q x ∧ Accepted (next q x) d

variable {next ok}

/-- A word is accepted in two parts, the second from where the first leads. -/
lemma accepted_append {q : S} {d e : List A} :
    Accepted next ok q (d ++ e) ↔ Accepted next ok q d ∧ Accepted next ok (d.foldl next q) e := by
  induction d generalizing q with
  | nil => simp [Accepted]
  | cons x d ih =>
      simp only [List.cons_append, Accepted, List.foldl_cons]
      rw [ih, and_assoc]

/-- The letter at any place is accepted in the state the letters before it lead to. -/
lemma Accepted.at {q : S} {d e : List A} {x : A} (h : Accepted next ok q (d ++ x :: e)) :
    ok (d.foldl next q) x :=
  (accepted_append.mp h).2.1

/-- A word of letters each of which is accepted in `q` and leaves it as it is. -/
lemma accepted_of_forall {q : S} {d : List A} (h : ∀ x ∈ d, ok q x ∧ next q x = q) :
    Accepted next ok q d ∧ d.foldl next q = q := by
  induction d with
  | nil => exact ⟨trivial, rfl⟩
  | cons x d ih =>
      obtain ⟨hok, hnext⟩ := h x List.mem_cons_self
      have hd := ih fun y hy => h y (List.mem_cons_of_mem x hy)
      rw [← hnext] at hd
      refine ⟨⟨hok, hd.1⟩, ?_⟩
      rw [List.foldl_cons, hd.2, hnext]

/-- **A path is accepted** if every move is, from the monitor states that fit its source. -/
theorem Path.accepted {P : Γ → S → Prop}
    (hmove : ∀ c d c' q, P c q → move c d c' →
      Accepted next ok q d ∧ P c' (d.foldl next q)) {c c' : Γ} {d : List A} {q : S}
    (h : Path move c d c') (hq : P c q) : Accepted next ok q d ∧ P c' (d.foldl next q) := by
  induction h with
  | refl => exact ⟨trivial, hq⟩
  | tail _ hm ih =>
      obtain ⟨hacc, hP⟩ := hmove _ _ _ _ ih.2 hm
      refine ⟨accepted_append.mpr ⟨ih.1, hacc⟩, ?_⟩
      rwa [List.foldl_append]

end paths

/-! ## Processes that make moves -/

section moves

variable (env : σ → σ → Prop) (permitted : σ → I.Op → ρ → Prop) (f : σ → τ) (g : σ → List A)
  (move : Λ × τ → List A → Λ × τ → Prop) (c₀ : Λ × τ) (d₀ : List A)

/-- The configuration `c` has been reached by moves, and the trace is `d₀` and the word along
them. -/
def Arrived (c : Λ × τ) (trace : List A) : Prop :=
  ∃ d, Path move c₀ d c ∧ trace = d₀ ++ d

/-- The outline of a process each block of which makes a move. -/
def Outline.ofMoves : Outline I σ ρ Λ where
  env _ := env
  allows := permitted
  guarantee _ _ _ _ := True
  pre l s := Arrived move c₀ d₀ (l, f s) (g s)
  post _ _ l' s := Arrived move c₀ d₀ (l', f s) (g s)

variable {env permitted f g move c₀ d₀} {N : Abstraction I τ A} {M : Machine I σ ρ}
  {block : Λ → Prog I Λ}

/-- **If every block makes a move** on the abstraction, the outline is valid. -/
theorem Outline.ofMoves_valid (hN : N.Abstracts M permitted f g) (henv : Unseen env f g)
    (hblock : ∀ l t, Always N (block l) (fun l' d t' => move (l, t) d (l', t')) t) :
    (Outline.ofMoves env permitted f g move c₀ d₀).Valid M block where
  stable := by
    rintro l s s' ⟨d, hpath, hd⟩ hs
    obtain ⟨hf, hg⟩ := henv s s' hs
    refine ⟨d, ?_, hg.trans hd⟩
    rwa [hf]
  block := by
    rintro l s ⟨d, hpath, hd⟩
    refine wp_mono ?_ (wp_of_always hN henv (fun _ _ _ _ => trivial) (hblock l (f s)))
    rintro l' s' ⟨e, he, hmove⟩
    refine ⟨d ++ e, hpath.tail hmove, ?_⟩
    rw [he, hd, List.append_assoc]
  chain := fun _ _ _ _ hpost => hpost

end moves

end Interaction
