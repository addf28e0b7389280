import Mathlib.Tactic.Choose
import Mozart.Lib.Dialogue

/-!
# Protocols of calls

A protocol says in which order calls may be made: it has a state, and a call with its answer leads
from one state to the next, or breaks the protocol. Whether a program obeys a protocol is seen from
the program alone, for every answer a call may get; nothing is said of the environment.

* **`Obeys next s p Q`**: from state `s` on, `p` never breaks the protocol `next`, and `Q` holds of
  what it returns and the state it returns in; one rule for each form of a program.
* **`Obeys.holds`**: in an environment that follows the states of the protocol they are an
  invariant of the program.
-/

namespace Dialogue

variable {C : Type} {A : C → Type} {ω σ τ α β : Type}

/-- The program obeys the protocol from the state on. -/
inductive Obeys (next : σ → (c : C) → A c → Option σ) :
    {α : Type} → σ → Prog C A α → (α → σ → Prop) → Prop
  | pure {α : Type} {s : σ} {a : α} {Q : α → σ → Prop} (ha : Q a s) : Obeys next s (.pure a) Q
  | ask {α : Type} {s : σ} {c : C} {k : A c → Prog C A α} {Q : α → σ → Prop} (s' : A c → σ)
      (hnext : ∀ a, next s c a = some (s' a)) (hk : ∀ a, Obeys next (s' a) (k a) Q) :
      Obeys next s (.ask c k) Q
  | iterate {τ β α : Type} {s : σ} {t : τ} {body : τ → Prog C A (τ ⊕ β)} {k : β → Prog C A α}
      {Q : α → σ → Prop} (J : τ → σ → Prop) (R : β → σ → Prop) (hJ : J t s)
      (hbody : ∀ t s, J t s → Obeys next s (body t) (Sum.elim J R))
      (hk : ∀ b s, R b s → Obeys next s (k b) Q) : Obeys next s (.iterate t body k) Q

variable {next : σ → (c : C) → A c → Option σ} {s : σ} {p : Prog C A α}

/-! ## The rules -/

theorem Obeys.bind {R : α → σ → Prop} {Q : β → σ → Prop} {f : α → Prog C A β}
    (hp : Obeys next s p R) (hf : ∀ a s, R a s → Obeys next s (f a) Q) :
    Obeys next s (p >>= f) Q := by
  show Obeys next s (p.bind f) Q
  induction hp with
  | pure ha => exact hf _ _ ha
  | ask s' hnext _ ih => exact .ask s' hnext fun a => ih a hf
  | iterate J R hJ hbody _ _ ih => exact .iterate J R hJ hbody fun b s hb => ih b s hb hf

theorem Obeys.call_bind {c : C} {f : A c → Prog C A α} {Q : α → σ → Prop}
    (hf : ∀ a, ∃ s', next s c a = some s' ∧ Obeys next s' (f a) Q) :
    Obeys next s (call c >>= f) Q := by
  choose s' hnext hk using hf
  exact .ask s' hnext hk

theorem Obeys.andM {p q : Prog C A Bool} {Q R : Bool → σ → Prop} (hp : Obeys next s p R)
    (hfalse : ∀ s, R false s → Q false s) (hq : ∀ s, R true s → Obeys next s q Q) :
    Obeys next s (p <&&> q) Q := by
  apply hp.bind
  intro b s' hb
  cases b with
  | false => exact .pure (hfalse s' hb)
  | true => exact hq s' hb

theorem Obeys.orM {p q : Prog C A Bool} {Q R : Bool → σ → Prop} (hp : Obeys next s p R)
    (htrue : ∀ s, R true s → Q true s) (hq : ∀ s, R false s → Obeys next s q Q) :
    Obeys next s (p <||> q) Q := by
  apply hp.bind
  intro b s' hb
  cases b with
  | false => exact hq s' hb
  | true => exact .pure (htrue s' hb)

/-- **The loop rule**: an invariant of the loop's state and the state of the protocol. -/
theorem Obeys.loop {t : τ} {body : τ → Prog C A (τ ⊕ β)} {Q : β → σ → Prop} (J : τ → σ → Prop)
    (hJ : J t s) (hbody : ∀ t s, J t s → Obeys next s (body t) (Sum.elim J Q)) :
    Obeys next s (loop t body) Q :=
  .iterate J Q hJ hbody fun _ _ hb => .pure hb

/-! ## In an environment -/

variable {env : Env C A ω} {Q : α → σ → Prop} {I : σ → ω → Prop}

/-- **A program that obeys a protocol** keeps what every answered call that follows the protocol
keeps. -/
theorem Obeys.holds (hstep : ∀ s s' w w' c a, I s w → env w c = some (a, w') →
      next s c a = some s' → I s' w')
    (hp : Obeys next s p Q) {w : ω} (hw : I s w) :
    Holds env p w (fun w' => ∃ s', I s' w') (fun a w' => ∃ s', I s' w' ∧ Q a s') := by
  have key : ∀ n s (p : Prog C A α) w, Obeys next s p Q → I s w →
      (∃ s', I s' (after env n p w).2) ∧ ∀ a, (after env n p w).1.value? = some a →
        ∃ s', I s' (after env n p w).2 ∧ Q a s' := by
    intro n
    induction n with
    | zero =>
      intro s p w hp hw
      refine ⟨⟨s, hw⟩, ?_⟩
      intro a ha
      cases hp with
      | pure hQ =>
        cases ha
        exact ⟨s, hw, hQ⟩
      | ask => cases ha
      | iterate => cases ha
    | succ n ih =>
      intro s p w hp hw
      cases hp with
      | pure hQ =>
        refine ⟨⟨s, hw⟩, ?_⟩
        intro a ha
        cases ha
        exact ⟨s, hw, hQ⟩
      | @ask _ _ c k _ s' hnext hk =>
        cases henv : env w c with
        | none =>
          simp only [after, henv]
          exact ⟨⟨s, hw⟩, fun a ha => by cases ha⟩
        | some r =>
          simp only [after, henv]
          exact ih _ _ _ (hk r.1) (hstep s _ w r.2 c r.1 hw henv (hnext r.1))
      | @iterate _ _ _ _ t body k _ J R hJ hbody hk =>
        -- a round, and then the loop again or what follows it
        show (∃ s', I s' (after env n (Prog.round t body k) w).2) ∧ _
        refine ih s (Prog.round t body k) w ?_ hw
        apply (hbody t s hJ).bind
        intro r s₁ hr
        cases r with
        | inl t' => exact .iterate J R hr hbody hk
        | inr b => exact hk b s₁ hr
  constructor
  · rintro w' ⟨n, rfl⟩
    exact (key n s p w hp hw).1
  · rintro a w' ⟨n, ha, rfl⟩
    exact (key n s p w hp hw).2 a ha

end Dialogue
