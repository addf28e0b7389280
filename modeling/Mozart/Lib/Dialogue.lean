import Mathlib.Logic.Function.Basic

/-!
# Programs in dialogue with their environment

A sequential program is a tree of the calls it makes; what comes back is up to the environment,
which is a parameter. Nothing of a program is run here but the answers the environment gives, so
a statement about every environment is a statement about every outcome of every call.

* **`Prog C A α`**: a program that makes calls `c : C`, gets an `A c` back from each, and returns
  an `α`. `Prog.iterate` is the loop; `loop` and `call` are the two operations of the `do` blocks.
* **`after env n p w`**: what is left of `p`, and the state of the environment, after `n` steps. A
  program can be stopped after any number of steps, so its crash points are the `n`.
* **`Holds env p w I Q`**: `I` holds at every point of the program and `Q` of what it returns; one
  rule for each form of a program.
* **`Halts env p w`**, **`Total env p`**: the program returns, from `w` or from anywhere; a loop
  does by a measure.
-/

namespace Dialogue

/-- A program that makes calls `c : C`, each answered with an `A c`, and returns an `α`. -/
inductive Prog (C : Type) (A : C → Type) : Type → Type 1 where
  | pure {α : Type} (a : α) : Prog C A α
  | ask {α : Type} (c : C) (k : A c → Prog C A α) : Prog C A α
  /-- Runs `body` again and again: `inl` is the state the next round starts from, `inr` leaves
  the loop. -/
  | iterate {σ β α : Type} (s : σ) (body : σ → Prog C A (σ ⊕ β)) (k : β → Prog C A α) :
      Prog C A α

/-- How an environment in state `w` answers a call, and its state afterwards; `none` where the
call never comes back. -/
abbrev Env (C : Type) (A : C → Type) (ω : Type) : Type := ω → (c : C) → Option (A c × ω)

variable {C : Type} {A : C → Type} {ω α β γ σ : Type}

namespace Prog

def bind : {α : Type} → Prog C A α → (α → Prog C A β) → Prog C A β
  | _, .pure a, f => f a
  | _, .ask c k, f => .ask c fun a => (k a).bind f
  | _, .iterate s body k, f => .iterate s body fun b => (k b).bind f

instance : Monad (Prog C A) where
  pure := .pure
  bind := .bind

theorem bind_assoc {α : Type} (p : Prog C A α) (f : α → Prog C A β) (g : β → Prog C A γ) :
    (p.bind f).bind g = p.bind fun a => (f a).bind g := by
  induction p with
  | pure a => rfl
  | ask c k ih => exact congrArg (Prog.ask c) (funext fun a => ih a f)
  | iterate s body k _ ih => exact congrArg (Prog.iterate s body) (funext fun b => ih b f)

/-- The value a program that has nothing left to do returns. -/
def value? : Prog C A α → Option α
  | .pure a => some a
  | _ => none

theorem eq_pure_of_value? {p : Prog C A α} {a : α} (h : p.value? = some a) : p = .pure a := by
  cases p with
  | pure b => rw [Option.some.inj h]
  | ask c k => cases h
  | iterate s body k => cases h

theorem value?_bind_of_none {p : Prog C A α} (f : α → Prog C A β) (h : p.value? = none) :
    (p.bind f).value? = none := by
  cases p with
  | pure a => cases h
  | ask c k => rfl
  | iterate s body k => rfl

/-- One round of a loop and what follows it. -/
def round (s : σ) (body : σ → Prog C A (σ ⊕ β)) (k : β → Prog C A α) : Prog C A α :=
  (body s).bind (Sum.elim (fun s' => .iterate s' body k) k)

/-- The round of a loop that is followed by `f` is the round of the loop, followed by `f`. -/
theorem round_bind (s : σ) (body : σ → Prog C A (σ ⊕ β)) (k : β → Prog C A α)
    (f : α → Prog C A γ) :
    round s body (fun b => (k b).bind f) = (round s body k).bind f := by
  rw [round, round, bind_assoc]
  congr 1
  funext r
  cases r <;> rfl

end Prog

/-- A single call. -/
def call (c : C) : Prog C A (A c) := .ask c .pure

/-- A loop that starts in `s`. -/
def loop (s : σ) (body : σ → Prog C A (σ ⊕ β)) : Prog C A β := .iterate s body .pure

/-- What is left of `p`, and the state of the environment, after `n` steps. -/
def after (env : Env C A ω) : Nat → Prog C A α → ω → Prog C A α × ω
  | 0, p, w => (p, w)
  | _ + 1, .pure a, w => (.pure a, w)
  | n + 1, .ask c k, w =>
    match env w c with
    | none => (.ask c k, w)
    | some (a, w') => after env n (k a) w'
  | n + 1, .iterate s body k, w => after env n (Prog.round s body k) w

/-- The environment is in state `w'` at some point of the program. -/
def Visits (env : Env C A ω) (p : Prog C A α) (w w' : ω) : Prop :=
  ∃ n, (after env n p w).2 = w'

/-- The program returns `a`, with the environment in state `w'`. -/
def Returns (env : Env C A ω) (p : Prog C A α) (w : ω) (a : α) (w' : ω) : Prop :=
  ∃ n, (after env n p w).1.value? = some a ∧ (after env n p w).2 = w'

/-- `I` holds at every point of the program, and `Q` of what it returns. -/
def Holds (env : Env C A ω) (p : Prog C A α) (w : ω) (I : ω → Prop) (Q : α → ω → Prop) : Prop :=
  (∀ w', Visits env p w w' → I w') ∧ ∀ a w', Returns env p w a w' → Q a w'

/-- The program returns. -/
def Halts (env : Env C A ω) (p : Prog C A α) (w : ω) : Prop := ∃ a w', Returns env p w a w'

variable {env : Env C A ω} {p : Prog C A α} {w w' : ω} {I : ω → Prop} {Q R : α → ω → Prop}

/-! ## Steps of a sequence -/

@[simp] theorem after_pure (n : Nat) (a : α) :
    after env n (.pure a : Prog C A α) w = (.pure a, w) := by
  cases n <;> rfl

/-- **The steps of a sequence** are steps of its first part, until that returns, and then steps of
the second. -/
theorem after_bind (n : Nat) (p : Prog C A α) (f : α → Prog C A β) (w : ω) :
    ((after env n p w).1.value? = none ∧
        after env n (p.bind f) w = ((after env n p w).1.bind f, (after env n p w).2)) ∨
      ∃ m ≤ n, ∃ a w₁, after env m p w = (.pure a, w₁) ∧
        after env n (p.bind f) w = after env (n - m) (f a) w₁ := by
  induction n generalizing p w with
  | zero =>
    cases p with
    | pure a => exact .inr ⟨0, by simp, a, w, rfl, rfl⟩
    | ask c k => exact .inl ⟨rfl, rfl⟩
    | iterate s body k => exact .inl ⟨rfl, rfl⟩
  | succ n ih =>
    cases p with
    | pure a => exact .inr ⟨0, by simp, a, w, rfl, rfl⟩
    | ask c k =>
      cases henv : env w c with
      | none => exact .inl (by simp [after, Prog.bind, Prog.value?, henv])
      | some r =>
        obtain h | ⟨m, hm, a, w₁, hfirst, hrest⟩ := ih (k r.1) r.2
        · exact .inl (by simpa [after, Prog.bind, henv] using h)
        · refine .inr ⟨m + 1, by omega, a, w₁, by simpa [after, henv] using hfirst, ?_⟩
          simpa [after, Prog.bind, henv] using hrest
    | iterate s body k =>
      obtain h | ⟨m, hm, a, w₁, hfirst, hrest⟩ := ih (Prog.round s body k) w
      · exact .inl (by simpa [after, Prog.bind, Prog.round_bind] using h)
      · refine .inr ⟨m + 1, by omega, a, w₁, hfirst, ?_⟩
        simpa [after, Prog.bind, Prog.round_bind] using hrest

theorem Visits.here : Visits env p w w := ⟨0, rfl⟩

theorem Returns.visits {a : α} (h : Returns env p w a w') : Visits env p w w' := by
  obtain ⟨n, -, hw⟩ := h
  exact ⟨n, hw⟩

theorem returns_of_after {n : Nat} {a : α} (h : after env n p w = (.pure a, w')) :
    Returns env p w a w' :=
  ⟨n, by simp [h, Prog.value?], by simp [h]⟩

theorem Returns.exists_after {a : α} (h : Returns env p w a w') :
    ∃ n, after env n p w = (.pure a, w') := by
  obtain ⟨n, ha, hw⟩ := h
  exact ⟨n, Prod.ext (Prog.eq_pure_of_value? ha) hw⟩

@[simp] theorem returns_pure {a b : α} :
    Returns env (pure a : Prog C A α) w b w' ↔ a = b ∧ w = w' := by
  constructor
  · rintro ⟨n, ha, hw⟩
    have hn : after env n (pure a : Prog C A α) w = (.pure a, w) := after_pure n a
    rw [hn] at ha hw
    exact ⟨Option.some.inj ha, hw⟩
  · rintro ⟨rfl, rfl⟩
    exact ⟨0, rfl, rfl⟩

theorem Visits.of_bind {f : α → Prog C A β} (h : Visits env (p >>= f) w w') :
    Visits env p w w' ∨ ∃ a w₁, Returns env p w a w₁ ∧ Visits env (f a) w₁ w' := by
  obtain ⟨n, hw⟩ := h
  obtain ⟨-, h⟩ | ⟨m, -, a, w₁, hfirst, hrest⟩ := after_bind n p f w
  · exact .inl ⟨n, (congrArg Prod.snd h).symm.trans hw⟩
  · exact .inr ⟨a, w₁, returns_of_after hfirst, n - m, (congrArg Prod.snd hrest).symm.trans hw⟩

theorem Returns.of_bind {f : α → Prog C A β} {b : β} (h : Returns env (p >>= f) w b w') :
    ∃ a w₁, Returns env p w a w₁ ∧ Returns env (f a) w₁ b w' := by
  obtain ⟨n, hn⟩ := h.exists_after
  obtain ⟨hnone, h⟩ | ⟨m, -, a, w₁, hfirst, hrest⟩ := after_bind n p f w
  · have hvalue := Prog.value?_bind_of_none f hnone
    have hsome : ((after env n p w).1.bind f).value? = some b := by
      rw [show (after env n p w).1.bind f = .pure b from congrArg Prod.fst (h.symm.trans hn)]
      rfl
    rw [hvalue] at hsome
    cases hsome
  · exact ⟨a, w₁, returns_of_after hfirst, returns_of_after (hrest.symm.trans hn)⟩

/-! ## Rules for what holds at every point -/

theorem Holds.mono {K : ω → Prop} (h : Holds env p w I R) (hI : ∀ w, I w → K w)
    (hQ : ∀ a w', R a w' → Q a w') : Holds env p w K Q :=
  ⟨fun w' hw' => hI w' (h.1 w' hw'), fun a w' ha => hQ a w' (h.2 a w' ha)⟩

/-- The end of a program is one of its points. -/
theorem Holds.with_point (h : Holds env p w I Q) :
    Holds env p w I (fun a w' => I w' ∧ Q a w') :=
  ⟨h.1, fun a w' ha => ⟨h.1 w' ha.visits, h.2 a w' ha⟩⟩

theorem Holds.and {K : ω → Prop} (h : Holds env p w I Q) (h' : Holds env p w K R) :
    Holds env p w (fun w' => I w' ∧ K w') (fun a w' => Q a w' ∧ R a w') :=
  ⟨fun w' hw' => ⟨h.1 w' hw', h'.1 w' hw'⟩, fun a w' ha => ⟨h.2 a w' ha, h'.2 a w' ha⟩⟩

theorem Holds.pure {a : α} (hI : I w) (hQ : Q a w) : Holds env (pure a : Prog C A α) w I Q := by
  constructor
  · rintro w' ⟨n, rfl⟩
    have hn : after env n (Pure.pure a : Prog C A α) w = (.pure a, w) := after_pure n a
    rwa [hn]
  · intro b w' hb
    obtain ⟨rfl, rfl⟩ := returns_pure.mp hb
    exact hQ

theorem Holds.bind {f : α → Prog C A β} {Q : β → ω → Prop} (hp : Holds env p w I R)
    (hf : ∀ a w₁, Returns env p w a w₁ → R a w₁ → Holds env (f a) w₁ I Q) :
    Holds env (p >>= f) w I Q := by
  constructor
  · intro w' hw'
    obtain h | ⟨a, w₁, hfirst, hrest⟩ := hw'.of_bind
    · exact hp.1 w' h
    · exact (hf a w₁ hfirst (hp.2 a w₁ hfirst)).1 w' hrest
  · intro b w' hb
    obtain ⟨a, w₁, hfirst, hrest⟩ := hb.of_bind
    exact (hf a w₁ hfirst (hp.2 a w₁ hfirst)).2 b w' hrest

/-- A call and what follows it. -/
theorem Holds.call_bind {c : C} {f : A c → Prog C A α} (hI : I w)
    (hf : ∀ a w₁, env w c = some (a, w₁) → Holds env (f a) w₁ I Q) :
    Holds env (call c >>= f) w I Q := by
  constructor
  · rintro w' ⟨n, rfl⟩
    cases n with
    | zero => exact hI
    | succ n =>
      change I (after env (n + 1) (.ask c f) w).2
      cases henv : env w c with
      | none => simpa [after, henv] using hI
      | some r => simpa [after, henv] using (hf r.1 r.2 henv).1 _ ⟨n, rfl⟩
  · rintro a w' ⟨n, ha, rfl⟩
    cases n with
    | zero => cases ha
    | succ n =>
      change (after env (n + 1) (.ask c f) w).1.value? = some a at ha
      change Q a (after env (n + 1) (.ask c f) w).2
      cases henv : env w c with
      | none => simp [after, henv, Prog.value?] at ha
      | some r =>
        simp only [after, henv] at ha ⊢
        exact (hf r.1 r.2 henv).2 a _ ⟨n, ha, rfl⟩

theorem Holds.andM {p q : Prog C A Bool} {Q R : Bool → ω → Prop} (hp : Holds env p w I R)
    (hfalse : ∀ w₁, R false w₁ → Q false w₁)
    (hq : ∀ w₁, R true w₁ → Holds env q w₁ I Q) : Holds env (p <&&> q) w I Q := by
  refine hp.bind fun b w₁ hb hR => ?_
  cases b with
  | false => exact .pure (hp.1 w₁ hb.visits) (hfalse w₁ hR)
  | true => exact hq w₁ hR

theorem Holds.orM {p q : Prog C A Bool} {Q R : Bool → ω → Prop} (hp : Holds env p w I R)
    (htrue : ∀ w₁, R true w₁ → Q true w₁)
    (hq : ∀ w₁, R false w₁ → Holds env q w₁ I Q) : Holds env (p <||> q) w I Q := by
  refine hp.bind fun b w₁ hb hR => ?_
  cases b with
  | false => exact hq w₁ hR
  | true => exact .pure (hp.1 w₁ hb.visits) (htrue w₁ hR)

/-- **The loop rule**: an invariant of the loop's state and the environment, which one round keeps
or leaves the loop from. -/
theorem Holds.loop {J : σ → ω → Prop} {body : σ → Prog C A (σ ⊕ β)} {Q : β → ω → Prop} {s : σ}
    (hJ : J s w) (hbody : ∀ s w, J s w → Holds env (body s) w I (Sum.elim J Q)) :
    Holds env (loop s body) w I Q := by
  -- both halves at once, by strong induction on the number of steps
  have key : ∀ n s w, J s w → I (after env n (Dialogue.loop s body) w).2 ∧
      ∀ b, (after env n (Dialogue.loop s body) w).1.value? = some b →
        Q b (after env n (Dialogue.loop s body) w).2 := by
    intro n
    induction n using Nat.strongRecOn with
    | ind n ih =>
      intro s w hJ
      have hround := hbody s w hJ
      cases n with
      | zero => exact ⟨hround.1 w .here, fun b hb => by cases hb⟩
      | succ n =>
        change I (after env n (Prog.round s body .pure) w).2 ∧ ∀ b,
          (after env n (Prog.round s body .pure) w).1.value? = some b →
            Q b (after env n (Prog.round s body .pure) w).2
        obtain ⟨hnone, h⟩ | ⟨m, hm, r, w₁, hfirst, hrest⟩ := after_bind n (body s)
          (Sum.elim (fun s' => .iterate s' body .pure) .pure) w
        · -- stopped inside the round
          rw [Prog.round, h]
          refine ⟨hround.1 _ ⟨n, rfl⟩, fun b hb => ?_⟩
          rw [Prog.value?_bind_of_none _ hnone] at hb
          cases hb
        · rw [Prog.round, hrest]
          have hreturns := returns_of_after hfirst
          have hr := hround.2 r w₁ hreturns
          cases r with
          | inl s' => exact ih (n - m) (by omega) s' w₁ hr
          | inr b =>
            simp only [Sum.elim_inr, after_pure, Prog.value?, Option.some.injEq]
            exact ⟨hround.1 w₁ hreturns.visits, fun b' hb => hb ▸ hr⟩
  exact ⟨fun w' ⟨n, hw⟩ => hw ▸ (key n s w hJ).1,
    fun b w' ⟨n, hb, hw⟩ => hw ▸ (key n s w hJ).2 b hb⟩

/-! ## Programs that make only certain calls -/

/-- Every call `p` can make is one of `S`. -/
inductive OnlyCalls (S : C → Prop) : {α : Type} → Prog C A α → Prop
  | pure {α : Type} (a : α) : OnlyCalls S (.pure a)
  | ask {α : Type} {c : C} {k : A c → Prog C A α} (hc : S c) (hk : ∀ a, OnlyCalls S (k a)) :
      OnlyCalls S (.ask c k)
  | iterate {σ β α : Type} {s : σ} {body : σ → Prog C A (σ ⊕ β)} {k : β → Prog C A α}
      (hbody : ∀ s, OnlyCalls S (body s)) (hk : ∀ b, OnlyCalls S (k b)) :
      OnlyCalls S (.iterate s body k)

section OnlyCalls

variable {S : C → Prop}

theorem OnlyCalls.bind {α : Type} {p : Prog C A α} {f : α → Prog C A β} (hp : OnlyCalls S p)
    (hf : ∀ a, OnlyCalls S (f a)) : OnlyCalls S (p >>= f) := by
  change OnlyCalls S (p.bind f)
  induction hp with
  | pure a => exact hf a
  | ask hc _ ih => exact .ask hc fun a => ih a hf
  | iterate hbody _ _ ih => exact .iterate hbody fun b => ih b hf

theorem OnlyCalls.call_bind {c : C} {f : A c → Prog C A α} (hc : S c)
    (hf : ∀ a, OnlyCalls S (f a)) : OnlyCalls S (call c >>= f) := .ask hc hf

theorem OnlyCalls.loop {s : σ} {body : σ → Prog C A (σ ⊕ β)} (hbody : ∀ s, OnlyCalls S (body s)) :
    OnlyCalls S (loop s body) := .iterate hbody .pure

theorem OnlyCalls.of_forall (hS : ∀ c, S c) {α : Type} (p : Prog C A α) : OnlyCalls S p := by
  induction p with
  | pure a => exact .pure a
  | ask c k ih => exact .ask (hS c) ih
  | iterate s body k ihbody ihk => exact .iterate ihbody ihk

/-- **The frame rule.** A preorder that every answered call of `S` follows holds from the start of
a program that makes no other calls to each of its points. -/
theorem Holds.of_onlyCalls {r : ω → ω → Prop} (hrefl : ∀ w, r w w)
    (htrans : ∀ w₁ w₂ w₃, r w₁ w₂ → r w₂ w₃ → r w₁ w₃)
    (hstep : ∀ w c a w', S c → env w c = some (a, w') → r w w') (h : OnlyCalls S p) (w : ω) :
    Holds env p w (r w) (fun _ => r w) := by
  have key : ∀ n (p : Prog C A α) w, OnlyCalls S p → r w (after env n p w).2 := by
    intro n
    induction n with
    | zero => exact fun p w _ => hrefl w
    | succ n ih =>
      intro p w h
      cases h with
      | pure a => simpa using hrefl w
      | @ask _ c k hc hk =>
        cases henv : env w c with
        | none => simpa [after, henv] using hrefl w
        | some x =>
          have hrest := ih (k x.1) x.2 (hk x.1)
          simpa [after, henv] using htrans _ _ _ (hstep w c x.1 x.2 hc henv) hrest
      | @iterate _ _ _ s body k hbody hk =>
        refine ih (Prog.round s body k) w ((hbody s).bind fun x => ?_)
        cases x with
        | inl s' => exact .iterate hbody hk
        | inr b => exact hk b
  refine ⟨fun w' ⟨n, hw⟩ => hw ▸ key n p w h, fun a w' ha => ?_⟩
  obtain ⟨n, hw⟩ := ha.visits
  exact hw ▸ key n p w h

end OnlyCalls

/-! ## Rules for returning -/

theorem Returns.ask {c : C} {k : A c → Prog C A α} {a : α} {r : A c × ω} (henv : env w c = some r)
    (h : Returns env (k r.1) r.2 a w') : Returns env (.ask c k) w a w' := by
  obtain ⟨n, hn⟩ := h.exists_after
  exact returns_of_after (n := n + 1) (by simpa [after, henv] using hn)

theorem Returns.iterate {s : σ} {body : σ → Prog C A (σ ⊕ β)} {k : β → Prog C A α} {a : α}
    (h : Returns env (Prog.round s body k) w a w') :
    Returns env (.iterate s body k) w a w' := by
  obtain ⟨n, hn⟩ := h.exists_after
  exact returns_of_after (n := n + 1) hn

theorem Returns.bind {f : α → Prog C A β} {a : α} {b : β} {w₁ : ω} (hp : Returns env p w a w₁)
    (hf : Returns env (f a) w₁ b w') : Returns env (p >>= f) w b w' := by
  obtain ⟨n, hn⟩ := hp.exists_after
  change Returns env (p.bind f) w b w'
  induction n generalizing p w with
  | zero =>
    cases hn
    exact hf
  | succ n ih =>
    cases p with
    | pure a' =>
      cases hn
      exact hf
    | ask c k =>
      cases henv : env w c with
      | none => simp [after, henv] at hn
      | some r =>
        have hrest : after env n (k r.1) r.2 = (.pure a, w₁) := by simpa [after, henv] using hn
        exact .ask henv (ih (returns_of_after hrest) hrest)
    | iterate s body k =>
      have hn : after env n (Prog.round s body k) w = (.pure a, w₁) := hn
      have hround := ih (returns_of_after hn) hn
      rw [← Prog.round_bind] at hround
      exact .iterate hround

/-- **A program that always returns** does so from every state of its environment. -/
def Total (env : Env C A ω) (p : Prog C A α) : Prop := ∀ w, Halts env p w

theorem Total.pure (a : α) : Total env (pure a : Prog C A α) := fun w =>
  ⟨a, w, returns_pure.mpr ⟨rfl, rfl⟩⟩

theorem Total.bind {f : α → Prog C A β} (hp : Total env p) (hf : ∀ a, Total env (f a)) :
    Total env (p >>= f) := fun w => by
  obtain ⟨a, w₁, ha⟩ := hp w
  obtain ⟨b, w', hb⟩ := hf a w₁
  exact ⟨b, w', ha.bind hb⟩

theorem Total.andM {p q : Prog C A Bool} (hp : Total env p) (hq : Total env q) :
    Total env (p <&&> q) :=
  hp.bind fun b => by
    cases b with
    | false => exact .pure _
    | true => exact hq

theorem Total.orM {p q : Prog C A Bool} (hp : Total env p) (hq : Total env q) :
    Total env (p <||> q) :=
  hp.bind fun b => by
    cases b with
    | false => exact hq
    | true => exact .pure _

/-- A call returns where the environment answers it. -/
theorem Total.call {c : C} (henv : ∀ w, (env w c).isSome) : Total env (call c) := fun w => by
  obtain ⟨r, hr⟩ := Option.isSome_iff_exists.mp (henv w)
  exact ⟨r.1, r.2, .ask hr (returns_pure.mpr ⟨rfl, rfl⟩)⟩

/-- **A loop returns** where its rounds do and a measure falls with each round that goes on. -/
theorem Total.loop {s : σ} {body : σ → Prog C A (σ ⊕ β)} (μ : σ → ω → Nat)
    (hbody : ∀ s, Total env (body s))
    (hfalls : ∀ s w, Holds env (body s) w (fun _ => True)
      (Sum.elim (fun s' w' => μ s' w' < μ s w) fun _ _ => True)) :
    Total env (loop s body) := fun w => by
  induction hμ : μ s w using Nat.strongRecOn generalizing s w with
  | ind n ih =>
    obtain ⟨r, w₁, hr⟩ := hbody s w
    have hround := (hfalls s w).2 r w₁ hr
    cases r with
    | inl s' =>
      obtain ⟨b, w', hb⟩ := ih (μ s' w₁) (hμ ▸ hround) w₁ rfl
      exact ⟨b, w', .iterate (Returns.bind (f := Sum.elim _ _) hr hb)⟩
    | inr b =>
      exact ⟨b, w₁, .iterate (Returns.bind (f := Sum.elim _ _) hr (returns_pure.mpr ⟨rfl, rfl⟩))⟩

end Dialogue
