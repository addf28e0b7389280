import Mathlib.Data.List.Basic

/-!
# Labelled transition systems and their runs

A system is an initial predicate and a step function that is deterministic once the label is
known: who moves and what the environment answers are both part of the label. Interleavings of
several threads are therefore label sequences, and a property of every interleaving is a
property of every run.

* **`Run T ok as s`**: the label sequence `as` leads from an initial state to `s`, and every
  step was taken in a state where `ok` allowed its label.
* **`Run.invariant`**: the induction rule. What holds initially and is kept by every allowed
  step holds at the end of every run; the invariant may mention the labels taken so far.
* **`Simulation.reachable`**: an abstraction under which every concrete step is an abstract
  step or leaves the abstraction alone maps reachable states to reachable states.
-/

namespace Transition

/-- A labelled transition system. `step s a = none` means that `a` cannot happen in `s`. -/
structure System (σ α : Type*) where
  init : σ → Prop
  step : σ → α → Option σ

variable {σ α τ β : Type*} {T : System σ α} {ok : σ → α → Prop}

/-- `Run T ok as s`: the labels `as`, oldest first, lead from an initial state to `s`, each of
them taken in a state where `ok` allowed it. -/
inductive Run (T : System σ α) (ok : σ → α → Prop) : List α → σ → Prop where
  | nil {s : σ} (hinit : T.init s) : Run T ok [] s
  | snoc {as : List α} {s s' : σ} {a : α} (hrun : Run T ok as s) (hok : ok s a)
      (hstep : T.step s a = some s') : Run T ok (as ++ [a]) s'

/-- A state some run ends in, with no restriction on the steps. -/
def Reachable (T : System σ α) (s : σ) : Prop := ∃ as, Run T (fun _ _ => True) as s

/-! ## Induction rules -/

/-- **Run induction.** An invariant of labels and state that holds initially and is kept by
every allowed step holds at the end of every run. -/
theorem Run.invariant {I : List α → σ → Prop} (hinit : ∀ s, T.init s → I [] s)
    (hstep : ∀ as s a s', I as s → ok s a → T.step s a = some s' → I (as ++ [a]) s')
    {as : List α} {s : σ} (hrun : Run T ok as s) : I as s := by
  induction hrun with
  | nil h => exact hinit _ h
  | snoc _ hok hs ih => exact hstep _ _ _ _ ih hok hs

/-- A run in which more is allowed. -/
theorem Run.mono {ok' : σ → α → Prop} (hok : ∀ s a, ok s a → ok' s a) {as : List α} {s : σ}
    (hrun : Run T ok as s) : Run T ok' as s := by
  induction hrun with
  | nil h => exact .nil h
  | snoc _ h hstep ih => exact ih.snoc (hok _ _ h) hstep

/-- **Reachability induction**, the case of `Run.invariant` in which the invariant ignores the
labels and every step is allowed. -/
theorem Reachable.invariant {I : σ → Prop} (hinit : ∀ s, T.init s → I s)
    (hstep : ∀ s a s', I s → T.step s a = some s' → I s') {s : σ} (hs : Reachable T s) :
    I s := by
  obtain ⟨as, hrun⟩ := hs
  exact hrun.invariant (I := fun _ s => I s) hinit (fun _ s a s' hI _ h => hstep s a s' hI h)

theorem Reachable.init {s : σ} (h : T.init s) : Reachable T s := ⟨[], .nil h⟩

theorem Reachable.step {s s' : σ} {a : α} (hs : Reachable T s) (h : T.step s a = some s') :
    Reachable T s' := by
  obtain ⟨as, hrun⟩ := hs
  exact ⟨as ++ [a], hrun.snoc trivial h⟩

/-! ## Executing a label sequence -/

/-- The state a label sequence leads to, if none of its labels is refused. -/
def exec (T : System σ α) : σ → List α → Option σ
  | s, [] => some s
  | s, a :: as => (T.step s a).bind fun s' => exec T s' as

/-- **Induction along an execution.** What every label of the sequence preserves still holds at
its end. -/
theorem exec_invariant {I : σ → Prop} {as : List α}
    (hstep : ∀ s a s', a ∈ as → I s → T.step s a = some s' → I s') {s s' : σ} (h : I s)
    (hexec : exec T s as = some s') : I s' := by
  induction as generalizing s with
  | nil =>
    cases hexec
    exact h
  | cons a as ih =>
    obtain ⟨s₁, hs₁, hrest⟩ := Option.bind_eq_some_iff.mp hexec
    have hI : I s₁ := hstep s a s₁ List.mem_cons_self h hs₁
    exact ih (fun s b s' hb => hstep s b s' (List.mem_cons_of_mem a hb)) hI hrest

/-- An executed label sequence whose steps are all allowed extends a run. -/
theorem Run.append_exec {as bs : List α} {s s' : σ} (hrun : Run T ok as s)
    (hok : ∀ s a, a ∈ bs → ok s a) (hexec : exec T s bs = some s') :
    Run T ok (as ++ bs) s' := by
  induction bs generalizing as s with
  | nil =>
    cases hexec
    simpa using hrun
  | cons b bs ih =>
    cases hb : T.step s b with
    | none => simp [exec, hb] at hexec
    | some s₁ =>
      have hexec' : exec T s₁ bs = some s' := by simpa [exec, hb] using hexec
      have hrun' := hrun.snoc (hok s b (by simp)) hb
      have := ih hrun' (fun s a ha => hok s a (by simp [ha])) hexec'
      simpa using this

/-- An executed label sequence is a run, so it ends in a reachable state. -/
theorem Reachable.of_exec {s s' : σ} {as : List α} (h : T.init s)
    (hexec : exec T s as = some s') : Reachable T s' :=
  ⟨as, by simpa using (Run.nil h).append_exec (fun _ _ _ => trivial) hexec⟩

theorem Reachable.exec {s s' : σ} {as : List α} (hs : Reachable T s)
    (hexec : exec T s as = some s') : Reachable T s' := by
  obtain ⟨bs, hrun⟩ := hs
  exact ⟨bs ++ as, hrun.append_exec (fun _ _ _ => trivial) hexec⟩

/-- The system in which only the allowed steps are left, to execute them. -/
def System.restrict (T : System σ α) (ok : σ → α → Prop) [∀ s a, Decidable (ok s a)] :
    System σ α where
  init := T.init
  step s a := if ok s a then T.step s a else none

theorem Run.of_restrict [∀ s a, Decidable (ok s a)] {as : List α} {s : σ}
    (hrun : Run (T.restrict ok) (fun _ _ => True) as s) : Run T ok as s := by
  induction hrun with
  | nil hinit => exact .nil hinit
  | snoc _ _ hstep ih =>
    change (if ok _ _ then T.step _ _ else none) = _ at hstep
    split_ifs at hstep with hok
    exact ih.snoc hok hstep

theorem Run.restrict [∀ s a, Decidable (ok s a)] {as : List α} {s : σ}
    (hrun : Run T ok as s) : Run (T.restrict ok) (fun _ _ => True) as s := by
  induction hrun with
  | nil hinit => exact .nil hinit
  | @snoc as s s' a _ hok hstep ih =>
    refine ih.snoc trivial ?_
    change (if ok s a then T.step s a else none) = some s'
    rw [if_pos hok, hstep]

/-- An executed sequence of allowed steps is a run. -/
theorem Run.of_exec_restrict [∀ s a, Decidable (ok s a)] {as : List α} {s s' : σ}
    (h : T.init s) (hexec : exec (T.restrict ok) s as = some s') : Run T ok as s' := by
  have hnil : Run (T.restrict ok) (fun _ _ => True) [] s := .nil h
  have hrun := hnil.append_exec (fun _ _ _ => trivial) hexec
  exact hrun.of_restrict

/-! ## Simulation -/

/-- A forward simulation by an abstraction function: initial states go to initial states, and a
step from a reachable state is an abstract step or invisible. -/
structure Simulation (C : System σ α) (A : System τ β) where
  abs : σ → τ
  init : ∀ s, C.init s → A.init (abs s)
  step : ∀ s a s', Reachable C s → C.step s a = some s' →
    abs s' = abs s ∨ ∃ b, A.step (abs s) b = some (abs s')

/-- **Reachable states refine reachable states.** -/
theorem Simulation.reachable {C : System σ α} {A : System τ β} (sim : Simulation C A) {s : σ}
    (hs : Reachable C s) : Reachable A (sim.abs s) := by
  obtain ⟨as, hrun⟩ := hs
  induction hrun with
  | nil h => exact .init (sim.init _ h)
  | snoc hrun _ hstep ih =>
    rcases sim.step _ _ _ ⟨_, hrun⟩ hstep with heq | ⟨b, hb⟩
    · rw [heq]; exact ih
    · exact ih.step hb

end Transition
