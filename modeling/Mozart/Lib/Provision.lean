import Mathlib.Data.List.Basic

/-!
# Scripts that can be run again

A provisioning script is a list of steps over some state, under `set -e`: a step has an exit
status, what it prints and the state after it, and the first status that is not 0 is the script's.
A step is safe to run again when it establishes a condition under which it does nothing
(`Settles`); a script is when, besides, no later step breaks the condition of an earlier one.

* **`runAll_again`**: running such a script again after a success succeeds, changes nothing, and
  prints what every step prints when there is nothing to do.
* **`runAll_stable`**: running it again after a failure fails with the same status and changes
  nothing.
-/

namespace Provision

variable {σ ο : Type*}

/-- What a step of a script comes to. -/
structure Outcome (σ ο : Type*) where
  status : Nat
  output : List ο
  state : σ

/-- A command, a function or a script called by a script. -/
abbrev Step (σ ο : Type*) := σ → Outcome σ ο

/-- The steps one after another under `set -e`. -/
def runAll : List (Step σ ο) → Step σ ο
  | [], s => ⟨0, [], s⟩
  | step :: rest, s =>
    let first := step s
    if first.status = 0 then
      let others := runAll rest first.state
      ⟨others.status, first.output ++ others.output, others.state⟩
    else
      first

@[simp] theorem runAll_nil (s : σ) : runAll ([] : List (Step σ ο)) s = ⟨0, [], s⟩ := rfl

theorem runAll_cons_of_zero {step : Step σ ο} {rest : List (Step σ ο)} {s : σ}
    (h : (step s).status = 0) :
    runAll (step :: rest) s = ⟨(runAll rest (step s).state).status,
      (step s).output ++ (runAll rest (step s).state).output,
      (runAll rest (step s).state).state⟩ := by
  show (if (step s).status = 0 then _ else _) = _
  rw [if_pos h]

theorem runAll_cons_of_ne_zero {step : Step σ ο} {rest : List (Step σ ο)} {s : σ}
    (h : (step s).status ≠ 0) : runAll (step :: rest) s = step s := by
  show (if (step s).status = 0 then _ else _) = _
  rw [if_neg h]

/-- A script succeeds when all its steps do, one after another. -/
theorem status_runAll_cons {step : Step σ ο} {rest : List (Step σ ο)} {s : σ}
    (h : (runAll (step :: rest) s).status = 0) :
    (step s).status = 0 ∧ (runAll rest (step s).state).status = 0 := by
  by_cases hstep : (step s).status = 0
  · rw [runAll_cons_of_zero hstep] at h
    exact ⟨hstep, h⟩
  · rw [runAll_cons_of_ne_zero hstep] at h
    exact absurd h hstep

/-- One list of steps behind another. -/
theorem runAll_append (steps rest : List (Step σ ο)) (s : σ) :
    runAll (steps ++ rest) s
      = if (runAll steps s).status = 0 then
          ⟨(runAll rest (runAll steps s).state).status,
            (runAll steps s).output ++ (runAll rest (runAll steps s).state).output,
            (runAll rest (runAll steps s).state).state⟩
        else runAll steps s := by
  induction steps generalizing s with
  | nil => rfl
  | cons step steps ih =>
    rw [List.cons_append]
    by_cases hstep : (step s).status = 0
    · rw [runAll_cons_of_zero hstep, runAll_cons_of_zero hstep, ih]
      by_cases hrest : (runAll steps (step s).state).status = 0
      · simp [hrest]
      · simp [hrest]
    · rw [runAll_cons_of_ne_zero hstep, runAll_cons_of_ne_zero hstep, if_neg hstep]

/-! ## What every step keeps -/

/-- **The rule for what a script never breaks**: what every step keeps, whether it succeeds or
fails, holds wherever the script ends. -/
theorem runAll_invariant {I : σ → Prop} {steps : List (Step σ ο)}
    (hstep : ∀ step ∈ steps, ∀ s, I s → I (step s).state) {s : σ} (h : I s) :
    I (runAll steps s).state := by
  induction steps generalizing s with
  | nil => exact h
  | cons step rest ih =>
    have hfirst : I (step s).state := hstep step List.mem_cons_self s h
    by_cases hstatus : (step s).status = 0
    · rw [runAll_cons_of_zero hstatus]
      exact ih (fun t ht => hstep t (List.mem_cons_of_mem step ht)) hfirst
    · rw [runAll_cons_of_ne_zero hstatus]
      exact hfirst

/-- **The rule for success**: a script succeeds when its steps succeed where `I` holds, and keep
it. -/
theorem runAll_succeeds {I : σ → Prop} {steps : List (Step σ ο)}
    (hstep : ∀ step ∈ steps, ∀ s, I s → (step s).status = 0 ∧ I (step s).state) {s : σ}
    (h : I s) : (runAll steps s).status = 0 ∧ I (runAll steps s).state := by
  induction steps generalizing s with
  | nil => exact ⟨rfl, h⟩
  | cons step rest ih =>
    obtain ⟨hstatus, hfirst⟩ := hstep step List.mem_cons_self s h
    rw [runAll_cons_of_zero hstatus]
    exact ih (fun t ht => hstep t (List.mem_cons_of_mem step ht)) hfirst

/-! ## Running again -/

/-- A step that has nothing left to do once it succeeded: it establishes `done`, and where `done`
holds it prints `quiet` and changes nothing. -/
structure Settles (step : Step σ ο) (done : σ → Prop) (quiet : σ → List ο) : Prop where
  establishes : ∀ s, (step s).status = 0 → done (step s).state
  noop : ∀ s, done s → step s = ⟨0, quiet s, s⟩

/-- A step with the condition it establishes and what it prints when that holds. -/
structure Managed (σ ο : Type*) where
  step : Step σ ο
  done : σ → Prop
  quiet : σ → List ο
  settles : Settles step done quiet

/-- `later` leaves the condition of `earlier` alone, also when it fails. -/
def Managed.Keeps (earlier later : Managed σ ο) : Prop :=
  ∀ s, earlier.done s → earlier.done (later.step s).state

variable {managed : List (Managed σ ο)}

/-- A condition no later step breaks survives the rest of the script, wherever that ends. -/
theorem done_runAll {m : Managed σ ο} (hkeeps : ∀ later ∈ managed, m.Keeps later) {s : σ}
    (h : m.done s) : m.done (runAll (managed.map Managed.step) s).state := by
  apply runAll_invariant _ h
  intro step hstep
  obtain ⟨later, hlater, rfl⟩ := List.mem_map.mp hstep
  exact hkeeps later hlater

/-- After a successful run every step's condition holds. -/
theorem all_done_runAll (hkeeps : managed.Pairwise Managed.Keeps) {s : σ}
    (hrun : (runAll (managed.map Managed.step) s).status = 0) :
    ∀ m ∈ managed, m.done (runAll (managed.map Managed.step) s).state := by
  induction managed generalizing s with
  | nil =>
    intro m hm
    exact absurd hm List.not_mem_nil
  | cons first rest ih =>
    obtain ⟨hhead, htail⟩ := List.pairwise_cons.mp hkeeps
    rw [List.map_cons] at hrun ⊢
    obtain ⟨hfirst, hrest⟩ := status_runAll_cons hrun
    rw [runAll_cons_of_zero hfirst]
    intro m hm
    rcases List.mem_cons.mp hm with rfl | hm
    · exact done_runAll hhead (m.settles.establishes s hfirst)
    · exact ih htail hrest m hm

/-- Where every condition holds there is nothing to do. -/
theorem runAll_of_all_done {s : σ} (h : ∀ m ∈ managed, m.done s) :
    runAll (managed.map Managed.step) s = ⟨0, managed.flatMap fun m => m.quiet s, s⟩ := by
  induction managed with
  | nil => rfl
  | cons first rest ih =>
    have hnoop := first.settles.noop s (h first List.mem_cons_self)
    have hstatus : (first.step s).status = 0 := by rw [hnoop]
    rw [List.map_cons, runAll_cons_of_zero hstatus, hnoop]
    show Outcome.mk (runAll (rest.map Managed.step) s).status _ _ = _
    rw [ih fun m hm => h m (List.mem_cons_of_mem first hm), List.flatMap_cons]

/-- **Running a script again.** When no step breaks what an earlier one established, a second run
after a successful one succeeds, changes nothing and only prints that there is nothing to do. -/
theorem runAll_again (hkeeps : managed.Pairwise Managed.Keeps) {s : σ}
    (hrun : (runAll (managed.map Managed.step) s).status = 0) :
    let s' := (runAll (managed.map Managed.step) s).state
    runAll (managed.map Managed.step) s' = ⟨0, managed.flatMap fun m => m.quiet s', s'⟩ :=
  runAll_of_all_done (all_done_runAll hkeeps hrun)

/-! ## Running again after a failure -/

/-- A second run ends as the first did, and where the first did. -/
def Stable (step : Step σ ο) : Prop := ∀ s,
  (step (step s).state).status = (step s).status ∧ (step (step s).state).state = (step s).state

/-- A step that fails without having changed anything fails in the same way again. -/
theorem Settles.stable {step : Step σ ο} {done : σ → Prop} {quiet : σ → List ο}
    (h : Settles step done quiet) (hfail : ∀ s, (step s).status ≠ 0 → (step s).state = s) :
    Stable step := by
  intro s
  by_cases hstatus : (step s).status = 0
  · rw [h.noop _ (h.establishes s hstatus)]
    exact ⟨hstatus.symm, rfl⟩
  · rw [hfail s hstatus]
    exact ⟨rfl, hfail s hstatus⟩

/-- **Stopping.** A script of such steps is one itself: when it stops, a second run goes through
what was done, stops where the first stopped, with its status, and changes nothing. -/
theorem runAll_stable (hkeeps : managed.Pairwise Managed.Keeps)
    (hstable : ∀ m ∈ managed, Stable m.step) : Stable (runAll (managed.map Managed.step)) := by
  induction managed with
  | nil =>
    intro s
    exact ⟨rfl, rfl⟩
  | cons first rest ih =>
    obtain ⟨hhead, htail⟩ := List.pairwise_cons.mp hkeeps
    have hrest := ih htail fun m hm => hstable m (List.mem_cons_of_mem first hm)
    intro s
    rw [List.map_cons]
    by_cases hfirst : (first.step s).status = 0
    · -- the first step is done with, and stays so whatever the rest does
      rw [runAll_cons_of_zero hfirst]
      have hdone := done_runAll hhead (first.settles.establishes s hfirst)
      have hnoop := first.settles.noop _ hdone
      have hagain := @runAll_cons_of_zero _ _ first.step (rest.map Managed.step)
        (runAll (rest.map Managed.step) (first.step s).state).state (by rw [hnoop])
      rw [hagain, hnoop]
      exact hrest (first.step s).state
    · rw [runAll_cons_of_ne_zero hfirst]
      obtain ⟨hstatus, hstate⟩ := hstable first List.mem_cons_self s
      have hagain : (first.step (first.step s).state).status ≠ 0 := by rwa [hstatus]
      rw [runAll_cons_of_ne_zero hagain]
      exact ⟨hstatus, hstate⟩

/-! ## Footprints

The state is read location by location: `view s l` is what `s` holds at `l`. A step has a
footprint when its condition depends on some locations only and it writes to some locations only;
steps whose footprints do not meet keep each other's conditions. -/

section

variable {ι V : Type*} {view : σ → ι → V}

/-- The locations a step's condition is about, and those it may write. -/
structure Footprint (view : σ → ι → V) (m : Managed σ ο) (reads writes : ι → Prop) : Prop where
  done_congr : ∀ s s', (∀ l, reads l → view s' l = view s l) → m.done s → m.done s'
  frame : ∀ s l, ¬ writes l → view (m.step s).state l = view s l

theorem Footprint.keeps {a b : Managed σ ο} {ra wa rb wb : ι → Prop}
    (ha : Footprint view a ra wa) (hb : Footprint view b rb wb)
    (hdisj : ∀ l, ra l → ¬ wb l) : a.Keeps b := by
  intro s hdone
  apply ha.done_congr s _ _ hdone
  intro l hl
  exact hb.frame s l (hdisj l hl)

/-- What is outside of every step's writes is as it was wherever the script ends. -/
theorem runAll_frame {steps : List (Step σ ο)} {l : ι}
    (hframe : ∀ step ∈ steps, ∀ s, view (step s).state l = view s l) (s : σ) :
    view (runAll steps s).state l = view s l := by
  refine runAll_invariant (I := fun s' => view s' l = view s l) ?_ rfl
  intro step hstep s₁ h
  rw [hframe step hstep s₁]
  exact h

end

/-! ## Scripts as steps of scripts -/

/-- A step that only checks a condition, and ends the script with a status if it does not hold. -/
def require (cond : σ → Bool) (status : Nat) (message : List ο) : Step σ ο := fun s =>
  if cond s then ⟨0, [], s⟩ else ⟨status, message, s⟩

@[simp] theorem state_require (cond : σ → Bool) (status : Nat) (message : List ο) (s : σ) :
    (require cond status message s).state = s := by
  unfold require
  split <;> rfl

theorem require_settles (cond : σ → Bool) {status : Nat} (hstatus : status ≠ 0)
    (message : List ο) :
    Settles (require cond status message) (fun s => cond s = true) (fun _ => []) where
  establishes := by
    intro s h
    unfold require at h ⊢
    split at h
    · next hcond =>
      rw [if_pos hcond]
      exact hcond
    · exact absurd h hstatus
  noop := by
    intro s h
    unfold require
    rw [if_pos h]

/-- A step that prints something. -/
def echo (message : List ο) : Step σ ο := fun s => ⟨0, message, s⟩

theorem echo_settles (message : List ο) :
    Settles (echo message : Step σ ο) (fun _ => True) (fun _ => message) where
  establishes _ _ := trivial
  noop _ _ := rfl

/-- A script called by a script, one whose own steps keep each other's conditions. -/
theorem runAll_settles {managed : List (Managed σ ο)} (hkeeps : managed.Pairwise Managed.Keeps) :
    Settles (runAll (managed.map Managed.step)) (fun s => ∀ m ∈ managed, m.done s)
      (fun s => managed.flatMap fun m => m.quiet s) where
  establishes _ hrun := all_done_runAll hkeeps hrun
  noop _ h := runAll_of_all_done h

end Provision
