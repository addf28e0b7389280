import Mathlib.Logic.Function.Basic
import Mathlib.Logic.Relation
import Mozart.Lib.Transition

/-!
# A single-threaded executor with futures

One thread takes tasks from a queue, in order, and runs each to its end; a task that runs may call
others in place. A task from the queue has a future, which shows the result once the thread has
published it. Nothing is ever withdrawn.

* **`Once`**: a task is queued, runs or has finished, one of them and once.
* **`settled_step`**: a task that is known and not pending stays as it is.
* **`exists_drained`**: whatever is pending can run to any result.
-/

namespace Executor

open Transition

variable {ι ρ : Type*}

/-- What the thread is doing. A task called in place returns to its caller and has no future. -/
inductive Frame (ι ρ : Type*) where
  | running (task : ι) (inPlace : Bool)
  | publishing (task : ι) (result : ρ)

structure State (ι ρ : Type*) where
  /-- every task that was handed in, also if it was refused -/
  submitted : List ι := []
  queue : List ι := []
  /-- innermost call first -/
  stack : List (Frame ι ρ) := []
  finished : ι → Option ρ := fun _ => none
  published : ι → Option ρ := fun _ => none

inductive Event (ι ρ : Type*) where
  | submit (task : ι) (accepted : Bool)
  | callInPlace (task : ι)
  | start
  | finish (result : ρ)
  | publish

def Frame.running? : Frame ι ρ → Option ι
  | .running task _ => some task
  | .publishing _ _ => none

/-- The tasks that are queued or run. -/
def State.pending (s : State ι ρ) : List ι := s.stack.filterMap Frame.running? ++ s.queue

/-- A task that was handed in and is not pending: it has finished, or was refused. -/
def State.Settled (s : State ι ρ) (task : ι) : Prop := task ∈ s.submitted ∧ task ∉ s.pending

/-- A pending task is known, unfinished, and pending once; a result is that of a known task, and
what is published of it is what it finished with. -/
structure Once (s : State ι ρ) : Prop where
  nodup : s.pending.Nodup
  known : ∀ task ∈ s.pending, task ∈ s.submitted
  unfinished : ∀ task ∈ s.pending, s.finished task = none
  finished_known : ∀ task, s.finished task ≠ none → task ∈ s.submitted
  told : ∀ task result, s.published task = some result ∨ .publishing task result ∈ s.stack →
    s.finished task = some result

theorem Once.settled {s : State ι ρ} (h : Once s) {task : ι} (hfinished : s.finished task ≠ none) :
    s.Settled task :=
  ⟨h.finished_known task hfinished, fun hpending => hfinished (h.unfinished task hpending)⟩

variable [DecidableEq ι]

/-! ## Steps -/

def step (s : State ι ρ) : Event ι ρ → Option (State ι ρ)
  | .submit task accepted =>
    if task ∈ s.submitted then none
    else some { s with
      submitted := task :: s.submitted
      queue := if accepted then s.queue ++ [task] else s.queue }
  | .callInPlace task =>
    if task ∈ s.submitted then none
    else match s.stack with
      | .publishing _ _ :: _ => none
      | stack => some { s with
          submitted := task :: s.submitted
          stack := .running task true :: stack }
  | .start =>
    match s.stack, s.queue with
    | [], task :: queue => some { s with queue, stack := [.running task false] }
    | _, _ => none
  | .finish result =>
    match s.stack with
    | .running task inPlace :: stack => some { s with
        stack := if inPlace then stack else .publishing task result :: stack
        finished := Function.update s.finished task (some result) }
    | _ => none
  | .publish =>
    match s.stack with
    | .publishing task result :: stack => some { s with
        stack
        published := Function.update s.published task (some result) }
    | _ => none

theorem submitted_submit {s s' : State ι ρ} {task : ι} {accepted : Bool}
    (h : step s (.submit task accepted) = some s') : task ∈ s'.submitted := by
  simp only [step] at h
  split_ifs at h <;> cases h <;> exact List.mem_cons_self

theorem submitted_callInPlace {s s' : State ι ρ} {task : ι}
    (h : step s (.callInPlace task) = some s') : task ∈ s'.submitted := by
  simp only [step] at h
  split_ifs at h
  split at h <;> cases h
  exact List.mem_cons_self

theorem finished_finish {s s' : State ι ρ} {result : ρ} (h : step s (.finish result) = some s')
    {task : ι} {inPlace : Bool} {stack : List (Frame ι ρ)}
    (hstack : s.stack = .running task inPlace :: stack) : s'.finished task = some result := by
  rw [step, hstack] at h
  cases h
  exact Function.update_self ..

/-- The executor, starting with nothing to do. -/
def system (ι ρ : Type*) [DecidableEq ι] : System (State ι ρ) (Event ι ρ) where
  init s := s = {}
  step := step

/-- What a step does to the pending tasks and the results. -/
inductive Moves (s : State ι ρ) : State ι ρ → Prop where
  | handIn {s' : State ι ρ} {task : ι} (hnew : task ∉ s.submitted)
      (hsubmitted : s'.submitted = task :: s.submitted)
      (hpending : s'.pending = s.pending ∨ s'.pending.Perm (task :: s.pending))
      (hfinished : s'.finished = s.finished) : Moves s s'
  | go {s' : State ι ρ} (hsubmitted : s'.submitted = s.submitted)
      (hpending : s'.pending = s.pending) (hfinished : s'.finished = s.finished) : Moves s s'
  | finish {s' : State ι ρ} {task : ι} {result : ρ} (hsubmitted : s'.submitted = s.submitted)
      (hpending : s.pending = task :: s'.pending)
      (hfinished : s'.finished = Function.update s.finished task (some result)) : Moves s s'

/-- **The inversion lemma.** -/
theorem moves_of_step {s s' : State ι ρ} {e : Event ι ρ} (h : step s e = some s') :
    Moves s s' := by
  cases e with
  | submit task accepted =>
    simp only [step] at h
    split_ifs at h with hnew
    · cases h
      -- accepted: queued behind the others
      refine .handIn hnew rfl (.inr ?_) rfl
      simp only [State.pending, ← List.append_assoc]
      exact List.perm_append_singleton task _
    · cases h
      exact .handIn hnew rfl (.inl rfl) rfl
  | callInPlace task =>
    simp only [step] at h
    split_ifs at h with hnew
    split at h
    · cases h
    · cases h
      exact .handIn hnew rfl (.inr (.refl _)) rfl
  | start =>
    simp only [step] at h
    split at h
    · rename_i task queue hstack hqueue
      cases h
      refine .go rfl ?_ rfl
      simp [State.pending, hstack, hqueue, Frame.running?]
    · cases h
  | finish result =>
    simp only [step] at h
    split at h
    · rename_i task inPlace stack hstack
      cases h
      refine .finish rfl (?_ : _ = task :: _) rfl
      -- with or without a frame left to publish the result, it is pending no more
      cases inPlace <;> simp [State.pending, hstack, Frame.running?, List.filterMap_cons]
    · cases h
  | publish =>
    simp only [step] at h
    split at h
    · rename_i task result stack hstack
      cases h
      refine .go rfl ?_ rfl
      simp [State.pending, hstack, Frame.running?, List.filterMap_cons]
    · cases h

theorem submitted_step {s s' : State ι ρ} {e : Event ι ρ} (h : step s e = some s') {task : ι}
    (hsubmitted : task ∈ s.submitted) : task ∈ s'.submitted := by
  cases moves_of_step h with
  | handIn _ hsame => exact hsame ▸ List.mem_cons_of_mem _ hsubmitted
  | go hsame => exact hsame ▸ hsubmitted
  | finish hsame => exact hsame ▸ hsubmitted

/-- **A settled task stays as it is.** -/
theorem settled_step {s s' : State ι ρ} {e : Event ι ρ} (h : step s e = some s') {task : ι}
    (hsettled : s.Settled task) : s'.Settled task ∧ s'.finished task = s.finished task := by
  obtain ⟨hknown, hidle⟩ := hsettled
  cases moves_of_step h with
  | @handIn new hnew hsubmitted hpending hfinished =>
    have hne : task ≠ new := fun heq => hnew (heq ▸ hknown)
    refine ⟨⟨hsubmitted ▸ List.mem_cons_of_mem _ hknown, ?_⟩, by rw [hfinished]⟩
    rcases hpending with hsame | hperm
    · rwa [hsame]
    · rw [hperm.mem_iff, List.mem_cons, not_or]
      exact ⟨hne, hidle⟩
  | go hsubmitted hpending hfinished =>
    exact ⟨⟨hsubmitted ▸ hknown, hpending ▸ hidle⟩, by rw [hfinished]⟩
  | finish hsubmitted hpending hfinished =>
    rw [hpending, List.mem_cons, not_or] at hidle
    exact ⟨⟨hsubmitted ▸ hknown, hidle.2⟩, by rw [hfinished, Function.update_of_ne hidle.1]⟩

/-! ## Each task once -/

/-- A result is kept. -/
theorem Once.finished_step {s s' : State ι ρ} (h : Once s) {e : Event ι ρ}
    (hstep : step s e = some s') {task : ι} {result : ρ}
    (hfinished : s.finished task = some result) : s'.finished task = some result := by
  rw [(settled_step hstep (h.settled (by simp [hfinished]))).2, hfinished]

/-- What a step makes known of a result was known before, or is the result of the step. -/
theorem told_of_step {s s' : State ι ρ} {e : Event ι ρ} (h : step s e = some s') {task : ι}
    {result : ρ} (htold : s'.published task = some result ∨ .publishing task result ∈ s'.stack) :
    (s.published task = some result ∨ .publishing task result ∈ s.stack) ∨
      s'.finished task = some result := by
  cases e with
  | submit new accepted =>
    simp only [step] at h
    split_ifs at h <;> cases h <;> exact .inl htold
  | callInPlace new =>
    simp only [step] at h
    split_ifs at h
    split at h <;> cases h
    exact .inl (htold.imp_right fun hmem => by simpa using hmem)
  | start =>
    simp only [step] at h
    split at h <;> cases h
    exact .inl (htold.imp_right fun hmem => by simp at hmem)
  | finish outcome =>
    simp only [step] at h
    split at h
    · rename_i new inPlace stack hstack
      cases h
      rcases htold with hpublished | hmem
      · exact .inl (.inl hpublished)
      · rw [hstack]
        cases inPlace with
        | true => exact .inl (.inr (List.mem_cons_of_mem _ hmem))
        -- only a task of the queue has its result published, in a frame of its own
        | false =>
          rcases List.mem_cons.mp hmem with heq | hmem
          · cases heq
            exact .inr (Function.update_self ..)
          · exact .inl (.inr (List.mem_cons_of_mem _ hmem))
    · cases h
  | publish =>
    simp only [step] at h
    split at h
    · rename_i new outcome stack hstack
      cases h
      rw [hstack]
      rcases htold with hpublished | hmem
      · -- published just now, or before
        by_cases heq : task = new
        · subst heq
          obtain rfl : outcome = result := by simpa using hpublished
          exact .inl (.inr List.mem_cons_self)
        · exact .inl (.inl (by simpa [Function.update_of_ne heq] using hpublished))
      · exact .inl (.inr (List.mem_cons_of_mem _ hmem))
    · cases h

theorem Once.step {s s' : State ι ρ} (h : Once s) {e : Event ι ρ}
    (hstep : Executor.step s e = some s') : Once s' := by
  have htold : ∀ task result, s'.published task = some result ∨
      .publishing task result ∈ s'.stack → s'.finished task = some result := fun task result hold =>
    (told_of_step hstep hold).elim (fun hold => h.finished_step hstep (h.told task result hold)) id
  cases moves_of_step hstep with
  | @handIn new hnew hsubmitted hpending hfinished =>
    have hidle : new ∉ s.pending := fun hmem => hnew (h.known new hmem)
    have hnone : s.finished new = none := by
      by_contra hfinished
      exact hnew (h.finished_known new hfinished)
    have hmem : ∀ task ∈ s'.pending, task = new ∨ task ∈ s.pending := fun task htask => by
      rcases hpending with hsame | hperm
      · exact .inr (hsame ▸ htask)
      · exact List.mem_cons.mp (hperm.mem_iff.mp htask)
    refine ⟨?_, fun task htask => ?_, fun task htask => ?_, fun task hsome => ?_, htold⟩
    · rcases hpending with hsame | hperm
      · exact hsame ▸ h.nodup
      · exact hperm.nodup_iff.mpr (List.nodup_cons.mpr ⟨hidle, h.nodup⟩)
    · rw [hsubmitted, List.mem_cons]
      exact (hmem task htask).imp_right (h.known task)
    · rw [hfinished]
      exact (hmem task htask).elim (fun heq => heq ▸ hnone) (h.unfinished task)
    · rw [hsubmitted]
      exact List.mem_cons_of_mem _ (h.finished_known task (hfinished ▸ hsome))
  | go hsubmitted hpending hfinished =>
    exact ⟨hpending ▸ h.nodup, by rw [hpending, hsubmitted]; exact h.known,
      by rw [hpending, hfinished]; exact h.unfinished,
      by rw [hsubmitted, hfinished]; exact h.finished_known, htold⟩
  | @finish done result hsubmitted hpending hfinished =>
    -- the task that finishes was pending once, and is not pending any more
    have hnodup := h.nodup
    rw [hpending, List.nodup_cons] at hnodup
    have hdone : done ∈ s.pending := hpending ▸ List.mem_cons_self
    refine ⟨hnodup.2, fun task htask => ?_, fun task htask => ?_, fun task hsome => ?_, htold⟩
    · exact hsubmitted ▸ h.known task (hpending ▸ List.mem_cons_of_mem _ htask)
    · have hne : task ≠ done := by
        rintro rfl
        exact hnodup.1 htask
      rw [hfinished, Function.update_of_ne hne]
      exact h.unfinished task (hpending ▸ List.mem_cons_of_mem _ htask)
    · rw [hsubmitted]
      by_cases heq : task = done
      · exact heq ▸ h.known done hdone
      · rw [hfinished, Function.update_of_ne heq] at hsome
        exact h.finished_known task hsome

/-- **Each task once**, in every reachable state. -/
theorem once_of_reachable {s : State ι ρ} (hs : Reachable (system ι ρ) s) : Once s := by
  refine hs.invariant ?_ fun _ _ _ h hstep => h.step hstep
  rintro s rfl
  exact ⟨List.nodup_nil, by simp [State.pending], by simp [State.pending], by simp, by simp⟩

/-! ## Whatever is pending can run -/

/-- The events of the thread itself, with this result for every task. -/
def Event.Runs (result : ρ) : Event ι ρ → Prop
  | .start | .publish => True
  | .finish result' => result' = result
  | .submit _ _ | .callInPlace _ => False

/-- `s'` can be reached from `s` by the thread alone, every task finishing with `result`. -/
def Drives (result : ρ) : State ι ρ → State ι ρ → Prop :=
  Relation.ReflTransGen fun s s' => ∃ e : Event ι ρ, e.Runs result ∧ step s e = some s'

theorem Drives.head {result : ρ} {s s₁ s' : State ι ρ} {e : Event ι ρ} (h : Drives result s₁ s')
    (he : e.Runs result) (hstep : Executor.step s e = some s₁) : Drives result s s' :=
  Relation.ReflTransGen.head ⟨e, he, hstep⟩ h

/-- What has finished is not run again. -/
theorem Drives.kept {result : ρ} {s s' : State ι ρ} (h : Drives result s s') (honce : Once s) :
    Once s' ∧ ∀ task result', s.finished task = some result' →
      s'.finished task = some result' := by
  induction h with
  | refl => exact ⟨honce, fun _ _ hfinished => hfinished⟩
  | tail _ hlast ih =>
    obtain ⟨e, -, hstep⟩ := hlast
    exact ⟨ih.1.step hstep, fun task result' hfinished =>
      ih.1.finished_step hstep (ih.2 task result' hfinished)⟩

/-- The thread can get to the bottom of its stack. -/
theorem exists_unwound (result : ρ) (stack : List (Frame ι ρ)) :
    ∀ s : State ι ρ, Once s → s.stack = stack → ∃ s', Drives result s s' ∧ s'.stack = [] ∧
      s'.queue = s.queue ∧ ∀ task ∈ stack.filterMap Frame.running?,
        s'.finished task = some result := by
  induction stack with
  | nil => exact fun s _ hstack => ⟨s, .refl, hstack, rfl, by simp⟩
  | cons frame rest ih =>
    -- once the top frame only publishes, the others follow
    have hpublish : ∀ (s : State ι ρ) task outcome, Once s →
        s.stack = .publishing task outcome :: rest → ∃ s', Drives result s s' ∧ s'.stack = [] ∧
          s'.queue = s.queue ∧ ∀ task ∈ rest.filterMap Frame.running?,
            s'.finished task = some result := by
      intro s task outcome honce hstack
      have hstep : Executor.step s .publish = some { s with
          stack := rest, published := Function.update s.published task (some outcome) } := by
        simp [Executor.step, hstack]
      obtain ⟨s', hdrives, hempty, hqueue, hrest⟩ := ih _ (honce.step hstep) rfl
      exact ⟨s', hdrives.head (e := .publish) trivial hstep, hempty, hqueue, hrest⟩
    intro s honce hstack
    cases frame with
    | publishing task outcome =>
      simpa [List.filterMap_cons, Frame.running?] using hpublish s task outcome honce hstack
    | running task inPlace =>
      obtain ⟨s₁, hstep, hstack₁, hqueue₁, hdone⟩ : ∃ s₁,
          Executor.step s (.finish result) = some s₁ ∧
          s₁.stack = (if inPlace then rest else .publishing task result :: rest) ∧
          s₁.queue = s.queue ∧ s₁.finished task = some result := by
        rw [Executor.step, hstack]
        exact ⟨_, rfl, rfl, rfl, Function.update_self ..⟩
      have honce₁ := honce.step hstep
      obtain ⟨s', hdrives, hempty, hqueue, hrest⟩ : ∃ s', Drives result s₁ s' ∧ s'.stack = [] ∧
          s'.queue = s₁.queue ∧ ∀ task ∈ rest.filterMap Frame.running?,
            s'.finished task = some result := by
        cases inPlace with
        | true => exact ih s₁ honce₁ hstack₁
        | false => exact hpublish s₁ task result honce₁ hstack₁
      refine ⟨s', hdrives.head (e := .finish result) rfl hstep, hempty, hqueue.trans hqueue₁,
        fun task' hmem => ?_⟩
      rcases List.mem_cons.mp hmem with rfl | hmem
      · exact (hdrives.kept honce₁).2 task' result hdone
      · exact hrest task' hmem

/-- An idle thread can work the queue off. -/
theorem exists_emptied (result : ρ) (queue : List ι) :
    ∀ s : State ι ρ, Once s → s.stack = [] → s.queue = queue → ∃ s', Drives result s s' ∧
      ∀ task ∈ queue, s'.finished task = some result := by
  induction queue with
  | nil => exact fun s _ _ _ => ⟨s, .refl, by simp⟩
  | cons task rest ih =>
    intro s honce hstack hqueue
    have hstep : Executor.step s .start =
        some { s with queue := rest, stack := [.running task false] } := by
      simp [Executor.step, hstack, hqueue]
    obtain ⟨s₁, hdrives₁, hempty₁, hqueue₁, hrun₁⟩ :=
      exists_unwound result _ _ (honce.step hstep) rfl
    obtain ⟨honce₁, -⟩ := hdrives₁.kept (honce.step hstep)
    obtain ⟨s₂, hdrives₂, hrest⟩ := ih s₁ honce₁ hempty₁ hqueue₁
    refine ⟨s₂, (hdrives₁.head (e := .start) trivial hstep).trans hdrives₂, fun task' hmem => ?_⟩
    rcases List.mem_cons.mp hmem with rfl | hmem
    · exact (hdrives₂.kept honce₁).2 task' result (hrun₁ task' (by simp [Frame.running?]))
    · exact hrest task' hmem

/-- **Whatever is pending can run**, to any result. -/
theorem exists_drained {s : State ι ρ} (honce : Once s) (result : ρ) {task : ι}
    (hpending : task ∈ s.pending) : ∃ s', Drives result s s' ∧ s'.finished task = some result := by
  obtain ⟨s₁, hdrives₁, hempty₁, hqueue₁, hrun₁⟩ := exists_unwound result _ s honce rfl
  rcases List.mem_append.mp hpending with hmem | hmem
  · exact ⟨s₁, hdrives₁, hrun₁ task hmem⟩
  · obtain ⟨s₂, hdrives₂, hrest⟩ :=
      exists_emptied result _ s₁ (hdrives₁.kept honce).1 hempty₁ hqueue₁
    exact ⟨s₂, hdrives₁.trans hdrives₂, hrest task hmem⟩

end Executor
