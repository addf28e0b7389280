import Mozart.Lib.Executor

/-!
# `GnssGeofenceProvider.runOnHandlerThread`

Callers hand a callable to the handler thread and wait for its future, for five seconds at most.
The thread is an `Executor`: its queue is that of the `Handler`, a posted `FutureTask` is a task
with a future, and a call made on the handler's own looper is a task called in place. Calls are
numbered; a caller thread makes one at a time.

* `timeOut` and `interrupt` are the two new ways out of `FutureTask.get`. A timeout needs a future
  that shows nothing yet; an interrupt can come at any time.
* **`false_result_iff`**: what a false result tells about the callable.
* **`finished_of_true`**: a true result is that of the callable.
-/

namespace Mozart.Geofence

open Transition

/-! ## State -/

/-- How a `Callable<Boolean>` ends. -/
inductive Outcome where
  | value (result : Bool)
  | threw
deriving DecidableEq

/-- What `runOnHandlerThread` makes of it, through the future or in place. -/
def Outcome.result : Outcome → Bool
  | .value result => result
  | .threw => false

/-- The exits of `runOnHandlerThread`. -/
inductive Exit where
  /-- with the outcome of the callable -/
  | outcome
  | timeout
  | interrupt
deriving DecidableEq

inductive Caller where
  | idle
  /-- in `futureTask.get` -/
  | waiting
  /-- in `callable.call`, on the handler's looper -/
  | inPlace
  | returned (result : Bool) (exit : Exit)
deriving DecidableEq

structure State where
  handler : Executor.State Nat Outcome := {}
  callers : Nat → Caller := fun _ => .idle

def State.leave (s : State) (call : Nat) (result : Bool) (exit : Exit) : State :=
  { s with callers := Function.update s.callers call (.returned result exit) }

/-! ## Steps -/

inductive Label where
  /-- `mHandler.post`; a looper that quits refuses the task -/
  | post (call : Nat) (accepted : Bool)
  | callDirectly (call : Nat)
  | start
  | finish (outcome : Outcome)
  | publish
  | take (call : Nat)
  | timeOut (call : Nat)
  | interrupt (call : Nat)

def step (s : State) : Label → Option State
  | .post call accepted =>
    match s.callers call with
    | .idle => (Executor.step s.handler (.submit call accepted)).map fun handler =>
        { handler, callers := Function.update s.callers call .waiting }
    | _ => none
  | .callDirectly call =>
    match s.callers call with
    | .idle => (Executor.step s.handler (.callInPlace call)).map fun handler =>
        { handler, callers := Function.update s.callers call .inPlace }
    | _ => none
  | .start => (Executor.step s.handler .start).map fun handler => { s with handler }
  | .finish outcome =>
    (Executor.step s.handler (.finish outcome)).map fun handler =>
      match s.handler.stack with
      | .running call true :: _ => State.leave { s with handler } call outcome.result .outcome
      | _ => { s with handler }
  | .publish => (Executor.step s.handler .publish).map fun handler => { s with handler }
  | .take call =>
    match s.callers call, s.handler.published call with
    | .waiting, some outcome => some (s.leave call outcome.result .outcome)
    | _, _ => none
  | .timeOut call =>
    match s.callers call, s.handler.published call with
    | .waiting, none => some (s.leave call false .timeout)
    | _, _ => none
  | .interrupt call =>
    match s.callers call with
    | .waiting => some (s.leave call false .interrupt)
    | _ => none

def system : System State Label where
  init s := s = {}
  step := step

/-! ## The handler thread is an executor -/

/-- **A step is one of the handler thread, or leaves the thread alone.** In particular no exit of a
caller withdraws its task. -/
theorem handler_of_step {s s' : State} {a : Label} (h : step s a = some s') :
    s'.handler = s.handler ∨ ∃ e, Executor.step s.handler e = some s'.handler := by
  cases a with
  | post call accepted =>
    simp only [step] at h
    split at h
    · obtain ⟨handler, hstep, rfl⟩ := Option.map_eq_some_iff.mp h
      exact .inr ⟨_, hstep⟩
    · cases h
  | callDirectly call =>
    simp only [step] at h
    split at h
    · obtain ⟨handler, hstep, rfl⟩ := Option.map_eq_some_iff.mp h
      exact .inr ⟨_, hstep⟩
    · cases h
  | start | publish =>
    obtain ⟨handler, hstep, rfl⟩ := Option.map_eq_some_iff.mp h
    exact .inr ⟨_, hstep⟩
  | finish outcome =>
    obtain ⟨handler, hstep, rfl⟩ := Option.map_eq_some_iff.mp h
    refine .inr ⟨_, hstep.trans ?_⟩
    split <;> rfl
  | take call | timeOut call | interrupt call =>
    simp only [step] at h
    split at h <;> cases h
    exact .inl rfl

/-- The handler thread on its own. -/
def handlerThread : Simulation system (Executor.system Nat Outcome) where
  abs := State.handler
  init := by
    rintro s rfl
    rfl
  step _ _ _ _ h := handler_of_step h

theorem once_of_reachable {s : State} (hs : Reachable system s) : Executor.Once s.handler :=
  Executor.once_of_reachable (handlerThread.reachable hs)

/-- Whatever the thread can do by itself is a step. -/
theorem exists_step {s : State} {outcome : Outcome} {e : Executor.Event Nat Outcome}
    {handler : Executor.State Nat Outcome} (he : e.Runs outcome)
    (h : Executor.step s.handler e = some handler) :
    ∃ a s', system.step s a = some s' ∧ s'.handler = handler := by
  cases e with
  | submit task accepted => exact he.elim
  | callInPlace task => exact he.elim
  | start => exact ⟨.start, _, Option.map_eq_some_iff.mpr ⟨handler, h, rfl⟩, rfl⟩
  | publish => exact ⟨.publish, _, Option.map_eq_some_iff.mpr ⟨handler, h, rfl⟩, rfl⟩
  | finish outcome' =>
    refine ⟨.finish outcome', _, Option.map_eq_some_iff.mpr ⟨handler, h, rfl⟩, ?_⟩
    split <;> rfl

theorem exists_exec {outcome : Outcome} {handler handler' : Executor.State Nat Outcome}
    (h : Executor.Drives outcome handler handler') :
    ∀ s : State, s.handler = handler →
      ∃ as s', exec system s as = some s' ∧ s'.handler = handler' := by
  induction h using Relation.ReflTransGen.head_induction_on with
  | refl => exact fun s hs => ⟨[], s, rfl, hs⟩
  | head hfirst _ ih =>
    rintro s rfl
    obtain ⟨e, he, hstep⟩ := hfirst
    obtain ⟨a, s₁, hs₁, hhandler⟩ := exists_step he hstep
    obtain ⟨as, s', hexec, hlast⟩ := ih s₁ hhandler
    exact ⟨a :: as, s', Option.bind_eq_some_iff.mpr ⟨s₁, hs₁, hexec⟩, hlast⟩

/-! ## What callers were told -/

/-- What is known of a call whose caller is in this state. -/
def Accounted (handler : Executor.State Nat Outcome) (call : Nat) : Caller → Prop
  | .idle => True
  | .waiting | .inPlace => call ∈ handler.submitted
  | .returned result .outcome => ∃ outcome, handler.finished call = some outcome ∧
      outcome.result = result
  | .returned result .timeout | .returned result .interrupt =>
      result = false ∧ call ∈ handler.submitted

theorem Accounted.step {h h' : Executor.State Nat Outcome} (honce : Executor.Once h)
    {e : Executor.Event Nat Outcome} (hstep : Executor.step h e = some h') {call : Nat}
    {caller : Caller} (haccounted : Accounted h call caller) : Accounted h' call caller := by
  match caller, haccounted with
  | .idle, _ => trivial
  | .waiting, hcall | .inPlace, hcall => exact Executor.submitted_step hstep hcall
  | .returned result .outcome, ⟨outcome, hfinished, hresult⟩ =>
    exact ⟨outcome, honce.finished_step hstep hfinished, hresult⟩
  | .returned result .timeout, ⟨hresult, hcall⟩ | .returned result .interrupt, ⟨hresult, hcall⟩ =>
    exact ⟨hresult, Executor.submitted_step hstep hcall⟩

theorem Accounted.submitted {h : Executor.State Nat Outcome} (honce : Executor.Once h) {call : Nat}
    {result : Bool} {exit : Exit} (haccounted : Accounted h call (.returned result exit)) :
    call ∈ h.submitted := by
  cases exit with
  | outcome =>
    obtain ⟨outcome, hfinished, -⟩ := haccounted
    exact honce.finished_known call (by simp [hfinished])
  | timeout | interrupt => exact haccounted.2

/-- A step keeps account of all calls. -/
theorem accounted_step {s s' : State} {a : Label} (honce : Executor.Once s.handler)
    (h : step s a = some s') (haccounted : ∀ call, Accounted s.handler call (s.callers call)) :
    ∀ call, Accounted s'.handler call (s'.callers call) := by
  have hmoved : ∀ {handler} (call : Nat) (caller : Caller), Accounted handler call caller →
      (∀ call, Accounted handler call (s.callers call)) →
      ∀ other, Accounted handler other (Function.update s.callers call caller other) :=
    fun call caller hcaller hothers => (Function.forall_update_iff _ fun other =>
      Accounted _ other).mpr ⟨hcaller, fun other _ => hothers other⟩
  -- giving up leaves the task with the handler
  have hwaits : ∀ {call : Nat}, s.callers call = .waiting →
      Accounted s.handler call .waiting := fun {call} hcaller => by
    have hwaiting := haccounted call
    rwa [hcaller] at hwaiting
  cases a with
  | post call accepted =>
    simp only [step] at h
    split at h
    · obtain ⟨handler, hstep, rfl⟩ := Option.map_eq_some_iff.mp h
      exact hmoved call .waiting (Executor.submitted_submit hstep)
        fun other => (haccounted other).step honce hstep
    · cases h
  | callDirectly call =>
    simp only [step] at h
    split at h
    · obtain ⟨handler, hstep, rfl⟩ := Option.map_eq_some_iff.mp h
      exact hmoved call .inPlace (Executor.submitted_callInPlace hstep)
        fun other => (haccounted other).step honce hstep
    · cases h
  | start | publish =>
    obtain ⟨handler, hstep, rfl⟩ := Option.map_eq_some_iff.mp h
    exact fun call => (haccounted call).step honce hstep
  | finish outcome =>
    obtain ⟨handler, hstep, rfl⟩ := Option.map_eq_some_iff.mp h
    split
    · rename_i call stack hstack
      exact hmoved call (.returned outcome.result .outcome)
        ⟨outcome, Executor.finished_finish hstep hstack, rfl⟩
        fun other => (haccounted other).step honce hstep
    · exact fun call => (haccounted call).step honce hstep
  | take call =>
    simp only [step] at h
    split at h
    · rename_i outcome hcaller hpublished
      cases h
      exact hmoved call (.returned outcome.result .outcome)
        ⟨outcome, honce.told call outcome (.inl hpublished), rfl⟩ haccounted
    · cases h
  | timeOut call =>
    simp only [step] at h
    split at h
    · rename_i hcaller hpublished
      cases h
      exact hmoved call (.returned false .timeout) ⟨rfl, hwaits hcaller⟩ haccounted
    · cases h
  | interrupt call =>
    simp only [step] at h
    split at h
    · rename_i hcaller
      cases h
      exact hmoved call (.returned false .interrupt) ⟨rfl, hwaits hcaller⟩ haccounted
    · cases h

theorem accounted_of_reachable {s : State} (hs : Reachable system s) :
    ∀ call, Accounted s.handler call (s.callers call) := by
  have hinv := hs.invariant (I := fun s => Executor.Once s.handler ∧
    ∀ call, Accounted s.handler call (s.callers call)) ?_ ?_
  · exact hinv.2
  · rintro s rfl
    exact ⟨once_of_reachable (.init rfl), fun _ => trivial⟩
  · rintro s a s' ⟨honce, haccounted⟩ h
    refine ⟨?_, accounted_step honce h haccounted⟩
    rcases handler_of_step h with heq | ⟨e, hstep⟩
    · exact heq ▸ honce
    · exact honce.step hstep

/-! ## The result of `runOnHandlerThread` -/

/-- **A true result is that of the callable.** -/
theorem finished_of_true {s : State} (hs : Reachable system s) {call : Nat} {exit : Exit}
    (hreturned : s.callers call = .returned true exit) :
    s.handler.finished call = some (.value true) := by
  have haccounted := accounted_of_reachable hs call
  rw [hreturned] at haccounted
  cases exit with
  | outcome =>
    obtain ⟨outcome, hfinished, hresult⟩ := haccounted
    cases outcome with
    | value result => exact hresult ▸ hfinished
    | threw => cases hresult
  | timeout | interrupt => cases haccounted.1

/-- **What a false result tells.** The callable has not finished with true and never will exactly
when it is neither queued nor running any more and has not done so already. Where the result is the
outcome of the callable that is so; a timeout or an interrupt says nothing about it. -/
theorem false_result_iff {s : State} (hs : Reachable system s) {call : Nat} {exit : Exit}
    (hreturned : s.callers call = .returned false exit) :
    ((∀ as s', exec system s as = some s' → s'.handler.finished call ≠ some (.value true)) ↔
      call ∉ s.handler.pending ∧ s.handler.finished call ≠ some (.value true)) ∧
    (exit = .outcome →
      call ∉ s.handler.pending ∧ s.handler.finished call ≠ some (.value true)) := by
  have honce := once_of_reachable hs
  have haccounted := accounted_of_reachable hs call
  rw [hreturned] at haccounted
  refine ⟨⟨fun hnever => ⟨fun hpending => ?_, hnever [] s rfl⟩, ?_⟩, ?_⟩
  · -- the thread can still run it to a true result
    obtain ⟨handler, hdrives, hfinished⟩ := Executor.exists_drained honce (.value true) hpending
    obtain ⟨as, s', hexec, rfl⟩ := exists_exec hdrives s rfl
    exact hnever as s' hexec hfinished
  · rintro ⟨hidle, hfinished⟩ as s' hexec
    have hkept := exec_invariant (I := fun s' : State => s'.handler.Settled call ∧
        s'.handler.finished call = s.handler.finished call) (fun s₁ a s₂ _ hI hstep => ?_)
      ⟨⟨haccounted.submitted honce, hidle⟩, rfl⟩ hexec
    · exact hkept.2 ▸ hfinished
    · rcases handler_of_step hstep with heq | ⟨e, hmove⟩
      · exact heq ▸ hI
      · obtain ⟨hsettled, hsame⟩ := Executor.settled_step hmove hI.1
        exact ⟨hsettled, hsame.trans hI.2⟩
  · rintro rfl
    obtain ⟨outcome, hfinished, hresult⟩ := haccounted
    refine ⟨(honce.settled (by simp [hfinished])).2, fun htrue => ?_⟩
    cases hfinished.symm.trans htrue
    cases hresult

/-- The callable returns false, and its caller gets that. -/
theorem false_result_iff_taken :
    ∃ s, exec system {} [.post 0 true, .start, .finish (.value false), .publish, .take 0] = some s ∧
      ∀ as s', exec system s as = some s' → s'.handler.finished 0 ≠ some (.value true) := by
  have hexec : exec system {}
      [.post 0 true, .start, .finish (.value false), .publish, .take 0] = some _ := rfl
  obtain ⟨hiff, houtcome⟩ := @false_result_iff _ (.of_exec rfl hexec) 0 .outcome rfl
  exact ⟨_, hexec, hiff.mpr (houtcome rfl)⟩

/-- The caller times out on a queued task, which then runs and returns true. -/
theorem true_after_timeout :
    ¬ ∀ (s : State) (call : Nat) (exit : Exit), Reachable system s →
      s.callers call = .returned false exit →
      ∀ as s', exec system s as = some s' → s'.handler.finished call ≠ some (.value true) := by
  intro h
  have hexec : exec system {} [.post 0 true, .timeOut 0] = some _ := rfl
  exact h _ 0 .timeout (.of_exec rfl hexec) rfl [.start, .finish (.value true)] _ rfl rfl

end Mozart.Geofence
