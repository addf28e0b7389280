import Mathlib.Algebra.GroupWithZero.Nat
import Mozart.Lib.InitLanguage

/-!
# Runs of a script among other processes

Properties may be set by others at any time: while the actions of an earlier event are executed,
and while its own event is in the queue.

* **`Follows.rest`**: where the actions on one property keep to themselves, the files, properties
  and services they are about are, at rest, as the actions on its present value leave them, however
  often and whenever it was set.
* **`settles`**: left alone, a script whose events do not chase each other comes to rest.
* **`guarded_write`**: files that are written only while another file holds some value.
-/

namespace InitLanguage

open Transition

variable {N F S : Type*}

/-! ## What commands can tell apart -/

section

variable {p : N} {settable : N → Bool} {owned : S → Bool} {m m' m'' : Machine N F S}

/-- The property `p`, or one that nobody else sets. -/
def Visible (p : N) (settable : N → Bool) (n : N) : Prop := n = p ∨ settable n = false

/-- Machines that agree on the files, the owned services and the visible properties. -/
structure Same (p : N) (settable : N → Bool) (owned : S → Bool) (m m' : Machine N F S) : Prop where
  files : m'.files = m.files
  props : ∀ n, Visible p settable n → m'.props n = m.props n
  started : ∀ s, owned s = true → m'.started s = m.started s

theorem Same.expand (h : Same p settable owned m m') {a : Arg N}
    (hreads : ∀ n, a.reads = some n → Visible p settable n) :
    a.expand m'.props = a.expand m.props :=
  Arg.expand_congr fun n hn => h.props n (hreads n hn)

theorem Same.trans (h : Same p settable owned m m') (h' : Same p settable owned m' m'') :
    Same p settable owned m m'' where
  files := h'.files.trans h.files
  props n hn := (h'.props n hn).trans (h.props n hn)
  started s hs := (h'.started s hs).trans (h.started s hs)

/-- A command that starts or stops a service that is not owned. -/
def Harmless (owned : S → Bool) (c : Command N F S) : Prop :=
  ∃ s, owned s = false ∧ (c = .start s ∨ c = .stop s)

theorem Harmless.reads {c : Command N F S} (h : Harmless owned c) : c.reads = none := by
  obtain ⟨service, _, rfl | rfl⟩ := h
  · rfl
  · rfl

variable [DecidableEq N] [DecidableEq F] [DecidableEq S]

/-- Commands that read visible properties only do the same to such machines. -/
theorem Same.run (h : Same p settable owned m m') {c : Command N F S}
    (hreads : ∀ n, c.reads = some n → Visible p settable n) :
    Same p settable owned (m.run c) (m'.run c) where
  files := by
    funext f
    rw [files_run, files_run, h.files]
    cases hw : c.writesTo f with
    | none => rfl
    | some a =>
      rw [Option.bind_some, Option.bind_some,
        h.expand fun n hn => hreads n ((reads_of_writesTo hw).trans hn)]
  props := by
    intro n hn
    rw [setsTo_run, setsTo_run, h.props n hn]
    cases hw : c.setsTo n with
    | none => rfl
    | some a =>
      rw [Option.bind_some, Option.bind_some,
        h.expand fun n hn => hreads n ((reads_of_setsTo hw).trans hn)]
  started := by
    intro s hs
    rw [started_run, started_run, h.started s hs]

theorem Same.runAll {commands : List (Command N F S)} (h : Same p settable owned m m')
    (hreads : ∀ c ∈ commands, ∀ n, c.reads = some n → Visible p settable n) :
    Same p settable owned (m.runAll commands) (m'.runAll commands) := by
  induction commands generalizing m m' with
  | nil => exact h
  | cons c rest ih =>
    exact ih (h.run (hreads c List.mem_cons_self)) fun c' hc' =>
      hreads c' (List.mem_cons_of_mem c hc')

theorem Harmless.same {c : Command N F S} (h : Harmless owned c) (m : Machine N F S) :
    Same p settable owned m (m.run c) := by
  obtain ⟨service, hservice, hc⟩ := h
  have hother : ∀ s, owned s = true → s ≠ service := by
    rintro s hs rfl
    rw [hservice] at hs
    cases hs
  rcases hc with rfl | rfl
  · exact ⟨rfl, fun _ _ => rfl, fun s hs => Function.update_of_ne (hother s hs) _ _⟩
  · exact ⟨rfl, fun _ _ => rfl, fun s hs => Function.update_of_ne (hother s hs) _ _⟩

theorem same_runAll_of_harmless {commands : List (Command N F S)}
    (h : ∀ c ∈ commands, Harmless owned c) (m : Machine N F S) :
    Same p settable owned m (m.runAll commands) := by
  induction commands generalizing m with
  | nil => exact ⟨rfl, fun _ _ => rfl, fun _ _ => rfl⟩
  | cons c rest ih =>
    exact ((h c List.mem_cons_self).same m).trans
      (ih (fun c' hc' => h c' (List.mem_cons_of_mem c hc')) (m.run c))

/-- What was achieved does not depend on what commands cannot see. -/
theorem Achieved.congr {commands : List (Command N F S)}
    (h : Achieved (fun n => !settable n) owned commands m) (hsame : Same p settable owned m m')
    (hreads : ∀ c ∈ commands, ∀ n, c.reads = some n → Visible p settable n) :
    Achieved (fun n => !settable n) owned commands m' where
  files := by
    intro f a text hlast htext
    obtain ⟨c, hc, hw⟩ := mem_of_last hlast
    rw [hsame.expand fun n hn => hreads c hc n ((reads_of_writesTo hw).trans hn)] at htext
    rw [hsame.files]
    exact h.files f a text hlast htext
  props := by
    intro n a text hn hlast htext
    obtain ⟨c, hc, hw⟩ := mem_of_last hlast
    rw [hsame.expand fun n hn => hreads c hc n ((reads_of_setsTo hw).trans hn)] at htext
    rw [hsame.props n (.inr (Bool.not_eq_true' _ |>.mp hn))]
    exact h.props n a text hn hlast htext
  started := by
    intro s b hs hlast
    rw [hsame.started s hs]
    exact h.started s b hs hlast

end

/-! ## At rest -/

section

variable [DecidableEq N]
variable {actions : List (Action N F S)} {p : N} {settable : N → Bool} {owned : S → Bool}
variable {m m' : Machine N F S}

/-- The actions on `p` keep to themselves: what they read nobody sets from outside, they do not set
what they read, and the other actions only set `p` or tell services that are not owned. -/
structure Follows (actions : List (Action N F S)) (p : N) (settable : N → Bool)
    (owned : S → Bool) : Prop where
  reads : ∀ a ∈ actions, a.name = p → ∀ c ∈ a.commands, ∀ n, c.reads = some n →
    Visible p settable n
  sources : ∀ a ∈ actions, a.name = p → ∀ c ∈ a.commands, ∀ n, c.reads = some n →
    ∀ b ∈ actions, b.name = p → ∀ c' ∈ b.commands, c'.sets ≠ some n
  own : ∀ a ∈ actions, a.name = p → ∀ c ∈ a.commands, c.sets ≠ some p
  others : ∀ a ∈ actions, a.name ≠ p → ∀ c ∈ a.commands, c.sets = some p ∨ Harmless owned c

theorem mem_triggered {event : N × String} {c : Command N F S} :
    c ∈ triggered actions event ↔
      ∃ a ∈ actions, a.triggeredBy event = true ∧ c ∈ a.commands := by
  unfold triggered
  rw [List.mem_flatMap]
  simp only [List.mem_filter, and_assoc]

theorem name_of_triggeredBy {a : Action N F S} {event : N × String}
    (h : a.triggeredBy event = true) : a.name = event.1 :=
  (of_decide_eq_true h).1

/-- The last event about `p` in the queue is about its present value. -/
def Announced (p : N) (m : Machine N F S) : Prop :=
  ∃ before after, m.queue = before ++ (p, m.props p) :: after ∧ ∀ e ∈ after, e.1 ≠ p

theorem Announced.setProp (h : Announced p m) (n : N) (v : String) :
    Announced p (m.setProp n v) := by
  by_cases hn : n = p
  · subst hn
    refine ⟨m.queue, [], ?_, List.forall_mem_nil _⟩
    simp [Machine.setProp]
  · obtain ⟨before, after, hqueue, hafter⟩ := h
    have hp : p ≠ n := fun heq => hn heq.symm
    refine ⟨before, after ++ [(n, v)], ?_, ?_⟩
    · simp [Machine.setProp, hqueue, hp]
    · intro e he
      rcases List.mem_append.mp he with he | he
      · exact hafter e he
      · rw [List.mem_singleton.mp he]
        exact hn

theorem announced_setProp (m : Machine N F S) (p : N) (v : String) :
    Announced p (m.setProp p v) := by
  refine ⟨m.queue, [], ?_, List.forall_mem_nil _⟩
  simp [Machine.setProp]

theorem Follows.visible (h : Follows actions p settable owned) {a : Action N F S}
    (ha : a ∈ actions) {c : Command N F S} (hc : c ∈ a.commands) (hsets : c.sets ≠ some p) (n : N)
    (hn : c.reads = some n) : Visible p settable n := by
  by_cases hname : a.name = p
  · exact h.reads a ha hname c hc n hn
  · rcases h.others a ha hname c hc with hset | hharmless
    · exact absurd hset hsets
    · rw [hharmless.reads] at hn
      cases hn

theorem Follows.visible_triggered (h : Follows actions p settable owned) (v : String) :
    ∀ c ∈ triggered actions (p, v), ∀ n, c.reads = some n → Visible p settable n := by
  intro c hc
  obtain ⟨a, ha, htriggered, hc⟩ := mem_triggered.mp hc
  exact h.reads a ha (name_of_triggeredBy htriggered) c hc

/-- The commands that are left, without those that set `p`, see visible properties only. -/
theorem Follows.visible_running (h : Follows actions p settable owned)
    {commands : List (Command N F S)} (hknown : ∀ c ∈ commands, ∃ a ∈ actions, c ∈ a.commands) :
    ∀ c ∈ commands.filter fun c => decide (c.sets ≠ some p), ∀ n, c.reads = some n →
      Visible p settable n := by
  intro c hc
  obtain ⟨hc, hsets⟩ := List.mem_filter.mp hc
  obtain ⟨a, ha, hca⟩ := hknown c hc
  exact h.visible ha hca (of_decide_eq_true hsets)

variable [DecidableEq F] [DecidableEq S]

theorem Announced.run (h : Announced p m) (c : Command N F S) : Announced p (m.run c) := by
  cases c with
  | write file content =>
    simp only [Machine.run]
    split
    · exact h
    · exact h
  | setprop name value =>
    simp only [Machine.run]
    split
    · exact h
    · exact h.setProp name _
  | start s => exact h
  | stop s => exact h

/-- Nothing about `p` is in the queue, and when the commands that are left are through, what the
actions on its value do is achieved. Commands that set `p` are left out, as they may not get a
value to set it to. -/
structure Done (actions : List (Action N F S)) (p : N) (settable : N → Bool) (owned : S → Bool)
    (m : Machine N F S) : Prop where
  queue : ∀ e ∈ m.queue, e.1 ≠ p
  achieved : Achieved (fun n => !settable n) owned (triggered actions (p, m.props p))
    (m.runAll (m.running.filter fun c => decide (c.sets ≠ some p)))

/-- The commands that are left are commands of the script, and `p` is announced or done with. -/
structure Inv (actions : List (Action N F S)) (p : N) (settable : N → Bool) (owned : S → Bool)
    (m : Machine N F S) : Prop where
  known : ∀ c ∈ m.running, ∃ a ∈ actions, c ∈ a.commands
  state : Announced p m ∨ Done actions p settable owned m

theorem running_run (m : Machine N F S) (c : Command N F S) : (m.run c).running = m.running := by
  cases c with
  | write file content =>
    simp only [Machine.run]
    split <;> rfl
  | setprop name value =>
    simp only [Machine.run]
    split <;> rfl
  | start s => rfl
  | stop s => rfl

/-- Only setting a property queues an event. -/
theorem queue_run {c : Command N F S} (hsets : c.sets ≠ some p) (h : ∀ e ∈ m.queue, e.1 ≠ p) :
    ∀ e ∈ (m.run c).queue, e.1 ≠ p := by
  cases c with
  | write file content =>
    simp only [Machine.run]
    split <;> exact h
  | setprop name value =>
    simp only [Machine.run]
    split
    · exact h
    · intro e he
      rcases List.mem_append.mp he with he | he
      · exact h e he
      · rw [List.mem_singleton.mp he]
        exact fun heq => hsets (congrArg some heq)
  | start s => exact h
  | stop s => exact h

/-- Executing a command. -/
theorem Inv.exec (hf : Follows actions p settable owned) {c : Command N F S}
    {rest : List (Command N F S)} (hrunning : m.running = c :: rest)
    (h : Inv actions p settable owned m) :
    Inv actions p settable owned (({ m with running := rest } : Machine N F S).run c) := by
  have hknown : ∀ c' ∈ rest, ∃ a ∈ actions, c' ∈ a.commands := fun c' hc' =>
    h.known c' (hrunning ▸ List.mem_cons_of_mem c hc')
  have hsame : Same p settable owned m { m with running := rest } :=
    ⟨rfl, fun _ _ => rfl, fun _ _ => rfl⟩
  constructor
  · rw [running_run]
    exact hknown
  -- an announced change stays announced until its event is taken
  rcases h.state with hann | hdone
  · left
    exact Announced.run (m := { m with running := rest }) hann c
  · have hachieved := hdone.achieved
    rw [hrunning] at hachieved
    by_cases hsets : c.sets = some p
    · -- it is left out of what remains, and if it does something, `p` is announced
      rw [List.filter_cons_of_neg (by simpa using hsets)] at hachieved
      cases c with
      | setprop name value =>
        cases hsets
        cases hvalue : value.expand m.props with
        | none =>
          right
          simp only [Machine.run, hvalue]
          exact ⟨hdone.queue, hachieved.congr (hsame.runAll (hf.visible_running hknown))
            (hf.visible_triggered _)⟩
        | some text =>
          left
          simp only [Machine.run, hvalue]
          exact announced_setProp _ _ text
      | write file content => cases hsets
      | start s => cases hsets
      | stop s => cases hsets
    -- what is done now is no longer among what remains: the outcome is the same
    · right
      rw [List.filter_cons_of_pos (by simpa using hsets)] at hachieved
      obtain ⟨a, ha, hca⟩ := h.known c (hrunning ▸ List.mem_cons_self)
      have hp : (({ m with running := rest } : Machine N F S).run c).props p = m.props p :=
        props_run hsets
      have hafter := (hsame.run (hf.visible ha hca hsets)).runAll (hf.visible_running hknown)
      constructor
      · exact queue_run hsets hdone.queue
      · rw [hp, running_run]
        exact hachieved.congr hafter (hf.visible_triggered _)

/-- Taking an event. -/
theorem Inv.dispatch (hf : Follows actions p settable owned) {event : N × String}
    {rest : List (N × String)} (hrunning : m.running = []) (hqueue : m.queue = event :: rest)
    (h : Inv actions p settable owned m) :
    Inv actions p settable owned { m with queue := rest, running := triggered actions event } := by
  constructor
  · intro c hc
    obtain ⟨a, ha, _, hca⟩ := mem_triggered.mp hc
    exact ⟨a, ha, hca⟩
  rcases h.state with ⟨before, after, hsplit, hafter⟩ | hdone
  · rw [hqueue] at hsplit
    cases before with
    | cons e before =>
      left
      obtain ⟨_, rfl⟩ := List.cons.inj hsplit
      exact ⟨before, after, rfl, hafter⟩
    | nil =>
      -- the event that announced the present value: its actions have all they need
      right
      obtain ⟨rfl, rfl⟩ := List.cons.inj hsplit
      have hkeep : (triggered actions (p, m.props p)).filter (fun c => decide (c.sets ≠ some p))
          = triggered actions (p, m.props p) := by
        apply List.filter_eq_self.mpr
        intro c hc
        obtain ⟨a, ha, htriggered, hca⟩ := mem_triggered.mp hc
        exact decide_eq_true (hf.own a ha (name_of_triggeredBy htriggered) c hca)
      refine ⟨hafter, ?_⟩
      rw [hkeep]
      apply achieved_runAll
      intro c hc n hn c' hc'
      obtain ⟨a, ha, htriggered, hca⟩ := mem_triggered.mp hc
      obtain ⟨b, hb, htriggered', hcb⟩ := mem_triggered.mp hc'
      exact hf.sources a ha (name_of_triggeredBy htriggered) c hca n hn b hb
        (name_of_triggeredBy htriggered') c' hcb
  · right
    have hother : event.1 ≠ p := hdone.queue event (hqueue ▸ List.mem_cons_self)
    have hachieved := hdone.achieved
    rw [hrunning] at hachieved
    have hharmless : ∀ c ∈ (triggered actions event).filter (fun c => decide (c.sets ≠ some p)),
        Harmless owned c := by
      intro c hc
      obtain ⟨hc, hsets⟩ := List.mem_filter.mp hc
      obtain ⟨a, ha, htriggered, hca⟩ := mem_triggered.mp hc
      have hname : a.name ≠ p := fun heq => hother ((name_of_triggeredBy htriggered).symm.trans heq)
      rcases hf.others a ha hname c hca with hset | hharmless
      · exact absurd hset (of_decide_eq_true hsets)
      · exact hharmless
    refine ⟨fun e he => hdone.queue e (hqueue ▸ List.mem_cons_of_mem event he), ?_⟩
    have hsame : Same p settable owned m
        { m with queue := rest, running := triggered actions event } :=
      ⟨rfl, fun _ _ => rfl, fun _ _ => rfl⟩
    exact hachieved.congr (hsame.trans (same_runAll_of_harmless hharmless _))
      (hf.visible_triggered _)

/-- Another process setting a property. -/
theorem Inv.set (hf : Follows actions p settable owned) {n : N} (hn : settable n = true)
    (v : String) (h : Inv actions p settable owned m) :
    Inv actions p settable owned (m.setProp n v) := by
  refine ⟨h.known, ?_⟩
  by_cases hnp : n = p
  · subst hnp
    exact .inl (announced_setProp m n v)
  rcases h.state with hann | hdone
  · exact .inl (hann.setProp n v)
  · right
    have hp : (m.setProp n v).props p = m.props p :=
      Function.update_of_ne (fun heq => hnp heq.symm) _ _
    have hsame : Same p settable owned m (m.setProp n v) := by
      refine ⟨rfl, ?_, fun _ _ => rfl⟩
      intro n' hn'
      apply Function.update_of_ne
      rintro rfl
      rcases hn' with rfl | hunset
      · exact hnp rfl
      · rw [hn] at hunset
        cases hunset
    constructor
    · intro e he
      rcases List.mem_append.mp he with he | he
      · exact hdone.queue e he
      · rw [List.mem_singleton.mp he]
        exact hnp
    · rw [hp]
      exact hdone.achieved.congr (hsame.runAll (hf.visible_running h.known))
        (hf.visible_triggered _)

theorem Inv.step (hf : Follows actions p settable owned) {init : Machine N F S → Prop}
    {move : Move N} (hstep : (system actions settable init).step m move = some m')
    (h : Inv actions p settable owned m) : Inv actions p settable owned m' := by
  cases move with
  | tick =>
    change tick actions m = some m' at hstep
    unfold tick at hstep
    split at hstep
    · next hrunning =>
      cases hstep
      exact h.exec hf hrunning
    · next hrunning hqueue =>
      cases hstep
      exact h.dispatch hf hrunning hqueue
    · cases hstep
  | set n v =>
    change (if settable n = true then some (m.setProp n v) else none) = some m' at hstep
    split at hstep
    · next hn =>
      cases hstep
      exact h.set hf hn v
    · cases hstep

/-- **At rest.** However the script and the other processes took turns, when there is nothing left
to do, the files, the properties nobody else sets and the owned services are as the actions on the
present value of `p` leave them. -/
theorem Follows.rest (hf : Follows actions p settable owned) {init : Machine N F S → Prop}
    (hinit : ∀ m, init m → m.running = [] ∧ Announced p m)
    (hm : Reachable (system actions settable init) m) (hrest : m.AtRest) :
    Achieved (fun n => !settable n) owned (triggered actions (p, m.props p)) m := by
  have hinv : Inv actions p settable owned m := by
    refine hm.invariant ?_ fun m₁ move m₂ h hstep => h.step hf hstep
    intro m₁ h₁
    obtain ⟨hrunning, hann⟩ := hinit m₁ h₁
    refine ⟨?_, .inl hann⟩
    rw [hrunning]
    exact List.forall_mem_nil _
  obtain ⟨hrunning, hqueue⟩ := hrest
  rcases hinv.state with ⟨before, after, hsplit, _⟩ | hdone
  · rw [hqueue] at hsplit
    exact absurd hsplit.symm (List.append_ne_nil_of_right_ne_nil _ (List.cons_ne_nil _ _))
  · have hachieved := hdone.achieved
    rw [hrunning] at hachieved
    exact hachieved

end

/-! ## Coming to rest -/

section

variable {actions : List (Action N F S)} {settable : N → Bool} {init : Machine N F S → Prop}
variable {weight : N → Nat} {m m' : Machine N F S}

/-- One for the command, and what an event it queues may cost. -/
def Command.cost (weight : N → Nat) : Command N F S → Nat
  | .setprop name _ => 1 + weight name
  | _ => 1

def costs (weight : N → Nat) (commands : List (Command N F S)) : Nat :=
  (commands.map (Command.cost weight)).sum

theorem costs_append (l l' : List (Command N F S)) :
    costs weight (l ++ l') = costs weight l + costs weight l' := by
  unfold costs
  rw [List.map_append, List.sum_append]

/-- What is left to do, at most. -/
def Machine.cost (weight : N → Nat) (m : Machine N F S) : Nat :=
  costs weight m.running + (m.queue.map fun event => weight event.1).sum

variable [DecidableEq N]

/-- The actions on a property together cost less than an event about it. -/
def Descending (actions : List (Action N F S)) (weight : N → Nat) : Prop :=
  ∀ n, costs weight ((actions.filter fun a => decide (a.name = n)).flatMap Action.commands)
    < weight n

theorem costs_triggered_le (actions : List (Action N F S)) (event : N × String) :
    costs weight (triggered actions event)
      ≤ costs weight ((actions.filter fun a => decide (a.name = event.1)).flatMap
          Action.commands) := by
  unfold triggered
  induction actions with
  | nil => exact Nat.le_refl _
  | cons a rest ih =>
    rw [List.filter_cons, List.filter_cons]
    by_cases hname : a.name = event.1
    · rw [if_pos (decide_eq_true hname), List.flatMap_cons, costs_append]
      split
      · rw [List.flatMap_cons, costs_append]
        omega
      · omega
    · have hnot : ¬ a.triggeredBy event = true := fun h => hname (name_of_triggeredBy h)
      rw [if_neg hnot, if_neg (by simpa using hname)]
      exact ih

variable [DecidableEq F] [DecidableEq S]

/-- Each of the script's moves leaves less to do. -/
theorem cost_tick (hdesc : Descending actions weight) (h : tick actions m = some m') :
    m'.cost weight < m.cost weight := by
  unfold tick at h
  unfold Machine.cost
  split at h
  · next command rest hrunning =>
    cases h
    rw [running_run, hrunning]
    have hcons : costs weight (command :: rest) = command.cost weight + costs weight rest := rfl
    rw [hcons]
    cases command with
    | write file content =>
      simp only [Machine.run, Command.cost]
      split <;> simp
    | setprop name value =>
      simp only [Machine.run, Command.cost]
      split
      · show _ + (m.queue.map _).sum < _
        omega
      · simp only [Machine.setProp, List.map_append, List.sum_append, List.map_cons,
          List.map_nil, List.sum_cons, List.sum_nil]
        omega
    | start s =>
      simp only [Machine.run, Command.cost]
      omega
    | stop s =>
      simp only [Machine.run, Command.cost]
      omega
  · next event rest hrunning hqueue =>
    cases h
    -- what an event triggers costs less than the event
    have hless := Nat.lt_of_le_of_lt (costs_triggered_le actions event) (hdesc event.1)
    rw [hrunning, hqueue, List.map_cons, List.sum_cons]
    have hnil : costs weight ([] : List (Command N F S)) = 0 := rfl
    rw [hnil]
    show costs weight (triggered actions event) + (rest.map fun event => weight event.1).sum < _
    omega
  · cases h

theorem atRest_of_tick (h : tick actions m = none) : m.AtRest := by
  unfold tick at h
  split at h
  · cases h
  · cases h
  · next hrunning hqueue => exact ⟨hrunning, hqueue⟩

/-- **Left alone, the script comes to rest**, from wherever it is. -/
theorem settles (hdesc : Descending actions weight) (m : Machine N F S) :
    ∃ k m', exec (system actions settable init) m (List.replicate k .tick) = some m' ∧
      m'.AtRest := by
  induction hcost : m.cost weight using Nat.strongRecOn generalizing m with
  | ind cost ih =>
    cases hstep : tick actions m with
    | none => exact ⟨0, m, rfl, atRest_of_tick hstep⟩
    | some m₁ =>
      have hless : m₁.cost weight < cost := hcost ▸ cost_tick hdesc hstep
      obtain ⟨k, m', hexec, hrest⟩ := ih _ hless m₁ rfl
      refine ⟨k + 1, m', ?_, hrest⟩
      show (tick actions m).bind (fun m₁ => exec (system actions settable init) m₁
        (List.replicate k Move.tick)) = some m'
      rw [hstep]
      exact hexec

end

/-! ## Guards -/

section

variable [DecidableEq F] {guard : F} {safe : String} {kept : F → Bool}

/-- What the guard file holds after a command, if that is known. -/
def Command.guardAfter (guard : F) (now : Option String) : Command N F S → Option String
  | .write file (.lit text) => if file = guard then some text else now
  | .write file (.prop _) => if file = guard then none else now
  | _ => now

/-- Kept files are written only while the guard file holds `safe`. -/
def guarded (guard : F) (safe : String) (kept : F → Bool) :
    Option String → List (Command N F S) → Bool
  | _, [] => true
  | now, c :: rest =>
    (match c with
      | .write file _ => !kept file || decide (now = some safe)
      | _ => true) && guarded guard safe kept (c.guardAfter guard now) rest

/-- What is guarded when nothing is known of the guard is guarded always. -/
theorem guarded_of_none {commands : List (Command N F S)}
    (h : guarded guard safe kept none commands = true) (now : Option String) :
    guarded guard safe kept now commands = true := by
  induction commands generalizing now with
  | nil => rfl
  | cons c rest ih =>
    simp only [guarded, Bool.and_eq_true] at h ⊢
    obtain ⟨hc, hrest⟩ := h
    constructor
    · cases c with
      | write file content =>
        have hfree : kept file = false := by simpa using hc
        simp [hfree]
      | setprop n v => rfl
      | start s => rfl
      | stop s => rfl
    · cases c with
      | write file content =>
        cases content with
        -- a literal written to the guard file is known again
        | lit text =>
          simp only [Command.guardAfter] at hrest ⊢
          split at hrest
          · next hguard =>
            rw [if_pos hguard]
            exact hrest
          · next hguard =>
            rw [if_neg hguard]
            exact ih hrest now
        | prop n =>
          simp only [Command.guardAfter, ite_self] at hrest ⊢
          split
          · exact hrest
          · exact ih hrest now
      | setprop n v => exact ih hrest now
      | start s => exact ih hrest now
      | stop s => exact ih hrest now

theorem guarded_append {l l' : List (Command N F S)} {now : Option String}
    (h : guarded guard safe kept now l = true) (h' : guarded guard safe kept none l' = true) :
    guarded guard safe kept now (l ++ l') = true := by
  induction l generalizing now with
  | nil => exact guarded_of_none h' now
  | cons c rest ih =>
    simp only [List.cons_append, guarded, Bool.and_eq_true] at h ⊢
    exact ⟨h.1, ih h.2⟩

variable [DecidableEq N]
variable {actions : List (Action N F S)} {settable : N → Bool} {init : Machine N F S → Prop}
variable {m m' : Machine N F S}

theorem guarded_triggered
    (h : ∀ a ∈ actions, guarded guard safe kept none a.commands = true) (event : N × String) :
    guarded guard safe kept none (triggered actions event) = true := by
  unfold triggered
  induction actions with
  | nil => rfl
  | cons a rest ih =>
    have htail := ih fun b hb => h b (List.mem_cons_of_mem a hb)
    rw [List.filter_cons]
    split
    · rw [List.flatMap_cons]
      exact guarded_append (h a List.mem_cons_self) htail
    · exact htail

variable [DecidableEq S]

/-- The commands that are left are guarded from what the guard file holds. -/
theorem guarded_step (hactions : ∀ a ∈ actions, guarded guard safe kept none a.commands = true)
    {move : Move N} (hstep : (system actions settable init).step m move = some m')
    (h : guarded guard safe kept (m.files guard) m.running = true) :
    guarded guard safe kept (m'.files guard) m'.running = true := by
  cases move with
  | set n v =>
    change (if settable n = true then some (m.setProp n v) else none) = some m' at hstep
    split at hstep
    · cases hstep
      exact h
    · cases hstep
  | tick =>
    change tick actions m = some m' at hstep
    unfold tick at hstep
    split at hstep
    · next c rest hrunning =>
      cases hstep
      rw [hrunning] at h
      simp only [guarded, Bool.and_eq_true] at h
      obtain ⟨_, hrest⟩ := h
      rw [running_run, files_run]
      show guarded guard safe kept _ rest = true
      cases c with
      | write file content =>
        -- the contents of the guard file are known from here on if they are a literal
        by_cases hguard : file = guard
        · cases content with
          | lit text =>
            simp only [Command.guardAfter, if_pos hguard] at hrest
            simp only [Command.writesTo, if_pos hguard]
            exact hrest
          | prop n =>
            simp only [Command.guardAfter, if_pos hguard] at hrest
            exact guarded_of_none hrest _
        · have hkeep : (Command.write file content : Command N F S).guardAfter guard
              (m.files guard) = m.files guard := by
            cases content <;> exact if_neg hguard
          rw [hkeep] at hrest
          simp only [Command.writesTo, if_neg hguard]
          exact hrest
      | setprop n v => exact hrest
      | start s => exact hrest
      | stop s => exact hrest
    · next event rest hrunning hqueue =>
      cases hstep
      exact guarded_of_none (guarded_triggered hactions event) _
    · cases hstep

/-- **The rule for guards.** When a kept file is about to be written, the guard file holds
`safe`. -/
theorem guarded_write (hactions : ∀ a ∈ actions, guarded guard safe kept none a.commands = true)
    (hinit : ∀ m, init m → m.running = []) (hm : Reachable (system actions settable init) m)
    {file : F} {content : Arg N} {rest : List (Command N F S)}
    (hrunning : m.running = .write file content :: rest) (hkept : kept file = true) :
    m.files guard = some safe := by
  have hinv : guarded guard safe kept (m.files guard) m.running = true := by
    refine hm.invariant (I := fun m => guarded guard safe kept (m.files guard) m.running = true)
      ?_ fun m₁ move m₂ h hstep => guarded_step hactions hstep h
    intro m₁ h₁
    rw [hinit m₁ h₁]
    rfl
  rw [hrunning] at hinv
  simp only [guarded, hkept, Bool.and_eq_true] at hinv
  exact of_decide_eq_true (by simpa using hinv.1)

end

end InitLanguage
