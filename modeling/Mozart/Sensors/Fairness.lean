import Mozart.Lib.RoundRobin
import Mozart.Sensors.Delivery

/-!
# `poll` serves its queues in turn

Each iteration of the inner loop of `poll` visits one queue and moves `nextReadIndex` on by one,
whatever it finds there and wherever the call ends. The history of the visits therefore goes
round, and what is known of such histories is known of the scan:

* `Rounds`: visit `k` was to queue `k % n`, and `nextReadIndex` is the place of the next.
* `Waiting`: since a queue was seen to hold something it has not been visited, or its first visit
  took an event.
* **`poll_fair`**: no stretch of iterations favours a queue by more than one event, and a queue
  that holds something is served within `n` iterations.
-/

namespace Mozart.Sensors.MultiHal

open SensorEventQueue RoundRobin

variable {n : Nat} {t : HandleTable} {s s' : State} {i j : Nat}

/-! ## The scan goes round -/

structure Rounds (n : Nat) (s : State) : Prop where
  visits : GoesRound n (s.visits.map Prod.fst)
  next : s.nextReadIndex = s.visits.length % n

/-- Only the end of an iteration adds a visit, and it moves on by one. -/
theorem PollMove.visits (h : PollMove n t s s') :
    (s'.visits = s.visits ∧ s'.nextReadIndex = s.nextReadIndex) ∨
      ∃ found, s'.visits = s.visits ++ [(s.nextReadIndex, found)] ∧
        s'.nextReadIndex = (s.nextReadIndex + 1) % n := by
  cases h with
  | skip hpc => exact .inr ⟨none, rfl, rfl⟩
  | @dequeue frame event hpc => exact .inr ⟨some event, rfl, rfl⟩
  | _ => exact .inl ⟨rfl, rfl⟩

theorem Rounds.pollMove (h : Rounds n s) (hmove : PollMove n t s s') : Rounds n s' := by
  obtain ⟨hvisits, hnext⟩ := h
  obtain ⟨hsame, hsame'⟩ | ⟨found, hnew, hnew'⟩ := hmove.visits
  · exact ⟨by rwa [hsame], by rw [hsame', hsame, hnext]⟩
  · constructor
    · have hround := hvisits.snoc
      rw [List.length_map, ← hnext] at hround
      rwa [hnew, List.map_append]
    · rw [hnew', hnew, hnext, List.length_append, List.length_singleton, Nat.mod_add_mod]

theorem rounds_of_reachable (hs : Transition.Reachable (system n t) s) : Rounds n s := by
  refine hs.invariant (I := Rounds n) ?_ ?_
  · rintro s ⟨mem, rfl⟩
    exact ⟨goesRound_nil n, (Nat.zero_mod n).symm⟩
  · intro s a s' h hstep
    rcases move_of_step hstep with ⟨i, c, m, commits, -, -, rfl⟩ | hmove
    · exact ⟨h.visits, h.next⟩
    · exact h.pollMove hmove

/-- Where every visit to queue `i` found something, each took one event. -/
theorem length_takenFrom {stretch : List (Nat × Option SensorsEvent)}
    (h : ∀ visit ∈ stretch, visit.1 = i → visit.2.isSome) :
    (stretch.filterMap (takenFrom i)).length = (stretch.map Prod.fst).count i := by
  induction stretch with
  | nil => rfl
  | cons visit stretch ih =>
    have hrest := ih fun visit hvisit => h visit (List.mem_cons_of_mem _ hvisit)
    by_cases hi : visit.1 = i
    · obtain ⟨e, he⟩ := Option.isSome_iff_exists.mp (h visit List.mem_cons_self hi)
      simp [takenFrom, hi, he, hrest]
    · simp [takenFrom, hi, hrest]

/-! ## A queue that holds something -/

/-- Since `next` began, queue `i` has held something and was not visited, or its first visit took
an event. -/
inductive Waiting (i : Nat) (s : State) (next : List (Nat × Option SensorsEvent)) : Prop where
  | waits (hholds : (s.channels i).queue.mSize ≠ 0) (hnot : ∀ visit ∈ next, visit.1 ≠ i)
  | served (before rest : List (Nat × Option SensorsEvent)) (e : SensorsEvent)
      (hnext : next = before ++ (i, some e) :: rest) (hnot : ∀ visit ∈ before, visit.1 ≠ i)

theorem WriterMove.holds_something {c c' : Channel} {m m' : Option Thread} {commits : Bool}
    (hinv : c.Inv) (h : WriterMove i c m c' m' commits) (hne : c.queue.mSize ≠ 0) :
    c'.queue.mSize ≠ 0 := by
  have hinv' := h.inv hinv
  cases commits with
  | false => rwa [(h.readable_eq hinv).1]
  | true =>
    cases h with
    | commit hpc =>
      have hr := hinv.holds _ (by rw [hpc]; rfl)
      have hsize := hinv.wf.size_nonneg
      rw [hr.markAsWritten_eq hinv.wf]
      dsimp only
      omega

/-- An iteration that visits queue `i` takes an event if the queue holds one, and any other leaves
the queue alone. -/
theorem PollMove.visits_holding (h : PollMove n t s s')
    (hne : (s.channels i).queue.mSize ≠ 0) :
    (s'.visits = s.visits ∧ (s'.channels i).queue.mSize ≠ 0) ∨
      ∃ found, s'.visits = s.visits ++ [(s.nextReadIndex, found)] ∧
        (s.nextReadIndex = i → found.isSome) ∧
        (s.nextReadIndex ≠ i → (s'.channels i).queue.mSize ≠ 0) := by
  cases h with
  | skip hpc hmore hnext hempty =>
    refine .inr ⟨none, rfl, fun hi => ?_, fun _ => hne⟩
    -- an empty queue is not `i`
    subst hi
    rw [peek_of_ne hne] at hempty
    cases hempty
  | @dequeue frame event hpc =>
    refine .inr ⟨some event, rfl, fun _ => rfl, fun hi => ?_⟩
    show (Function.update s.channels s.nextReadIndex _ i).queue.mSize ≠ 0
    rwa [Function.update_of_ne (Ne.symm hi)]
  | _ => exact .inl ⟨rfl, hne⟩

theorem Waiting.afterWriter {next : List (Nat × Option SensorsEvent)} {c : Channel}
    {m : Option Thread} {commits : Bool} (hinv : Inv n t s)
    (h : Waiting i s next) (hmove : WriterMove j (s.channels j) s.queueMutex c m commits) :
    Waiting i (s.afterWriter j c m commits) next := by
  cases h with
  | waits hholds hnot =>
    refine .waits ?_ hnot
    show (Function.update s.channels j c i).queue.mSize ≠ 0
    by_cases hij : i = j
    · subst hij
      rw [Function.update_self]
      exact hmove.holds_something (hinv.channels i) hholds
    · rwa [Function.update_of_ne hij]
  | served before rest e hnext hnot => exact .served before rest e hnext hnot

theorem Waiting.pollMove {next : List (Nat × Option SensorsEvent)} (h : Waiting i s next)
    (hmove : PollMove n t s s') :
    ∃ more, s'.visits = s.visits ++ more ∧ Waiting i s' (next ++ more) := by
  cases h with
  | waits hholds hnot =>
    obtain ⟨hsame, hholds'⟩ | ⟨found, hnew, hfound, hholds'⟩ := hmove.visits_holding hholds
    · exact ⟨[], by simp [hsame], .waits hholds' (by simpa using hnot)⟩
    · refine ⟨_, hnew, ?_⟩
      by_cases hi : s.nextReadIndex = i
      · obtain ⟨e, rfl⟩ := Option.isSome_iff_exists.mp (hfound hi)
        exact .served next [] e (by rw [hi]) hnot
      · refine .waits (hholds' hi) fun visit hvisit => ?_
        obtain h | h := List.mem_append.mp hvisit
        · exact hnot visit h
        · rw [List.mem_singleton.mp h]
          exact hi
  | served before rest e hnext hnot =>
    obtain ⟨hsame, -⟩ | ⟨found, hnew, -⟩ := hmove.visits
    · exact ⟨[], by simp [hsame], .served before rest e (by simp [hnext]) hnot⟩
    · exact ⟨_, hnew, .served before (rest ++ [(s.nextReadIndex, found)]) e (by simp [hnext])
        hnot⟩

/-- **Until its next visit a queue that holds something keeps it**, along every run. -/
theorem waiting_of_exec (hs : Transition.Reachable (system n t) s)
    (hne : (s.channels i).queue.mSize ≠ 0) {as : List Step}
    (hexec : Transition.exec (system n t) s as = some s') :
    ∃ next, s'.visits = s.visits ++ next ∧ Waiting i s' next := by
  have key : Transition.Reachable (system n t) s' ∧
      ∃ next, s'.visits = s.visits ++ next ∧ Waiting i s' next := by
    refine Transition.exec_invariant (I := fun s' => Transition.Reachable (system n t) s' ∧
      ∃ next, s'.visits = s.visits ++ next ∧ Waiting i s' next) ?_
      ⟨hs, [], by simp, .waits hne (by simp)⟩ hexec
    rintro s₁ a s₂ - ⟨hreachable, next, hvisits, hwaiting⟩ hstep
    refine ⟨hreachable.step hstep, ?_⟩
    rcases move_of_step hstep with ⟨j, c, m, commits, -, hmove, rfl⟩ | hmove
    · exact ⟨next, hvisits, hwaiting.afterWriter (delivery_of_reachable hreachable).1 hmove⟩
    · obtain ⟨more, hmore, hwaiting'⟩ := hwaiting.pollMove hmove
      exact ⟨next ++ more, by rw [hmore, hvisits, List.append_assoc], hwaiting'⟩
  exact key.2

/-- A queue that waits is served by its first visit. -/
theorem Waiting.served_within {next : List (Nat × Option SensorsEvent)} (h : Waiting i s next)
    {visit : Nat × Option SensorsEvent} (hvisit : visit ∈ next.take n) (hplace : visit.1 = i) :
    ∃ e, (i, some e) ∈ next.take n := by
  cases h with
  | waits hholds hnot => exact absurd hplace (hnot visit (List.mem_of_mem_take hvisit))
  | served before rest e hnext hnot =>
    refine ⟨e, ?_⟩
    -- the visit to `i` among the first `n` does not come before the one that took `e`
    have hlt : before.length < n := by
      by_contra hge
      rw [hnext, List.take_append_of_le_length (by omega)] at hvisit
      exact hnot visit (List.mem_of_mem_take hvisit) hplace
    rw [hnext, List.take_append, List.take_of_length_le (by omega),
      show n - before.length = n - before.length - 1 + 1 by omega, List.take_succ_cons]
    simp

/-- **Round-robin fairness**, over every interleaving of the writers with a client that polls: the
next queue is one of the `n`; over any stretch of iterations in which queues `i` and `j` hold
something whenever they are visited, the numbers of events taken from them differ by at most one;
and a queue that holds something gives an event within the next `n` iterations. -/
theorem poll_fair (hn : 1 ≤ n) (hs : Transition.Reachable (system n t) s) :
    s.nextReadIndex < n ∧
    (∀ before stretch rest, s.visits = before ++ stretch ++ rest → ∀ i < n, ∀ j < n,
      (∀ visit ∈ stretch, visit.1 = i ∨ visit.1 = j → visit.2.isSome) →
        (stretch.filterMap (takenFrom i)).length ≤ (stretch.filterMap (takenFrom j)).length + 1 ∧
        (stretch.filterMap (takenFrom j)).length ≤ (stretch.filterMap (takenFrom i)).length + 1) ∧
    ∀ i < n, (s.channels i).queue.readable ≠ [] → ∀ as s',
      Transition.exec (system n t) s as = some s' →
        ∃ next, s'.visits = s.visits ++ next ∧
          (n ≤ next.length → ∃ e, (i, some e) ∈ next.take n) := by
  have hrounds := rounds_of_reachable hs
  refine ⟨hrounds.next ▸ Nat.mod_lt _ hn, ?_, ?_⟩
  · intro before stretch rest hvisits i hi j hj hfound
    have hround := hrounds.visits
    -- every visit of the two gives an event, so visits can be counted instead
    rw [hvisits, List.map_append, List.map_append] at hround
    rw [length_takenFrom fun visit hvisit h => hfound visit hvisit (.inl h),
      length_takenFrom fun visit hvisit h => hfound visit hvisit (.inr h)]
    exact ⟨hround.fair hi hj, hround.fair hj hi⟩
  · intro i hi hreadable as s' hexec
    have hinv := (delivery_of_reachable hs).1
    have hne : (s.channels i).queue.mSize ≠ 0 :=
      fun h => hreadable ((hinv.channels i).wf.readable_eq_nil_iff.mpr h)
    obtain ⟨next, hvisits, hwaiting⟩ := waiting_of_exec hs hne hexec
    refine ⟨next, hvisits, fun hlength => ?_⟩
    have hround := (rounds_of_reachable (hs.exec hexec)).visits
    rw [hvisits, List.map_append] at hround
    -- `n` visits in turn come to every queue
    have hmem := hround.mem (by rwa [List.length_map]) hi
    rw [← List.map_take, List.mem_map] at hmem
    obtain ⟨visit, hvisit, hplace⟩ := hmem
    exact hwaiting.served_within hvisit hplace

/-- Two queues with an event each, of which one is of an unknown sensor, and a client that reads
both. -/
theorem poll_fair_two_queues : ∃ (s s' : State) (t : HandleTable),
    s.nextReadIndex < 2 ∧ (s'.visits.filterMap (takenFrom 0)).length = 1 ∧
      (s'.visits.filterMap (takenFrom 0)).length ≤ (s'.visits.filterMap (takenFrom 1)).length + 1 ∧
      Transition.Reachable (system 2 t) s' ∧
      ∃ next, s'.visits = s.visits ++ next ∧
        (2 ≤ next.length → ∃ e, (1, some e) ∈ next.take 2) := by
  have hfill : Transition.exec (system 2 oneSensorInit.1.handles)
      (initial fun _ _ => { sensor := 0, type := 1 })
      [.writer 0 .lock, .writer 0 .testSpace, .writer 0 (.write { sensor := 0, type := 1 }),
        .writer 0 (.pollReturn none), .writer 0 .relock, .writer 0 .commit,
        .writer 1 .lock, .writer 1 .testSpace, .writer 1 (.write { sensor := 0, type := 1 }),
        .writer 1 (.pollReturn none), .writer 1 .relock, .writer 1 .commit] = some _ := rfl
  have hs := Transition.Reachable.of_exec (T := system 2 oneSensorInit.1.handles) ⟨_, rfl⟩ hfill
  let reads : List Step := [.client (.call 2), .client .lock, .client .scan, .client .copy,
    .client .dequeue, .client .scan, .client .copy, .client .dequeue]
  have hs' := hs.exec (show Transition.exec _ _ reads = some _ from rfl)
  obtain ⟨hnext, -, hserved⟩ := poll_fair (by decide) hs
  obtain ⟨-, hfair, -⟩ := poll_fair (by decide) hs'
  exact ⟨_, _, _, hnext, rfl, (hfair [] _ [] (by simp) 0 (by decide) 1 (by decide)
    (by decide)).1, hs', hserved 1 (by decide) (by decide) reads _ rfl⟩

end Mozart.Sensors.MultiHal
