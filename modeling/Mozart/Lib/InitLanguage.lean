import Mathlib.Data.List.Induction
import Mathlib.Logic.Function.Basic
import Mozart.Lib.Transition

/-!
# Actions triggered by properties

A script is a list of actions, each waiting for a property to be set to some value. Setting a
property queues an event, whoever sets it; events are served in order, and the commands of the
actions an event triggers are executed one by one before the next event is looked at. In between
other processes may set properties, so that a command need not find the value its action was
triggered by.

* **`achieved_runAll`**: what the commands of an action come to, read off from the last command
  about each file, property and service.
-/

namespace InitLanguage

open Transition

variable {N F S : Type*}

/-! ## The language -/

/-- An argument: a text, or `${name}`. -/
inductive Arg (N : Type*) where
  | lit (text : String)
  | prop (name : N)
  deriving DecidableEq

inductive Command (N F S : Type*) where
  | write (file : F) (content : Arg N)
  | setprop (name : N) (value : Arg N)
  | start (service : S)
  | stop (service : S)
  deriving DecidableEq

/-- `on property:name=value`, where no value stands for `*`. -/
structure Action (N F S : Type*) where
  name : N
  value : Option String
  commands : List (Command N F S)

structure Machine (N F S : Type*) where
  props : N → String
  files : F → Option String
  /-- what `start` and `stop` said last -/
  started : S → Bool
  /-- properties that were set, with the value they were set to -/
  queue : List (N × String)
  /-- the commands that are left of the actions being executed -/
  running : List (Command N F S)

/-- A command with a property that is not set is not executed. -/
def Arg.expand (props : N → String) : Arg N → Option String
  | .lit text => some text
  | .prop name => if props name = "" then none else some (props name)

section

variable [DecidableEq N] [DecidableEq F] [DecidableEq S]

def Machine.setProp (m : Machine N F S) (name : N) (value : String) : Machine N F S :=
  { m with props := Function.update m.props name value, queue := m.queue ++ [(name, value)] }

/-- What a command does. -/
def Machine.run (m : Machine N F S) : Command N F S → Machine N F S
  | .write file content =>
    match content.expand m.props with
    | none => m
    | some text => { m with files := Function.update m.files file (some text) }
  | .setprop name value =>
    match value.expand m.props with
    | none => m
    | some text => m.setProp name text
  | .start service => { m with started := Function.update m.started service true }
  | .stop service => { m with started := Function.update m.started service false }

def Machine.runAll (m : Machine N F S) (commands : List (Command N F S)) : Machine N F S :=
  commands.foldl Machine.run m

def Action.triggeredBy (a : Action N F S) (event : N × String) : Bool :=
  decide (a.name = event.1 ∧ (a.value = none ∨ a.value = some event.2))

/-- The commands of the actions an event triggers. -/
def triggered (actions : List (Action N F S)) (event : N × String) : List (Command N F S) :=
  (actions.filter (·.triggeredBy event)).flatMap Action.commands

/-- The next command, or the next event. -/
def tick (actions : List (Action N F S)) (m : Machine N F S) : Option (Machine N F S) :=
  match m.running, m.queue with
  | command :: rest, _ => some (({ m with running := rest } : Machine N F S).run command)
  | [], event :: rest => some { m with queue := rest, running := triggered actions event }
  | [], [] => none

/-- Who moves: the script, or a process that sets a property. -/
inductive Move (N : Type*) where
  | tick
  | set (name : N) (value : String)

/-- The script among processes that set some of the properties. -/
def system (actions : List (Action N F S)) (settable : N → Bool) (init : Machine N F S → Prop) :
    System (Machine N F S) (Move N) where
  init := init
  step m
    | .tick => tick actions m
    | .set name value => if settable name then some (m.setProp name value) else none

end

def Machine.AtRest (m : Machine N F S) : Prop := m.running = [] ∧ m.queue = []

/-- The property a command sets. -/
def Command.sets : Command N F S → Option N
  | .setprop name _ => some name
  | _ => none

/-- The property an argument is taken from. -/
def Arg.reads : Arg N → Option N
  | .lit _ => none
  | .prop name => some name

def Command.reads : Command N F S → Option N
  | .write _ content => content.reads
  | .setprop _ value => value.reads
  | _ => none

theorem Arg.expand_congr {props props' : N → String} {a : Arg N}
    (h : ∀ n, a.reads = some n → props' n = props n) : a.expand props' = a.expand props := by
  cases a with
  | lit text => rfl
  | prop name =>
    have hname : props' name = props name := h name rfl
    simp only [Arg.expand, hname]

/-! ## What commands come to

The last command about a file, a property or a service decides. -/

/-- What the last of the commands that say something says. -/
def last {α : Type*} (pick : Command N F S → Option α) (commands : List (Command N F S)) :
    Option α :=
  (commands.filterMap pick).getLast?

@[simp] theorem last_append_singleton {α : Type*} (pick : Command N F S → Option α)
    (commands : List (Command N F S)) (c : Command N F S) :
    last pick (commands ++ [c]) = (pick c).or (last pick commands) := by
  unfold last
  rw [List.filterMap_append]
  cases hpick : pick c with
  | none => simp [hpick]
  | some a => simp [hpick]

theorem mem_of_last {α : Type*} {pick : Command N F S → Option α}
    {commands : List (Command N F S)} {a : α} (h : last pick commands = some a) :
    ∃ c ∈ commands, pick c = some a :=
  List.mem_filterMap.mp (List.mem_of_getLast? h)

def Command.writesTo [DecidableEq F] (file : F) : Command N F S → Option (Arg N)
  | .write f content => if f = file then some content else none
  | _ => none

def Command.setsTo [DecidableEq N] (name : N) : Command N F S → Option (Arg N)
  | .setprop n value => if n = name then some value else none
  | _ => none

def Command.tells [DecidableEq S] (service : S) : Command N F S → Option Bool
  | .start s => if s = service then some true else none
  | .stop s => if s = service then some false else none
  | _ => none

theorem reads_of_writesTo [DecidableEq F] {file : F} {c : Command N F S} {a : Arg N}
    (h : c.writesTo file = some a) : c.reads = a.reads := by
  cases c with
  | write f content =>
    simp only [Command.writesTo, Option.ite_none_right_eq_some] at h
    cases h.2
    rfl
  | setprop n value => cases h
  | start s => cases h
  | stop s => cases h

theorem reads_of_setsTo [DecidableEq N] {name : N} {c : Command N F S} {a : Arg N}
    (h : c.setsTo name = some a) : c.reads = a.reads := by
  cases c with
  | setprop n value =>
    simp only [Command.setsTo, Option.ite_none_right_eq_some] at h
    cases h.2
    rfl
  | write f content => cases h
  | start s => cases h
  | stop s => cases h

section

variable [DecidableEq N] [DecidableEq F] [DecidableEq S]

/-- A property that is not set by a command stays as it is. -/
theorem props_run {m : Machine N F S} {c : Command N F S} {n : N} (h : c.sets ≠ some n) :
    (m.run c).props n = m.props n := by
  cases c with
  | setprop name value =>
    have hne : n ≠ name := fun heq => h (congrArg some heq.symm)
    show (match value.expand m.props with
      | none => m
      | some text => m.setProp name text).props n = m.props n
    split
    · rfl
    · exact Function.update_of_ne hne _ _
  | write file content =>
    show (match content.expand m.props with
      | none => m
      | some text => { m with files := Function.update m.files file (some text) }).props n = _
    split <;> rfl
  | start s => rfl
  | stop s => rfl

theorem runAll_append_singleton (m : Machine N F S) (commands : List (Command N F S))
    (c : Command N F S) : m.runAll (commands ++ [c]) = (m.runAll commands).run c := by
  unfold Machine.runAll
  rw [List.foldl_append]
  rfl

theorem props_runAll {commands : List (Command N F S)} {n : N}
    (h : ∀ c ∈ commands, c.sets ≠ some n) (m : Machine N F S) :
    (m.runAll commands).props n = m.props n := by
  induction commands generalizing m with
  | nil => rfl
  | cons c rest ih =>
    show ((m.run c).runAll rest).props n = m.props n
    rw [ih (fun c' hc' => h c' (List.mem_cons_of_mem c hc')), props_run (h c List.mem_cons_self)]

/-- The files, the hidden properties and the owned services are as the commands say. -/
structure Achieved (hidden : N → Bool) (owned : S → Bool) (commands : List (Command N F S))
    (m : Machine N F S) : Prop where
  files : ∀ f a text, last (Command.writesTo f) commands = some a →
    a.expand m.props = some text → m.files f = some text
  props : ∀ n a text, hidden n = true → last (Command.setsTo n) commands = some a →
    a.expand m.props = some text → m.props n = text
  started : ∀ s b, owned s = true → last (Command.tells s) commands = some b → m.started s = b

/-- What one command does to a file. -/
theorem files_run (m : Machine N F S) (c : Command N F S) (f : F) :
    (m.run c).files f
      = (((c.writesTo f).bind fun a => a.expand m.props).or (m.files f)) := by
  cases c with
  | write file content =>
    by_cases hf : file = f
    · subst hf
      cases hcontent : content.expand m.props <;> simp [Machine.run, Command.writesTo, hcontent]
    · have hf' : f ≠ file := fun heq => hf heq.symm
      cases hcontent : content.expand m.props <;>
        simp [Machine.run, Command.writesTo, hcontent, hf, hf']
  | setprop name value =>
    cases hvalue : value.expand m.props <;>
      simp [Machine.run, Machine.setProp, Command.writesTo, hvalue]
  | start s => rfl
  | stop s => rfl

/-- What one command does to a property. -/
theorem setsTo_run (m : Machine N F S) (c : Command N F S) (n : N) :
    (m.run c).props n = ((c.setsTo n).bind fun a => a.expand m.props).getD (m.props n) := by
  cases c with
  | setprop name value =>
    by_cases hn : name = n
    · subst hn
      cases hvalue : value.expand m.props <;>
        simp [Machine.run, Machine.setProp, Command.setsTo, hvalue]
    · have hn' : n ≠ name := fun heq => hn heq.symm
      cases hvalue : value.expand m.props <;>
        simp [Machine.run, Machine.setProp, Command.setsTo, hvalue, hn, hn']
  | write file content => exact props_run fun h => (by cases h)
  | start s => rfl
  | stop s => rfl

/-- What one command does to a service. -/
theorem started_run (m : Machine N F S) (c : Command N F S) (s : S) :
    (m.run c).started s = (c.tells s).getD (m.started s) := by
  cases c with
  | start service =>
    by_cases hs : service = s
    · subst hs
      simp [Machine.run, Command.tells]
    · have hs' : s ≠ service := fun heq => hs heq.symm
      simp [Machine.run, Command.tells, hs, hs']
  | stop service =>
    by_cases hs : service = s
    · subst hs
      simp [Machine.run, Command.tells]
    · have hs' : s ≠ service := fun heq => hs heq.symm
      simp [Machine.run, Command.tells, hs, hs']
  | write file content =>
    cases hcontent : content.expand m.props <;> simp [Machine.run, Command.tells, hcontent]
  | setprop name value =>
    cases hvalue : value.expand m.props <;>
      simp [Machine.run, Machine.setProp, Command.tells, hvalue]

/-- Commands that do not set what they read leave behind what the last of them say. -/
theorem achieved_runAll {hidden : N → Bool} {owned : S → Bool} {commands : List (Command N F S)}
    (hreads : ∀ c ∈ commands, ∀ n, c.reads = some n → ∀ c' ∈ commands, c'.sets ≠ some n)
    (m : Machine N F S) : Achieved hidden owned commands (m.runAll commands) := by
  -- an argument has the value it had in the beginning, wherever it is looked at
  have hexpand : ∀ before, before <+: commands → ∀ c ∈ commands, ∀ a : Arg N, c.reads = a.reads →
      a.expand (m.runAll before).props = a.expand m.props := by
    intro before hbefore c hc a hca
    apply Arg.expand_congr
    intro n hn
    apply props_runAll
    intro c' hc'
    exact hreads c hc n (hca.trans hn) c' (hbefore.subset hc')
  have hprefix : ∀ before, before <+: commands →
      (∀ f a text, last (Command.writesTo f) before = some a → a.expand m.props = some text →
        (m.runAll before).files f = some text) ∧
      (∀ n a text, last (Command.setsTo n) before = some a → a.expand m.props = some text →
        (m.runAll before).props n = text) ∧
      ∀ s b, last (Command.tells s) before = some b → (m.runAll before).started s = b := by
    intro before
    induction before using List.reverseRecOn with
    | nil =>
      intro _
      refine ⟨fun _ _ _ h => (by cases h), fun _ _ _ h => (by cases h), fun _ _ h => (by cases h)⟩
    | append_singleton before c ih =>
      intro hbefore
      have hshort : before <+: commands := (List.prefix_append before [c]).trans hbefore
      have hc : c ∈ commands := hbefore.subset (List.mem_append_right _ (List.mem_singleton_self c))
      obtain ⟨hfiles, hprops, hstarted⟩ := ih hshort
      refine ⟨?_, ?_, ?_⟩
      · intro f a text hlast htext
        rw [last_append_singleton] at hlast
        rw [runAll_append_singleton, files_run]
        cases hw : c.writesTo f with
        | none =>
          rw [hw] at hlast
          exact hfiles f a text hlast htext
        | some a' =>
          rw [hw] at hlast
          cases hlast
          rw [Option.bind_some, hexpand before hshort c hc a (reads_of_writesTo hw), htext]
          rfl
      · intro n a text hlast htext
        rw [last_append_singleton] at hlast
        rw [runAll_append_singleton, setsTo_run]
        cases hw : c.setsTo n with
        | none =>
          rw [hw] at hlast
          exact hprops n a text hlast htext
        | some a' =>
          rw [hw] at hlast
          cases hlast
          rw [Option.bind_some, hexpand before hshort c hc a (reads_of_setsTo hw), htext]
          rfl
      · intro s b hlast
        rw [last_append_singleton] at hlast
        rw [runAll_append_singleton, started_run]
        cases hw : c.tells s with
        | none =>
          rw [hw] at hlast
          exact hstarted s b hlast
        | some b' =>
          rw [hw] at hlast
          cases hlast
          rfl
  obtain ⟨hfiles, hprops, hstarted⟩ := hprefix commands (List.prefix_refl commands)
  have hend : ∀ pick : Command N F S → Option (Arg N),
      (∀ c a, pick c = some a → c.reads = a.reads) → ∀ a, last pick commands = some a →
        a.expand (m.runAll commands).props = a.expand m.props := by
    intro pick hpick a hlast
    obtain ⟨c, hc, hca⟩ := mem_of_last hlast
    exact hexpand commands (List.prefix_refl commands) c hc a (hpick c a hca)
  constructor
  · intro f a text hlast htext
    rw [hend _ (fun _ _ => reads_of_writesTo) a hlast] at htext
    exact hfiles f a text hlast htext
  · intro n a text _ hlast htext
    rw [hend _ (fun _ _ => reads_of_setsTo) a hlast] at htext
    exact hprops n a text hlast htext
  · intro s b _ hlast
    exact hstarted s b hlast

end

end InitLanguage
