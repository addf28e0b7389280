import Mathlib.Data.List.Basic

/-!
# Logs of past events

A log grows at its end. Two questions are asked of it: what the most recent entry of some kind
says (`last`), and whether every entry is justified by the entries before it (`EachAfter`).
-/

namespace Log

variable {α β : Type*}

/-- What the most recent entry `f` looks at says. -/
def last (f : α → Option β) (log : List α) : Option β := log.reverse.findSome? f

section Last

variable {f : α → Option β}

@[simp] theorem last_append (log new : List α) :
    last f (log ++ new) = (last f new).or (last f log) := by
  simp [last, List.findSome?_append]

theorem last_singleton (a : α) : last f [a] = f a := by
  cases h : f a <;> simp [last, h]

/-- Entries `f` does not look at change nothing. -/
theorem last_append_of_none {log new : List α} (h : ∀ a ∈ new, f a = none) :
    last f (log ++ new) = last f log := by
  have hnew : last f new = none := by
    rw [last, List.findSome?_eq_none_iff]
    intro a ha
    exact h a (List.mem_reverse.mp ha)
  rw [last_append, hnew, Option.none_or]

end Last

/-- Every entry satisfies `P` together with the entries before it. -/
def EachAfter (P : List α → α → Prop) (log : List α) : Prop :=
  ∀ before a after, log = before ++ a :: after → P before a

section EachAfter

variable {P : List α → α → Prop}

theorem eachAfter_nil : EachAfter P [] := by
  intro before a after h
  simp at h

/-- **One more entry** has to be justified by the whole log. -/
theorem EachAfter.snoc {log : List α} {a : α} (h : EachAfter P log) (ha : P log a) :
    EachAfter P (log ++ [a]) := by
  intro before b after heq
  rcases List.eq_nil_or_concat after with rfl | ⟨after', c, rfl⟩
  · have := List.append_inj' heq rfl
    obtain ⟨rfl, hb⟩ := this
    cases hb
    exact ha
  · refine h before b after' ?_
    rw [List.concat_eq_append, ← List.cons_append, ← List.append_assoc] at heq
    exact (List.append_inj' heq rfl).1

end EachAfter

end Log
