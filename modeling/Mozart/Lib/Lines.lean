import Mathlib.Data.List.Basic
import Mathlib.Data.List.DropRight

/-!
# Lines of a text

A text is read line by line: each newline ends a line, and what stands behind the last newline is a
line of its own unless there is nothing.

* **`readLines_unlines`**: lines that were written with a newline each, the last perhaps without,
  are read back.
* `rdropWhile_append_of_pos`: what is trimmed off the end of a text does not count.
-/

namespace Lines

def readLines : List Char → List (List Char)
  | [] => []
  | c :: cs =>
    if c = '\n' then [] :: readLines cs
    else
      match readLines cs with
      | [] => [[c]]
      | line :: lines => (c :: line) :: lines

/-- The lines with a newline behind each. -/
def unlines (lines : List (List Char)) : List Char := lines.flatMap (· ++ ['\n'])

theorem readLines_cons_of_ne {c : Char} (h : c ≠ '\n') {cs line : List Char}
    {lines : List (List Char)} (hcs : readLines cs = line :: lines) :
    readLines (c :: cs) = (c :: line) :: lines := by
  unfold readLines
  rw [if_neg h, hcs]

theorem readLines_append {l : List Char} (h : '\n' ∉ l) (rest : List Char) :
    readLines (l ++ '\n' :: rest) = l :: readLines rest := by
  induction l with
  | nil => rfl
  | cons c l ih =>
    have hc : c ≠ '\n' := fun heq => h (heq ▸ List.mem_cons_self)
    have ih' := ih fun hmem => h (List.mem_cons_of_mem c hmem)
    rw [List.cons_append]
    exact readLines_cons_of_ne hc ih'

/-- A last line without a newline: one line, unless it is empty. -/
theorem readLines_last {l : List Char} (h : '\n' ∉ l) :
    readLines l = if l = [] then [] else [l] := by
  induction l with
  | nil => rfl
  | cons c l ih =>
    have hc : c ≠ '\n' := fun heq => h (heq ▸ List.mem_cons_self)
    have ih' := ih fun hmem => h (List.mem_cons_of_mem c hmem)
    rw [if_neg (List.cons_ne_nil c l)]
    cases l with
    | nil =>
      unfold readLines
      rw [if_neg hc]
      rfl
    | cons d l =>
      rw [if_neg (List.cons_ne_nil d l)] at ih'
      exact readLines_cons_of_ne hc ih'

theorem readLines_unlines_append {lines : List (List Char)} (h : ∀ l ∈ lines, '\n' ∉ l)
    (rest : List Char) : readLines (unlines lines ++ rest) = lines ++ readLines rest := by
  induction lines with
  | nil => rfl
  | cons l lines ih =>
    have hl := h l List.mem_cons_self
    have hrest := ih fun l' hl' => h l' (List.mem_cons_of_mem l hl')
    unfold unlines at hrest ⊢
    rw [List.flatMap_cons, List.append_assoc, List.append_assoc, List.singleton_append,
      readLines_append hl, hrest, List.cons_append]

/-- **Reading lines back.** -/
theorem readLines_unlines {lines : List (List Char)} {last : List Char}
    (h : ∀ l ∈ lines, '\n' ∉ l) (hlast : '\n' ∉ last) :
    readLines (unlines lines ++ last) = lines ++ if last = [] then [] else [last] := by
  rw [readLines_unlines_append h, readLines_last hlast]

/-! ## Trimming -/

/-- Dropping a suffix all of which goes. -/
theorem rdropWhile_append_of_pos {α : Type*} {p : α → Bool} {l r : List α}
    (h : ∀ a ∈ r, p a = true) : (l ++ r).rdropWhile p = l.rdropWhile p := by
  rw [List.rdropWhile, List.reverse_append,
    List.dropWhile_append_of_pos fun a ha => h a (List.mem_reverse.mp ha), List.rdropWhile]

end Lines
