import Mathlib.Data.List.Basic

/-!
# `std::map` over a hand-written comparison

The entries of a `std::map` are kept in the order of the comparison it was instantiated with, and
every operation uses that comparison only: a key is found when neither it nor the entry's key is
less. This is a map from keys to values exactly when the comparison is a strict total order
(`LawfulLess`). The sortedness of the entries is a field, so that a map that is out of order
cannot be built, and `find_insert` is all a client needs.
-/

/-- What a `std::map` asks of its comparison, and that keys it cannot tell apart are equal. -/
class LawfulLess {κ : Type*} (less : κ → κ → Bool) : Prop where
  irrefl : ∀ a, less a a = false
  trans : ∀ {a b c}, less a b = true → less b c = true → less a c = true
  connected : ∀ {a b}, less a b = false → less b a = false → a = b

/-- A `std::map<κ, ν>` whose comparison is `less`. -/
structure OrderedMap (κ ν : Type*) (less : κ → κ → Bool) where
  entries : List (κ × ν)
  sorted : entries.Pairwise fun a b => less a.1 b.1 = true

namespace OrderedMap

variable {κ ν : Type*} {less : κ → κ → Bool}

def empty : OrderedMap κ ν less := ⟨[], .nil⟩

/-! ## Searching and inserting in the entry list -/

/-- Walk past the smaller keys, then look at the first that is not. -/
def findIn (less : κ → κ → Bool) (k : κ) : List (κ × ν) → Option ν
  | [] => none
  | e :: rest =>
    if less e.1 k then findIn less k rest
    else if less k e.1 then none
    else some e.2

/-- Insert before the first greater key, or overwrite the value of an equal one. -/
def insertIn (less : κ → κ → Bool) (k : κ) (v : ν) : List (κ × ν) → List (κ × ν)
  | [] => [(k, v)]
  | e :: rest =>
    if less e.1 k then e :: insertIn less k v rest
    else if less k e.1 then (k, v) :: e :: rest
    else (e.1, v) :: rest

theorem mem_of_mem_insertIn {k : κ} {v : ν} {l : List (κ × ν)} {e : κ × ν}
    (h : e ∈ insertIn less k v l) : e.1 = k ∨ (∃ d ∈ l, e.1 = d.1) := by
  induction l with
  | nil =>
    obtain rfl := List.mem_singleton.mp h
    exact Or.inl rfl
  | cons d rest ih =>
    unfold insertIn at h
    split at h
    · rcases List.mem_cons.mp h with rfl | h
      · exact Or.inr ⟨e, by simp, rfl⟩
      · rcases ih h with heq | ⟨d', hd', heq⟩
        · exact Or.inl heq
        · exact Or.inr ⟨d', by simp [hd'], heq⟩
    · split at h
      · rcases List.mem_cons.mp h with rfl | h
        · exact Or.inl rfl
        · exact Or.inr ⟨e, h, rfl⟩
      · rcases List.mem_cons.mp h with rfl | h
        · exact Or.inr ⟨d, by simp, rfl⟩
        · exact Or.inr ⟨e, by simp [h], rfl⟩

variable [LawfulLess less]

theorem sorted_insertIn {k : κ} {v : ν} {l : List (κ × ν)}
    (hl : l.Pairwise fun a b => less a.1 b.1 = true) :
    (insertIn less k v l).Pairwise fun a b => less a.1 b.1 = true := by
  induction l with
  | nil => simp [insertIn]
  | cons d rest ih =>
    obtain ⟨hhead, hrest⟩ := List.pairwise_cons.mp hl
    unfold insertIn
    split
    · rename_i hlt
      refine List.pairwise_cons.mpr ⟨fun e he => ?_, ih hrest⟩
      rcases mem_of_mem_insertIn he with heq | ⟨d', hd', heq⟩
      · rw [heq]; exact hlt
      · rw [heq]; exact hhead d' hd'
    · split
      · rename_i hgt
        refine List.pairwise_cons.mpr ⟨fun e he => ?_, hl⟩
        rcases List.mem_cons.mp he with rfl | he
        · exact hgt
        · exact LawfulLess.trans hgt (hhead e he)
      · exact List.pairwise_cons.mpr ⟨hhead, hrest⟩

theorem findIn_insertIn_self {k : κ} {v : ν} (l : List (κ × ν)) :
    findIn less k (insertIn less k v l) = some v := by
  induction l with
  | nil => simp [insertIn, findIn, LawfulLess.irrefl]
  | cons d rest ih =>
    by_cases hlt : less d.1 k = true
    · simp [insertIn, findIn, hlt, ih]
    · by_cases hgt : less k d.1 = true
      · simp [insertIn, findIn, hlt, hgt, LawfulLess.irrefl]
      · simp [insertIn, findIn, hlt, hgt]

theorem findIn_insertIn_of_ne {k k' : κ} {v : ν} (hne : k' ≠ k) (l : List (κ × ν)) :
    findIn less k' (insertIn less k v l) = findIn less k' l := by
  induction l with
  | nil =>
    -- `k'` is not equal to `k`, so one of the two comparisons holds
    by_cases hlt : less k k' = true
    · simp [insertIn, findIn, hlt]
    · by_cases hgt : less k' k = true
      · simp [insertIn, findIn, hlt, hgt]
      · exact absurd (LawfulLess.connected (by simpa using hgt) (by simpa using hlt)) hne
  | cons d rest ih =>
    by_cases hlt : less d.1 k = true
    · simp [insertIn, findIn, hlt, ih]
    · by_cases hgt : less k d.1 = true
      · by_cases hk : less k k' = true
        · simp [insertIn, findIn, hlt, hgt, hk]
        · -- `k' < k < d.1`: neither list is searched past its head
          have hk' : less k' k = true := by
            by_contra h
            exact hne (LawfulLess.connected (by simpa using h) (by simpa using hk))
          have hd : less k' d.1 = true := LawfulLess.trans hk' hgt
          have hd' : less d.1 k' = false := by
            by_contra h
            have hloop : less k' k' = true := LawfulLess.trans hd (by simpa using h)
            simp [LawfulLess.irrefl] at hloop
          simp [insertIn, findIn, hlt, hgt, hk, hk', hd, hd']
      · -- `d.1 = k`: only the value at `k` changes
        have hdk : d.1 = k :=
          LawfulLess.connected (by simpa using hlt) (by simpa using hgt)
        have hne' : ¬ (less d.1 k' = false ∧ less k' d.1 = false) := by
          rintro ⟨h₁, h₂⟩
          exact hne (LawfulLess.connected h₂ h₁ |>.trans hdk)
        by_cases h₁ : less d.1 k' = true
        · simp [insertIn, findIn, hlt, hgt, h₁]
        · have h₂ : less k' d.1 = true := by
            by_contra h
            exact hne' ⟨by simpa using h₁, by simpa using h⟩
          simp [insertIn, findIn, hlt, hgt, h₁, h₂]

/-! ## The map -/

/-- `m[k]` for a key that is present, `none` where `m.count(k) == 0`. -/
def find (m : OrderedMap κ ν less) (k : κ) : Option ν := findIn less k m.entries

/-- `m[k] = v`. -/
def insert (m : OrderedMap κ ν less) (k : κ) (v : ν) : OrderedMap κ ν less :=
  ⟨insertIn less k v m.entries, sorted_insertIn m.sorted⟩

omit [LawfulLess less] in
@[simp] theorem find_empty (k : κ) : (empty : OrderedMap κ ν less).find k = none := rfl

@[simp] theorem find_insert_self (m : OrderedMap κ ν less) (k : κ) (v : ν) :
    (m.insert k v).find k = some v :=
  findIn_insertIn_self m.entries

theorem find_insert_of_ne (m : OrderedMap κ ν less) {k k' : κ} (v : ν) (h : k' ≠ k) :
    (m.insert k v).find k' = m.find k' :=
  findIn_insertIn_of_ne h m.entries

/-- **A `std::map` over a lawful comparison is a map.** -/
theorem find_insert [DecidableEq κ] (m : OrderedMap κ ν less) (k k' : κ) (v : ν) :
    (m.insert k v).find k' = if k' = k then some v else m.find k' := by
  split
  · rename_i h
    rw [h, find_insert_self]
  · rename_i h
    exact find_insert_of_ne m v h

end OrderedMap
