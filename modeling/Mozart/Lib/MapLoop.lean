import Mathlib.Data.Finmap
import Mozart.Lib.Loop

/-!
# Loops over a finite map, in an order nobody promises

A range loop over a hash map visits every entry once, in an order that depends on the hash
table's history. The map is Mathlib's `Finmap`; the order is data of its own, any list that
satisfies `IsOrder`, and what a loop computes is proved for all of them.

* **`IsOrder`**: the list names every key of the map once.
* **`foldl_invariant`**: the loop rule. At each round it hands over a key of the map that the
  loop has not visited yet.
* `emplace` and `modify` are the two ways such loops write into a map.
-/

namespace MapLoop

variable {κ : Type*} [DecidableEq κ] {ν β : Type*}

/-- An order in which a loop can visit the entries of `m`. -/
def IsOrder (order : List κ) (m : Finmap fun _ : κ => ν) : Prop :=
  order.Nodup ∧ order.toFinset = m.keys

instance (order : List κ) (m : Finmap fun _ : κ => ν) : Decidable (IsOrder order m) :=
  inferInstanceAs (Decidable (_ ∧ _))

theorem IsOrder.mem_iff {order : List κ} {m : Finmap fun _ : κ => ν} (h : IsOrder order m)
    {k : κ} : k ∈ order ↔ k ∈ m := by
  rw [← List.mem_toFinset, h.2, Finmap.mem_keys]

/-- What a loop did at the keys of its order, it did at every key of the map. -/
theorem IsOrder.ite_map_lookup {order : List κ} {m : Finmap fun _ : κ => ν}
    (h : IsOrder order m) (k : κ) (f : ν → ν) :
    (if k ∈ order then (m.lookup k).map f else m.lookup k) = (m.lookup k).map f := by
  split
  · rfl
  · next hk =>
    have hnone : m.lookup k = none := Finmap.lookup_eq_none.mpr (mt h.mem_iff.mpr hk)
    rw [hnone, Option.map_none]

/-- **The rule for loops over a map.** `P done b` relates the keys already visited to the loop
state; each round sees a new key of the map. -/
theorem foldl_invariant {order : List κ} {m : Finmap fun _ : κ => ν} (h : IsOrder order m)
    {P : List κ → β → Prop} {f : β → κ → β} {b₀ : β} (hinit : P [] b₀)
    (hstep : ∀ done k v b, k ∉ done → m.lookup k = some v → P done b → P (done ++ [k]) (f b k)) :
    P order (order.foldl f b₀) := by
  refine Loop.foldl_total hinit ?_
  intro done k rest b hsplit hP
  have hmem : k ∈ m := h.mem_iff.mp (by simp [hsplit])
  obtain ⟨v, hv⟩ := Finmap.mem_iff.mp hmem
  -- the key is new because the order repeats none
  have hnew : k ∉ done := by
    have hnodup := h.1
    rw [hsplit, List.nodup_append] at hnodup
    intro hk
    exact hnodup.2.2 k hk k (by simp) rfl
  exact hstep done k v b hnew hv hP

/-! ## Writing into a map -/

/-- `emplace`: an entry that exists is left alone. -/
def emplace (k : κ) (v : ν) (m : Finmap fun _ : κ => ν) : Finmap fun _ : κ => ν :=
  match m.lookup k with
  | some _ => m
  | none => m.insert k v

/-- An assignment through an iterator to the entry of `k`. -/
def modify (k : κ) (f : ν → ν) (m : Finmap fun _ : κ => ν) : Finmap fun _ : κ => ν :=
  match m.lookup k with
  | some v => m.insert k (f v)
  | none => m

variable {k j : κ} {v : ν} {f : ν → ν} {m m' : Finmap fun _ : κ => ν}

theorem keys_eq_of_isSome (h : ∀ k, (m'.lookup k).isSome = (m.lookup k).isSome) :
    m'.keys = m.keys := by
  ext k
  rw [Finmap.mem_keys, Finmap.mem_keys, ← Finmap.lookup_isSome, ← Finmap.lookup_isSome, h]

theorem emplace_of_notMem (h : k ∉ m) : emplace k v m = m.insert k v := by
  rw [emplace, Finmap.lookup_eq_none.mpr h]

theorem emplace_of_mem (h : k ∈ m) : emplace k v m = m := by
  obtain ⟨w, hw⟩ := Finmap.mem_iff.mp h
  rw [emplace, hw]

theorem lookup_emplace_of_ne (h : j ≠ k) : (emplace k v m).lookup j = m.lookup j := by
  unfold emplace
  split
  · rfl
  · exact Finmap.lookup_insert_of_ne m h

theorem lookup_emplace : (emplace k v m).lookup j =
    if j = k then some ((m.lookup k).getD v) else m.lookup j := by
  split_ifs with hj
  · subst hj
    unfold emplace
    split
    · next w hw => rw [hw, Option.getD_some]
    · next hnone => rw [Finmap.lookup_insert, hnone, Option.getD_none]
  · exact lookup_emplace_of_ne hj

theorem lookup_emplace_of_lookup {w : ν} (h : m.lookup j = some w) :
    (emplace k v m).lookup j = some w := by
  by_cases hj : j = k
  · rwa [emplace_of_mem (hj ▸ Finmap.mem_of_lookup_eq_some h)]
  · rwa [lookup_emplace_of_ne hj]

/-- An entry of the map after an `emplace` was there before or is the new one. -/
theorem of_lookup_emplace {w : ν} (h : (emplace k v m).lookup j = some w) :
    m.lookup j = some w ∨ (w = v ∧ j = k) := by
  by_cases hj : j = k
  · rw [lookup_emplace, if_pos hj, ← hj] at h
    cases hm : m.lookup j with
    | none =>
      rw [hm] at h
      cases h
      exact Or.inr ⟨rfl, hj⟩
    | some u =>
      rw [hm] at h
      exact Or.inl h
  · rw [lookup_emplace_of_ne hj] at h
    exact Or.inl h

@[simp] theorem keys_emplace : (emplace k v m).keys = insert k m.keys := by
  ext j
  rw [Finset.mem_insert, Finmap.mem_keys, Finmap.mem_keys]
  by_cases hk : k ∈ m
  · rw [emplace_of_mem hk]
    exact ⟨Or.inr, fun h => h.elim (fun hj => hj ▸ hk) id⟩
  · rw [emplace_of_notMem hk, Finmap.mem_insert]

theorem lookup_modify : (modify k f m).lookup j =
    if j = k then (m.lookup k).map f else m.lookup j := by
  unfold modify
  split_ifs with hj
  · subst hj
    cases hm : m.lookup j with
    | none => simpa using hm
    | some w => simp [Finmap.lookup_insert]
  · split
    · exact Finmap.lookup_insert_of_ne m hj
    · rfl

@[simp] theorem keys_modify : (modify k f m).keys = m.keys := by
  refine keys_eq_of_isSome fun j => ?_
  rw [lookup_modify]
  split_ifs with hj
  · rw [hj, Option.isSome_map]
  · rfl

/-! ## The entries as a list -/

/-- The entries at the keys of a list, in its order. -/
def entriesAt (keys : List κ) (m : Finmap fun _ : κ => ν) : List (κ × ν) :=
  keys.filterMap fun k => (m.lookup k).map fun v => (k, v)

theorem mem_entriesAt {keys : List κ} {p : κ × ν} :
    p ∈ entriesAt keys m ↔ p.1 ∈ keys ∧ m.lookup p.1 = some p.2 := by
  rw [entriesAt, List.mem_filterMap]
  constructor
  · rintro ⟨k, hk, hp⟩
    obtain ⟨v, hv, rfl⟩ := Option.map_eq_some_iff.mp hp
    exact ⟨hk, hv⟩
  · rintro ⟨hk, hv⟩
    exact ⟨p.1, hk, by rw [hv]; rfl⟩

theorem isOrder_nil (h : m.keys = ∅) : IsOrder [] m := ⟨List.nodup_nil, h.symm⟩

theorem IsOrder.length_eq {order : List κ} (h : IsOrder order m) : order.length = m.keys.card := by
  rw [← h.2, List.toFinset_card_of_nodup h.1]

theorem IsOrder.map_fst_entriesAt {order : List κ} (h : IsOrder order m) :
    (entriesAt order m).map Prod.fst = order := by
  have hkeys : ∀ keys : List κ, (∀ k ∈ keys, k ∈ m) → (entriesAt keys m).map Prod.fst = keys := by
    intro keys hmem
    induction keys with
    | nil => rfl
    | cons k keys ih =>
      obtain ⟨v, hv⟩ := Finmap.mem_iff.mp (hmem k List.mem_cons_self)
      rw [entriesAt, List.filterMap_cons, hv]
      exact congrArg (k :: ·) (ih fun j hj => hmem j (List.mem_cons_of_mem k hj))
  exact hkeys order fun k hk => h.mem_iff.mp hk

/-! ## Applying a list of changes -/

/-- Overwrite the entries a list of pairs names; a key that is not in the map is skipped. -/
def applyPairs (pairs : List (κ × ν)) (m : Finmap fun _ : κ => ν) : Finmap fun _ : κ => ν :=
  pairs.foldl (fun m p => modify p.1 (fun _ => p.2) m) m

/-- What the changes leave at a key, where all pairs for that key say the same. -/
theorem lookup_applyPairs {pairs : List (κ × ν)} (h : ∀ p ∈ pairs, p.1 = j → p.2 = v)
    (m : Finmap fun _ : κ => ν) : (applyPairs pairs m).lookup j =
      if j ∈ pairs.map Prod.fst then (m.lookup j).map fun _ => v else m.lookup j := by
  induction pairs generalizing m with
  | nil => rfl
  | cons p pairs ih =>
    have htail := ih (fun q hq => h q (List.mem_cons_of_mem p hq)) (modify p.1 (fun _ => p.2) m)
    rw [applyPairs, List.foldl_cons, ← applyPairs, htail, lookup_modify, List.map_cons]
    by_cases hj : j = p.1
    · have hv : p.2 = v := h p List.mem_cons_self hj.symm
      have hmem : j ∈ p.1 :: pairs.map Prod.fst := hj ▸ List.mem_cons_self
      rw [if_pos hj, if_pos hmem, ← hj, hv]
      split
      · rw [Option.map_map]
        rfl
      · rfl
    · rw [if_neg hj]
      simp only [List.mem_cons, hj, false_or]

end MapLoop
