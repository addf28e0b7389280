import Mathlib.Data.List.Nodup
import Mozart.Lib.OrderedMap

/-!
# Global sensor handles

The framework sees one flat space of handles; a sub-HAL knows only its own. `FullHandle` names a
sensor by module index and local handle, and two `std::map`s translate between the two.

* `FullHandle.less` is the hand-written `operator<` the second map is keyed by;
  `instLawfulLessFullHandle` is why that map is a map at all.
* **`HandleTable.Describes`**: what the two maps and the counter hold after a sequence of
  `assign_global_handle` calls, in terms of the list of full handles that were assigned.
* **`Describes.assignGlobalHandle`**: one more call is one more entry at the end of that list.
-/

namespace Mozart.Sensors

/-- `struct FullHandle`. -/
structure FullHandle where
  moduleIndex : Int
  localHandle : Int
deriving DecidableEq, Repr

/-- `FullHandle::operator<`. -/
def FullHandle.less (this that : FullHandle) : Bool :=
  if this.moduleIndex < that.moduleIndex then
    true
  else if this.moduleIndex > that.moduleIndex then
    false
  else
    this.localHandle < that.localHandle

/-- `operator<` on `int`, the comparison of the map keyed by global handles. -/
def intLess (a b : Int) : Bool := a < b

theorem FullHandle.less_iff {a b : FullHandle} :
    a.less b = true ↔ a.moduleIndex < b.moduleIndex ∨
      (a.moduleIndex = b.moduleIndex ∧ a.localHandle < b.localHandle) := by
  unfold FullHandle.less
  split_ifs
  · simp only [true_iff]; omega
  · simp only [false_iff]; omega
  · simp only [decide_eq_true_eq]; omega

/-- The comparison is lexicographic, so it is a strict total order. -/
instance instLawfulLessFullHandle : LawfulLess FullHandle.less where
  irrefl a := by
    rw [Bool.eq_false_iff, ne_eq, FullHandle.less_iff]
    omega
  trans {a b c} hab hbc := by
    rw [FullHandle.less_iff] at *
    omega
  connected {a b} hab hba := by
    rw [Bool.eq_false_iff, ne_eq, FullHandle.less_iff] at *
    obtain ⟨ma, la⟩ := a
    obtain ⟨mb, lb⟩ := b
    simp only [FullHandle.mk.injEq] at *
    omega

instance instLawfulLessInt : LawfulLess intLess where
  irrefl a := by simp [intLess]
  trans {a b c} hab hbc := by
    simp only [intLess, decide_eq_true_eq] at *
    omega
  connected {a b} hab hba := by
    simp only [intLess, decide_eq_false_iff_not] at *
    omega

/-- `global_to_full`, `full_to_global` and `next_global_handle`. -/
structure HandleTable where
  globalToFull : OrderedMap Int FullHandle intLess
  fullToGlobal : OrderedMap FullHandle Int FullHandle.less
  nextGlobalHandle : Int

namespace HandleTable

/-- The static initial values. -/
def initial : HandleTable := ⟨.empty, .empty, 1⟩

/-- `assign_global_handle`: the maps afterwards and the new handle. -/
def assignGlobalHandle (t : HandleTable) (moduleIndex localHandle : Int) : HandleTable × Int :=
  let globalHandle := t.nextGlobalHandle
  let fullHandle : FullHandle := ⟨moduleIndex, localHandle⟩
  ({ globalToFull := t.globalToFull.insert globalHandle fullHandle
     fullToGlobal := t.fullToGlobal.insert fullHandle globalHandle
     nextGlobalHandle := t.nextGlobalHandle + 1 }, globalHandle)

/-- `get_local_handle`: `-1` if the handle does not exist. -/
def getLocalHandle (t : HandleTable) (globalHandle : Int) : Int :=
  match t.globalToFull.find globalHandle with
  | none => -1
  | some full => full.localHandle

/-- `get_module_index`: `-1` if the handle does not exist. -/
def getModuleIndex (t : HandleTable) (globalHandle : Int) : Int :=
  match t.globalToFull.find globalHandle with
  | none => -1
  | some full => full.moduleIndex

/-- `get_global_handle`: `-1` if the full handle is unknown. -/
def getGlobalHandle (t : HandleTable) (fullHandle : FullHandle) : Int :=
  match t.fullToGlobal.find fullHandle with
  | none => -1
  | some globalHandle => globalHandle

/-! ## What the table holds -/

/-- The table after assigning handles to `fulls` in this order: handle `i + 1` is the `i`-th
entry, and a full handle is known exactly when it was assigned, under one of its handles. -/
structure Describes (t : HandleTable) (fulls : List FullHandle) : Prop where
  next : t.nextGlobalHandle = fulls.length + 1
  global : ∀ g, t.globalToFull.find g = if 1 ≤ g then fulls[(g - 1).toNat]? else none
  full : ∀ f g, t.fullToGlobal.find f = some g → t.globalToFull.find g = some f
  known : ∀ f, (t.fullToGlobal.find f).isSome ↔ f ∈ fulls

theorem describes_initial : initial.Describes [] where
  next := rfl
  global g := by simp [initial]
  full f g h := by simp [initial] at h
  known f := by simp [initial]

/-- **One `assign_global_handle`** appends its full handle, under the next handle. -/
theorem Describes.assignGlobalHandle {t : HandleTable} {fulls : List FullHandle}
    (h : t.Describes fulls) (m l : Int) :
    (t.assignGlobalHandle m l).1.Describes (fulls ++ [⟨m, l⟩]) ∧
      (t.assignGlobalHandle m l).2 = fulls.length + 1 := by
  obtain ⟨hnext, hglobal, hfull, hknown⟩ := h
  refine ⟨⟨?_, ?_, ?_, ?_⟩, hnext⟩
  · simp [HandleTable.assignGlobalHandle, hnext]
  · intro g
    simp only [HandleTable.assignGlobalHandle, OrderedMap.find_insert, hnext, hglobal]
    -- the new handle, one of the older ones, or none
    by_cases hg : g = fulls.length + 1
    · rw [if_pos hg, if_pos (by omega), hg, List.getElem?_append_right (by omega)]
      simp
    · rw [if_neg hg]
      split_ifs with hpos
      · rcases Nat.lt_or_ge (g - 1).toNat fulls.length with hin | hout
        · rw [List.getElem?_append_left hin]
        · rw [List.getElem?_eq_none hout, List.getElem?_eq_none (by simp; omega)]
      · rfl
  · intro f g hf
    simp only [HandleTable.assignGlobalHandle, OrderedMap.find_insert, hnext] at hf ⊢
    split_ifs at hf with heq
    · rw [if_pos (Option.some.inj hf).symm, heq]
    · -- an older handle is not the new one
      have hold := hfull f g hf
      have hlt : g ≠ fulls.length + 1 := by
        rintro rfl
        rw [hglobal] at hold
        simp at hold
      rw [if_neg hlt, hold]
  · intro f
    simp only [HandleTable.assignGlobalHandle, OrderedMap.find_insert, List.mem_append,
      List.mem_singleton, ← hknown f]
    split_ifs with heq <;> simp [heq]

/-- A handle is known exactly when it lies in `1 .. N`. -/
theorem Describes.isSome_global {t : HandleTable} {fulls : List FullHandle}
    (h : t.Describes fulls) (g : Int) :
    (t.globalToFull.find g).isSome ↔ 1 ≤ g ∧ g ≤ fulls.length := by
  rw [h.global g]
  split_ifs with hpos
  · simp only [isSome_getElem?]
    omega
  · simp only [Option.isSome_none, Bool.false_eq_true, false_iff]
    omega

/-- The handle of the `i`-th assigned full handle. -/
theorem Describes.global_succ {t : HandleTable} {fulls : List FullHandle}
    (h : t.Describes fulls) (i : Nat) : t.globalToFull.find (i + 1) = fulls[i]? := by
  rw [h.global, if_pos (by omega)]
  congr 1
  omega

/-- **The two maps are inverse to each other** once no full handle was assigned twice. -/
theorem Describes.inverse {t : HandleTable} {fulls : List FullHandle} (h : t.Describes fulls)
    (hnodup : fulls.Nodup) (f : FullHandle) (g : Int) :
    t.fullToGlobal.find f = some g ↔ t.globalToFull.find g = some f := by
  refine ⟨h.full f g, fun hg => ?_⟩
  have hpos : 1 ≤ g := ((h.isSome_global g).mp (by simp [hg])).1
  have hmem : f ∈ fulls := by
    rw [h.global, if_pos hpos] at hg
    exact List.mem_of_getElem? hg
  obtain ⟨g', hg'⟩ := Option.isSome_iff_exists.mp ((h.known f).mpr hmem)
  have hpos' : 1 ≤ g' := ((h.isSome_global g').mp (by simp [h.full f g' hg'])).1
  -- both handles index the one occurrence of `f`
  have hat : fulls[(g - 1).toNat]? = some f := by rwa [h.global, if_pos hpos] at hg
  have hat' : fulls[(g' - 1).toNat]? = some f := by
    have := h.full f g' hg'
    rwa [h.global, if_pos hpos'] at this
  have hsame : (g - 1).toNat = (g' - 1).toNat :=
    (List.getElem?_inj (List.getElem?_eq_some_iff.mp hat).1 hnodup).mp (hat.trans hat'.symm)
  rw [hg']
  congr 1
  omega

end HandleTable

end Mozart.Sensors
