import Mozart.Lib.MapLoop
import Mozart.Lib.Transition

/-!
# The managers of a process

`SensorManager::getInstanceForPackage` keeps one `SensorManager` per package name in
`sPackageInstances`, for good. A call without a package name is attributed to the first package
of the calling UID, and its manager is entered under the empty name too; `std::map::insert` leaves
an entry that exists alone.

* **`instances_stable`**: a name has one manager for the whole run, which works for that package;
  no manager is lost, and only the manager of the empty name can double another.
-/

namespace Mozart.SensorService

open MapLoop Transition

/-- `String16`: UTF-16 code units. -/
abbrev PackageName := List UInt16

/-- The string of an ASCII literal. -/
def PackageName.ofAscii (s : String) : PackageName := s.toList.map fun c => UInt16.ofNat c.toNat

/-- `sPackageInstances`, and the managers created so far, each with its `mOpPackageName`; a
pointer to a manager is its index. -/
structure Instances where
  sPackageInstances : Finmap fun _ : PackageName => Nat
  managers : List PackageName

namespace Instances

/-- What the permission service says about the calling UID: its packages, or nothing where there
is no such service. -/
abbrev Caller := Option (List PackageName)

/-- The name a call without a package name is attributed to: the first package of the caller, or
the empty name where there is none to be found. -/
def attributed (caller : Caller) : PackageName :=
  match caller with
  | some (package :: _) => package
  | some [] => []
  | none => []

/-- `SensorManager::getInstanceForPackage` -/
def getInstanceForPackage (caller : Caller) (packageName : PackageName) (s : Instances) :
    Nat × Instances :=
  match s.sPackageInstances.lookup packageName with
  | some sensorManager => (sensorManager, s)
  | none =>
    let opPackageName := if packageName.length ≤ 0 then attributed caller else packageName
    let sensorManager := s.managers.length
    let instances :=
      if packageName.length ≤ 0 then emplace [] sensorManager s.sPackageInstances
      else s.sPackageInstances
    (sensorManager, {
      sPackageInstances := emplace opPackageName sensorManager instances
      managers := s.managers ++ [opPackageName] })

/-- `SensorManager::getInstance`, the MTK singleton. -/
def getInstance (caller : Caller) (s : Instances) : Nat × Instances :=
  getInstanceForPackage caller (PackageName.ofAscii "MtkCam/SensorListener") s

/-- The process: it starts without a manager, and asks for one by one. -/
def instanceSystem : System Instances (Caller × PackageName) where
  init s := s = ⟨∅, []⟩
  step s call := some (getInstanceForPackage call.1 call.2 s).2

variable {s s' : Instances} {caller : Caller} {p : PackageName}

/-! ## One call -/

/-- What a call for a name does: nothing where there is a manager, else a new manager that is
entered under the name. -/
theorem getInstanceForPackage_cases :
    (∃ i, s.sPackageInstances.lookup p = some i ∧ getInstanceForPackage caller p s = (i, s)) ∨
      (s.sPackageInstances.lookup p = none ∧
        ∃ op, (p = [] ∨ op = p) ∧ getInstanceForPackage caller p s = (s.managers.length,
          ⟨emplace op s.managers.length (emplace p s.managers.length s.sPackageInstances),
            s.managers ++ [op]⟩)) := by
  unfold getInstanceForPackage
  cases hlookup : s.sPackageInstances.lookup p with
  | some i => exact Or.inl ⟨i, rfl, rfl⟩
  | none =>
    right
    refine ⟨rfl, ?_⟩
    by_cases hp : p.length ≤ 0
    · have hnil : p = [] := List.length_eq_zero_iff.mp (Nat.le_zero.mp hp)
      subst hnil
      exact ⟨attributed caller, Or.inl rfl, rfl⟩
    · refine ⟨p, Or.inr rfl, ?_⟩
      simp only [if_neg hp]
      -- the second insertion of one name changes nothing
      have hmem : p ∈ emplace p s.managers.length s.sPackageInstances := by
        rw [← Finmap.mem_keys, keys_emplace]
        exact Finset.mem_insert_self _ _
      rw [emplace_of_mem hmem]

/-- After a call the name has an entry, for the manager the call returned. -/
theorem lookup_getInstanceForPackage :
    (getInstanceForPackage caller p s).2.sPackageInstances.lookup p
      = some (getInstanceForPackage caller p s).1 := by
  rcases @getInstanceForPackage_cases s caller p with
    ⟨i, hlookup, heq⟩ | ⟨hnone, op, _, heq⟩
  · rw [heq]
    exact hlookup
  · rw [heq]
    apply lookup_emplace_of_lookup
    rw [lookup_emplace, if_pos rfl, hnone]
    rfl

/-- An entry is never changed. -/
theorem lookup_after {k : PackageName} {i : Nat} (h : s.sPackageInstances.lookup k = some i) :
    (getInstanceForPackage caller p s).2.sPackageInstances.lookup k = some i := by
  rcases @getInstanceForPackage_cases s caller p with
    ⟨j, _, heq⟩ | ⟨_, op, _, heq⟩
  · rw [heq]
    exact h
  · rw [heq]
    exact lookup_emplace_of_lookup (lookup_emplace_of_lookup h)

/-- Every entry points to a manager, and one under a name of its own to a manager that works for
that package; every manager is entered somewhere. -/
structure Wf (s : Instances) : Prop where
  entry : ∀ k i, s.sPackageInstances.lookup k = some i →
    ∃ name, s.managers[i]? = some name ∧ (k = [] ∨ name = k)
  found : ∀ i, i < s.managers.length → ∃ k, s.sPackageInstances.lookup k = some i

/-- An entry of the map after both insertions is the new manager's or was there before. -/
theorem lookup_insertions {m : Finmap fun _ : PackageName => Nat} {op k : PackageName} {n i : Nat}
    (h : (emplace op n (emplace p n m)).lookup k = some i) :
    m.lookup k = some i ∨ (i = n ∧ (k = p ∨ k = op)) := by
  rcases of_lookup_emplace h with h | ⟨hi, hk⟩
  · rcases of_lookup_emplace h with h | ⟨hi, hk⟩
    · exact Or.inl h
    · exact Or.inr ⟨hi, Or.inl hk⟩
  · exact Or.inr ⟨hi, Or.inr hk⟩

theorem Wf.getInstanceForPackage (h : s.Wf) (caller : Caller) (p : PackageName) :
    (getInstanceForPackage caller p s).2.Wf := by
  rcases @getInstanceForPackage_cases s caller p with
    ⟨j, _, heq⟩ | ⟨hnone, op, hop, heq⟩
  · rw [heq]
    exact h
  · have hnew := @lookup_getInstanceForPackage s caller p
    have hold := fun {k i} => @lookup_after s caller p k i
    rw [heq] at hnew hold ⊢
    constructor
    · intro k i hk
      rcases lookup_insertions hk with hm | ⟨rfl, hkey⟩
      · obtain ⟨name, hname, hkey⟩ := h.entry k i hm
        refine ⟨name, ?_, hkey⟩
        rw [List.getElem?_append_left (List.getElem?_eq_some_iff.mp hname).1]
        exact hname
      · refine ⟨op, by simp, ?_⟩
        -- the name asked for is empty or the one attributed
        rcases hkey with rfl | rfl
        · exact hop
        · exact Or.inr rfl
    · intro i hi
      rw [List.length_append, List.length_singleton] at hi
      by_cases hlast : i = s.managers.length
      · exact ⟨p, by rw [hlast]; exact hnew⟩
      · obtain ⟨k, hk⟩ := h.found i (by omega)
        exact ⟨k, hold hk⟩

theorem reachable_wf (hs : Reachable instanceSystem s) : s.Wf := by
  apply hs.invariant
  · rintro s₀ rfl
    constructor
    · intro k i h
      rw [Finmap.lookup_empty] at h
      cases h
    · intro i hi
      exact absurd hi (Nat.not_lt_zero i)
  · intro s₁ call s₂ h hstep
    cases hstep
    exact h.getInstanceForPackage call.1 call.2

/-- Two managers of one package: the empty name has one of them. -/
theorem Wf.eq_or_empty (h : s.Wf) {i j : Nat} {name : PackageName}
    (hi : s.managers[i]? = some name) (hj : s.managers[j]? = some name) :
    i = j ∨ s.sPackageInstances.lookup [] = some i ∨ s.sPackageInstances.lookup [] = some j := by
  have hkey : ∀ {i}, s.managers[i]? = some name →
      s.sPackageInstances.lookup [] = some i ∨ s.sPackageInstances.lookup name = some i := by
    intro i hi
    obtain ⟨k, hk⟩ := h.found i (List.getElem?_eq_some_iff.mp hi).1
    obtain ⟨name', hname', hor⟩ := h.entry k i hk
    obtain rfl : name = name' := Option.some.inj (hi.symm.trans hname')
    rcases hor with rfl | rfl
    · exact Or.inl hk
    · exact Or.inr hk
  rcases hkey hi with hempty | hni
  · exact Or.inr (Or.inl hempty)
  · rcases hkey hj with hempty | hnj
    · exact Or.inr (Or.inr hempty)
    · exact Or.inl (Option.some.inj (hni.symm.trans hnj))

/-- **One manager per package, for good.** After any calls by any callers, the manager a name was
given once is the one it is given again, and nothing is created for it; under a name of its own it
works for that package. Every manager ever created is still entered under some name, and where two
work for one package, one of them is the one of the empty name. -/
theorem instances_stable {calls : List (Caller × PackageName)} (hs : Reachable instanceSystem s)
    (hexec : exec instanceSystem (getInstanceForPackage caller p s).2 calls = some s') :
    let i := (getInstanceForPackage caller p s).1
    (∀ caller', getInstanceForPackage caller' p s' = (i, s')) ∧
      (p = [] ∨ s'.managers[i]? = some p) ∧
      (∀ j, j < s'.managers.length → ∃ k, s'.sPackageInstances.lookup k = some j) ∧
      ∀ j k name, s'.managers[j]? = some name → s'.managers[k]? = some name → j ≠ k →
        s'.sPackageInstances.lookup [] = some j ∨ s'.sPackageInstances.lookup [] = some k := by
  intro i
  have hreach : Reachable instanceSystem s' :=
    (hs.step (a := (caller, p)) rfl).exec hexec
  have hwf := reachable_wf hreach
  have hkept : s'.sPackageInstances.lookup p = some i := by
    refine exec_invariant (I := fun s => s.sPackageInstances.lookup p = some i) ?_
      lookup_getInstanceForPackage hexec
    rintro s₁ call s₂ _ hlookup hstep
    cases hstep
    exact lookup_after hlookup
  refine ⟨?_, ?_, hwf.found, ?_⟩
  · intro caller'
    unfold Instances.getInstanceForPackage
    rw [hkept]
  · obtain ⟨name, hname, hp | rfl⟩ := hwf.entry p i hkept
    · exact Or.inl hp
    · exact Or.inr hname
  · intro j k name hj hk hne
    exact (hwf.eq_or_empty hj hk).resolve_left hne

theorem instances_stable_unnamed :
    ∃ s', exec instanceSystem (getInstanceForPackage (some [[97]]) [] ⟨∅, []⟩).2
        [(none, [97]), (none, [98])] = some s' ∧
      getInstanceForPackage none [] s' = (0, s') := by
  have hexec : exec instanceSystem (getInstanceForPackage (some [[97]]) [] ⟨∅, []⟩).2
      [(none, [97]), (none, [98])] = some _ := rfl
  exact ⟨_, hexec, (instances_stable (.init rfl) hexec).1 none⟩

end Instances

end Mozart.SensorService
