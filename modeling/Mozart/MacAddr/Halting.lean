import Mozart.MacAddr.EnsureMac

/-!
# Every run of the MAC address helper ends

The loops of the source repeat a call that was interrupted, or go on after a partial read or
write. Where the system answers every call, interrupts only so often, and writes at least a byte at
a time, all of them end, and `main` returns.
-/

namespace Mozart.MacAddr

open Dialogue

/-- How often a call was interrupted. -/
def interruptions (log : List Entry) : Nat :=
  log.countP fun entry => match entry.2 with
    | .error .EINTR => true
    | _ => false

/-- Every call is answered, fewer than `limit` times in all by an interruption, and a `write`
takes something. -/
structure Cooperative (oracle : Oracle) (limit : Nat) : Prop where
  answers : ∀ (w : World) c, (w.respond c (oracle w c)).isSome
  interrupts : ∀ w c, oracle w c = .error .EINTR → interruptions w.log < limit
  progress : ∀ w fd data count, data ≠ [] → oracle w (.write fd data) = .ok count → 0 < count.1

variable {oracle : Oracle} {limit : Nat} {w w' : World} {c : Call} {path : String}

/-- What is left of the interruptions. -/
def remaining (limit : Nat) (w : World) : Nat := limit - interruptions w.log

theorem remaining_of_interrupted (h : Cooperative oracle limit)
    (horacle : oracle w c = .error .EINTR) (hrespond : w.respond c (.error .EINTR) = some w') :
    remaining limit w' < remaining limit w := by
  have hlimit := h.interrupts w c horacle
  have hlog : interruptions w'.log = interruptions w.log + 1 := by
    rw [World.respond_log hrespond, interruptions, List.countP_cons_of_pos rfl, interruptions]
  rw [remaining, remaining, hlog]
  omega

theorem remaining_of_ok {value : Value c} (hrespond : w.respond c (.ok value) = some w') :
    remaining limit w' = remaining limit w := by
  rw [remaining, World.respond_log hrespond, interruptions,
    List.countP_cons_of_neg Bool.false_ne_true, remaining, interruptions]

theorem Cooperative.total_call (h : Cooperative oracle limit) (c : Call) :
    Total (env oracle) (call c) :=
  .call fun w => by simpa [env] using h.answers w c

theorem Cooperative.total_succeeds (h : Cooperative oracle limit) (c : Call) :
    Total (env oracle) (succeeds c) :=
  (h.total_call c).bind fun answer => by cases answer <;> exact .pure _

theorem Cooperative.total_readFully (h : Cooperative oracle limit) (fd size : Nat) :
    Total (env oracle) (readFully fd size) := by
  refine Total.loop (fun data w => size - data.1.length + remaining limit w) (fun data => ?_)
    (fun data w => ?_)
  · split
    · exact .pure _
    · refine (h.total_call _).bind fun answer => ?_
      split
      · exact .pure _
      · exact .pure _
      · split_ifs <;> exact .pure _
  · split
    · exact .pure trivial trivial
    · next hlength =>
      refine holds_call trivial (fun e w₁ horacle hrespond => ?_) (fun bytes w₁ _ hrespond => ?_)
      · cases e with
        | EINTR =>
          exact .pure trivial (Nat.add_lt_add_left (remaining_of_interrupted h horacle hrespond) _)
        | ENOENT => exact .pure trivial trivial
        | other code => exact .pure trivial trivial
      · dsimp only
        split_ifs with hempty
        · exact .pure trivial trivial
        · refine .pure trivial ?_
          have hdata := data.2
          simp only [Sum.elim_inl, List.length_append, remaining_of_ok hrespond]
          omega

theorem Cooperative.total_writeFully (h : Cooperative oracle limit) (fd : Nat)
    (data : List UInt8) : Total (env oracle) (writeFully fd data) := by
  refine Total.loop (fun rest w => rest.length + remaining limit w) (fun rest => ?_)
    (fun rest w => ?_)
  · split_ifs
    · exact .pure _
    · refine (h.total_call _).bind fun answer => ?_
      split <;> exact .pure _
  · split_ifs with hrest
    · exact .pure trivial trivial
    · refine holds_call trivial (fun e w₁ horacle hrespond => ?_)
        (fun count w₁ horacle hrespond => ?_)
      · cases e with
        | EINTR =>
          exact .pure trivial (Nat.add_lt_add_left (remaining_of_interrupted h horacle hrespond) _)
        | ENOENT => exact .pure trivial trivial
        | other code => exact .pure trivial trivial
      · refine .pure trivial ?_
        have htaken := h.progress w fd rest count hrest horacle
        have hlength := List.length_pos_iff.mpr hrest
        simp only [Sum.elim_inl, List.length_drop, remaining_of_ok hrespond]
        omega

theorem Cooperative.total_hasValidMac (h : Cooperative oracle limit) (path : String) :
    Total (env oracle) (hasValidMac path) := by
  refine (h.total_call _).bind fun opened => ?_
  cases opened with
  | error e => exact .pure _
  | ok fd =>
    refine Total.bind (Total.loop (fun _ w => remaining limit w) (fun _ => ?_) (fun _ w => ?_))
      fun bytes => (h.total_call _).bind fun _ => ?_
    · refine (h.total_call _).bind fun answer => ?_
      split <;> exact .pure _
    · refine holds_call trivial (fun e w₁ horacle hrespond => ?_) (fun _ _ _ _ => ?_)
      · cases e with
        | EINTR => exact .pure trivial (remaining_of_interrupted h horacle hrespond)
        | ENOENT => exact .pure trivial trivial
        | other code => exact .pure trivial trivial
      · exact .pure trivial trivial
    · cases bytes with
      | none => exact .pure _
      | some buffer => exact .pure _

theorem Cooperative.total_runVendorHelper (h : Cooperative oracle limit) :
    Total (env oracle) runVendorHelper := by
  refine (h.total_call _).bind fun started => ?_
  cases started with
  | error e => exact .pure _
  | ok child =>
    refine Total.loop (fun _ w => remaining limit w) (fun _ => ?_) (fun _ w => ?_)
    · refine (h.total_call _).bind fun answer => ?_
      split <;> exact .pure _
    · refine holds_call trivial (fun e w₁ horacle hrespond => ?_) (fun _ _ _ _ => ?_)
      · cases e with
        | EINTR => exact .pure trivial (remaining_of_interrupted h horacle hrespond)
        | ENOENT => exact .pure trivial trivial
        | other code => exact .pure trivial trivial
      · exact .pure trivial trivial

theorem Cooperative.total_generateMac (h : Cooperative oracle limit) :
    Total (env oracle) generateMac := by
  refine (h.total_call _).bind fun opened => ?_
  cases opened with
  | error e => exact .pure _
  | ok fd =>
    refine (h.total_readFully fd 6).bind fun success => (h.total_call _).bind fun _ => ?_
    cases success with
    | none => exact .pure _
    | some data => exact .pure _

theorem Cooperative.total_writeTemporary (h : Cooperative oracle limit) (fd : Nat)
    (text : List UInt8) (uid gid : UInt32) :
    Total (env oracle) (writeTemporary fd text uid gid) := by
  have hfill := (h.total_succeeds (.fchmod fd 0o660)).andM
    ((h.total_succeeds (.fchown fd uid gid)).andM
      ((h.total_writeFully fd text).andM (h.total_succeeds (.fsync fd))))
  exact hfill.bind fun _ => (h.total_succeeds _).bind fun _ => .pure _

theorem Cooperative.total_storeMac (h : Cooperative oracle limit) (path : String)
    (uid gid : UInt32) : Total (env oracle) (storeMac path uid gid) := by
  refine h.total_generateMac.bind fun generated => ?_
  cases generated with
  | none => exact .pure _
  | some address =>
    dsimp only
    split_ifs
    · exact .pure _
    · refine (h.total_call _).bind fun removed => ?_
      split_ifs
      · exact .pure _
      · refine (h.total_call _).bind fun created => ?_
        cases created with
        | error e => exact .pure _
        | ok file =>
          refine (h.total_writeTemporary _ _ _ _).bind fun written => ?_
          split_ifs
          · exact (h.total_call _).bind fun _ => .pure _
          · refine (h.total_succeeds _).bind fun renamed => ?_
            split_ifs
            · exact (h.total_call _).bind fun _ => .pure _
            · exact .pure _

theorem Cooperative.total_ensureMac (h : Cooperative oracle limit) (path : String)
    (uid gid : UInt32) : Total (env oracle) (ensureMac path uid gid) :=
  (h.total_hasValidMac path).orM (h.total_storeMac path uid gid)

/-- **`main` returns** in a cooperative environment, whatever the files hold. -/
theorem main_total (h : Cooperative oracle limit) : Total (env oracle) main := by
  have hmissing : ∀ path, Total (env oracle) (not <$> hasValidMac path) := fun path =>
    (h.total_hasValidMac path).bind fun _ => .pure _
  refine Total.bind (((hmissing _).orM (hmissing _)).bind fun missing => ?_) fun _ =>
    (h.total_ensureMac _ _ _).bind fun _ => (h.total_ensureMac _ _ _).bind fun _ => .pure _
  split_ifs
  · exact h.total_runVendorHelper
  · exact .pure _

/-! ## An environment in which all that can succeed does -/

/-- A descriptor that is not in use. -/
def World.freeDescriptor (w : World) : Nat :=
  w.descriptors.foldr (fun entry bound => max (entry.1 + 1) bound) 0

/-- What a `read` gives; the random device is all zeros. -/
def World.nextBytes (w : World) (fd size : Nat) : List UInt8 :=
  match w.openFile? fd with
  | none => []
  | some file =>
    if file.path = kRandomPath then List.replicate size 0
    else match w.fs file.path with
      | none => []
      | some old => (old.content.drop file.offset).take size

/-- The full success of a call. -/
def World.wish (w : World) : (c : Call) → Answer c
  | .openRead _ => .ok w.freeDescriptor
  | .openCreate _ mode => .ok (w.freeDescriptor, ⟨0, 0, mode⟩)
  | .read fd size => .ok ⟨(w.nextBytes fd size).take size, by simp⟩
  | .write _ data => .ok (Fin.last data.length)
  | .fork => .ok ⟨1, w.fs⟩
  | .fchmod _ _ | .fchown _ _ _ | .fsync _ | .close _ | .unlink _ | .rename _ _ | .waitpid _ =>
    .ok ()

/-- Calls succeed where they can; the helper does nothing. -/
def obliging : Oracle := fun w c =>
  if (w.respond c (w.wish c)).isSome then w.wish c else .error .ENOENT

theorem World.lt_freeDescriptor {w : World} {entry : Nat × OpenFile}
    (h : entry ∈ w.descriptors) : entry.1 < w.freeDescriptor := by
  unfold World.freeDescriptor
  generalize w.descriptors = descriptors at h ⊢
  induction descriptors with
  | nil => cases h
  | cons head descriptors ih =>
    rw [List.foldr_cons]
    rcases List.mem_cons.mp h with rfl | h
    · exact Nat.lt_of_lt_of_le (Nat.lt_succ_self _) (Nat.le_max_left _ _)
    · exact Nat.lt_of_lt_of_le (ih h) (Nat.le_max_right _ _)

theorem World.openFile?_freeDescriptor (w : World) : w.openFile? w.freeDescriptor = none := by
  rw [World.openFile?, List.lookup_eq_none_iff]
  intro entry hentry
  rw [bne_iff_ne]
  exact (Nat.ne_of_lt (World.lt_freeDescriptor hentry)).symm

theorem obliging_cooperative : Cooperative obliging 0 where
  answers w c := by
    unfold obliging
    split_ifs with h
    · exact h
    · simp [World.respond]
  interrupts w c h := by
    exfalso
    unfold obliging at h
    split_ifs at h
    · cases c <;> cases h
    · cases h
  progress w fd data count hdata h := by
    unfold obliging at h
    split_ifs at h
    obtain rfl : Fin.last data.length = count := Except.ok.inj h
    simpa using List.length_pos_iff.mpr hdata

theorem obliging_readable (path : String) : Readable obliging path where
  opens w file hfile := by
    refine ⟨w.freeDescriptor, if_pos ?_⟩
    simp [World.respond, World.succeed, World.wish, World.openFile?_freeDescriptor, hfile]
  reads w fd size opened file hopened hpath hfile := by
    subst hpath
    refine .inr ⟨⟨(w.nextBytes fd size).take size, by simp⟩, if_pos ?_⟩
    by_cases hrandom : opened.path = kRandomPath
    · simp [World.respond, World.succeed, World.wish, World.readFile, hopened, hrandom]
    · simp [World.respond, World.succeed, World.wish, World.readFile, World.nextBytes, hopened,
        hrandom, hfile]

end Mozart.MacAddr
