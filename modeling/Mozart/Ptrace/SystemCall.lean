import Mozart.Lib.ByteObject

/-!
# The system-call regset

`system_call_get` and `system_call_set` of the arm64 `ptrace.c`. Both go through an `int` on the
kernel stack. The getter fills it from the registers of the task; the setter does not, and stores
all of it afterwards, also the bytes that nothing was copied to.

* `user_regset_copyin` and `user_regset_copyout` belong to the kernel and are parameters. `CopiesIn`
  and `CopiesOut` are what they do to the window they are given.
* `stack` is what the local of the setter holds before anything is written to it.
* The patch does not show the type of `pt_regs::syscallno`. It has `w` bits here, at least those of
  an `int`: reading it as an `int` truncates, storing an `int` extends the sign.
* **`systemCallSet_proper_iff`**: when a write is a proper partial update.
-/

namespace Mozart.Ptrace

open ByteObject

/-- The bytes of an `int` in memory. -/
abbrev IntBytes := Fin 4 → BitVec 8

/-- The memory from `kbuf` on or, where that is `NULL`, from `ubuf` on. -/
abbrev Buffer := Nat → BitVec 8

/-- `struct user_regset`, without its functions. -/
structure UserRegset where
  core_note_type : Nat
  n : Nat
  size : Nat
  align : Nat

def NT_ARM_SYSTEM_CALL : Nat := 0x404

/-- `aarch64_regsets[REGSET_SYSTEM_CALL]`. -/
def systemCallRegset : UserRegset where
  core_note_type := NT_ARM_SYSTEM_CALL
  n := 1
  size := 4
  align := 4

/-- The `pos` and `count` a regset can be called with. -/
abbrev UserRegset.Window (regset : UserRegset) := ByteObject.Window (regset.n * regset.size)

/-- `user_regset_copyin` on an `int`: the window, the user's bytes, the `int`, and the bounds
`start_pos` and `end_pos`; it returns a status and leaves an `int`. -/
abbrev UserRegsetCopyin := Window 4 → Buffer → IntBytes → Int → Int → Int × IntBytes

/-- `user_regset_copyout` on an `int`, which leaves a buffer instead. -/
abbrev UserRegsetCopyout := Window 4 → Buffer → IntBytes → Int → Int → Int × Buffer

/-- The window is copied, and nothing else written. -/
def CopiesIn (copyin : UserRegsetCopyin) : Prop :=
  ∀ win user data, (copyin win user data 0 (-1)).1 = 0 →
    (copyin win user data 0 (-1)).2 = win.write user data

/-- The window is copied to the start of the buffer. -/
def CopiesOut (copyout : UserRegsetCopyout) : Prop :=
  ∀ win buffer data, (copyout win buffer data 0 (-1)).1 = 0 →
    ∀ k : Fin win.count, (copyout win buffer data 0 (-1)).2 k = data (win.slot k)

variable {w : Nat}

/-- `task_pt_regs(target)`. -/
structure PtRegs (w : Nat) where
  syscallno : BitVec w

/-- The bytes of `(int)syscallno`. -/
def PtRegs.intBytes (regs : PtRegs w) : IntBytes := bytes (regs.syscallno.setWidth 32)

/-- `syscallno` is the value of an `int`. -/
def PtRegs.FitsInt (regs : PtRegs w) : Prop :=
  (regs.syscallno.setWidth 32).signExtend w = regs.syscallno

/-! ## The getter and the setter -/

def systemCallGet (copyout : UserRegsetCopyout) (regs : PtRegs w) (win : Window 4)
    (buffer : Buffer) : Int × Buffer :=
  let syscallno := regs.intBytes
  copyout win buffer syscallno 0 (-1)

def systemCallSet (copyin : UserRegsetCopyin) (stack : IntBytes) (regs : PtRegs w) (win : Window 4)
    (buffer : Buffer) : Int × PtRegs w :=
  -- `int syscallno, ret;`
  let syscallno := stack
  let (ret, syscallno) := copyin win buffer syscallno 0 (-1)
  if ret ≠ 0 then (ret, regs)
  -- all of the local is stored, whatever was copied to it
  else (ret, { regs with syscallno := (ofBytes syscallno : BitVec 32).signExtend w })

variable {copyin : UserRegsetCopyin} {copyout : UserRegsetCopyout} {stack : IntBytes}
  {regs : PtRegs w} {win : Window 4} {user : Buffer}

theorem systemCallSet_of_error (h : (copyin win user stack 0 (-1)).1 ≠ 0) :
    systemCallSet copyin stack regs win user = ((copyin win user stack 0 (-1)).1, regs) :=
  if_pos h

theorem systemCallSet_of_ok (hin : CopiesIn copyin) (h : (copyin win user stack 0 (-1)).1 = 0) :
    systemCallSet copyin stack regs win user =
      (0, ⟨(ofBytes (win.write user stack) : BitVec 32).signExtend w⟩) := by
  unfold systemCallSet
  dsimp only
  rw [if_neg (not_not.mpr h), h, hin win user stack h]

theorem fitsInt_signExtend (hw : 32 ≤ w) (v : BitVec 32) : PtRegs.FitsInt ⟨v.signExtend w⟩ := by
  unfold PtRegs.FitsInt
  rw [setWidth_signExtend hw]

theorem intBytes_signExtend (hw : 32 ≤ w) (b : IntBytes) :
    PtRegs.intBytes ⟨(ofBytes b : BitVec 32).signExtend w⟩ = b := by
  unfold PtRegs.intBytes
  rw [setWidth_signExtend hw]
  exact bytes_ofBytes b

/-! ## Proper partial updates -/

/-- What a write of `user` into the window owes a task whose registers were `regs`. On success the
window has the user's bytes, all other bytes of the `int` are those from before, and a read of the
same window gives the user's bytes back; an error leaves the registers alone. -/
structure ProperUpdate (copyout : UserRegsetCopyout) (regs : PtRegs w) (win : Window 4)
    (user : Buffer) (result : Int × PtRegs w) : Prop where
  inside : result.1 = 0 → ∀ i ∈ win.slots, result.2.intBytes i = user (i - win.pos)
  outside : result.1 = 0 → ∀ i ∉ win.slots, result.2.intBytes i = regs.intBytes i
  fitsInt : result.1 = 0 → result.2.FitsInt
  readBack : result.1 = 0 → ∀ buffer, (systemCallGet copyout result.2 win buffer).1 = 0 →
    ∀ k < win.count, (systemCallGet copyout result.2 win buffer).2 k = user k
  refused : result.1 ≠ 0 → result.2 = regs

theorem ProperUpdate.of_error {result : Int × PtRegs w} (hret : result.1 ≠ 0)
    (hregs : result.2 = regs) : ProperUpdate copyout regs win user result where
  inside h := absurd h hret
  outside h := absurd h hret
  fitsInt h := absurd h hret
  readBack h := absurd h hret
  refused _ := hregs

/-- Everything but the bytes outside the window is right whatever the stack held. -/
theorem ProperUpdate.of_outside {result : Int × PtRegs w} {stack : IntBytes}
    (hout : CopiesOut copyout) (hret : result.1 = 0) (hfits : result.2.FitsInt)
    (hbytes : result.2.intBytes = win.write user stack)
    (houtside : ∀ i ∉ win.slots, stack i = regs.intBytes i) :
    ProperUpdate copyout regs win user result where
  inside _ i hi := by rw [hbytes, Window.write_of_mem hi]
  outside _ i hi := by rw [hbytes, Window.write_of_notMem hi, houtside i hi]
  fitsInt _ := hfits
  readBack _ buffer hget k hk := by
    have hcopied := hout win buffer result.2.intBytes hget ⟨k, hk⟩
    apply hcopied.trans
    rw [hbytes, Window.write_slot]
  refused h := absurd hret h

/-- **A write is a proper partial update exactly when** the stack happened to hold the old bytes
outside the window, for one stack. -/
theorem properUpdate_iff (hin : CopiesIn copyin) (hout : CopiesOut copyout) (hw : 32 ≤ w)
    (regs : PtRegs w) (win : Window 4) (user : Buffer) (stack : IntBytes) :
    ProperUpdate copyout regs win user (systemCallSet copyin stack regs win user) ↔
      ((copyin win user stack 0 (-1)).1 = 0 → ∀ i ∉ win.slots, stack i = regs.intBytes i) := by
  by_cases hok : (copyin win user stack 0 (-1)).1 = 0
  · rw [systemCallSet_of_ok hin hok]
    have hbytes := intBytes_signExtend hw (win.write user stack)
    constructor
    · intro h _ i hi
      rw [← h.outside rfl i hi, hbytes, Window.write_of_notMem hi]
    · intro h
      exact .of_outside hout rfl (fitsInt_signExtend hw _) hbytes (h hok)
  · rw [systemCallSet_of_error hok]
    exact iff_of_true (.of_error hok rfl) fun h => absurd h hok

/-- For every stack at once, only a window of the whole `int` is proper. -/
theorem forall_properUpdate_iff (hin : CopiesIn copyin) (hout : CopiesOut copyout) (hw : 32 ≤ w)
    (regs : PtRegs w) (win : Window 4) (user : Buffer)
    (hok : ∀ stack, (copyin win user stack 0 (-1)).1 = 0) :
    (∀ stack, ProperUpdate copyout regs win user (systemCallSet copyin stack regs win user)) ↔
      win.count = 4 := by
  have : Nontrivial (BitVec 8) := ⟨0, 1, by decide⟩
  rw [← @Window.forall_write_eq_iff 4 _ win user regs.intBytes]
  apply forall_congr'
  intro stack
  rw [properUpdate_iff hin hout hw regs win user, Window.write_eq_write_iff]
  exact ⟨fun h => h (hok stack), fun h _ => h⟩

/-- **When writing the system-call regset is a proper partial update**: when nothing was copied or
the local happened to hold the old bytes outside the window. Where the copy succeeds, only a window
of the whole `int` makes that so whatever the stack held. -/
theorem systemCallSet_proper_iff (hin : CopiesIn copyin) (hout : CopiesOut copyout) (hw : 32 ≤ w)
    (regs : PtRegs w) (win : systemCallRegset.Window) (user : Buffer) :
    (∀ stack, ProperUpdate copyout regs win user (systemCallSet copyin stack regs win user) ↔
      ((copyin win user stack 0 (-1)).1 = 0 → ∀ i ∉ win.slots, stack i = regs.intBytes i)) ∧
    ((∀ stack, (copyin win user stack 0 (-1)).1 = 0) →
      ((∀ stack, ProperUpdate copyout regs win user (systemCallSet copyin stack regs win user)) ↔
        win.count = systemCallRegset.size)) :=
  ⟨properUpdate_iff hin hout hw regs win user, forall_properUpdate_iff hin hout hw regs win user⟩

/-- A `user_regset_copyin` on memory that is all there. -/
def directCopyin : UserRegsetCopyin := fun win user data _ _ => (0, win.write user data)

/-- A `user_regset_copyout` on memory that is all there. -/
def directCopyout : UserRegsetCopyout := fun win buffer data _ _ =>
  (0, fun k => if hk : k < win.count then data (win.slot ⟨k, hk⟩) else buffer k)

theorem copiesIn_directCopyin : CopiesIn directCopyin := fun _ _ _ _ => rfl

theorem copiesOut_directCopyout : CopiesOut directCopyout := fun _ _ _ _ k => dif_pos k.isLt

/-- The whole `int` is written, over a stack full of `0xff`. -/
theorem systemCallSet_proper_iff_whole :
    ProperUpdate directCopyout (⟨63⟩ : PtRegs 64) ⟨0, 4, by decide⟩ (fun _ => 0)
      (systemCallSet directCopyin (fun _ => 0xff) ⟨63⟩ ⟨0, 4, by decide⟩ fun _ => 0) := by
  obtain ⟨-, hwhole⟩ := systemCallSet_proper_iff copiesIn_directCopyin copiesOut_directCopyout
    (show 32 ≤ 64 by decide) ⟨63⟩ ⟨0, 4, by decide⟩ fun _ => 0
  exact (hwhole fun _ => rfl).mpr rfl _

/-- An empty window, and the stack is stored: system call 63 becomes -1. -/
theorem not_properUpdate_empty :
    ¬ ∀ (copyin : UserRegsetCopyin) (copyout : UserRegsetCopyout) (stack : IntBytes)
      (regs : PtRegs 64) (win : Window 4) (user : Buffer),
      CopiesIn copyin → CopiesOut copyout → regs.FitsInt →
      ProperUpdate copyout regs win user (systemCallSet copyin stack regs win user) := by
  intro h
  have hproper := h directCopyin directCopyout (fun _ => 0xff) ⟨63⟩ ⟨0, 0, by decide⟩ (fun _ => 0)
    copiesIn_directCopyin copiesOut_directCopyout (by unfold PtRegs.FitsInt; decide)
  have hstack := (properUpdate_iff copiesIn_directCopyin copiesOut_directCopyout (by decide)
    ⟨63⟩ ⟨0, 0, by decide⟩ (fun _ => 0) fun _ => 0xff).mp hproper rfl 0
    (fun hmem => Nat.not_lt_zero _ hmem.2)
  exact absurd hstack (by decide)

end Mozart.Ptrace
