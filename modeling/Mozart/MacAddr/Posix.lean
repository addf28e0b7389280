import Mathlib.Tactic.SplitIfs
import Mozart.Lib.Dialogue

/-!
# The system calls of the MAC address helper

The calls `mac_addr_normalization.cpp` makes, what each may answer, and what it does to the files.
A failing call answers with its `errno` and leaves the files alone; nothing is assumed about when a
call fails. No other process touches the files, save the vendor helper, whose whole effect comes
with the answer of `fork`.

* **`World`**: the files by path, the open descriptors, and the calls made so far with their
  answers.
* **`World.respond`**: what the answer to a call does; `none` for an answer the call cannot give.
  `rename` and `unlink` are atomic, `write` takes any part of the data, `fsync` marks what a power
  failure would leave.
* **`env`**: the environment in which an oracle, which sees the whole history, picks the answers.
-/

namespace Mozart.MacAddr

open Dialogue

/-- The error numbers the source tells apart. -/
inductive Errno
  | EINTR
  | ENOENT
  | other (code : Nat)
deriving DecidableEq

/-- A regular file. `synced` tells that nothing was written since the last `fsync`. -/
structure File where
  content : List UInt8
  uid : UInt32
  gid : UInt32
  mode : UInt32
  synced : Bool
deriving DecidableEq

/-- An open descriptor: no descriptor stays open on a file that is unlinked or renamed, so the
file is known by its path. -/
structure OpenFile where
  path : String
  offset : Nat
deriving DecidableEq

/-- The random device: a path whose reads are not those of a file. -/
def kRandomPath : String := "/dev/urandom"

inductive Call
  /-- `open` with `O_RDONLY`. -/
  | openRead (path : String)
  /-- `open` with `O_WRONLY | O_CREAT | O_EXCL`. -/
  | openCreate (path : String) (mode : UInt32)
  | read (fd size : Nat)
  | write (fd : Nat) (data : List UInt8)
  | fchmod (fd : Nat) (mode : UInt32)
  | fchown (fd : Nat) (uid : UInt32) (gid : UInt32)
  | fsync (fd : Nat)
  | close (fd : Nat)
  | unlink (path : String)
  | rename (oldPath newPath : String)
  | fork
  | waitpid (child : Nat)
deriving DecidableEq

/-- The owner, the group and the mode a new file gets. -/
structure Attributes where
  uid : UInt32
  gid : UInt32
  mode : UInt32

/-- A started helper, and the files as it leaves them. -/
structure Child where
  pid : Nat
  fs : String → Option File

/-- What a successful call answers. -/
abbrev Value : Call → Type
  | .openRead _ => Nat
  | .openCreate _ _ => Nat × Attributes
  | .read _ size => {bytes : List UInt8 // bytes.length ≤ size}
  | .write _ data => Fin (data.length + 1)
  | .fork => Child
  | _ => Unit

abbrev Answer (c : Call) : Type := Except Errno (Value c)

/-- A call with its answer. -/
abbrev Entry : Type := Σ c, Answer c

structure World where
  fs : String → Option File
  descriptors : List (Nat × OpenFile)
  /-- The calls made so far, newest first. -/
  log : List Entry

namespace World

variable (w : World)

def openFile? (fd : Nat) : Option OpenFile := w.descriptors.lookup fd

/-- The answered calls of `w` that `w₀` does not have yet. -/
def since (w₀ : World) : List Entry := w.log.take (w.log.length - w₀.log.length)

def setFile (path : String) (file : Option File) : World :=
  { w with fs := Function.update w.fs path file }

def setOpenFile (fd : Nat) (file : OpenFile) : World :=
  { w with descriptors := (fd, file) :: w.descriptors }

def closeFile (fd : Nat) : World :=
  { w with descriptors := w.descriptors.filter (·.1 ≠ fd) }

/-- A change to the file an open descriptor stands for. -/
def modify (fd : Nat) (f : File → File) : Option World := do
  let file ← w.openFile? fd
  let old ← w.fs file.path
  some (w.setFile file.path (some (f old)))

/-- `read`: any bytes from the random device, and from a file those at the offset, up to `size` or
the end of the file. -/
def readFile (fd size : Nat) (bytes : List UInt8) : Option World := do
  let file ← w.openFile? fd
  if file.path = kRandomPath then some w
  else
    let old ← w.fs file.path
    if bytes = (old.content.drop file.offset).take size then
      some (w.setOpenFile fd { file with offset := file.offset + bytes.length })
    else none

/-- `write`: `data` is the part of the buffer that was taken. -/
def writeFile (fd : Nat) (data : List UInt8) : Option World := do
  let file ← w.openFile? fd
  let w₁ ← w.modify fd fun old =>
    { old with
      content := old.content.take file.offset ++ data ++
        old.content.drop (file.offset + data.length)
      synced := false }
  some (w₁.setOpenFile fd { file with offset := file.offset + data.length })

/-- What a successful call does. -/
def succeed : (c : Call) → Value c → Option World
  | .openRead path, fd =>
    if (w.openFile? fd).isNone ∧ (path = kRandomPath ∨ (w.fs path).isSome) then
      some (w.setOpenFile fd ⟨path, 0⟩)
    else none
  | .openCreate path _, (fd, attributes) =>
    if (w.openFile? fd).isNone ∧ (w.fs path).isNone then
      some ((w.setFile path (some ⟨[], attributes.uid, attributes.gid, attributes.mode, false⟩))
        |>.setOpenFile fd ⟨path, 0⟩)
    else none
  | .read fd size, bytes => w.readFile fd size bytes.1
  | .write fd data, count => w.writeFile fd (data.take count)
  | .fchmod fd mode, _ => w.modify fd fun file => { file with mode }
  | .fchown fd uid gid, _ => w.modify fd fun file => { file with uid, gid }
  | .fsync fd, _ => w.modify fd fun file => { file with synced := true }
  | .close fd, _ => some (w.closeFile fd)
  | .unlink path, _ => (w.fs path).map fun _ => w.setFile path none
  | .rename oldPath newPath, _ =>
    (w.fs oldPath).map fun file => (w.setFile oldPath none).setFile newPath (some file)
  | .fork, child => some { w with fs := child.fs }
  | .waitpid _, _ => some w

/-- What a failing call does: `close` gives its descriptor up all the same. -/
def fail : Call → World
  | .close fd => w.closeFile fd
  | _ => w

/-- What the answer to a call does, `none` where the call cannot answer so. -/
def respond (c : Call) (answer : Answer c) : Option World :=
  (match answer with
    | .error _ => some (w.fail c)
    | .ok value => w.succeed c value).map fun w' : World => { w' with log := ⟨c, answer⟩ :: w.log }

end World

/-- Picks the answer to a call; the history is part of the world. -/
abbrev Oracle : Type := World → (c : Call) → Answer c

/-- The environment in which `oracle` picks the answers. -/
def env (oracle : Oracle) : Env Call Answer World := fun w c =>
  (w.respond c (oracle w c)).map fun w' => (oracle w c, w')

/-! ## What an answer tells -/

section Answers

variable {oracle : Oracle} {w w' : World} {c : Call} {path : String} {fd : Nat}

theorem env_eq_some {answer : Answer c} (h : env oracle w c = some (answer, w')) :
    oracle w c = answer ∧ w.respond c answer = some w' := by
  obtain ⟨w₁, hrespond, hpair⟩ := Option.map_eq_some_iff.mp h
  cases hpair
  exact ⟨rfl, hrespond⟩

namespace World

@[simp] theorem openFile?_setOpenFile (file : OpenFile) :
    (w.setOpenFile fd file).openFile? fd = some file := by
  simp [setOpenFile, openFile?]

theorem respond_log {answer : Answer c} (h : w.respond c answer = some w') :
    w'.log = ⟨c, answer⟩ :: w.log := by
  obtain ⟨w₁, -, rfl⟩ := Option.map_eq_some_iff.mp h
  rfl

theorem respond_error {e : Errno} (h : w.respond c (.error e) = some w') : w'.fs = w.fs := by
  obtain ⟨w₁, hfail, rfl⟩ := Option.map_eq_some_iff.mp h
  cases hfail
  cases c <;> rfl

theorem respond_error_openFile? {e : Errno} (h : w.respond c (.error e) = some w')
    (hc : ∀ fd, c ≠ .close fd) : w'.openFile? fd = w.openFile? fd := by
  obtain ⟨w₁, hfail, rfl⟩ := Option.map_eq_some_iff.mp h
  cases hfail
  cases c with
  | close fd' => exact absurd rfl (hc fd')
  | _ => rfl

theorem respond_ok {value : Value c} (h : w.respond c (.ok value) = some w') :
    ∃ w₁, w.succeed c value = some w₁ ∧ w'.fs = w₁.fs ∧ w'.descriptors = w₁.descriptors := by
  obtain ⟨w₁, hsucceed, rfl⟩ := Option.map_eq_some_iff.mp h
  exact ⟨w₁, hsucceed, rfl, rfl⟩

theorem respond_openRead (h : w.respond (.openRead path) (.ok fd) = some w') :
    w'.fs = w.fs ∧ w'.openFile? fd = some ⟨path, 0⟩ := by
  obtain ⟨w₁, hsucceed, hfs, hdescriptors⟩ := respond_ok h
  simp only [succeed] at hsucceed
  split_ifs at hsucceed
  cases hsucceed
  exact ⟨hfs, by simp [openFile?, hdescriptors, setOpenFile]⟩

theorem respond_openCreate {mode : UInt32} {attributes : Attributes}
    (h : w.respond (.openCreate path mode) (.ok (fd, attributes)) = some w') :
    w.fs path = none ∧ w'.openFile? fd = some ⟨path, 0⟩ ∧
      w'.fs = Function.update w.fs path
        (some ⟨[], attributes.uid, attributes.gid, attributes.mode, false⟩) := by
  obtain ⟨w₁, hsucceed, hfs, hdescriptors⟩ := respond_ok h
  simp only [succeed] at hsucceed
  split_ifs at hsucceed with hfresh
  cases hsucceed
  exact ⟨Option.isNone_iff_eq_none.mp hfresh.2, by simp [openFile?, hdescriptors, setOpenFile],
    hfs⟩

theorem readFile_eq_some {size : Nat} {bytes : List UInt8}
    (h : w.readFile fd size bytes = some w') :
    ∃ file, w.openFile? fd = some file ∧ w'.fs = w.fs ∧ (file.path ≠ kRandomPath →
      ∃ old, w.fs file.path = some old ∧ bytes = (old.content.drop file.offset).take size) := by
  obtain ⟨file, hfile, h⟩ := Option.bind_eq_some_iff.mp h
  split_ifs at h with hrandom
  · cases h
    exact ⟨file, hfile, rfl, fun hne => absurd hrandom hne⟩
  · obtain ⟨old, hold, h⟩ := Option.bind_eq_some_iff.mp h
    split_ifs at h with hbytes
    cases h
    exact ⟨file, hfile, rfl, fun _ => ⟨old, hold, hbytes⟩⟩

theorem modify_eq_some {f : File → File} (h : w.modify fd f = some w') :
    ∃ file old, w.openFile? fd = some file ∧ w.fs file.path = some old ∧
      w'.fs = Function.update w.fs file.path (some (f old)) ∧
      w'.descriptors = w.descriptors := by
  obtain ⟨file, hfile, h⟩ := Option.bind_eq_some_iff.mp h
  obtain ⟨old, hold, h⟩ := Option.bind_eq_some_iff.mp h
  cases h
  exact ⟨file, old, hfile, hold, rfl, rfl⟩

theorem writeFile_eq_some {data : List UInt8} (h : w.writeFile fd data = some w') :
    ∃ file old, w.openFile? fd = some file ∧ w.fs file.path = some old ∧
      w'.fs = Function.update w.fs file.path (some { old with
        content := old.content.take file.offset ++ data ++
          old.content.drop (file.offset + data.length)
        synced := false }) ∧
      w'.openFile? fd = some { file with offset := file.offset + data.length } := by
  obtain ⟨file, hfile, h⟩ := Option.bind_eq_some_iff.mp h
  obtain ⟨w₁, hmodify, h⟩ := Option.bind_eq_some_iff.mp h
  obtain ⟨file', old, hfile', hold, hfs, -⟩ := modify_eq_some hmodify
  cases hfile.symm.trans hfile'
  cases h
  exact ⟨file, old, hfile, hold, hfs, openFile?_setOpenFile _⟩

theorem respond_unlink (h : w.respond (.unlink path) (.ok ()) = some w') :
    w'.fs = Function.update w.fs path none := by
  obtain ⟨w₁, hsucceed, hfs, -⟩ := respond_ok h
  obtain ⟨file, -, rfl⟩ := Option.map_eq_some_iff.mp hsucceed
  exact hfs

theorem respond_rename {newPath : String}
    (h : w.respond (.rename path newPath) (.ok ()) = some w') :
    ∃ file, w.fs path = some file ∧
      w'.fs = Function.update (Function.update w.fs path none) newPath (some file) := by
  obtain ⟨w₁, hsucceed, hfs, -⟩ := respond_ok h
  obtain ⟨file, hfile, rfl⟩ := Option.map_eq_some_iff.mp hsucceed
  exact ⟨file, hfile, hfs⟩

theorem since_of_append {calls : List Entry} (h : w'.log = calls ++ w.log) :
    w'.since w = calls := by
  simp [since, h]

end World

/-! ## Rules for calls -/

variable {α : Type} {I : World → Prop} {Q : α → World → Prop}

/-- A call whose failure and success are looked at. -/
theorem holds_call {f : Answer c → Prog Call Answer α} (hI : I w)
    (herror : ∀ e w₁, oracle w c = .error e → w.respond c (.error e) = some w₁ →
      Holds (env oracle) (f (.error e)) w₁ I Q)
    (hok : ∀ value w₁, oracle w c = .ok value → w.respond c (.ok value) = some w₁ →
      Holds (env oracle) (f (.ok value)) w₁ I Q) : Holds (env oracle) (call c >>= f) w I Q := by
  refine Holds.call_bind hI fun answer w₁ h => ?_
  obtain ⟨horacle, hrespond⟩ := env_eq_some h
  cases answer with
  | error e => exact herror e w₁ horacle hrespond
  | ok value => exact hok value w₁ horacle hrespond

def Call.ReadsOnly : Call → Prop
  | .openRead _ | .read _ _ | .close _ => True
  | _ => False

/-- Only reading leads from `w` to `w'`. -/
def World.ReadOnlyTo (w w' : World) : Prop :=
  w'.fs = w.fs ∧ ∃ calls, w'.log = calls ++ w.log ∧ ∀ entry ∈ calls, entry.1.ReadsOnly

theorem World.ReadOnlyTo.refl : w.ReadOnlyTo w := ⟨rfl, [], rfl, by simp⟩

theorem World.ReadOnlyTo.trans {w₁ w₂ w₃ : World} (h : w₁.ReadOnlyTo w₂)
    (h' : w₂.ReadOnlyTo w₃) : w₁.ReadOnlyTo w₃ := by
  obtain ⟨hfs, calls, hlog, hcalls⟩ := h
  obtain ⟨hfs', calls', hlog', hcalls'⟩ := h'
  refine ⟨hfs'.trans hfs, calls' ++ calls, by simp [hlog', hlog], fun entry hentry => ?_⟩
  obtain h | h := List.mem_append.mp hentry
  · exact hcalls' entry h
  · exact hcalls entry h

theorem World.respond_readsOnly {answer : Answer c} (hc : c.ReadsOnly)
    (h : w.respond c answer = some w') : w.ReadOnlyTo w' := by
  refine ⟨?_, [⟨c, answer⟩], respond_log h, by simpa using hc⟩
  cases answer with
  | error e => exact respond_error h
  | ok value =>
    cases c with
    | openRead path => exact (respond_openRead h).1
    | read fd size =>
      obtain ⟨w₁, hsucceed, hfs, -⟩ := respond_ok h
      obtain ⟨file, -, hfs₁, -⟩ := readFile_eq_some hsucceed
      exact hfs.trans hfs₁
    | close fd =>
      obtain ⟨w₁, hsucceed, hfs, -⟩ := respond_ok h
      cases hsucceed
      exact hfs
    | _ => exact hc.elim

/-- A program that only reads leaves the files alone. -/
theorem holds_readsOnly {p : Prog Call Answer α} (h : OnlyCalls Call.ReadsOnly p) (w : World) :
    Holds (env oracle) p w w.ReadOnlyTo (fun _ => w.ReadOnlyTo) :=
  Holds.of_onlyCalls (p := p) (S := Call.ReadsOnly) (r := World.ReadOnlyTo) (fun _ => .refl)
    (fun _ _ _ => .trans)
    (fun _ _ _ _ hc henv => World.respond_readsOnly hc (env_eq_some henv).2) h w

/-- The history only grows. -/
theorem Holds.log {p : Prog Call Answer α} (w : World) :
    Holds (env oracle) p w (fun w' => w.log <:+ w'.log) (fun _ w' => w.log <:+ w'.log) :=
  Holds.of_onlyCalls (r := fun w₁ w₂ => w₁.log <:+ w₂.log) (fun _ => List.suffix_rfl)
    (fun w₁ w₂ w₃ (h : w₁.log <:+ w₂.log) (h' : w₂.log <:+ w₃.log) => h.trans h')
    (fun w₁ c answer w₂ _ henv => by
      rw [World.respond_log (env_eq_some henv).2]
      exact List.suffix_cons _ _)
    (OnlyCalls.of_forall (S := fun _ => True) (fun _ => trivial) p) w

end Answers

end Mozart.MacAddr
