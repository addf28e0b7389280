import Mozart.Lib.Typestate
import Mozart.MacAddr.Main

/-!
# The descriptors of `mac_addr_normalization.cpp`

Every function that opens a file closes it again, on each of its ways out, and does nothing in
between but call for it: no file is unlinked or renamed, and no helper is started, while a
descriptor is open. This is a protocol the calls follow, whatever they answer; the state of the
protocol is the descriptor that is open.

* **`obeys_main`**: `main` follows the protocol and returns with no descriptor open.
* **`main_descriptors`**: so in every run no call is made with a closed descriptor, none is closed
  twice, and the descriptors that were open before are open afterwards, and no others.
-/

namespace Mozart.MacAddr

open Dialogue

/-! ## The protocol -/

/-- The descriptor a call is about. -/
def Call.descriptor? : Call → Option Nat
  | .read fd _ | .write fd _ | .fchmod fd _ | .fchown fd _ _ | .fsync fd | .close fd => some fd
  | .openRead _ | .openCreate _ _ | .unlink _ | .rename _ _ | .fork | .waitpid _ => none

/-- The descriptor that is open after a call, where `held` was open before. -/
def Call.leaves (held : Option Nat) : (c : Call) → Answer c → Option Nat
  | .openRead _, .ok fd => some fd
  | .openCreate _ _, .ok (fd, _) => some fd
  | .close _, _ => none
  | _, _ => held

/-- A call about a descriptor is made while that one is open, any other call while none is. -/
def descriptorProtocol (held : Option Nat) (c : Call) (answer : Answer c) : Option (Option Nat) :=
  if c.descriptor? = held then some (c.leaves held answer) else none

theorem descriptorProtocol_eq_some {held held' : Option Nat} {c : Call} {answer : Answer c}
    (h : descriptorProtocol held c answer = some held') :
    c.descriptor? = held ∧ held' = c.leaves held answer := by
  unfold descriptorProtocol at h
  split at h
  · next hdescriptor =>
    cases h
    exact ⟨hdescriptor, rfl⟩
  · cases h

/-- The descriptor that some calls leave open, the newest call first. -/
def heldAfter : List Entry → Option Nat
  | [] => none
  | ⟨c, answer⟩ :: earlier => c.leaves (heldAfter earlier) answer

/-- Each call was made in accordance with the protocol. -/
def Disciplined (log : List Entry) : Prop :=
  ∀ entry earlier, entry :: earlier <:+ log → entry.1.descriptor? = heldAfter earlier

theorem Disciplined.cons {entry : Entry} {log : List Entry} (h : Disciplined log)
    (hentry : entry.1.descriptor? = heldAfter log) : Disciplined (entry :: log) := by
  intro entry' earlier hsuffix
  obtain heq | hshorter := List.suffix_cons_iff.mp hsuffix
  · cases heq
    exact hentry
  · exact h entry' earlier hshorter

/-! ## The programs follow the protocol -/

section Programs

variable {held : Option Nat} {fd : Nat}

/-- A call in accordance with the protocol. -/
theorem obeys_call {α : Type} {c : Call} {f : Answer c → Prog α}
    {Q : α → Option Nat → Prop} (hc : c.descriptor? = held)
    (hf : ∀ answer, Obeys descriptorProtocol (c.leaves held answer) (f answer) Q) :
    Obeys descriptorProtocol held (call c >>= f) Q := by
  apply Obeys.call_bind
  intro answer
  exact ⟨c.leaves held answer, if_pos hc, hf answer⟩

/-- What is left open does not change. -/
abbrev Keeps {α : Type} (held : Option Nat) (p : Prog α) : Prop :=
  Obeys descriptorProtocol held p fun _ held' => held' = held

theorem keeps_succeeds {c : Call} (hc : c.descriptor? = held)
    (hleaves : ∀ answer, c.leaves held answer = held) : Keeps held (succeeds c) := by
  refine obeys_call hc fun answer => ?_
  rw [hleaves answer]
  cases answer with
  | error e => exact .pure rfl
  | ok value => exact .pure rfl

theorem keeps_andM {p q : Prog Bool} (hp : Keeps held p) (hq : Keeps held q) :
    Keeps held (p <&&> q) := by
  apply hp.andM (fun _ h => h)
  intro held' h
  rw [h]
  exact hq

theorem keeps_orM {p q : Prog Bool} (hp : Keeps held p) (hq : Keeps held q) :
    Keeps held (p <||> q) := by
  apply hp.orM (fun _ h => h)
  intro held' h
  rw [h]
  exact hq

theorem keeps_readFully (size : Nat) : Keeps (some fd) (readFully fd size) := by
  apply Obeys.loop fun _ held => held = some fd
  · rfl
  · intro data held hheld
    rw [hheld]
    split
    · exact .pure rfl
    · refine obeys_call rfl fun answer => ?_
      split
      · exact .pure rfl
      · exact .pure rfl
      · split
        · exact .pure rfl
        · exact .pure rfl

theorem keeps_writeFully (data : List UInt8) : Keeps (some fd) (writeFully fd data) := by
  apply Obeys.loop fun _ held => held = some fd
  · rfl
  · intro rest held hheld
    rw [hheld]
    split
    · exact .pure rfl
    · refine obeys_call rfl fun answer => ?_
      split
      · exact .pure rfl
      · exact .pure rfl
      · exact .pure rfl

theorem keeps_hasValidMac (path : String) : Keeps none (hasValidMac path) := by
  refine obeys_call rfl fun answer => ?_
  cases answer with
  | error e => exact .pure rfl
  | ok fd =>
    -- interrupted reads are repeated, and then the file is closed whatever was read
    apply Obeys.bind (R := fun _ held => held = some fd)
    · apply Obeys.loop fun _ held => held = some fd
      · rfl
      · intro _ held hheld
        rw [hheld]
        refine obeys_call rfl fun answer => ?_
        split
        · exact .pure rfl
        · exact .pure rfl
        · exact .pure rfl
    · intro bytes held hheld
      rw [hheld]
      refine obeys_call rfl fun answer => ?_
      cases bytes with
      | none => exact .pure rfl
      | some buffer => exact .pure rfl

theorem keeps_runVendorHelper : Keeps none runVendorHelper := by
  refine obeys_call rfl fun answer => ?_
  cases answer with
  | error e => exact .pure rfl
  | ok child =>
    apply Obeys.loop fun _ held => held = none
    · rfl
    · intro _ held hheld
      rw [hheld]
      refine obeys_call rfl fun answer => ?_
      split
      · exact .pure rfl
      · exact .pure rfl

theorem keeps_generateMac : Keeps none generateMac := by
  refine obeys_call rfl fun answer => ?_
  cases answer with
  | error e => exact .pure rfl
  | ok fd =>
    apply (keeps_readFully 6).bind
    intro success held hheld
    rw [hheld]
    refine obeys_call rfl fun answer => ?_
    cases success with
    | none => exact .pure rfl
    | some data => exact .pure rfl

/-- The new file is closed, whether or not everything was written. -/
theorem obeys_writeTemporary (fd : Nat) (text : List UInt8) (uid gid : UInt32) :
    Obeys descriptorProtocol (some fd) (writeTemporary fd text uid gid)
      fun _ held => held = none := by
  apply Obeys.bind (R := fun _ held => held = some fd)
  · have hkeeps : ∀ c : Call, c.descriptor? = some fd →
        (∀ answer, c.leaves (some fd) answer = some fd) → Keeps (some fd) (succeeds c) :=
      fun c => keeps_succeeds
    have hfchmod := hkeeps (.fchmod fd 0o660) rfl fun _ => rfl
    have hfchown := hkeeps (.fchown fd uid gid) rfl fun _ => rfl
    have hfsync := hkeeps (.fsync fd) rfl fun _ => rfl
    exact keeps_andM hfchmod (keeps_andM hfchown (keeps_andM (keeps_writeFully text) hfsync))
  · intro success held hheld
    rw [hheld]
    apply Obeys.bind (R := fun _ held => held = none)
    · refine obeys_call rfl fun answer => ?_
      cases answer with
      | error e => exact .pure rfl
      | ok value => exact .pure rfl
    · intro closed held hheld
      exact .pure hheld

theorem keeps_storeMac (path : String) (uid gid : UInt32) :
    Keeps none (storeMac path uid gid) := by
  apply keeps_generateMac.bind
  intro address held hheld
  rw [hheld]
  cases address with
  | none => exact .pure rfl
  | some address =>
    show Keeps none (if (formatMac address).length ≠ 17 then _ else _)
    split
    · exact .pure rfl
    · refine obeys_call rfl fun removed => ?_
      show Keeps none _
      split
      · exact .pure rfl
      · refine obeys_call rfl fun answer => ?_
        cases answer with
        | error e => exact .pure rfl
        | ok created =>
          apply (obeys_writeTemporary created.1 _ uid gid).bind
          intro written held hheld
          rw [hheld]
          split
          · refine obeys_call rfl fun answer => ?_
            exact .pure rfl
          · apply (keeps_succeeds (c := .rename _ path) rfl fun _ => rfl).bind
            intro renamed held hheld
            rw [hheld]
            split
            · refine obeys_call rfl fun answer => ?_
              exact .pure rfl
            · exact .pure rfl

theorem keeps_ensureMac (path : String) (uid gid : UInt32) :
    Keeps none (ensureMac path uid gid) :=
  keeps_orM (keeps_hasValidMac path) (keeps_storeMac path uid gid)

theorem keeps_helperStep : Keeps none helperStep := by
  have hmissing : ∀ path, Keeps none (not <$> hasValidMac path) := by
    intro path
    apply (keeps_hasValidMac path).bind
    intro valid held hheld
    exact .pure hheld
  apply (keeps_orM (hmissing kBluetoothPath) (hmissing kWifiPath)).bind
  intro missing held hheld
  rw [hheld]
  split
  · exact keeps_runVendorHelper
  · exact .pure rfl

theorem obeys_main : Keeps none main := by
  apply keeps_helperStep.bind
  intro _ held hheld
  rw [hheld]
  apply (keeps_ensureMac kBluetoothPath kBluetoothUid kBluetoothGid).bind
  intro bluetoothOk held hheld
  rw [hheld]
  apply (keeps_ensureMac kWifiPath kSystemUid kWifiGid).bind
  intro wifiOk held hheld
  exact .pure hheld

end Programs

/-! ## What the system keeps open -/

section Worlds

variable {oracle : Oracle} {w w' base : World} {c : Call} {answer : Answer c}
variable {held held' : Option Nat} {fd fd' : Nat}

theorem openFile?_setOpenFile_of_ne {file : OpenFile} (h : fd' ≠ fd) :
    (w.setOpenFile fd file).openFile? fd' = w.openFile? fd' := by
  unfold World.setOpenFile World.openFile?
  rw [List.lookup_cons, beq_false_of_ne h]

theorem openFile?_closeFile : (w.closeFile fd).openFile? fd = none := by
  unfold World.closeFile World.openFile?
  rw [List.lookup_eq_none_iff]
  intro entry hentry
  have hne : entry.1 ≠ fd := of_decide_eq_true (List.mem_filter.mp hentry).2
  exact bne_iff_ne.mpr hne.symm

theorem openFile?_closeFile_of_ne (h : fd' ≠ fd) :
    (w.closeFile fd).openFile? fd' = w.openFile? fd' := by
  unfold World.closeFile World.openFile?
  induction w.descriptors with
  | nil => rfl
  | cons entry rest ih =>
    obtain ⟨number, file⟩ := entry
    by_cases hnumber : number = fd
    · have hother : (fd' == number) = false := beq_false_of_ne fun heq => h (heq.trans hnumber)
      rw [List.filter_cons_of_neg (by simpa using hnumber), ih, List.lookup_cons, hother]
    · rw [List.filter_cons_of_pos (by simpa using hnumber), List.lookup_cons, List.lookup_cons, ih]

/-- What an answered call does to the descriptors: it keeps its own one open, or opens one that
was not, or closes its own. -/
theorem respond_openFile? (h : w.respond c answer = some w') :
    (c.leaves c.descriptor? answer = c.descriptor? ∧ ∀ fd, w'.openFile? fd = w.openFile? fd ∨
        c.descriptor? = some fd ∧ w'.openFile? fd ≠ none) ∨
      (c.descriptor? = none ∧ ∃ fd file, c.leaves none answer = some fd ∧
        w.openFile? fd = none ∧ w'.openFile? = (w.setOpenFile fd file).openFile?) ∨
      ∃ fd, c.descriptor? = some fd ∧ c.leaves (some fd) answer = none ∧
        w'.openFile? = (w.closeFile fd).openFile? := by
  obtain ⟨w₁, hmatch, rfl⟩ := Option.map_eq_some_iff.mp h
  -- the call's own descriptor, where it is read from or written to
  have hown : ∀ fd, c.descriptor? = some fd → c.leaves (some fd) answer = some fd →
      ∀ w₂ : World, ∀ file, w₂.descriptors = w.descriptors → w₁ = w₂.setOpenFile fd file →
      c.leaves c.descriptor? answer = c.descriptor? ∧ ∀ fd, w₁.openFile? fd = w.openFile? fd ∨
        c.descriptor? = some fd ∧ w₁.openFile? fd ≠ none := by
    intro fd hfd hleaves w₂ file hsame hset
    rw [hfd, hset]
    refine ⟨hleaves, ?_⟩
    intro fd'
    by_cases hne : fd' = fd
    · right
      rw [hne, World.openFile?_setOpenFile]
      exact ⟨rfl, nofun⟩
    · left
      rw [openFile?_setOpenFile_of_ne hne]
      unfold World.openFile?
      rw [hsame]
  have hsame : c.leaves c.descriptor? answer = c.descriptor? → w₁.descriptors = w.descriptors →
      c.leaves c.descriptor? answer = c.descriptor? ∧ ∀ fd, w₁.openFile? fd = w.openFile? fd ∨
        c.descriptor? = some fd ∧ w₁.openFile? fd ≠ none := by
    intro hleaves hdescriptors
    refine ⟨hleaves, ?_⟩
    intro fd
    left
    unfold World.openFile?
    rw [hdescriptors]
  cases answer with
  | error e =>
    cases hmatch
    cases c with
    | close fd => exact .inr (.inr ⟨fd, rfl, rfl, rfl⟩)
    | _ => exact .inl (hsame rfl rfl)
  | ok value =>
    cases c with
    | openRead path =>
      change (if (w.openFile? value).isNone ∧ _ then _ else _) = _ at hmatch
      split at hmatch
      · next hfresh =>
        cases hmatch
        have hnone := Option.isNone_iff_eq_none.mp hfresh.1
        exact .inr (.inl ⟨rfl, value, ⟨path, 0⟩, rfl, hnone, rfl⟩)
      · cases hmatch
    | openCreate path mode =>
      obtain ⟨fd, attributes⟩ := value
      change (if (w.openFile? fd).isNone ∧ _ then _ else _) = _ at hmatch
      split at hmatch
      · next hfresh =>
        cases hmatch
        have hnone := Option.isNone_iff_eq_none.mp hfresh.1
        exact .inr (.inl ⟨rfl, fd, ⟨path, 0⟩, rfl, hnone, rfl⟩)
      · cases hmatch
    | read fd size =>
      obtain ⟨file, -, hread⟩ := Option.bind_eq_some_iff.mp hmatch
      split at hread
      · cases hread
        exact .inl (hsame rfl rfl)
      · obtain ⟨old, -, hread⟩ := Option.bind_eq_some_iff.mp hread
        split at hread
        · cases hread
          exact .inl (hown fd rfl rfl w _ rfl rfl)
        · cases hread
    | write fd data =>
      obtain ⟨file, -, hwrite⟩ := Option.bind_eq_some_iff.mp hmatch
      obtain ⟨w₂, hmodify, hwrite⟩ := Option.bind_eq_some_iff.mp hwrite
      cases hwrite
      obtain ⟨_, _, _, _, _, hdescriptors⟩ := World.modify_eq_some hmodify
      exact .inl (hown fd rfl rfl w₂ _ hdescriptors rfl)
    | close fd =>
      cases hmatch
      exact .inr (.inr ⟨fd, rfl, rfl, rfl⟩)
    | fork =>
      cases hmatch
      exact .inl (hsame rfl rfl)
    | waitpid child =>
      cases hmatch
      exact .inl (hsame rfl rfl)
    | unlink path =>
      obtain ⟨file, -, rfl⟩ := Option.map_eq_some_iff.mp hmatch
      exact .inl (hsame rfl rfl)
    | rename path newPath =>
      obtain ⟨file, -, rfl⟩ := Option.map_eq_some_iff.mp hmatch
      exact .inl (hsame rfl rfl)
    | fchmod fd mode =>
      obtain ⟨_, _, _, _, _, hdescriptors⟩ := World.modify_eq_some hmatch
      exact .inl (hsame rfl hdescriptors)
    | fchown fd uid gid =>
      obtain ⟨_, _, _, _, _, hdescriptors⟩ := World.modify_eq_some hmatch
      exact .inl (hsame rfl hdescriptors)
    | fsync fd =>
      obtain ⟨_, _, _, _, _, hdescriptors⟩ := World.modify_eq_some hmatch
      exact .inl (hsame rfl hdescriptors)

/-- The descriptor `held` is open beyond those of `base`, and the calls so far followed the
protocol. -/
structure Holding (base : World) (held : Option Nat) (w : World) : Prop where
  disciplined : Disciplined w.log
  now : heldAfter w.log = held
  others : ∀ fd, held ≠ some fd → w.openFile? fd = base.openFile? fd
  own : ∀ fd, held = some fd → base.openFile? fd = none ∧ w.openFile? fd ≠ none

theorem Holding.step (h : Holding base held w) (henv : env oracle w c = some (answer, w'))
    (hnext : descriptorProtocol held c answer = some held') : Holding base held' w' := by
  obtain ⟨hdescriptor, rfl⟩ := descriptorProtocol_eq_some hnext
  obtain ⟨-, hrespond⟩ := env_eq_some henv
  have hlog := World.respond_log hrespond
  have hdisciplined : Disciplined w'.log := by
    rw [hlog]
    exact h.disciplined.cons (hdescriptor.trans h.now.symm)
  have hnow : heldAfter w'.log = c.leaves held answer := by
    rw [hlog, ← h.now]
    rfl
  subst hdescriptor
  -- a call leaves the descriptors as they are, opens one while none is held, or closes the held one
  obtain ⟨hleaves, hkept⟩ | ⟨hnone, fd, file, hleaves, hfresh, hopen⟩ | ⟨fd, hown, hleaves, hclose⟩
    := respond_openFile? hrespond
  · rw [hleaves] at hnow ⊢
    refine ⟨hdisciplined, hnow, ?_, ?_⟩
    · intro fd hne
      obtain hsame | ⟨hown, -⟩ := hkept fd
      · exact hsame.trans (h.others fd hne)
      · exact absurd hown hne
    · intro fd hown
      obtain ⟨hbase, hthere⟩ := h.own fd hown
      obtain hsame | ⟨-, hthere'⟩ := hkept fd
      · exact ⟨hbase, hsame ▸ hthere⟩
      · exact ⟨hbase, hthere'⟩
  · rw [hnone] at hnow h ⊢
    rw [hleaves] at hnow ⊢
    refine ⟨hdisciplined, hnow, ?_, ?_⟩
    · intro fd' hne
      have hne' : fd' ≠ fd := fun heq => hne (congrArg some heq.symm)
      rw [hopen, openFile?_setOpenFile_of_ne hne']
      exact h.others fd' nofun
    · intro fd' hfd
      cases hfd
      rw [hopen, World.openFile?_setOpenFile]
      exact ⟨(h.others fd nofun).symm.trans hfresh, nofun⟩
  · rw [hown] at hnow h ⊢
    rw [hleaves] at hnow ⊢
    refine ⟨hdisciplined, hnow, ?_, nofun⟩
    intro fd' _
    rw [hclose]
    by_cases hne : fd' = fd
    · rw [hne, openFile?_closeFile]
      exact (h.own fd rfl).1.symm
    · rw [openFile?_closeFile_of_ne hne]
      exact h.others fd' fun heq => hne (Option.some.inj heq).symm

end Worlds

/-- **`main_descriptors`.** Whatever the calls answer, at every point of `main`: each call about a
descriptor was made while that one was open, each other call (`rename`, `unlink` and `fork` among
them) while none was, and no descriptor is open but those from before and the one just opened.
When `main` returns, those from before are open and no others. -/
theorem main_descriptors (oracle : Oracle) {w : World} (hlog : w.log = []) :
    (∀ w', Visits (env oracle) main w w' → Disciplined w'.log ∧
      ∀ fd, w'.openFile? fd ≠ none ↔ w.openFile? fd ≠ none ∨ heldAfter w'.log = some fd) ∧
    ∀ code w', Returns (env oracle) main w code w' →
      heldAfter w'.log = none ∧ ∀ fd, w'.openFile? fd = w.openFile? fd := by
  have hstart : Holding w none w := by
    refine ⟨?_, ?_, fun _ _ => rfl, nofun⟩
    · rw [hlog]
      intro entry earlier hsuffix
      cases List.suffix_nil.mp hsuffix
    · rw [hlog]
      rfl
  -- `main` conforms to the protocol, whatever the answers, and ends holding nothing
  have hmain : Holds (env oracle) main w (fun w' => ∃ held, Holding w held w')
      (fun _ w' => ∃ held, Holding w held w' ∧ held = none) :=
    obeys_main.holds (fun held held' w w' c answer h => h.step) hstart
  constructor
  · intro w' hvisits
    obtain ⟨held, h⟩ := hmain.1 w' hvisits
    refine ⟨h.disciplined, ?_⟩
    intro fd
    rw [h.now]
    by_cases hfd : held = some fd
    · exact iff_of_true (h.own fd hfd).2 (.inr hfd)
    · rw [h.others fd hfd]
      simp [hfd]
  · intro code w' hreturns
    obtain ⟨held, h, rfl⟩ := hmain.2 code w' hreturns
    exact ⟨h.now, fun fd => h.others fd nofun⟩

/-- A run from no files, in which nothing fails. -/
theorem main_descriptors_empty :
    ∃ w', Returns (env obliging) main emptyWorld 0 w' ∧ ∀ fd, w'.openFile? fd = none := by
  have hrun : Returns (env obliging) main emptyWorld 0
      (after (env obliging) 100 main emptyWorld).2 := ⟨100, by decide +kernel, rfl⟩
  obtain ⟨-, hreturns⟩ := main_descriptors obliging (w := emptyWorld) rfl
  exact ⟨_, hrun, (hreturns 0 _ hrun).2⟩

end Mozart.MacAddr
