import Mozart.MacAddr.Normalization

/-!
# `StoreMac` replaces a file as a whole

Whatever the system calls answer and wherever the program is stopped, the target path holds its
old file or the complete text of the generated address, already synced: the text is built in a
temporary file, and nothing but `rename` touches the target.

* **`holds_writeFully`**: the loop over partial writes keeps what is written and what is left
  together equal to the data.
* **`holds_storeMac`**: every point and both results of `StoreMac`.
* **`storeMac_atomic`**: the same with the exits spelt out.
-/

namespace Mozart.MacAddr

open Dialogue

variable {oracle : Oracle} {w : World} {path : String} {fd : Nat} {uid gid : UInt32}

/-! ## Writing the temporary file -/

/-- At most the file at `path` differs from `w`, and there is one. -/
def World.FilledAt (w : World) (path : String) (w' : World) : Prop :=
  ∃ file, w'.fs = Function.update w.fs path (some file)

/-- `w'` differs from `w` in the file at `path`, which is like `P` and open at its end as `fd`. -/
def World.Stage (w : World) (path : String) (fd : Nat) (P : File → Prop) (w' : World) : Prop :=
  ∃ file, w'.fs = Function.update w.fs path (some file) ∧ P file ∧
    w'.openFile? fd = some ⟨path, file.content.length⟩

theorem World.Stage.filledAt {P : File → Prop} {w' : World} (h : w.Stage path fd P w') :
    w.FilledAt path w' := by
  obtain ⟨file, hfs, -⟩ := h
  exact ⟨file, hfs⟩

theorem World.FilledAt.congr {w₁ w₂ : World} (h : w.FilledAt path w₁) (hfs : w₂.fs = w₁.fs) :
    w.FilledAt path w₂ := by
  obtain ⟨file, hfile⟩ := h
  exact ⟨file, hfs.trans hfile⟩

/-- Of a call of which only the success counts. -/
theorem holds_succeeds {c : Call} {I : World → Prop} {Q : Bool → World → Prop} (hI : I w)
    (herror : ∀ e w₁, w.respond c (.error e) = some w₁ → I w₁ ∧ Q false w₁)
    (hok : ∀ value w₁, w.respond c (.ok value) = some w₁ → I w₁ ∧ Q true w₁) :
    Holds (env oracle) (succeeds c) w I Q :=
  holds_call hI
    (fun e w₁ _ h => .pure (herror e w₁ h).1 (herror e w₁ h).2)
    (fun value w₁ _ h => .pure (hok value w₁ h).1 (hok value w₁ h).2)

/-- A call that changes the open file but not what it contains. -/
theorem holds_succeeds_modify {c : Call} {f : File → File} {P Q : File → Prop} {w₁ : World}
    (hmodify : ∀ (w : World) (value : Value c), w.succeed c value = w.modify fd f)
    (hcontent : ∀ file, (f file).content = file.content) (hP : ∀ file, P file → Q (f file))
    (h : w.Stage path fd P w₁) :
    Holds (env oracle) (succeeds c) w₁ (w.FilledAt path)
      (fun success w₂ => success = true → w.Stage path fd Q w₂) := by
  refine holds_succeeds h.filledAt (fun e w₂ hrespond => ?_) (fun value w₂ hrespond => ?_)
  · exact ⟨h.filledAt.congr (World.respond_error hrespond), by simp⟩
  · obtain ⟨file, hfs, hfile, hopen⟩ := h
    obtain ⟨w₃, hsucceed, hfs₂, hdescriptors₂⟩ := World.respond_ok hrespond
    rw [hmodify] at hsucceed
    obtain ⟨openFile, old, hopen', hold, hfs₃, hdescriptors₃⟩ := World.modify_eq_some hsucceed
    cases hopen.symm.trans hopen'
    obtain rfl : file = old := by simpa [hfs] using hold
    have hstage : w.Stage path fd Q w₂ := by
      refine ⟨f file, by simp [hfs₂, hfs₃, hfs], hP file hfile, ?_⟩
      rw [World.openFile?, hdescriptors₂, hdescriptors₃, hcontent]
      exact hopen
    exact ⟨hstage.filledAt, fun _ => hstage⟩

/-- **The write loop.** Whatever part of the rest each `write` takes, what is written and what is
left are together the data. -/
theorem holds_writeFully {data : List UInt8} {P : File → Prop}
    (hP : ∀ file content, P file → P { file with content, synced := false }) {w₁ : World}
    (h : w.Stage path fd (fun file => file.content = [] ∧ P file) w₁) :
    Holds (env oracle) (writeFully fd data) w₁ (w.FilledAt path) (fun success w₂ =>
      success = true → w.Stage path fd (fun file => file.content = data ∧ P file) w₂) := by
  refine Holds.loop
    (J := fun rest => w.Stage path fd fun file => file.content ++ rest = data ∧ P file) ?_ ?_
  · obtain ⟨file, hfs, ⟨hempty, hfile⟩, hopen⟩ := h
    exact ⟨file, hfs, ⟨by simp [hempty], hfile⟩, hopen⟩
  · intro rest w₂ hstage
    split_ifs with hrest
    · refine .pure hstage.filledAt fun _ => ?_
      simpa [hrest] using hstage
    · refine holds_call hstage.filledAt (fun e w₃ _ hrespond => ?_)
        (fun count w₃ _ hrespond => ?_)
      · have hfilled := hstage.filledAt.congr (World.respond_error hrespond)
        -- interrupted: the loop tries again with the same rest
        cases e with
        | EINTR =>
          refine .pure hfilled ?_
          obtain ⟨file, hfs, hfile, hopen⟩ := hstage
          refine ⟨file, (World.respond_error hrespond).trans hfs, hfile, ?_⟩
          rw [World.respond_error_openFile? hrespond (by simp), hopen]
        | ENOENT => exact .pure hfilled (by simp)
        | other code => exact .pure hfilled (by simp)
      · -- the part that was taken goes to the end of the file
        obtain ⟨file, hfs, ⟨hdata, hfile⟩, hopen⟩ := hstage
        obtain ⟨w₄, hsucceed, hfs₃, hdescriptors₃⟩ := World.respond_ok hrespond
        obtain ⟨openFile, old, hopen', hold, hfs₄, hopen₄⟩ := World.writeFile_eq_some hsucceed
        cases hopen.symm.trans hopen'
        obtain rfl : file = old := by simpa [hfs] using hold
        have hnext : w.Stage path fd
            (fun file => file.content ++ rest.drop count = data ∧ P file) w₃ := by
          refine ⟨{ file with content := file.content ++ rest.take count, synced := false },
            ?_, ⟨by simp [hdata], hP file _ hfile⟩, ?_⟩
          · simp [hfs₃, hfs₄, hfs, List.drop_eq_nil_of_le]
          · rw [World.openFile?, hdescriptors₃, ← World.openFile?, hopen₄, List.length_append]
        exact .pure hnext.filledAt hnext

/-- The temporary file while it is open: it alone changes, and if all went well it holds the text,
synced, with the owner, the group and the mode asked for. -/
theorem holds_writeTemporary {text : List UInt8} {w₁ : World}
    (h : w.Stage path fd (fun file => file.content = []) w₁) :
    Holds (env oracle) (writeTemporary fd text uid gid) w₁ (w.FilledAt path) (fun success w₂ =>
      success = true → w₂.fs = Function.update w.fs path (some ⟨text, uid, gid, 0o660, true⟩)) := by
  -- the four calls that fill the file, the next only where the last succeeded
  have hfill : Holds (env oracle) (succeeds (.fchmod fd 0o660) <&&>
      succeeds (.fchown fd uid gid) <&&> writeFully fd text <&&> succeeds (.fsync fd)) w₁
      (w.FilledAt path) (fun success w₂ => success = true →
        w.Stage path fd (fun file => file = ⟨text, uid, gid, 0o660, true⟩) w₂) := by
    refine Holds.andM (holds_succeeds_modify (f := fun file => { file with mode := 0o660 })
      (Q := fun file => file.content = [] ∧ file.mode = 0o660) (fun _ _ => rfl) (fun _ => rfl)
      (fun file hfile => ⟨hfile, rfl⟩) h) (by simp) fun w₂ h => ?_
    refine Holds.andM (holds_succeeds_modify (f := fun file => { file with uid, gid })
      (Q := fun file => file.content = [] ∧ file.mode = 0o660 ∧ file.uid = uid ∧ file.gid = gid)
      (fun _ _ => rfl) (fun _ => rfl) (fun file hfile => ⟨hfile.1, hfile.2, rfl, rfl⟩) (h rfl))
      (by simp) fun w₂ h => ?_
    refine Holds.andM (holds_writeFully
      (P := fun file => file.mode = 0o660 ∧ file.uid = uid ∧ file.gid = gid)
      (fun _ _ hfile => hfile) (h rfl)) (by simp) fun w₂ h => ?_
    refine holds_succeeds_modify (f := fun file => { file with synced := true })
      (fun _ _ => rfl) (fun _ => rfl) ?_ (h rfl)
    rintro file ⟨hcontent, hmode, huid, hgid⟩
    simp [hcontent, hmode, huid, hgid]
  refine hfill.with_point.bind fun success w₂ _ ⟨hfilled, hstage⟩ => ?_
  refine Holds.bind (R := fun _ w₃ => w₃.fs = w₂.fs) ?_ fun closed w₃ _ hfs => ?_
  · refine holds_succeeds hfilled (fun e w₃ hrespond => ?_) (fun value w₃ hrespond => ?_)
    · have hfs := World.respond_error hrespond
      exact ⟨hfilled.congr hfs, hfs⟩
    · have hfs := (World.respond_readsOnly (c := .close fd) trivial hrespond).1
      exact ⟨hfilled.congr hfs, hfs⟩
  · refine .pure (hfilled.congr hfs) fun hsuccess => ?_
    obtain ⟨file, hfile, rfl, -⟩ := hstage (Bool.and_eq_true_iff.mp hsuccess).1
    exact hfs.trans hfile

/-! ## The generated address -/

theorem onlyCalls_readFully (fd size : Nat) : OnlyCalls Call.ReadsOnly (readFully fd size) := by
  refine OnlyCalls.loop fun data => ?_
  split
  · exact .pure _
  · refine OnlyCalls.call_bind trivial fun answer => ?_
    split
    · exact .pure _
    · exact .pure _
    · split_ifs
      · exact .pure _
      · exact .pure _

theorem onlyCalls_generateMac : OnlyCalls Call.ReadsOnly generateMac := by
  refine OnlyCalls.call_bind trivial fun answer => ?_
  cases answer with
  | error e => exact .pure _
  | ok fd =>
    refine (onlyCalls_readFully fd 6).bind fun success => OnlyCalls.call_bind trivial fun _ => ?_
    cases success with
    | none => exact .pure _
    | some data => exact .pure _

/-- A generated address is one the reader accepts. -/
theorem acceptable_of_generateMac {address : Address} {w' : World}
    (h : Returns (env oracle) generateMac w (some address) w') : address.Acceptable := by
  obtain ⟨opened, w₁, -, h⟩ := h.of_bind
  cases opened with
  | error e => exact nomatch (returns_pure.mp h).1
  | ok fd =>
    obtain ⟨success, w₂, -, h⟩ := h.of_bind
    obtain ⟨closed, w₃, -, h⟩ := h.of_bind
    cases success with
    | none => exact nomatch (returns_pure.mp h).1
    | some data =>
      obtain rfl := Option.some.inj (returns_pure.mp h).1
      exact Address.administered_acceptable _

/-- `GenerateMac`, called in `w`, returns `address`. -/
def Generated (oracle : Oracle) (w : World) (address : Address) : Prop :=
  ∃ w', Returns (env oracle) generateMac w (some address) w'

/-! ## Every point of `StoreMac` -/

/-- At most the file at `path` differs from `w`. -/
def World.ChangedAt (w : World) (path : String) (w' : World) : Prop :=
  ∃ file, w'.fs = Function.update w.fs path file

/-- `calls` made a new file at `path`. -/
def CreatedIn (path : String) (calls : List Entry) : Prop :=
  ∃ mode value, (⟨.openCreate path mode, .ok value⟩ : Entry) ∈ calls

/-- The last call since `w` unlinked `path`, which is gone if the call succeeded. -/
def World.Unlinked (w : World) (path : String) (w' : World) : Prop :=
  ∃ answer earlier, w'.since w = ⟨.unlink path, answer⟩ :: earlier ∧
    (answer = .ok () → w'.fs path = none)

/-- The file at `path` holds the whole text of the address generated in `w`, synced. -/
def World.Installed (oracle : Oracle) (w : World) (path : String) (w' : World) : Prop :=
  ∃ address file, Generated oracle w address ∧ w'.fs path = some file ∧
    file.content = formatMac address ∧ file.synced = true

/-- What holds at every point of `StoreMac` that was called in `w`. -/
def StorePoint (oracle : Oracle) (w : World) (path : String) (w' : World) : Prop :=
  (w'.fs path = w.fs path ∨ w.Installed oracle path w') ∧
    ∀ other, other ≠ path → other ≠ path ++ ".tmp" → w'.fs other = w.fs other

/-- What holds when `StoreMac` returns. -/
def StoreResult (oracle : Oracle) (w : World) (path : String) (uid gid : UInt32) :
    Bool → World → Prop
  | true, w' => ∃ address, Generated oracle w address ∧
      w'.fs = Function.update (Function.update w.fs (path ++ ".tmp") none) path
        (some ⟨formatMac address, uid, gid, 0o660, true⟩)
  | false, w' => w.ChangedAt (path ++ ".tmp") w' ∧
      (CreatedIn (path ++ ".tmp") (w'.since w) → w.Unlinked (path ++ ".tmp") w')

theorem createdIn_cons {entry : Entry} {calls : List Entry} :
    CreatedIn path (entry :: calls) ↔
      (∃ mode value, entry = ⟨.openCreate path mode, .ok value⟩) ∨ CreatedIn path calls := by
  simp only [CreatedIn, List.mem_cons, exists_or, eq_comm (b := entry)]

theorem not_createdIn_of_readsOnly {calls : List Entry}
    (h : ∀ entry ∈ calls, entry.1.ReadsOnly) : ¬ CreatedIn path calls := by
  rintro ⟨mode, value, hmem⟩
  exact h _ hmem

theorem temporary_ne (path : String) : path ≠ path ++ ".tmp" := by
  intro h
  have hlength := congrArg String.length h
  simp at hlength

theorem storePoint_of_changedAt {w' : World} (h : w.ChangedAt (path ++ ".tmp") w') :
    StorePoint oracle w path w' := by
  obtain ⟨file, hfs⟩ := h
  exact ⟨.inl (by simp [hfs, temporary_ne]), fun other _ hother => by simp [hfs, hother]⟩

theorem storePoint_of_stored {w' : World} (h : StoreResult oracle w path uid gid true w') :
    StorePoint oracle w path w' := by
  obtain ⟨address, hgenerated, hfs⟩ := h
  refine ⟨.inr ⟨address, _, hgenerated, by rw [hfs, Function.update_self], rfl, rfl⟩, ?_⟩
  intro other hpath hother
  simp [hfs, hpath, hother]

theorem holds_unlink {I : World → Prop} (hI : I w)
    (hfails : ∀ w', w'.fs = w.fs → I w')
    (hgone : ∀ w', w'.fs = Function.update w.fs path none → I w') :
    Holds (env oracle) (unlink path) w I (fun removed w' =>
      w'.log = ⟨.unlink path, removed⟩ :: w.log ∧
        (removed = .ok () → w'.fs = Function.update w.fs path none) ∧
        (removed ≠ .ok () → w'.fs = w.fs)) := by
  change Holds (env oracle) (call (A := Answer) (.unlink path) >>= pure) w I _
  refine holds_call hI (fun e w' _ hrespond => ?_) (fun value w' _ hrespond => ?_)
  · have hfs := World.respond_error hrespond
    exact .pure (hfails w' hfs) ⟨World.respond_log hrespond, by simp, fun _ => hfs⟩
  · have hfs := World.respond_unlink hrespond
    exact .pure (hgone w' hfs) ⟨World.respond_log hrespond, fun _ => hfs, by simp⟩

/-- The clean-up after a failure. -/
theorem holds_cleanup {w₁ : World} (hchanged : w.ChangedAt (path ++ ".tmp") w₁)
    (hlog : w.log <:+ w₁.log) :
    Holds (env oracle) (do let _ ← unlink (path ++ ".tmp"); return false) w₁
      (StorePoint oracle w path) (StoreResult oracle w path uid gid) := by
  obtain ⟨file, hfs₁⟩ := hchanged
  have hkept : ∀ w', w'.fs = w₁.fs → w.ChangedAt (path ++ ".tmp") w' := fun w' hfs =>
    ⟨file, hfs.trans hfs₁⟩
  have hgone : ∀ w', w'.fs = Function.update w₁.fs (path ++ ".tmp") none →
      w.ChangedAt (path ++ ".tmp") w' := fun w' hfs => ⟨none, by simp [hfs, hfs₁]⟩
  refine Holds.bind (holds_unlink (storePoint_of_changedAt (hkept w₁ rfl))
    (fun w' hfs => storePoint_of_changedAt (hkept w' hfs))
    (fun w' hfs => storePoint_of_changedAt (hgone w' hfs))) ?_
  rintro removed w₂ - ⟨hlog₂, hok, herror⟩
  have hchanged₂ : w.ChangedAt (path ++ ".tmp") w₂ := by
    by_cases h : removed = .ok ()
    · exact hgone w₂ (hok h)
    · exact hkept w₂ (herror h)
  refine .pure (storePoint_of_changedAt hchanged₂) ⟨hchanged₂, fun _ => ?_⟩
  obtain ⟨earlier, hearlier⟩ := hlog
  refine ⟨removed, earlier, World.since_of_append (by rw [hlog₂, ← hearlier]; rfl), fun h => ?_⟩
  rw [hok h, Function.update_self]

/-- From the new temporary file on: it is filled and renamed, or removed. -/
theorem holds_installTemporary {w₁ : World} {address : Address}
    (hstage : w.Stage (path ++ ".tmp") fd (fun file => file.content = []) w₁)
    (hlog : w.log <:+ w₁.log) (hgenerated : Generated oracle w address) :
    Holds (env oracle) (do
        if !(← writeTemporary fd (formatMac address) uid gid) then
          let _ ← unlink (path ++ ".tmp")
          return false
        if !(← succeeds (.rename (path ++ ".tmp") path)) then
          let _ ← unlink (path ++ ".tmp")
          return false
        return true) w₁
      (StorePoint oracle w path) (StoreResult oracle w path uid gid) := by
  have hchanged : ∀ w₂, w.FilledAt (path ++ ".tmp") w₂ → w.ChangedAt (path ++ ".tmp") w₂ :=
    fun w₂ ⟨file, hfs⟩ => ⟨some file, hfs⟩
  refine ((holds_writeTemporary hstage).with_point.mono
    (fun w₂ hfilled => storePoint_of_changedAt (hchanged w₂ hfilled)) (fun _ _ h => h)).bind ?_
  rintro written w₂ hreturns ⟨hfilled, hwritten⟩
  have hlog₂ : w.log <:+ w₂.log := hlog.trans ((Holds.log w₁).2 written w₂ hreturns)
  have hchanged₂ := hchanged w₂ hfilled
  cases written with
  | false => exact holds_cleanup hchanged₂ hlog₂
  | true =>
    have hfs₂ := hwritten rfl
    refine Holds.bind (R := fun renamed w₃ => w.log <:+ w₃.log ∧
      (renamed = true → StoreResult oracle w path uid gid true w₃) ∧
      (renamed = false → w₃.fs = w₂.fs)) ?_ ?_
    · refine holds_succeeds (storePoint_of_changedAt hchanged₂) (fun e w₃ hrespond => ?_)
        (fun value w₃ hrespond => ?_)
      · have hfs₃ := World.respond_error hrespond
        have hlog₃ : w.log <:+ w₃.log := by
          rw [World.respond_log hrespond]
          exact hlog₂.trans (List.suffix_cons _ _)
        refine ⟨storePoint_of_changedAt ⟨_, hfs₃.trans hfs₂⟩, hlog₃, by simp, fun _ => hfs₃⟩
      · have hlog₃ : w.log <:+ w₃.log := by
          rw [World.respond_log hrespond]
          exact hlog₂.trans (List.suffix_cons _ _)
        -- the renamed file is the one that was written
        obtain ⟨file, hfile, hfs₃⟩ := World.respond_rename hrespond
        obtain rfl : ⟨formatMac address, uid, gid, 0o660, true⟩ = file := by
          simpa [hfs₂] using hfile
        have hstored : StoreResult oracle w path uid gid true w₃ :=
          ⟨address, hgenerated, by simp [hfs₃, hfs₂]⟩
        exact ⟨storePoint_of_stored hstored, hlog₃, fun _ => hstored, by simp⟩
    · rintro renamed w₃ - ⟨hlog₃, hstored, hfails⟩
      cases renamed with
      | false => exact holds_cleanup ⟨_, (hfails rfl).trans hfs₂⟩ hlog₃
      | true => exact .pure (storePoint_of_stored (hstored rfl)) (hstored rfl)

theorem holds_storeMac :
    Holds (env oracle) (storeMac path uid gid) w (StorePoint oracle w path)
      (StoreResult oracle w path uid gid) := by
  have hsame : ∀ w₁ : World, w₁.fs = w.fs → w.ChangedAt (path ++ ".tmp") w₁ := fun w₁ hfs =>
    ⟨w.fs (path ++ ".tmp"), by simp [hfs]⟩
  have hgenerate : Holds (env oracle) generateMac w (StorePoint oracle w path)
      (fun _ => w.ReadOnlyTo) := (holds_readsOnly onlyCalls_generateMac w).mono
    (fun w₁ h => storePoint_of_changedAt (hsame w₁ h.1)) (fun _ _ h => h)
  refine hgenerate.bind fun generated w₁ hreturns ⟨hfs₁, calls, hlog₁, hcalls⟩ => ?_
  have hnew : ¬ CreatedIn (path ++ ".tmp") calls := not_createdIn_of_readsOnly hcalls
  -- an exit before the temporary file is made
  have hexit : ∀ {w₂ : World} (calls : List Entry), w.ChangedAt (path ++ ".tmp") w₂ →
      w₂.log = calls ++ w.log → ¬ CreatedIn (path ++ ".tmp") calls →
      Holds (env oracle) (pure false) w₂ (StorePoint oracle w path)
        (StoreResult oracle w path uid gid) := fun calls hchanged hlog hnew =>
    .pure (storePoint_of_changedAt hchanged)
      ⟨hchanged, fun h => absurd (World.since_of_append hlog ▸ h) hnew⟩
  cases generated with
  | none => exact hexit calls (hsame w₁ hfs₁) hlog₁ hnew
  | some address =>
    have hlength : ¬ (formatMac address).length ≠ 17 := by simp
    dsimp only
    rw [if_neg hlength]
    have hgone : ∀ w₂ : World, w₂.fs = Function.update w₁.fs (path ++ ".tmp") none →
        w.ChangedAt (path ++ ".tmp") w₂ := fun w₂ hfs => ⟨none, by rw [hfs, hfs₁]⟩
    refine Holds.bind (holds_unlink (storePoint_of_changedAt (hsame w₁ hfs₁))
      (fun w₂ hfs => storePoint_of_changedAt (hsame w₂ (hfs.trans hfs₁)))
      (fun w₂ hfs => storePoint_of_changedAt (hgone w₂ hfs))) ?_
    rintro removed w₂ - ⟨hlog₂, hok, herror⟩
    have hchanged₂ : w.ChangedAt (path ++ ".tmp") w₂ := by
      by_cases h : removed = .ok ()
      · exact hgone w₂ (hok h)
      · exact hsame w₂ ((herror h).trans hfs₁)
    have hlog₂ : w₂.log = (⟨.unlink (path ++ ".tmp"), removed⟩ :: calls) ++ w.log := by
      rw [hlog₂, hlog₁, List.cons_append]
    have hnew₂ : ¬ CreatedIn (path ++ ".tmp") (⟨.unlink (path ++ ".tmp"), removed⟩ :: calls) := by
      simp [createdIn_cons, hnew]
    split_ifs with hremoved
    · exact hexit _ hchanged₂ hlog₂ hnew₂
    · refine holds_call (storePoint_of_changedAt hchanged₂) (fun e w₃ _ hrespond => ?_)
        (fun created w₃ _ hrespond => ?_)
      · obtain ⟨file, hfile⟩ := hchanged₂
        refine hexit (⟨.openCreate (path ++ ".tmp") 0o660, .error e⟩ :: _)
          ⟨file, (World.respond_error hrespond).trans hfile⟩
          ((World.respond_log hrespond).trans (by rw [hlog₂]; rfl)) ?_
        rw [createdIn_cons]
        rintro (⟨mode, value, h⟩ | h)
        · cases h
        · exact hnew₂ h
      · obtain ⟨-, hopen, hfs₃⟩ := World.respond_openCreate hrespond
        obtain ⟨file, hfs₂⟩ := hchanged₂
        have hstage : w.Stage (path ++ ".tmp") created.1 (fun file => file.content = []) w₃ :=
          ⟨⟨[], created.2.uid, created.2.gid, created.2.mode, false⟩,
            by rw [hfs₃, hfs₂, Function.update_idem], rfl, hopen⟩
        refine holds_installTemporary hstage ?_ ⟨w₁, hreturns⟩
        · rw [World.respond_log hrespond, hlog₂]
          exact ⟨⟨.openCreate (path ++ ".tmp") 0o660, .ok created⟩ :: _, rfl⟩

/-- **`StoreMac` is atomic.** At every point of the run the target holds its old file or the whole
text of the generated address, which a power failure does not lose. If it returns true the target
holds exactly that text, with the owner, the group and the mode asked for, and there is no
temporary file. If it returns false the target is unchanged, and a temporary file that was made is
unlinked by the last call. -/
theorem storeMac_atomic (oracle : Oracle) (path : String) (uid gid : UInt32) (w : World) :
    (∀ w', Visits (env oracle) (storeMac path uid gid) w w' →
      w'.fs path = w.fs path ∨ ∃ address file, Generated oracle w address ∧
        w'.fs path = some file ∧ file.content = formatMac address ∧
        file.content.length = 17 ∧ file.synced = true) ∧
    (∀ w', Returns (env oracle) (storeMac path uid gid) w true w' →
      ∃ address, Generated oracle w address ∧
        w'.fs path = some ⟨formatMac address, uid, gid, 0o660, true⟩ ∧
        w'.fs (path ++ ".tmp") = none) ∧
    (∀ w', Returns (env oracle) (storeMac path uid gid) w false w' →
      w'.fs path = w.fs path ∧
      (CreatedIn (path ++ ".tmp") (w'.since w) → ∃ answer earlier,
        w'.since w = ⟨.unlink (path ++ ".tmp"), answer⟩ :: earlier ∧
          (answer = .ok () → w'.fs (path ++ ".tmp") = none))) := by
  have h : Holds (env oracle) (storeMac path uid gid) w (StorePoint oracle w path)
    (StoreResult oracle w path uid gid) := holds_storeMac
  refine ⟨fun w' hw' => ?_, fun w' hw' => ?_, fun w' hw' => ?_⟩
  · obtain ⟨hkept | ⟨address, file, hgenerated, hfile, hcontent, hsynced⟩, -⟩ := h.1 w' hw'
    · exact .inl hkept
    · exact .inr ⟨address, file, hgenerated, hfile, hcontent, by simp [hcontent], hsynced⟩
  · obtain ⟨address, hgenerated, hfs⟩ := h.2 true w' hw'
    refine ⟨address, hgenerated, by simp [hfs], ?_⟩
    simp [hfs, (temporary_ne path).symm]
  · obtain ⟨⟨file, hfs⟩, hunlinked⟩ := h.2 false w' hw'
    exact ⟨by simp [hfs, temporary_ne], hunlinked⟩

end Mozart.MacAddr
