import Mozart.MacAddr.StoreMac

/-!
# `HasValidMac` and `EnsureMac`

* **`World.Valid`**: what a file must hold for `HasValidMac` to let it through.
* **`holds_hasValidMac`**: it changes nothing, answers true of valid files only, and of every valid
  file that can be opened and read.
* **`holds_ensureMac`**: the file is left alone or replaced by a valid one, and left alone if it is
  valid and can be read; true means that it is valid now.
-/

namespace Mozart.MacAddr

open Dialogue

variable {oracle : Oracle} {w : World} {path : String} {uid gid : UInt32}

/-- The file at `path` satisfies `HasValidMac`. -/
def World.Valid (w : World) (path : String) : Prop :=
  ∃ file, w.fs path = some file ∧ acceptsText (file.content.take 32) = true

/-- The file at `path` can be opened and read whenever it is there; an interrupted read is
repeated. -/
structure Readable (oracle : Oracle) (path : String) : Prop where
  opens : ∀ w file, w.fs path = some file → ∃ fd, oracle w (.openRead path) = .ok fd
  reads : ∀ w fd size opened file, w.openFile? fd = some opened → opened.path = path →
    w.fs path = some file → oracle w (.read fd size) = .error .EINTR ∨
      ∃ bytes, oracle w (.read fd size) = .ok bytes

theorem World.Valid.congr {w' : World} (h : w.Valid path) (hfs : w'.fs path = w.fs path) :
    w'.Valid path := by
  obtain ⟨file, hfile, haccepts⟩ := h
  exact ⟨file, hfs.trans hfile, haccepts⟩

theorem onlyCalls_hasValidMac (path : String) : OnlyCalls Call.ReadsOnly (hasValidMac path) := by
  refine OnlyCalls.call_bind trivial fun answer => ?_
  cases answer with
  | error e => exact .pure _
  | ok fd =>
    refine OnlyCalls.bind (OnlyCalls.loop fun _ => OnlyCalls.call_bind trivial fun answer => ?_)
      fun bytes => OnlyCalls.call_bind trivial fun _ => ?_
    · split <;> exact .pure _
    · cases bytes with
      | none => exact .pure _
      | some buffer => exact .pure _

/-- **What `HasValidMac` answers.** -/
theorem holds_hasValidMac (hpath : path ≠ kRandomPath) :
    Holds (env oracle) (hasValidMac path) w w.ReadOnlyTo (fun valid w' => w.ReadOnlyTo w' ∧
      (valid = true → w.Valid path) ∧ (Readable oracle path → w.Valid path → valid = true)) := by
  have hanswer : Holds (env oracle) (hasValidMac path) w (fun _ => True) (fun valid _ =>
      (valid = true → w.Valid path) ∧ (Readable oracle path → w.Valid path → valid = true)) := by
    refine holds_call trivial (fun e w₁ horacle _ => ?_) (fun fd w₁ _ hrespond => ?_)
    · refine .pure trivial ⟨by simp, fun hreadable ⟨file, hfile, _⟩ => ?_⟩
      obtain ⟨fd, hok⟩ := hreadable.opens w file hfile
      cases horacle.symm.trans hok
    · obtain ⟨hfs₁, hopen₁⟩ := World.respond_openRead hrespond
      -- what the loop reads is the beginning of the file
      refine Holds.bind (R := fun bytes _ =>
        (∀ buffer, bytes = some buffer → ∃ file, w.fs path = some file ∧
          buffer = file.content.take 32) ∧
        (Readable oracle path → w.Valid path → bytes ≠ none)) ?_ ?_
      · refine Holds.loop
          (J := fun _ w₂ => w₂.fs = w.fs ∧ w₂.openFile? fd = some ⟨path, 0⟩) ⟨hfs₁, hopen₁⟩ ?_
        rintro _ w₂ ⟨hfs₂, hopen₂⟩
        have hfails : ∀ e, oracle w₂ (.read fd 32) = .error e → e ≠ .EINTR →
            Readable oracle path → w.Valid path → False := by
          rintro e horacle he hreadable ⟨file, hfile, -⟩
          obtain h | ⟨bytes, h⟩ := hreadable.reads w₂ fd 32 _ file hopen₂ rfl
            (by rw [hfs₂, hfile])
          · cases horacle.symm.trans h
            exact he rfl
          · cases horacle.symm.trans h
        refine holds_call trivial (fun e w₃ horacle hrespond => ?_)
          (fun bytes w₃ _ hrespond => ?_)
        · cases e with
          | EINTR =>
            refine .pure trivial ⟨(World.respond_error hrespond).trans hfs₂, ?_⟩
            rw [World.respond_error_openFile? hrespond (by simp), hopen₂]
          | ENOENT =>
            exact .pure trivial ⟨by simp, fun hr hv => (hfails _ horacle (by simp) hr hv).elim⟩
          | other code =>
            exact .pure trivial ⟨by simp, fun hr hv => (hfails _ horacle (by simp) hr hv).elim⟩
        · obtain ⟨w₄, hsucceed, -⟩ := World.respond_ok hrespond
          obtain ⟨opened, hopened, -, hbytes⟩ := World.readFile_eq_some hsucceed
          cases hopen₂.symm.trans hopened
          obtain ⟨file, hfile, hbytes⟩ := hbytes hpath
          refine .pure trivial ⟨fun buffer hbuffer => ?_, by simp⟩
          cases hbuffer
          exact ⟨file, by rw [← hfs₂, hfile], by simpa using hbytes⟩
      · rintro bytes w₂ - ⟨hbuffer, hsome⟩
        refine holds_call trivial (fun e w₃ _ _ => ?_) (fun value w₃ _ _ => ?_)
        all_goals
          cases bytes with
          | none =>
            exact .pure trivial ⟨by simp, fun hr hv => absurd rfl (hsome hr hv)⟩
          | some buffer =>
            obtain ⟨file, hfile, rfl⟩ := hbuffer buffer rfl
            refine .pure trivial ⟨fun h => ⟨file, hfile, h⟩, fun _ ⟨file', hfile', h⟩ => ?_⟩
            cases hfile.symm.trans hfile'
            exact h
  exact ((holds_readsOnly (onlyCalls_hasValidMac path) w).and hanswer).mono (fun _ h => h.1)
    (fun _ _ h => h)

/-! ## `EnsureMac` -/

/-- What holds at every point of `EnsureMac` that was called in `w`. -/
structure EnsurePoint (oracle : Oracle) (w : World) (path : String) (w' : World) : Prop where
  file : w'.fs path = w.fs path ∨ w'.Valid path
  others : ∀ other, other ≠ path → other ≠ path ++ ".tmp" → w'.fs other = w.fs other
  readOnly : Readable oracle path → w.Valid path → w.ReadOnlyTo w'

theorem World.Installed.valid {w' : World} (h : w.Installed oracle path w') : w'.Valid path := by
  obtain ⟨address, file, ⟨w₁, hgenerated⟩, hfile, hcontent, -⟩ := h
  refine ⟨file, hfile, ?_⟩
  rw [hcontent, List.take_of_length_le (by simp)]
  exact acceptsText_formatMac (acceptable_of_generateMac hgenerated)

theorem EnsurePoint.of_readOnly {w' : World} (h : w.ReadOnlyTo w') :
    EnsurePoint oracle w path w' where
  file := .inl (congrFun h.1 path)
  others other _ _ := congrFun h.1 other
  readOnly _ _ := h

/-- A point of `StoreMac`, which is called only if the file was not found valid. -/
theorem EnsurePoint.of_storePoint {w₁ w' : World} (hfs : w₁.fs = w.fs)
    (hinvalid : Readable oracle path → w.Valid path → False)
    (h : StorePoint oracle w₁ path w') : EnsurePoint oracle w path w' where
  file := h.1.imp (fun hsame => hsame.trans (congrFun hfs path)) World.Installed.valid
  others other hpath htemporary := (h.2 other hpath htemporary).trans (congrFun hfs other)
  readOnly hreadable hvalid := (hinvalid hreadable hvalid).elim

theorem valid_of_stored {w' : World} (h : StoreResult oracle w path uid gid true w') :
    w'.Valid path := by
  obtain ⟨address, hgenerated, hfs⟩ := h
  exact World.Installed.valid ⟨address, _, hgenerated, by rw [hfs, Function.update_self], rfl, rfl⟩

theorem holds_ensureMac (hpath : path ≠ kRandomPath) :
    Holds (env oracle) (ensureMac path uid gid) w (EnsurePoint oracle w path) (fun ensured w' =>
      EnsurePoint oracle w path w' ∧ (ensured = true → w'.Valid path) ∧
        (Readable oracle path → w.Valid path → ensured = true)) := by
  refine Holds.orM ((holds_hasValidMac hpath).mono (fun _ h => .of_readOnly h) (fun _ _ h => h))
    ?_ ?_
  · rintro w₁ ⟨hreadOnly, hvalid, -⟩
    exact ⟨.of_readOnly hreadOnly, fun _ => (hvalid rfl).congr (congrFun hreadOnly.1 path),
      fun _ _ => rfl⟩
  · rintro w₁ ⟨hreadOnly, -, hfound⟩
    have hinvalid : Readable oracle path → w.Valid path → False := fun hreadable hvalid => by
      simpa using hfound hreadable hvalid
    have hpoint : ∀ w', StorePoint oracle w₁ path w' → EnsurePoint oracle w path w' :=
      fun w' h => .of_storePoint hreadOnly.1 hinvalid h
    refine holds_storeMac.with_point.mono hpoint ?_
    rintro stored w' ⟨hstore, hresult⟩
    refine ⟨hpoint w' hstore, fun hstored => ?_, fun hreadable hvalid =>
      (hinvalid hreadable hvalid).elim⟩
    subst hstored
    exact valid_of_stored hresult

end Mozart.MacAddr
