import Mozart.MacAddr.Halting

/-!
# `main` leaves both addresses valid and stable

* **`holds_ensureBoth`**: the second half of `main`, from any state the helper step leaves.
* **`holds_main_again`**: `main` on two valid and readable files only reads.
* **`main_ensures`**: what `main` establishes, and that a second run finds it.
-/

namespace Mozart.MacAddr

open Dialogue

variable {oracle : Oracle} {w : World} {path : String}

/-- What holds at every point of the second half of `main`. -/
structure MainPoint (oracle : Oracle) (w : World) (w' : World) : Prop where
  bluetooth : Readable oracle kBluetoothPath → w.Valid kBluetoothPath →
    w'.fs kBluetoothPath = w.fs kBluetoothPath
  wifi : Readable oracle kWifiPath → w.Valid kWifiPath → w'.fs kWifiPath = w.fs kWifiPath

theorem wifi_ne_bluetooth : kWifiPath ≠ kBluetoothPath ∧ kWifiPath ≠ kBluetoothPath ++ ".tmp" := by
  decide

theorem bluetooth_ne_wifi : kBluetoothPath ≠ kWifiPath ∧ kBluetoothPath ≠ kWifiPath ++ ".tmp" := by
  decide

/-- **Both files are ensured**, the second whatever became of the first. -/
theorem holds_ensureBoth :
    Holds (env oracle) ensureBoth w (MainPoint oracle w) (fun code w' =>
      code = 0 → w'.Valid kBluetoothPath ∧ w'.Valid kWifiPath) := by
  have hbluetooth : ∀ w', EnsurePoint oracle w kBluetoothPath w' → MainPoint oracle w w' :=
    fun w' h => ⟨fun hreadable hvalid => congrFun (h.readOnly hreadable hvalid).1 _,
      fun _ _ => h.others _ wifi_ne_bluetooth.1 wifi_ne_bluetooth.2⟩
  refine ((holds_ensureMac (by decide)).mono hbluetooth (fun _ _ h => h)).bind ?_
  rintro bluetoothOk w₁ - ⟨hpoint, hvalid, -⟩
  have hsame : w₁.fs kWifiPath = w.fs kWifiPath :=
    hpoint.others _ wifi_ne_bluetooth.1 wifi_ne_bluetooth.2
  have hwifi : ∀ w', EnsurePoint oracle w₁ kWifiPath w' → MainPoint oracle w w' := fun w' h =>
    ⟨fun hreadable hvalid => (h.others _ bluetooth_ne_wifi.1 bluetooth_ne_wifi.2).trans
        ((hbluetooth w₁ hpoint).bluetooth hreadable hvalid),
      fun hreadable hvalid =>
        (congrFun (h.readOnly hreadable (hvalid.congr hsame)).1 _).trans hsame⟩
  refine ((holds_ensureMac (by decide)).mono hwifi (fun _ _ h => h)).bind ?_
  rintro wifiOk w₂ - ⟨hpoint₂, hvalid₂, -⟩
  refine .pure (hwifi w₂ hpoint₂) fun hcode => ?_
  have hok : bluetoothOk = true ∧ wifiOk = true := by
    simpa [Bool.and_eq_true] using hcode
  exact ⟨(hvalid hok.1).congr (hpoint₂.others _ bluetooth_ne_wifi.1 bluetooth_ne_wifi.2),
    hvalid₂ hok.2⟩

/-- The exit status tells whether both files were ensured. -/
theorem returns_main {code : Int} {w' : World} (h : Returns (env oracle) main w code w') :
    ∃ w₁ bluetoothOk w₂ wifiOk, Returns (env oracle) helperStep w () w₁ ∧
      Returns (env oracle) (ensureMac kBluetoothPath kBluetoothUid kBluetoothGid) w₁
        bluetoothOk w₂ ∧
      Returns (env oracle) (ensureMac kWifiPath kSystemUid kWifiGid) w₂ wifiOk w' ∧
      code = if bluetoothOk && wifiOk then 0 else 1 := by
  obtain ⟨_, w₁, hhelper, h⟩ := h.of_bind
  obtain ⟨bluetoothOk, w₂, hbluetooth, h⟩ := h.of_bind
  obtain ⟨wifiOk, w₃, hwifi, h⟩ := h.of_bind
  obtain ⟨rfl, rfl⟩ := returns_pure.mp h
  exact ⟨w₁, bluetoothOk, w₂, wifiOk, hhelper, hbluetooth, hwifi, rfl⟩

/-- **Two valid files are only read**, by every run. -/
theorem holds_main_again (hbluetooth : Readable oracle kBluetoothPath)
    (hwifi : Readable oracle kWifiPath) (hvalid : w.Valid kBluetoothPath)
    (hvalid' : w.Valid kWifiPath) :
    Holds (env oracle) main w w.ReadOnlyTo (fun code _ => code = 0) := by
  -- each of the four questions finds its file valid
  have hfinds : ∀ {path : String}, path ≠ kRandomPath → Readable oracle path → w.Valid path →
      ∀ w₁, w.ReadOnlyTo w₁ → Holds (env oracle) (hasValidMac path) w₁ w.ReadOnlyTo
        (fun valid w₂ => w.ReadOnlyTo w₂ ∧ valid = true) :=
    fun hpath hreadable hvalid w₁ hw₁ => (holds_hasValidMac hpath).mono
      (fun w₂ hw₂ => hw₁.trans hw₂)
      (fun valid w₂ h => ⟨hw₁.trans h.1, h.2.2 hreadable (hvalid.congr (congrFun hw₁.1 _))⟩)
  have hmissing : ∀ {path : String}, path ≠ kRandomPath → Readable oracle path → w.Valid path →
      ∀ w₁, w.ReadOnlyTo w₁ → Holds (env oracle) (not <$> hasValidMac path) w₁ w.ReadOnlyTo
        (fun missing w₂ => w.ReadOnlyTo w₂ ∧ missing = false) :=
    fun hpath hreadable hvalid w₁ hw₁ => (hfinds hpath hreadable hvalid w₁ hw₁).bind
      fun valid w₂ _ h => .pure h.1 ⟨h.1, by simp [h.2]⟩
  have hensures : ∀ {path : String} {uid gid : UInt32}, path ≠ kRandomPath →
      Readable oracle path → w.Valid path → ∀ w₁, w.ReadOnlyTo w₁ →
      Holds (env oracle) (ensureMac path uid gid) w₁ w.ReadOnlyTo
        (fun ensured w₂ => w.ReadOnlyTo w₂ ∧ ensured = true) :=
    fun hpath hreadable hvalid w₁ hw₁ => (hfinds hpath hreadable hvalid w₁ hw₁).orM
      (fun _ h => h) (fun _ h => nomatch h.2)
  have hbt : kBluetoothPath ≠ kRandomPath := by decide
  have hwf : kWifiPath ≠ kRandomPath := by decide
  have hhelper : Holds (env oracle) helperStep w w.ReadOnlyTo (fun _ w₁ => w.ReadOnlyTo w₁) := by
    refine ((hmissing hbt hbluetooth hvalid w .refl).orM (Q := fun missing w₂ =>
      w.ReadOnlyTo w₂ ∧ missing = false) (fun _ h => h) fun w₁ h =>
        hmissing hwf hwifi hvalid' w₁ h.1).bind ?_
    rintro missing w₁ - ⟨hw₁, rfl⟩
    exact .pure hw₁ hw₁
  refine hhelper.bind fun _ w₁ _ hw₁ => ?_
  refine (hensures hbt hbluetooth hvalid w₁ hw₁).bind ?_
  rintro bluetoothOk w₂ - ⟨hw₂, rfl⟩
  refine (hensures hwf hwifi hvalid' w₂ hw₂).bind ?_
  rintro wifiOk w₃ - ⟨hw₃, rfl⟩
  exact .pure hw₃ rfl

/-- **`main` leaves both addresses valid and stable**, whatever the files hold at first, whatever
the helper does to them, and whatever the calls answer:

* if it returns 0, both files satisfy `HasValidMac`;
* what is valid after the helper step, and can be opened and read, is never touched again;
* the wifi file is ensured whatever became of the bluetooth file, and the exit status is 1 exactly
  if one of them could not be ensured;
* a second run after a run that returned 0, if it can open and read the files and is not
  interrupted for ever, returns 0 after nothing but reading. -/
theorem main_ensures (oracle : Oracle) (w : World) :
    (∀ w', Returns (env oracle) main w 0 w' → w'.Valid kBluetoothPath ∧ w'.Valid kWifiPath) ∧
    (∀ w₁, Returns (env oracle) helperStep w () w₁ →
      ∀ path, path = kBluetoothPath ∨ path = kWifiPath → Readable oracle path → w₁.Valid path →
        ∀ w', Visits (env oracle) ensureBoth w₁ w' → w'.fs path = w₁.fs path) ∧
    (∀ code w', Returns (env oracle) main w code w' →
      ∃ w₁ bluetoothOk w₂ wifiOk, Returns (env oracle) helperStep w () w₁ ∧
        Returns (env oracle) (ensureMac kBluetoothPath kBluetoothUid kBluetoothGid) w₁
          bluetoothOk w₂ ∧
        Returns (env oracle) (ensureMac kWifiPath kSystemUid kWifiGid) w₂ wifiOk w' ∧
        (code = 0 ∨ code = 1) ∧ (code = 1 ↔ bluetoothOk = false ∨ wifiOk = false)) ∧
    (∀ w', Returns (env oracle) main w 0 w' → ∀ (again : Oracle) (limit : Nat) (v : World),
      v.fs = w'.fs → Cooperative again limit → Readable again kBluetoothPath →
      Readable again kWifiPath →
        (∃ v', Returns (env again) main v 0 v') ∧
        ∀ v', Visits (env again) main v v' →
          v'.fs = v.fs ∧ ∀ entry ∈ v'.since v, entry.1 ≠ .fork) := by
  have hvalid : ∀ w', Returns (env oracle) main w 0 w' →
      w'.Valid kBluetoothPath ∧ w'.Valid kWifiPath := fun w' h => by
    obtain ⟨_, w₁, -, h⟩ := h.of_bind
    exact holds_ensureBoth.2 0 w' h rfl
  refine ⟨hvalid, ?_, fun code w' h => ?_, ?_⟩
  · rintro w₁ - path (rfl | rfl) hreadable hvalid w' hvisits
    · exact (holds_ensureBoth.1 w' hvisits).bluetooth hreadable hvalid
    · exact (holds_ensureBoth.1 w' hvisits).wifi hreadable hvalid
  · obtain ⟨w₁, bluetoothOk, w₂, wifiOk, hhelper, hbluetooth, hwifi, hcode⟩ := returns_main h
    refine ⟨w₁, bluetoothOk, w₂, wifiOk, hhelper, hbluetooth, hwifi, ?_⟩
    -- both are tried, the status is 0 only if neither failed
    cases bluetoothOk <;> cases wifiOk <;> simp_all
  · intro w' h again limit v hfs hcooperative hbluetooth hwifi
    obtain ⟨hvalid₁, hvalid₂⟩ := hvalid w' h
    -- with both files valid the second run returns before it writes anything
    have hagain := holds_main_again hbluetooth hwifi (hvalid₁.congr (congrFun hfs _))
      (hvalid₂.congr (congrFun hfs _))
    refine ⟨?_, fun v' hvisits => ?_⟩
    · obtain ⟨code, v', hreturns⟩ := main_total hcooperative v
      obtain rfl : code = 0 := hagain.2 code v' hreturns
      exact ⟨v', hreturns⟩
    · obtain ⟨hsame, calls, hlog, hcalls⟩ := hagain.1 v' hvisits
      refine ⟨hsame, fun entry hentry hfork => ?_⟩
      rw [World.since_of_append hlog] at hentry
      simpa [hfork, Call.ReadsOnly] using hcalls entry hentry

/-- No file at all. -/
def emptyWorld : World := ⟨fun _ => none, [], []⟩

/-- Where nothing fails, a run from no files stores both, and a second one finds them. -/
theorem main_ensures_empty :
    (∃ w', Returns (env obliging) main emptyWorld 0 w' ∧ w'.Valid kBluetoothPath ∧
      w'.Valid kWifiPath) ∧
    ∃ w' v', Returns (env obliging) main emptyWorld 0 w' ∧
      Returns (env obliging) main { w' with descriptors := [], log := [] } 0 v' ∧
      v'.fs = w'.fs := by
  have hrun : Returns (env obliging) main emptyWorld 0
      (after (env obliging) 100 main emptyWorld).2 := ⟨100, by decide +kernel, rfl⟩
  obtain ⟨hvalid, -, -, hagain⟩ := main_ensures obliging emptyWorld
  obtain ⟨⟨v', hv'⟩, hpoints⟩ := hagain _ hrun obliging 0
    { (after (env obliging) 100 main emptyWorld).2 with descriptors := [], log := [] } rfl
    obliging_cooperative (obliging_readable _) (obliging_readable _)
  exact ⟨⟨_, hrun, hvalid _ hrun⟩, _, v', hrun, hv', (hpoints v' hv'.visits).1⟩

/-! ## A valid file that cannot be opened is replaced -/

/-- Two valid addresses. -/
def validWorld : World where
  fs path := if path = kBluetoothPath ∨ path = kWifiPath then
    some ⟨formatMac fun _ => 0x22, 0, 0, 0o660, true⟩ else none
  descriptors := []
  log := []

/-- The third `open` for reading fails, as it does when no descriptors are left. -/
def thirdOpenFails : Oracle := fun w c =>
  match c with
  | .openRead path =>
    if w.log.countP (fun entry => match entry.1 with | .openRead _ => true | _ => false) = 2 then
      .error (.other 24)
    else obliging w (.openRead path)
  | c => obliging w c

/-- The bluetooth address is valid after the helper step and does not survive `EnsureMac`. -/
theorem valid_file_replaced :
    ¬ ∀ (oracle : Oracle) (w w₁ w' : World), Returns (env oracle) helperStep w () w₁ →
      w₁.Valid kBluetoothPath → Visits (env oracle) ensureBoth w₁ w' →
      w'.fs kBluetoothPath = w₁.fs kBluetoothPath := by
  intro h
  let w₁ := (after (env thirdOpenFails) 30 helperStep validWorld).2
  have hhelper : Returns (env thirdOpenFails) helperStep validWorld () w₁ :=
    ⟨30, by decide +kernel, rfl⟩
  have hvalid : w₁.Valid kBluetoothPath := ⟨⟨formatMac fun _ => 0x22, 0, 0, 0o660, true⟩,
    by decide +kernel, by decide +kernel⟩
  have hsame := h thirdOpenFails validWorld w₁ (after (env thirdOpenFails) 60 ensureBoth w₁).2
    hhelper hvalid ⟨60, rfl⟩
  exact absurd hsame (by decide +kernel)

end Mozart.MacAddr
