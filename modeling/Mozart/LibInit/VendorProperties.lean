import Mathlib.Data.List.Infix
import Mathlib.Data.List.Nodup
import Mathlib.Logic.Function.Basic

/-!
# The build properties of the device

`init_huawei_hi3635.cpp` tells the models of the tablet apart by the board name in the device tree,
and sets the model, the fingerprint and the description for each partition that has properties of
its own. A property that is there is overridden, one that is not is added; whether that was possible
is not looked at.

* **`vendor_properties`**: the store afterwards, whatever was in it before and whatever the board
  name is.
-/

namespace Mozart.LibInit

/-! ## The property area -/

abbrev Store := String → Option String

def PROP_VALUE_MAX : Nat := 92

/-- A value that is too long is refused. -/
def systemPropertyUpdate (s : Store) (prop value : String) : Store :=
  if value.utf8ByteSize < PROP_VALUE_MAX then Function.update s prop (some value) else s

/-- Only a new `ro.` property may be longer. -/
def systemPropertyAdd (s : Store) (prop value : String) : Store :=
  if value.utf8ByteSize < PROP_VALUE_MAX ∨ "ro.".toList <+: prop.toList then
    Function.update s prop (some value)
  else s

/-- `property_override` -/
def propertyOverride (s : Store) (prop value : String) : Store :=
  if (s prop).isSome then systemPropertyUpdate s prop value else systemPropertyAdd s prop value

/-! ## `vendor_load_properties` -/

def roPropsDefaultSourceOrder : List String :=
  ["", "odm.", "product.", "system.", "system_ext.", "vendor."]

/-- The name of a property for one partition. -/
def propName (prop : String) (product : Bool) (source : String) : String :=
  if product then "ro.product." ++ source ++ prop else "ro." ++ source ++ "build." ++ prop

/-- `set_ro_build_prop` -/
def setRoBuildProp (s : Store) (prop value : String) (product : Bool) : Store :=
  roPropsDefaultSourceOrder.foldl
    (fun s source => propertyOverride s (propName prop product source) value) s

def buildFingerprint (buildNumber : String) : String :=
  "huawei/mozart/hi3635:9/PQ3A.190801/" ++ buildNumber ++ ":user/release-keys"

def buildDescription (buildNumber : String) : String :=
  "lineage_mozart-user 9 PQ3A.190801.002 " ++ buildNumber ++ " release-keys"

/-- `model.find(code) != std::string::npos` -/
def find (model : List Char) (code : String) : Bool := decide (code.toList <:+: model)

/-- `vendor_load_properties`, where `boardname` is the text of the file if it can be read. -/
def vendorLoadProperties (boardname : Option (List Char)) (buildNumber : String) (s : Store) :
    Store :=
  let s :=
    match boardname with
    | none => s
    | some model =>
      if find model "801W" then setRoBuildProp s "model" "M2-801W" true
      else if find model "801L" then setRoBuildProp s "model" "M2-801L" true
      else if find model "802L" then setRoBuildProp s "model" "M2-802L" true
      else if find model "803L" then setRoBuildProp s "model" "M2-803L" true
      else setRoBuildProp s "model" "MediaPad M2 8.0" true
  let s := setRoBuildProp s "fingerprint" (buildFingerprint buildNumber) false
  setRoBuildProp s "description" (buildDescription buildNumber) false

/-! ## What is overridden -/

/-- What `property_override` leaves at the name. -/
def overridden (old : Option String) (value : String) : Option String :=
  if value.utf8ByteSize < PROP_VALUE_MAX ∨ old = none then some value else old

theorem propertyOverride_eq (s : Store) {prop : String} (hprop : "ro.".toList <+: prop.toList)
    (value : String) :
    propertyOverride s prop value = Function.update s prop (overridden (s prop) value) := by
  unfold propertyOverride overridden
  cases hold : s prop with
  | none =>
    show systemPropertyAdd s prop value = _
    unfold systemPropertyAdd
    rw [if_pos (.inr hprop), if_pos (.inr rfl)]
  | some old =>
    show systemPropertyUpdate s prop value = _
    unfold systemPropertyUpdate
    by_cases hfits : value.utf8ByteSize < PROP_VALUE_MAX
    · rw [if_pos hfits, if_pos (.inl hfits)]
    · rw [if_neg hfits, if_neg (by simp [hfits]), ← hold, Function.update_eq_self]

/-- A value is overridden once and for all. -/
theorem overridden_overridden (old : Option String) (value : String) :
    overridden (overridden old value) value = overridden old value := by
  unfold overridden
  by_cases hfits : value.utf8ByteSize < PROP_VALUE_MAX ∨ old = none
  · rw [if_pos hfits]
    split
    · rfl
    · rfl
  · rw [if_neg hfits, if_neg hfits]

/-- Properties set one after the other. -/
def overrideAll (pairs : List (String × String)) (s : Store) : Store :=
  pairs.foldl (fun s pair => propertyOverride s pair.1 pair.2) s

theorem overrideAll_of_notMem {pairs : List (String × String)}
    (hro : ∀ pair ∈ pairs, "ro.".toList <+: pair.1.toList) {name : String}
    (hname : name ∉ pairs.map Prod.fst) (s : Store) : overrideAll pairs s name = s name := by
  induction pairs generalizing s with
  | nil => rfl
  | cons pair rest ih =>
    obtain ⟨hne, hrest⟩ := not_or.mp (List.mem_cons.not.mp hname)
    show overrideAll rest (propertyOverride s pair.1 pair.2) name = s name
    rw [ih (fun pair hpair => hro pair (List.mem_cons_of_mem _ hpair)) hrest,
      propertyOverride_eq s (hro pair List.mem_cons_self)]
    exact Function.update_of_ne hne _ _

/-- Under names that differ none is overridden twice. -/
theorem overrideAll_of_mem {pairs : List (String × String)}
    (hro : ∀ pair ∈ pairs, "ro.".toList <+: pair.1.toList) (hnames : (pairs.map Prod.fst).Nodup)
    {name value : String} (hmem : (name, value) ∈ pairs) (s : Store) :
    overrideAll pairs s name = overridden (s name) value := by
  induction pairs generalizing s with
  | nil => cases hmem
  | cons pair rest ih =>
    obtain ⟨hfresh, hnodup⟩ := List.nodup_cons.mp hnames
    have hrest : ∀ pair ∈ rest, "ro.".toList <+: pair.1.toList :=
      fun pair hpair => hro pair (List.mem_cons_of_mem _ hpair)
    show overrideAll rest (propertyOverride s pair.1 pair.2) name = _
    rcases List.mem_cons.mp hmem with rfl | hlater
    · rw [overrideAll_of_notMem hrest hfresh, propertyOverride_eq s (hro _ List.mem_cons_self)]
      exact Function.update_self _ _ _
    · have hne : name ≠ pair.1 := fun h =>
        hfresh (h ▸ List.mem_map.mpr ⟨(name, value), hlater, rfl⟩)
      rw [ih hrest hnodup hlater, propertyOverride_eq s (hro pair List.mem_cons_self),
        Function.update_of_ne hne]

/-! ## The store afterwards -/

/-- The models, by the code in the board name. -/
def models : List (String × String) :=
  [("801W", "M2-801W"), ("801L", "M2-801L"), ("802L", "M2-802L"), ("803L", "M2-803L")]

/-- The model of the first code that occurs. -/
def deviceModel (boardname : List Char) : String :=
  ((models.find? fun entry => find boardname entry.1).map Prod.snd).getD "MediaPad M2 8.0"

/-- A property for each partition. -/
def everywhere (prop : String) (product : Bool) (value : String) : List (String × String) :=
  roPropsDefaultSourceOrder.map fun source => (propName prop product source, value)

/-- The properties that are set, with their values. -/
def requests (boardname : Option (List Char)) (buildNumber : String) : List (String × String) :=
  (boardname.elim [] fun name => everywhere "model" true (deviceModel name))
    ++ (everywhere "fingerprint" false (buildFingerprint buildNumber)
      ++ everywhere "description" false (buildDescription buildNumber))

theorem setRoBuildProp_eq (s : Store) (prop value : String) (product : Bool) :
    setRoBuildProp s prop value product = overrideAll (everywhere prop product value) s := by
  unfold setRoBuildProp overrideAll everywhere
  rw [List.foldl_map]

theorem overrideAll_append (pairs pairs' : List (String × String)) (s : Store) :
    overrideAll (pairs ++ pairs') s = overrideAll pairs' (overrideAll pairs s) := by
  unfold overrideAll
  exact List.foldl_append

theorem vendorLoadProperties_eq (boardname : Option (List Char)) (buildNumber : String)
    (s : Store) :
    vendorLoadProperties boardname buildNumber s
      = overrideAll (requests boardname buildNumber) s := by
  unfold requests
  rw [overrideAll_append, overrideAll_append, ← setRoBuildProp_eq, ← setRoBuildProp_eq]
  cases boardname with
  | none => rfl
  | some name =>
    have hmodel : overrideAll (everywhere "model" true (deviceModel name)) s
        = if find name "801W" then setRoBuildProp s "model" "M2-801W" true
          else if find name "801L" then setRoBuildProp s "model" "M2-801L" true
          else if find name "802L" then setRoBuildProp s "model" "M2-802L" true
          else if find name "803L" then setRoBuildProp s "model" "M2-803L" true
          else setRoBuildProp s "model" "MediaPad M2 8.0" true := by
      rw [← setRoBuildProp_eq]
      unfold deviceModel models
      cases h1 : find name "801W" <;> cases h2 : find name "801L" <;>
        cases h3 : find name "802L" <;> cases h4 : find name "803L" <;> simp [h1, h2, h3, h4]
    rw [Option.elim_some, hmodel]
    rfl

theorem names_nodup (boardname : Option (List Char)) (buildNumber : String) :
    ((requests boardname buildNumber).map Prod.fst).Nodup := by
  have hall : (roPropsDefaultSourceOrder.map (propName "model" true)
      ++ (roPropsDefaultSourceOrder.map (propName "fingerprint" false)
        ++ roPropsDefaultSourceOrder.map (propName "description" false))).Nodup := by
    simp [roPropsDefaultSourceOrder, propName]
  unfold requests everywhere
  cases boardname with
  | none =>
    simp only [Option.elim_none, List.nil_append, List.map_append, List.map_map]
    exact (List.nodup_append.mp hall).2.1
  | some name =>
    simp only [Option.elim_some, List.map_append, List.map_map]
    exact hall

theorem ro_propName (prop : String) (product : Bool) (source : String) :
    "ro.".toList <+: (propName prop product source).toList := by
  unfold propName
  split
  · rw [String.toList_append, String.toList_append, List.append_assoc]
    exact (show "ro.".toList <+: "ro.product.".toList by decide).trans (List.prefix_append _ _)
  · rw [String.toList_append, String.toList_append, String.toList_append, List.append_assoc,
      List.append_assoc]
    exact List.prefix_append _ _

theorem ro_requests {boardname : Option (List Char)} {buildNumber : String} :
    ∀ pair ∈ requests boardname buildNumber, "ro.".toList <+: pair.1.toList := by
  have heverywhere : ∀ prop product value, ∀ pair ∈ everywhere prop product value,
      "ro.".toList <+: pair.1.toList := by
    intro prop product value pair hpair
    obtain ⟨source, -, rfl⟩ := List.mem_map.mp hpair
    exact ro_propName prop product source
  intro pair hpair
  rcases List.mem_append.mp hpair with hpair | hpair
  · cases boardname with
    | none => cases hpair
    | some name => exact heverywhere _ _ _ pair hpair
  · rcases List.mem_append.mp hpair with hpair | hpair
    · exact heverywhere _ _ _ pair hpair
    · exact heverywhere _ _ _ pair hpair

/-- The models are short enough for every partition. -/
theorem fits_deviceModel (name : List Char) :
    (deviceModel name).utf8ByteSize < PROP_VALUE_MAX := by
  unfold deviceModel
  cases hfound : models.find? fun entry => find name entry.1 with
  | none => decide
  | some entry =>
    have hall : ∀ entry ∈ models, entry.2.utf8ByteSize < PROP_VALUE_MAX := by decide
    exact hall entry (List.mem_of_find?_eq_some hfound)

/-- **`vendor_properties`.** Whatever was set before and whatever the board name is: each of the
properties that are set holds its value, but one that was there already keeps its own if the new
value is too long; every other property is as before; a second run changes nothing; and if the board
name could be read, the model is the same for all partitions. -/
theorem vendor_properties (boardname : Option (List Char)) (buildNumber : String) (s : Store) :
    (∀ name value, (name, value) ∈ requests boardname buildNumber →
      vendorLoadProperties boardname buildNumber s name = overridden (s name) value) ∧
    (∀ name, name ∉ (requests boardname buildNumber).map Prod.fst →
      vendorLoadProperties boardname buildNumber s name = s name) ∧
    vendorLoadProperties boardname buildNumber (vendorLoadProperties boardname buildNumber s)
      = vendorLoadProperties boardname buildNumber s ∧
    ∀ model, boardname = some model → ∀ source ∈ roPropsDefaultSourceOrder,
      vendorLoadProperties boardname buildNumber s (propName "model" true source)
        = some (deviceModel model) := by
  have hset : ∀ s name value, (name, value) ∈ requests boardname buildNumber →
      vendorLoadProperties boardname buildNumber s name = overridden (s name) value := by
    intro s name value hmem
    rw [vendorLoadProperties_eq]
    exact overrideAll_of_mem ro_requests (names_nodup boardname buildNumber) hmem s
  have hkept : ∀ s name, name ∉ (requests boardname buildNumber).map Prod.fst →
      vendorLoadProperties boardname buildNumber s name = s name := by
    intro s name hname
    rw [vendorLoadProperties_eq]
    exact overrideAll_of_notMem ro_requests hname s
  refine ⟨hset s, hkept s, ?_, ?_⟩
  · funext name
    -- overriding twice is overriding once
    by_cases hname : name ∈ (requests boardname buildNumber).map Prod.fst
    · obtain ⟨⟨_, value⟩, hmem, rfl⟩ := List.mem_map.mp hname
      rw [hset _ _ value hmem, hset _ _ value hmem, overridden_overridden]
    · exact hkept _ name hname
  · rintro model rfl source hsource
    have hmem : (propName "model" true source, deviceModel model)
        ∈ requests (some model) buildNumber :=
      List.mem_append_left _ (List.mem_map.mpr ⟨source, hsource, rfl⟩)
    rw [hset s _ _ hmem]
    exact if_pos (.inl (fits_deviceModel model))

/-- The first code that occurs decides, whatever else is in the board name. -/
example : deviceModel ['8', '0', '3', 'L', ',', '8', '0', '1', 'W', '\x00'] = "M2-801W" := by decide

end Mozart.LibInit
