import Mozart.Lib.Lines
import Mozart.MacAddr.Grammar
import Mozart.MacAddr.Halting

/-!
# `HasValidMac` and the rest of the file

`HasValidMac` reads once, into 32 bytes, and trims what it got. An address takes 17 of them, so the
verdict is that on the whole file unless white space fills the buffer to its end: then nothing
tells what comes behind.

* **`accepts_trimmed_iff`**: a trimmed text is accepted if its first 17 bytes are an address and all
  others white space.
* **`hasValidMac_iff`**: the files on which the verdict is that on the whole content.
-/

namespace Mozart.MacAddr

open Dialogue

/-- The content with trailing white space removed is an address. -/
def WholeValid (content : List UInt8) : Prop := (parseMac (content.rdropWhile isSpace)).isSome

instance (content : List UInt8) : Decidable (WholeValid content) :=
  inferInstanceAs (Decidable (_ = true))

/-- An address and white space fill the buffer, and something else comes behind it. -/
def HidesRest (content : List UInt8) : Prop :=
  (parseMac (content.take 17)).isSome ∧ (∀ byte ∈ (content.take 32).drop 17, isSpace byte = true) ∧
    ∃ byte ∈ content.drop 32, isSpace byte = false

/-! ## Trimming -/

theorem HexDigit.not_isSpace {digit : UInt8} {value : Nat} (h : HexDigit digit value) :
    isSpace digit = false := by
  have hdigit : ∀ digit : UInt8, 0 ≤ hexValue digit → isSpace digit = false :=
    forall_byte (by decide +kernel)
  exact hdigit digit (by rw [hexValue_eq_iff.mpr h]; omega)

/-- An accepted text ends in a digit, so there is nothing to trim. -/
theorem rdropWhile_of_parseMac {text : List UInt8} (h : (parseMac text).isSome) :
    text.rdropWhile isSpace = text := by
  obtain ⟨address, haddress⟩ := Option.isSome_iff_exists.mp h
  obtain ⟨⟨hlength, hpairs, -⟩, -⟩ := parseMac_eq_some_iff.mp haddress
  obtain ⟨-, second, -, low, -, hsecond, -, hlow, -⟩ := hpairs 5
  rw [List.rdropWhile_eq_self_iff]
  intro hne
  have hlast : text.getLast? = some second := by
    rw [List.getLast?_eq_getElem?, hlength]
    exact hsecond
  rw [List.getLast?_eq_some_getLast hne] at hlast
  rw [Option.some.inj hlast, hlow.not_isSpace]
  exact Bool.false_ne_true

/-- **A trimmed text is accepted** if its first 17 bytes are and the others are white space. -/
theorem accepts_trimmed_iff (text : List UInt8) :
    (parseMac (text.rdropWhile isSpace)).isSome ↔
      (parseMac (text.take 17)).isSome ∧ ∀ byte ∈ text.drop 17, isSpace byte = true := by
  constructor
  · intro h
    obtain ⟨address, haddress⟩ := Option.isSome_iff_exists.mp h
    have hlength := (parseMac_eq_some_iff.mp haddress).1.length
    have hsplit : text.rdropWhile isSpace ++ text.rtakeWhile isSpace = text :=
      List.rdropWhile_append_rtakeWhile
    have htake : text.take 17 = text.rdropWhile isSpace := by
      rw [← hlength]
      exact (List.prefix_iff_eq_take.mp (List.rdropWhile_prefix isSpace text)).symm
    have hdrop : text.drop 17 = text.rtakeWhile isSpace := by
      rw [← hlength]
      nth_rewrite 2 [← hsplit]
      rw [List.drop_left]
    rw [htake, hdrop]
    exact ⟨h, fun byte hbyte => List.mem_rtakeWhile_imp hbyte⟩
  · rintro ⟨h, hspaces⟩
    have hsplit := Lines.rdropWhile_append_of_pos (l := text.take 17) hspaces
    rw [List.take_append_drop, rdropWhile_of_parseMac h] at hsplit
    rwa [hsplit]

theorem acceptsText_iff (buffer : List UInt8) :
    acceptsText buffer = true ↔ (parseMac (buffer.rdropWhile isSpace)).isSome := by
  cases buffer with
  | nil => exact iff_of_false Bool.false_ne_true (by decide)
  | cons byte rest => simp [acceptsText]

/-- **The buffer decides for the file** unless it hides the rest. -/
theorem acceptsText_take_iff (content : List UInt8) :
    (acceptsText (content.take 32) = true ↔ WholeValid content) ↔ ¬ HidesRest content := by
  have hrest : content.drop 17 = (content.take 32).drop 17 ++ content.drop 32 := by
    have hbehind : content.drop 32 = (content.drop 17).drop 15 := by rw [List.drop_drop]
    rw [List.drop_take, hbehind, List.take_append_drop]
  have hother : (∃ byte ∈ content.drop 32, isSpace byte = false) ↔
      ¬ ∀ byte ∈ content.drop 32, isSpace byte = true := by
    simp only [not_forall, exists_prop, Bool.not_eq_true]
  rw [acceptsText_iff, accepts_trimmed_iff, WholeValid, accepts_trimmed_iff, List.take_take,
    Nat.min_eq_left (by decide), HidesRest, hrest, List.forall_mem_append, hother]
  tauto

/-- **`HasValidMac` judges the whole file** exactly where the buffer does not hide the rest of it;
and in a cooperative environment it does return. -/
theorem hasValidMac_iff {oracle : Oracle} {w : World} {path : String} {file : File}
    (hpath : path ≠ kRandomPath) (hfile : w.fs path = some file)
    (hreadable : Readable oracle path) :
    (∀ answer w', Returns (env oracle) (hasValidMac path) w answer w' →
      ((answer = true ↔ WholeValid file.content) ↔ ¬ HidesRest file.content)) ∧
    ∀ limit, Cooperative oracle limit →
      ∃ answer w', Returns (env oracle) (hasValidMac path) w answer w' := by
  refine ⟨fun answer w' hreturns => ?_, fun limit h => h.total_hasValidMac path w⟩
  obtain ⟨-, hvalid, hfound⟩ := (holds_hasValidMac hpath).2 answer w' hreturns
  have hanswer : answer = true ↔ acceptsText (file.content.take 32) = true := by
    refine ⟨fun htrue => ?_, fun haccepts => hfound hreadable ⟨file, hfile, haccepts⟩⟩
    obtain ⟨file', hfile', haccepts⟩ := hvalid htrue
    cases hfile.symm.trans hfile'
    exact haccepts
  rw [hanswer]
  exact acceptsText_take_iff file.content

/-- Nothing but the address file of the wireless interface. -/
def wifiWorld (content : List UInt8) : World where
  fs path := if path = kWifiPath then some ⟨content, 1000, 1010, 0o660, true⟩ else none
  descriptors := []
  log := []

/-- A file that ends in a newline is judged as a whole. -/
theorem hasValidMac_iff_newline :
    ∃ w', Returns (env obliging) (hasValidMac kWifiPath)
        (wifiWorld (formatMac (fun _ => 0x22) ++ [10])) true w' ∧
      WholeValid (formatMac (fun _ => 0x22) ++ [10]) := by
  have hreturns : Returns (env obliging) (hasValidMac kWifiPath)
      (wifiWorld (formatMac (fun _ => 0x22) ++ [10])) true
      (after (env obliging) 20 (hasValidMac kWifiPath) _).2 := ⟨20, by decide +kernel, rfl⟩
  have hfile : (wifiWorld (formatMac (fun _ => 0x22) ++ [10])).fs kWifiPath =
      some ⟨formatMac (fun _ => 0x22) ++ [10], 1000, 1010, 0o660, true⟩ := by simp [wifiWorld]
  have hiff := (hasValidMac_iff (by decide) hfile (obliging_readable kWifiPath)).1 _ _ hreturns
  have hshort : ¬ HidesRest (formatMac (fun _ => 0x22) ++ [10]) := by
    rintro ⟨-, -, byte, hbyte, -⟩
    exact List.not_mem_nil hbyte
  exact ⟨_, hreturns, (hiff.mpr hshort).mp rfl⟩

/-- An address, fifteen blanks, and a letter that is not seen: the file is taken for valid. -/
theorem hasValidMac_hiddenLetter :
    ∃ content w', Readable obliging kWifiPath ∧
      Returns (env obliging) (hasValidMac kWifiPath) (wifiWorld content) true w' ∧
      ¬ WholeValid content :=
  ⟨formatMac (fun _ => 0x22) ++ List.replicate 15 ' '.toUInt8 ++ ['x'.toUInt8], _,
    obliging_readable kWifiPath, ⟨20, by decide +kernel, rfl⟩, by decide +kernel⟩

end Mozart.MacAddr
