import Mozart.MacAddr.Mac
import Mathlib.Data.Nat.Bitwise

/-!
# The grammar of a MAC address

What `ParseMac` accepts, said without its arithmetic: a text of six pairs of hexadecimal digits
with colons between them, and an address that may stand for one host.

* **`hexValue_eq_iff`**: `HexValue` is the position in the list of digits.
* **`parseMac_grammar`**: `ParseMac` accepts the grammar and nothing else, and gives back every
  address that `StoreMac` prints.
-/

namespace Mozart.MacAddr

/-! ## Digits -/

/-- The characters of an ASCII text. -/
def asciiBytes (text : String) : List UInt8 := text.toList.map Char.toUInt8

/-- `digit` is a hexadecimal digit of this value, in lower or upper case. -/
def HexDigit (digit : UInt8) (value : Nat) : Prop :=
  (asciiBytes "0123456789abcdef")[value]? = some digit ∨
    (asciiBytes "0123456789ABCDEF")[value]? = some digit

instance (digit : UInt8) (value : Nat) : Decidable (HexDigit digit value) :=
  inferInstanceAs (Decidable (_ ∨ _))

theorem HexDigit.lt {digit : UInt8} {value : Nat} (h : HexDigit digit value) : value < 16 :=
  h.elim (fun h => (List.getElem?_eq_some_iff.mp h).1) fun h => (List.getElem?_eq_some_iff.mp h).1

/-- **`HexValue` is the position among the digits**, and negative for any other byte. -/
theorem hexValue_eq_iff {digit : UInt8} {value : Nat} :
    hexValue digit = value ↔ HexDigit digit value := by
  constructor
  · intro h
    have hdigit : ∀ digit : UInt8, 0 ≤ hexValue digit →
        HexDigit digit (hexValue digit).toNat := forall_byte (by decide +kernel)
    have hvalue := hdigit digit (by omega)
    rwa [h, Int.toNat_natCast] at hvalue
  · intro h
    have hvalues : ∀ value : Fin 16,
        (asciiBytes "0123456789abcdef")[value.val]?.map hexValue = some (value.val : Int) ∧
        (asciiBytes "0123456789ABCDEF")[value.val]?.map hexValue = some (value.val : Int) := by
      decide +kernel
    have hlt := h.lt
    obtain ⟨hlower, hupper⟩ := hvalues ⟨value, hlt⟩
    rcases h with h | h
    · rw [h] at hlower
      exact Option.some.inj hlower
    · rw [h] at hupper
      exact Option.some.inj hupper

/-! ## The grammar -/

/-- Seventeen characters, the digits of `address` in pairs, a colon after each pair but the last. -/
structure IsMacText (text : List UInt8) (address : Address) : Prop where
  length : text.length = 17
  pairs : ∀ index : Fin 6, ∃ first second high low, text[3 * index.val]? = some first ∧
    text[3 * index.val + 1]? = some second ∧ HexDigit first high ∧ HexDigit second low ∧
    (address index).toNat = 16 * high + low
  colons : ∀ position ∈ [2, 5, 8, 11, 14], text[position]? = some ':'.toUInt8

theorem ofNat_digits {high low : Nat} (hhigh : high < 16) (hlow : low < 16) {value : UInt8} :
    UInt8.ofNat (high <<< 4 ||| low) = value ↔ value.toNat = 16 * high + low := by
  rw [← Nat.shiftLeft_add_eq_or_of_lt (show low < 2 ^ 4 from hlow), Nat.shiftLeft_eq,
    ← UInt8.toNat_inj, UInt8.toNat_ofNat']
  omega

theorem getElem?_of_length {text : List UInt8} (hlength : text.length = 17) {position : Nat}
    (h : position < 17) {c : UInt8} : text[position]? = some c ↔ text.getD position 0 = c := by
  rw [List.getD_eq_getElem?_getD, List.getElem?_eq_getElem (by omega), Option.getD_some,
    Option.some_inj]

/-- One round of the loop, in terms of the grammar. -/
theorem parseOctet_eq_some_iff {text : List UInt8} (hlength : text.length = 17) (index : Fin 6)
    {value : UInt8} :
    parseOctet text index = some value ↔
      (∃ first second high low, text[3 * index.val]? = some first ∧
        text[3 * index.val + 1]? = some second ∧ HexDigit first high ∧ HexDigit second low ∧
        value.toNat = 16 * high + low) ∧
      (index.val < 5 → text[3 * index.val + 2]? = some ':'.toUInt8) := by
  have hindex := index.isLt
  rw [parseOctet, Nat.mul_comm index.val 3, ite_eq_iff]
  constructor
  · rintro (⟨-, h⟩ | ⟨hpass, h⟩)
    · cases h
    simp only [not_or, not_and, not_not, Int.not_lt] at hpass
    obtain ⟨hhigh, hlow, hcolon⟩ := hpass
    -- the digits are those `HexValue` does not answer -1 for
    obtain ⟨high, hhigh⟩ := Int.eq_ofNat_of_zero_le hhigh
    obtain ⟨low, hlow⟩ := Int.eq_ofNat_of_zero_le hlow
    have hfirst := hexValue_eq_iff.mp hhigh
    have hsecond := hexValue_eq_iff.mp hlow
    refine ⟨⟨_, _, high, low, (getElem?_of_length hlength (by omega)).mpr rfl,
      (getElem?_of_length hlength (by omega)).mpr rfl, hfirst, hsecond, ?_⟩, fun hlt => ?_⟩
    · rw [hhigh, hlow] at h
      exact (ofNat_digits hfirst.lt hsecond.lt).mp (Option.some.inj h)
    · exact (getElem?_of_length hlength (by omega)).mpr (hcolon (by omega))
  · rintro ⟨⟨first, second, high, low, hfirst, hsecond, hhigh, hlow, hvalue⟩, hcolon⟩
    rw [(getElem?_of_length hlength (by omega)).mp hfirst,
      (getElem?_of_length hlength (by omega)).mp hsecond, hexValue_eq_iff.mpr hhigh,
      hexValue_eq_iff.mpr hlow]
    refine Or.inr ⟨?_, congrArg some ((ofNat_digits hhigh.lt hlow.lt).mpr hvalue)⟩
    rintro (h | h | ⟨h, hne⟩)
    · omega
    · omega
    · exact hne ((getElem?_of_length hlength (by omega)).mp (hcolon (by omega)))

theorem isMacText_iff {text : List UInt8} {address : Address} (hlength : text.length = 17) :
    IsMacText text address ↔ ∀ index : Fin 6, parseOctet text index = some (address index) := by
  constructor
  · rintro ⟨-, hpairs, hcolons⟩ index
    refine (parseOctet_eq_some_iff hlength index).mpr ⟨hpairs index, fun hlt => hcolons _ ?_⟩
    have hindex := index.isLt
    simp only [List.mem_cons, List.not_mem_nil, or_false]
    omega
  · intro h
    have hrounds := fun index => (parseOctet_eq_some_iff hlength index).mp (h index)
    refine ⟨hlength, fun index => (hrounds index).1, fun position hposition => ?_⟩
    simp only [List.mem_cons, List.not_mem_nil, or_false] at hposition
    obtain ⟨index, hlt, rfl⟩ : ∃ index : Fin 6, index.val < 5 ∧ position = 3 * index.val + 2 :=
      ⟨⟨(position - 2) / 3, by omega⟩, by dsimp only; omega, by dsimp only; omega⟩
    exact (hrounds index).2 hlt

/-- **`ParseMac` accepts the grammar**, with the address the digits spell. -/
theorem parseMac_eq_some_iff {text : List UInt8} {address : Address} :
    parseMac text = some address ↔ IsMacText text address ∧ address.Acceptable := by
  constructor
  · intro h
    rw [parseMac] at h
    split_ifs at h with hlength hoctets
    dsimp only at h
    split_ifs at h with hok
    obtain rfl := Option.some.inj h
    refine ⟨(isMacText_iff (not_not.mp hlength)).mpr fun index => ?_, hok⟩
    exact (Option.some_get (hoctets index)).symm
  · rintro ⟨htext, hok⟩
    exact parseMac_of_octets htext.length ((isMacText_iff htext.length).mp htext) hok

/-- **`ParseMac` accepts exactly the grammar of unicast addresses, and inverts what is stored**:
the print of any six random bytes, after the adjustment of the first, is read back as these
bytes. -/
theorem parseMac_grammar :
    (∀ text address, parseMac text = some address ↔
      IsMacText text address ∧ ¬ (∀ index, address index = 0) ∧
        ¬ (∀ index, address index = 0xff) ∧ address 0 &&& 0x01 = 0) ∧
    ∀ random : Address, parseMac (formatMac random.administered) = some random.administered :=
  ⟨fun _ _ => parseMac_eq_some_iff, fun random =>
    parseMac_formatMac random.administered_acceptable⟩

end Mozart.MacAddr
