import Mathlib.Data.List.DropRight
import Mathlib.Data.Fintype.Basic
import Mathlib.Tactic.FinCases

/-!
# The text of a MAC address

`HexValue` and `ParseMac`, the format `StoreMac` prints an address in, and what `HasValidMac` makes
of the bytes it has read. Characters are bytes, classified as in the C locale.

* **`parseMac_formatMac`**: what is printed is parsed back to the same address, if the address is
  one `ParseMac` lets through.
* **`acceptsText_formatMac`**: the reader accepts every printed address of that kind.
-/

namespace Mozart.MacAddr

/-- `std::array<unsigned char, 6>` -/
abbrev Address : Type := Fin 6 → UInt8

def toLower (value : UInt8) : UInt8 :=
  if 'A'.toUInt8 ≤ value ∧ value ≤ 'Z'.toUInt8 then value + 32 else value

def isSpace (value : UInt8) : Bool := value = ' '.toUInt8 ∨ 9 ≤ value ∧ value ≤ 13

def hexValue (value : UInt8) : Int :=
  if '0'.toUInt8 ≤ value ∧ value ≤ '9'.toUInt8 then value.toNat - '0'.toNat
  else
    let value := toLower value
    if 'a'.toUInt8 ≤ value ∧ value ≤ 'f'.toUInt8 then value.toNat - 'a'.toNat + 10 else -1

/-- The body of the loop of `ParseMac`. -/
def parseOctet (text : List UInt8) (index : Nat) : Option UInt8 :=
  let offset := index * 3
  let high := hexValue (text.getD offset 0)
  let low := hexValue (text.getD (offset + 1) 0)
  if high < 0 ∨ low < 0 ∨ (index < 6 - 1 ∧ text.getD (offset + 2) 0 ≠ ':'.toUInt8) then none
  else some (UInt8.ofNat (high.toNat <<< 4 ||| low.toNat))

/-- The check at the end of `ParseMac`. -/
def Address.Acceptable (address : Address) : Prop :=
  ¬ (∀ index, address index = 0) ∧ ¬ (∀ index, address index = 0xff) ∧ address 0 &&& 0x01 = 0

instance (address : Address) : Decidable address.Acceptable :=
  inferInstanceAs (Decidable (_ ∧ _))

/-- The address is the one the caller's array holds when the source returns true. -/
def parseMac (text : List UInt8) : Option Address :=
  if text.length ≠ 17 then none
  else if h : ∀ index : Fin 6, (parseOctet text index).isSome then
    let address : Address := fun index => (parseOctet text index).get (h index)
    if address.Acceptable then some address else none
  else none

/-- The first octet as `GenerateMac` leaves it: locally administered, and not multicast. -/
def Address.administered (address : Address) : Address :=
  Function.update address 0 ((address 0 &&& 0xfe) ||| 0x02)

@[simp] theorem Address.administered_zero (address : Address) :
    address.administered 0 = (address 0 &&& 0xfe) ||| 0x02 := Function.update_self ..

/-- What `HasValidMac` makes of the bytes `read` gave it. -/
def acceptsText (buffer : List UInt8) : Bool :=
  !buffer.isEmpty && (parseMac (buffer.rdropWhile isSpace)).isSome

def hexDigit (digit : UInt8) : UInt8 :=
  if digit < 10 then '0'.toUInt8 + digit else 'A'.toUInt8 + (digit - 10)

/-- `%02X` -/
def formatOctet (value : UInt8) : List UInt8 := [hexDigit (value >>> 4), hexDigit (value &&& 0x0f)]

/-- `%02X:%02X:%02X:%02X:%02X:%02X` -/
def formatMac (address : Address) : List UInt8 :=
  formatOctet (address 0) ++ [':'.toUInt8] ++ formatOctet (address 1) ++ [':'.toUInt8] ++
  formatOctet (address 2) ++ [':'.toUInt8] ++ formatOctet (address 3) ++ [':'.toUInt8] ++
  formatOctet (address 4) ++ [':'.toUInt8] ++ formatOctet (address 5)

@[simp] theorem length_formatMac (address : Address) : (formatMac address).length = 17 := rfl

/-! ## The round trip -/

theorem forall_byte {P : UInt8 → Prop} (h : ∀ n : Fin 256, P (UInt8.ofNat n)) (value : UInt8) :
    P value := by
  have hvalue := h ⟨value.toNat, value.toNat_lt⟩
  rwa [UInt8.ofNat_toNat] at hvalue

/-- Two digits of a byte are read back as the byte, and the last is not white space. -/
theorem hexValue_formatOctet (value : UInt8) :
    0 ≤ hexValue (hexDigit (value >>> 4)) ∧ 0 ≤ hexValue (hexDigit (value &&& 0x0f)) ∧
      UInt8.ofNat ((hexValue (hexDigit (value >>> 4))).toNat <<< 4 |||
        (hexValue (hexDigit (value &&& 0x0f))).toNat) = value ∧
      isSpace (hexDigit (value &&& 0x0f)) = false := by
  revert value
  exact forall_byte (by decide +kernel)

theorem parseOctet_formatMac (address : Address) (index : Fin 6) :
    parseOctet (formatMac address) index = some (address index) := by
  obtain ⟨hhigh, hlow, hvalue, -⟩ := hexValue_formatOctet (address index)
  have hdigits : (formatMac address).getD (index * 3) 0 = hexDigit (address index >>> 4) ∧
      (formatMac address).getD (index * 3 + 1) 0 = hexDigit (address index &&& 0x0f) ∧
      ((index : Nat) < 5 → (formatMac address).getD (index * 3 + 2) 0 = ':'.toUInt8) := by
    fin_cases index <;> simp [formatMac, formatOctet]
  obtain ⟨hfirst, hsecond, hcolon⟩ := hdigits
  simp only [parseOctet, hfirst, hsecond]
  have hpass : ¬ (hexValue (hexDigit (address index >>> 4)) < 0 ∨
      hexValue (hexDigit (address index &&& 0x0f)) < 0 ∨
      (index : Nat) < 6 - 1 ∧ (formatMac address).getD (index * 3 + 2) 0 ≠ ':'.toUInt8) := by
    rintro (h | h | ⟨h, hne⟩)
    · omega
    · omega
    · exact hne (hcolon h)
  rw [if_neg hpass, hvalue]

theorem parseMac_of_octets {text : List UInt8} {address : Address} (hlength : text.length = 17)
    (hoctets : ∀ index : Fin 6, parseOctet text index = some (address index))
    (h : address.Acceptable) : parseMac text = some address := by
  have hsome : ∀ index : Fin 6, (parseOctet text index).isSome := fun index => by
    simp [hoctets]
  have haddress : (fun index : Fin 6 => (parseOctet text index).get (hsome index)) = address := by
    funext index
    simp [hoctets]
  rw [parseMac, if_neg (by simp [hlength]), dif_pos hsome]
  simp only [haddress]
  exact if_pos h

/-- **What is printed is parsed back.** -/
theorem parseMac_formatMac {address : Address} (h : address.Acceptable) :
    parseMac (formatMac address) = some address :=
  parseMac_of_octets (length_formatMac address) (parseOctet_formatMac address) h

theorem rdropWhile_formatMac (address : Address) :
    (formatMac address).rdropWhile isSpace = formatMac address := by
  rw [List.rdropWhile_eq_self_iff]
  intro hne
  have hlast : (formatMac address).getLast hne = hexDigit (address 5 &&& 0x0f) := rfl
  simp [hlast, hexValue_formatOctet]

theorem acceptsText_formatMac {address : Address} (h : address.Acceptable) :
    acceptsText (formatMac address) = true := by
  have hne : (formatMac address).isEmpty = false := rfl
  simp [acceptsText, hne, rdropWhile_formatMac, parseMac_formatMac h]

/-- A first octet with the bits `GenerateMac` sets makes an acceptable address. -/
theorem Address.administered_acceptable (address : Address) : address.administered.Acceptable := by
  have hbits : ∀ byte : UInt8, (byte &&& 0xfe) ||| 0x02 ≠ 0 ∧ (byte &&& 0xfe) ||| 0x02 ≠ 0xff ∧
      ((byte &&& 0xfe) ||| 0x02) &&& 0x01 = 0 := forall_byte (by decide +kernel)
  have hbits := hbits (address 0)
  rw [← administered_zero] at hbits
  exact ⟨fun hzero => hbits.1 (hzero 0), fun hff => hbits.2.1 (hff 0), hbits.2.2⟩

end Mozart.MacAddr
