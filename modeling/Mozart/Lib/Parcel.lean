import Mathlib.Algebra.Group.Nat.Defs
import Mathlib.Data.List.Basic

/-!
# Parcels: typed values in a message of words

A message is a list of words that is written at its end and read from its front. A `Wire` is how
the values of one type travel: what a write appends, what a read takes. A read goes *into* a
variable, because a reader that finds no value leaves something in the variable and goes on; the
law says only that what was written is what is read.

* **`Wire.getEach_putAll`**: a list written value by value comes back, whatever follows it.
* **`getList_putList`**: a list sent with its length in front comes back as far as its length
  fits a word.
* **`getList_cut_short`**: a message that announces more values than it holds yields the announced
  number all the same, the last value read standing in for those that are missing.
-/

namespace Parcel

/-- How the values of `α` travel in a message of words `W`. -/
structure Wire (W α : Type*) where
  put : α → List W
  /-- Read into a variable that holds the second argument. -/
  get : List W → α → α × List W
  get_put : ∀ a old rest, get (put a ++ rest) old = (a, rest)

variable {W α : Type*}

namespace Wire

variable (x : Wire W α)

@[simp] theorem get_put_append (a old : α) (rest : List W) :
    x.get (x.put a ++ rest) old = (a, rest) :=
  x.get_put a old rest

/-- A last value, with nothing after it. -/
@[simp] theorem get_put_self (a old : α) : x.get (x.put a) old = (a, []) := by
  have h := x.get_put a old []
  rwa [List.append_nil] at h

/-! ## Reading and writing value by value -/

def putAll (as : List α) : List W := as.flatMap x.put

@[simp] theorem putAll_nil : x.putAll [] = [] := rfl

@[simp] theorem putAll_cons (a : α) (as : List α) :
    x.putAll (a :: as) = x.put a ++ x.putAll as := rfl

theorem putAll_append (as bs : List α) : x.putAll (as ++ bs) = x.putAll as ++ x.putAll bs := by
  unfold putAll
  exact List.flatMap_append

/-- Read `n` times into one variable and keep what it holds after each read. -/
def getEach : Nat → List W → α → List α × List W
  | 0, ws, _ => ([], ws)
  | n + 1, ws, s =>
    let next := x.get ws s
    let others := getEach n next.2 next.1
    (next.1 :: others.1, others.2)

@[simp] theorem getEach_zero (ws : List W) (s : α) : x.getEach 0 ws s = ([], ws) := rfl

theorem getEach_succ (n : Nat) (ws : List W) (s : α) :
    x.getEach (n + 1) ws s = ((x.get ws s).1 :: (x.getEach n (x.get ws s).2 (x.get ws s).1).1,
      (x.getEach n (x.get ws s).2 (x.get ws s).1).2) := rfl

theorem length_getEach (n : Nat) (ws : List W) (s : α) : (x.getEach n ws s).1.length = n := by
  induction n generalizing ws s with
  | zero => rfl
  | succ n ih => rw [getEach_succ, List.length_cons, ih]

/-- Reading on after the values that were written: the variable holds the last of them. -/
theorem getEach_putAll_add (as : List α) (n : Nat) (rest : List W) (s : α) :
    x.getEach (as.length + n) (x.putAll as ++ rest) s
      = (as ++ (x.getEach n rest (as.getLastD s)).1, (x.getEach n rest (as.getLastD s)).2) := by
  induction as generalizing s with
  | nil => simp
  | cons a as ih =>
    have hlast : (a :: as).getLastD s = as.getLastD a := by
      rw [List.getLastD_cons]
    have hlen : (a :: as).length + n = as.length + n + 1 := by
      rw [List.length_cons]
      omega
    rw [hlen, putAll_cons, List.append_assoc, getEach_succ, get_put_append, hlast]
    show (a :: (x.getEach (as.length + n) (x.putAll as ++ rest) a).1,
      (x.getEach (as.length + n) (x.putAll as ++ rest) a).2) = _
    rw [ih a]
    rfl

/-- **A list written value by value is read back**, whatever follows it. -/
theorem getEach_putAll (as : List α) (rest : List W) (s : α) :
    x.getEach as.length (x.putAll as ++ rest) s = (as, rest) := by
  have h := x.getEach_putAll_add as 0 rest s
  rw [Nat.add_zero] at h
  rw [h, getEach_zero, List.append_nil]

/-- Reads that find nothing leave the variable and the message as they are. -/
theorem getEach_of_stuck {ws : List W} (hstuck : ∀ s, x.get ws s = (s, ws)) (n : Nat) (s : α) :
    x.getEach n ws s = (List.replicate n s, ws) := by
  induction n with
  | zero => rfl
  | succ n ih => rw [getEach_succ, hstuck s, ih, List.replicate_succ]

end Wire

/-! ## Words and lists in a message of 32-bit words -/

/-- An unsigned word. Where there is none to read, the reader gets 0. -/
def uint32 : Wire UInt32 UInt32 where
  put a := [a]
  get
    | [], _ => (0, [])
    | w :: ws, _ => (w, ws)
  get_put := by
    intro a old rest
    rfl

/-- A signed word, in two's complement. -/
def int32 : Wire UInt32 Int32 where
  put a := [a.toUInt32]
  get
    | [], _ => (0, [])
    | w :: ws, _ => (w.toInt32, ws)
  get_put := by
    intro a old rest
    show (a.toUInt32.toInt32, rest) = (a, rest)
    rw [Int32.toInt32_toUInt32]

/-- A value of one word, whose reader leaves its variable alone where there is none. -/
def oneWord : Wire W W where
  put a := [a]
  get
    | [], old => (old, [])
    | w :: ws, _ => (w, ws)
  get_put := by
    intro a old rest
    rfl

/-- A value that can be null: a word that says which, then the value. -/
def nullable (x : Wire UInt32 α) (blank : α) : Wire UInt32 (Option α) where
  put
    | none => [0]
    | some a => 1 :: x.put a
  get
    | [], _ => (none, [])
    | w :: ws, _ => if w = 0 then (none, ws) else (some (x.get ws blank).1, (x.get ws blank).2)
  get_put := by
    intro a old rest
    cases a with
    | none => rfl
    | some a =>
      have hone : (1 : UInt32) ≠ 0 := by decide
      simp [hone]

@[simp] theorem uint32_get_nil (old : UInt32) : uint32.get [] old = (0, []) := rfl

@[simp] theorem uint32_get_cons (w : UInt32) (ws : List UInt32) (old : UInt32) :
    uint32.get (w :: ws) old = (w, ws) := rfl

@[simp] theorem int32_get_nil (old : Int32) : int32.get [] old = (0, []) := rfl

variable (x : Wire UInt32 α)

/-- The length as a word, then every value: the length is cut to 32 bits, the values are not. -/
def putList (as : List α) : List UInt32 := uint32.put (UInt32.ofNat as.length) ++ x.putAll as

/-- The announced number of values, read one after another into a variable that starts as `s`. -/
def getList (s : α) (ws : List UInt32) : List α :=
  let count := uint32.get ws 0
  (x.getEach count.1.toNat count.2 s).1

@[simp] theorem getList_nil (s : α) : getList x s [] = [] := rfl

theorem getList_cons (s : α) (n : UInt32) (ws : List UInt32) :
    getList x s (n :: ws) = (x.getEach n.toNat ws s).1 := rfl

/-- A reader gets as many values as the first word says, whatever the rest of the message. -/
theorem length_getList (s : α) (ws : List UInt32) :
    (getList x s ws).length = (ws.head?.getD 0).toNat := by
  cases ws with
  | nil => rfl
  | cons n ws => exact x.length_getEach n.toNat ws s

/-- **A list sent with its length comes back** as far as the length fits the word in front. -/
theorem getList_putList (as : List α) (s : α) (rest : List UInt32) :
    getList x s (putList x as ++ rest) = as.take (as.length % 2 ^ 32) := by
  have hcount : (UInt32.ofNat as.length).toNat = as.length % 2 ^ 32 := UInt32.toNat_ofNat'
  have hle : as.length % 2 ^ 32 ≤ as.length := Nat.mod_le _ _
  generalize as.length % 2 ^ 32 = k at hcount hle ⊢
  -- the values beyond the announced number are still in the message, behind those that count
  have hsplit : x.putAll as = x.putAll (as.take k) ++ x.putAll (as.drop k) := by
    rw [← x.putAll_append, List.take_append_drop]
  have hlen : (as.take k).length = k := by
    rw [List.length_take]
    omega
  show (x.getEach (UInt32.ofNat as.length).toNat (x.putAll as ++ rest) s).1 = as.take k
  rw [hcount, hsplit, List.append_assoc]
  have hread := x.getEach_putAll (as.take k) (x.putAll (as.drop k) ++ rest) s
  rw [hlen] at hread
  rw [hread]

/-- **A message that ends too early.** It announces `n` values and holds only `as`: the reader
still gets `n`, the missing ones being what the variable held last. -/
theorem getList_cut_short {as : List α} {n : UInt32} (h : as.length ≤ n.toNat) {ws : List UInt32}
    (hstuck : ∀ s, x.get ws s = (s, ws)) (s : α) :
    getList x s (n :: (x.putAll as ++ ws))
      = as ++ List.replicate (n.toNat - as.length) (as.getLastD s) := by
  obtain ⟨k, hk⟩ := Nat.exists_eq_add_of_le h
  have hrest : n.toNat - as.length = k := by omega
  rw [getList_cons, hrest, hk, x.getEach_putAll_add, x.getEach_of_stuck hstuck]

end Parcel
