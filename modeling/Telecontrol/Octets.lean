/-!
# Octet strings and the numbers in them

Every multi-octet field of the protocol is a little-endian number.

* `Octets.toNat` reads a string of octets as a number, `Octets.ofNat` writes the low
  octets of a number; `toNat_ofNat` and `ofNat_toNat` say that they are inverse to each
  other on strings of one width, of which there are `Octets.bound`.
* `bits n low width` is a field of adjacent bits of a number.
* `hexadecimal` is the fixed-width upper-case notation used in diagnostics.
-/

namespace Telecontrol

/-- A string of octets in wire order. -/
abbrev Octets := List UInt8

namespace Octets

/-- The number whose base-256 digits, least significant first, are the given octets. -/
def toNat : Octets → Nat
  | [] => 0
  | b :: rest => b.toNat + 256 * toNat rest

/-- The low `width` base-256 digits of a number, least significant first. -/
def ofNat : (width : Nat) → Nat → Octets
  | 0, _ => []
  | width + 1, n => UInt8.ofNat n :: ofNat width (n / 256)

/-- The number of strings of `width` octets, which bounds the numbers they denote. -/
def bound : (width : Nat) → Nat
  | 0 => 1
  | width + 1 => 256 * bound width

@[simp] theorem toNat_nil : toNat [] = 0 := rfl

@[simp] theorem toNat_cons (b : UInt8) (rest : Octets) :
    toNat (b :: rest) = b.toNat + 256 * toNat rest := rfl

@[simp] theorem ofNat_zero (n : Nat) : ofNat 0 n = [] := rfl

@[simp] theorem ofNat_succ (width n : Nat) :
    ofNat (width + 1) n = UInt8.ofNat n :: ofNat width (n / 256) := rfl

@[simp] theorem length_ofNat (width n : Nat) : (ofNat width n).length = width := by
  induction width generalizing n with
  | zero => rfl
  | succ width ih => simp [ih]

/-- A string of octets denotes a number below the bound given by its length. -/
theorem toNat_lt (bytes : Octets) : toNat bytes < bound bytes.length := by
  induction bytes with
  | nil => simp [bound]
  | cons b rest ih =>
    have hb := b.toNat_lt
    simp only [toNat_cons, List.length_cons, bound]
    omega

/-- Writing keeps exactly the octets that the width leaves room for. -/
theorem toNat_ofNat (width n : Nat) : toNat (ofNat width n) = n % bound width := by
  induction width generalizing n with
  | zero => simp [bound, Nat.mod_one]
  | succ width ih =>
    have byte : (UInt8.ofNat n).toNat = n % 256 := UInt8.toNat_ofNat'
    rw [ofNat_succ, toNat_cons, ih, byte, bound, Nat.mod_mul]

/-- Reading a string and writing the number again gives the string back. -/
theorem ofNat_toNat (bytes : Octets) : ofNat bytes.length (toNat bytes) = bytes := by
  induction bytes with
  | nil => rfl
  | cons b rest ih =>
    have hb := b.toNat_lt
    have hdiv : (b.toNat + 256 * toNat rest) / 256 = toNat rest := by omega
    have hlow : UInt8.ofNat (b.toNat + 256 * toNat rest) = b := by
      apply UInt8.toNat_inj.mp
      rw [UInt8.toNat_ofNat']
      omega
    simp only [toNat_cons, List.length_cons, ofNat_succ, hdiv, ih, hlow]

end Octets

/-- The field of `width` bits of `n` whose lowest bit is bit `low`. -/
def bits (n low width : Nat) : Nat := n >>> low % 1 <<< width

theorem bits_lt (n low width : Nat) : bits n low width < 1 <<< width := by
  refine Nat.mod_lt _ ?_
  rw [Nat.one_shiftLeft]
  exact Nat.two_pow_pos width

/-- The upper-case hexadecimal digit of a number below 16. -/
def hexDigit (n : Nat) : Char :=
  if n < 10 then Char.ofNat (48 + n) else Char.ofNat (55 + n)

/-- The last `width` hexadecimal digits of a number, most significant first. -/
def hexDigits : (width : Nat) → Nat → List Char
  | 0, _ => []
  | width + 1, n => hexDigits width (n / 16) ++ [hexDigit (n % 16)]

/-- A number in upper-case hexadecimal notation with a fixed number of digits. -/
def hexadecimal (width n : Nat) : String := String.ofList (hexDigits width n)

end Telecontrol
