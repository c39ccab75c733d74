import ScopedSelect.Decimal.Basic

/-!
# Binary floating-point numbers

A format is given by its widths. A number is kept as its sign and its magnitude, the word without
the sign bit: finite magnitudes count the non-negative finite numbers in increasing order from
zero, the next magnitude stands for infinity, and the ones above it for NaN. `Format.units` gives
the exact size of a magnitude in multiples of the least positive number, so that numbers of either
format are compared between naturals. Arithmetic on numbers is not covered.
-/

namespace ScopedSelect

/-- The widths of the stored fraction and of the exponent. -/
structure Format where
  fractionBits : Nat
  exponentBits : Nat
deriving DecidableEq

namespace Format

/-- The 32-bit interchange format. -/
def binary32 : Format := ⟨23, 8⟩

/-- The 64-bit interchange format. -/
def binary64 : Format := ⟨52, 11⟩

/-- The width of a word without its sign. -/
def magnitudeBits (F : Format) : Nat := F.exponentBits + F.fractionBits

/-- The magnitude that stands for infinity: the exponent is all ones and the fraction is zero. -/
def infinity (F : Format) : Nat := (2 ^ F.exponentBits - 1) * 2 ^ F.fractionBits

/-- The least positive number of the format is `2 ^ (-F.scale)`. -/
def scale (F : Format) : Nat := 2 ^ (F.exponentBits - 1) - 2 + F.fractionBits

/-- The size of a magnitude in multiples of the least positive number. Below the first normal
number the magnitude is that multiple; above it the fraction gains a leading one, and each step
of the exponent doubles the result. At `F.infinity` this is the first power of two out of range. -/
def units (F : Format) (magnitude : Nat) : Nat :=
  if magnitude < 2 ^ F.fractionBits then magnitude
  else (2 ^ F.fractionBits + magnitude % 2 ^ F.fractionBits) *
    2 ^ (magnitude / 2 ^ F.fractionBits - 1)

/-- There is a magnitude for each exponent and each fraction. -/
theorem two_pow_magnitudeBits (F : Format) :
    2 ^ F.magnitudeBits = 2 ^ F.exponentBits * 2 ^ F.fractionBits := by
  rw [magnitudeBits, Nat.pow_add]

/-- Infinity is a magnitude of the format. -/
theorem infinity_lt (F : Format) : F.infinity < 2 ^ F.magnitudeBits := by
  rw [two_pow_magnitudeBits, infinity]
  exact Nat.mul_lt_mul_of_pos_right (Nat.sub_lt (Nat.two_pow_pos _) Nat.one_pos) (Nat.two_pow_pos _)

/-- Magnitude zero stands for zero. -/
theorem units_zero (F : Format) : F.units 0 = 0 := by
  simp [units]

end Format

/-- A floating-point number of the format, told apart from the others by its sign and magnitude. -/
structure Binary (F : Format) where
  negative : Bool
  magnitude : Fin (2 ^ F.magnitudeBits)
deriving DecidableEq

/-- A 32-bit number. -/
abbrev Single := Binary .binary32

/-- A 64-bit number. -/
abbrev Double := Binary .binary64

namespace Binary

variable {F : Format}

/-- The number whose word is the given natural number; bits beyond the word are dropped. -/
def ofBits (F : Format) (word : Nat) : Binary F :=
  ⟨word.testBit F.magnitudeBits,
    ⟨word % 2 ^ F.magnitudeBits, Nat.mod_lt _ (Nat.two_pow_pos _)⟩⟩

/-- The word: the sign bit stands above the magnitude. -/
def toBits (x : Binary F) : Nat :=
  (if x.negative then 2 ^ F.magnitudeBits else 0) + x.magnitude.val

/-- Whether the number is none of the finite ones and no infinity. -/
def isNaN (x : Binary F) : Bool := F.infinity < x.magnitude.val

/-- Whether the number is neither NaN nor an infinity. -/
def isFinite (x : Binary F) : Bool := x.magnitude.val < F.infinity

/-- A finite number is not NaN, so the cases of a conversion exclude each other. -/
theorem isNaN_eq_false_of_isFinite {x : Binary F} (h : x.isFinite) : x.isNaN = false :=
  decide_eq_false (Nat.not_lt.mpr (Nat.le_of_lt (of_decide_eq_true h)))

/-- Whether the number is one of the two zeros. -/
def isZero (x : Binary F) : Bool := x.magnitude.val = 0

/-- The infinity of the given sign. -/
def infinity (F : Format) (negative : Bool) : Binary F := ⟨negative, ⟨F.infinity, F.infinity_lt⟩⟩

/-- The NaN that stands for all of them: positive, with the topmost magnitude. -/
def nan (F : Format) : Binary F :=
  ⟨false, ⟨2 ^ F.magnitudeBits - 1, Nat.sub_lt (Nat.two_pow_pos _) Nat.one_pos⟩⟩

/-- The zero of the given sign. -/
def zero (F : Format) (negative : Bool) : Binary F := ⟨negative, ⟨0, Nat.two_pow_pos _⟩⟩

/-- The finite number of the given sign and magnitude. -/
def finite (negative : Bool) (magnitude : Nat) (h : magnitude < F.infinity) : Binary F :=
  ⟨negative, ⟨magnitude, Nat.lt_trans h F.infinity_lt⟩⟩

/-- Equality of numbers rather than of words: NaN differs from everything, itself included, and
the two zeros agree. -/
def agrees (x y : Binary F) : Bool :=
  !x.isNaN && !y.isNaN && (x == y || (x.isZero && y.isZero))

end Binary

end ScopedSelect
