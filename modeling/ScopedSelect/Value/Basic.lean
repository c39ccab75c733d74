import ScopedSelect.Binary.Nearest

/-!
# Values

What a column can be compared with: nothing, an integer, a floating-point number or a text. An
integer may have 128 bits, sign included; every narrower integer of the host is one of them, with its
own mathematical value.
Equality of values compares numbers as numbers, so it is not reflexive where NaN occurs and does
not separate the two zeros.
-/

namespace ScopedSelect

/-- An integer from `-2 ^ 127` up to, but not including, `2 ^ 127`. -/
structure WideInt where
  val : Int
  le_val : -2 ^ (127 : Nat) ≤ val
  val_lt : val < 2 ^ (127 : Nat)
deriving DecidableEq

namespace WideInt

/-- Wide integers are equal if the integers are; their bounds do not count. -/
@[ext]
theorem ext {a b : WideInt} (h : a.val = b.val) : a = b := by
  cases a; cases b; cases h; rfl

/-- The integer, if it is in range. -/
def ofInt? (n : Int) : Option WideInt :=
  if h : -2 ^ (127 : Nat) ≤ n ∧ n < 2 ^ (127 : Nat) then some ⟨n, h.1, h.2⟩ else none

/-- A signed integer of at most 64 bits. -/
def ofInt64 (n : Int64) : WideInt :=
  ⟨n.toInt, by have := n.le_toInt; omega, by have := n.toInt_lt; omega⟩

/-- An unsigned integer of at most 64 bits. -/
def ofUInt64 (n : UInt64) : WideInt :=
  ⟨n.toNat, by omega, by have := n.toNat_lt; omega⟩

/-- The decimal digits, after a minus sign for a negative integer. -/
def chars (n : WideInt) : List Char :=
  (if n.val < 0 then ['-'] else []) ++ Nat.toDigits 10 n.val.natAbs

end WideInt

/-- A literal on the right of a comparison. -/
inductive Value where
  | null
  | int (n : WideInt)
  | float (x : Double)
  | text (s : String)
deriving DecidableEq

namespace Value

/-- Whether the value is null. -/
def isNull : Value → Bool
  | null => true
  | _ => false

/-- Whether the value is an integer or a floating-point number. -/
def isNumber : Value → Bool
  | int _ | float _ => true
  | _ => false

/-- Equality of values of one kind; values of two kinds differ, equal numbers included. -/
def agrees : Value → Value → Bool
  | null, null => true
  | int m, int n => m == n
  | float x, float y => x.agrees y
  | text s, text t => s == t
  | _, _ => false

end Value

end ScopedSelect
