import Mathlib.Logic.Function.Iterate
import ScopedSelect.Proofs.Binary.Widening
import ScopedSelect.Proofs.Value.Single
import ScopedSelect.Value.Item

/-!
# Scalars of callers and of formats

A scalar comes in as something a caller compares with or as an item of a format, behind any number of
layers of presence. Each width of integers has a conversion of its own on either side, and still both
sides arrive at the same value, which holds the integer itself. Only 32-bit numbers are treated
differently: a caller's number goes through its shortest decimal and a format's number is widened
exactly, so they agree just where the decimal leads back to the exact value. Kinds of items that are no
values are refused for what they are, however many layers are around them.
-/

namespace ScopedSelect

/-- A scalar that callers and formats both have and treat alike. -/
inductive Scalar where
  | int8 (n : Int8)
  | int16 (n : Int16)
  | int32 (n : Int32)
  | int64 (n : Int64)
  | int128 (n : WideInt)
  | uint8 (n : UInt8)
  | uint16 (n : UInt16)
  | uint32 (n : UInt32)
  | uint64 (n : UInt64)
  | double (x : Double)
  | text (s : String)
  | unit
  | none

namespace Scalar

/-- The scalar as a caller gives it. -/
def host : Scalar → Host
  | int8 n => .int8 n
  | int16 n => .int16 n
  | int32 n => .int32 n
  | int64 n => .int64 n
  | int128 n => .int128 n
  | uint8 n => .uint8 n
  | uint16 n => .uint16 n
  | uint32 n => .uint32 n
  | uint64 n => .uint64 n
  | double x => .double x
  | text s => .text s
  | unit => .unit
  | none => .none

/-- The scalar as a format hands it over. -/
def item : Scalar → Item
  | int8 n => .int8 n
  | int16 n => .int16 n
  | int32 n => .int32 n
  | int64 n => .int64 n
  | int128 n => .int128 n
  | uint8 n => .uint8 n
  | uint16 n => .uint16 n
  | uint32 n => .uint32 n
  | uint64 n => .uint64 n
  | double x => .double x
  | text s => .text s
  | unit => .unit
  | none => .none

/-- The mathematical integer of a scalar that is one. -/
def integer? : Scalar → Option Int
  | int8 n => some n.toInt
  | int16 n => some n.toInt
  | int32 n => some n.toInt
  | int64 n => some n.toInt
  | int128 n => some n.val
  | uint8 n => some n.toNat
  | uint16 n => some n.toNat
  | uint32 n => some n.toNat
  | uint64 n => some n.toNat
  | double _ | text _ | unit | none => Option.none

/-- The value is the scalar: its integer, its bits, its text, or null. -/
inductive Denotes : Scalar → Value → Prop
  | integer {s : Scalar} {n : WideInt} (h : s.integer? = some n.val) : Denotes s (.int n)
  | double (x : Double) : Denotes (.double x) (.float x)
  | text (s : String) : Denotes (.text s) (.text s)
  | unit : Denotes .unit .null
  | none : Denotes .none .null

/-- Two conversions of an integer agree when the integers they arrive at are equal. -/
theorem exists_value_of_integer {s : Scalar} {n m : WideInt} (hinteger : s.integer? = some n.val)
    (hhost : s.host.toValue = .ok (.int n)) (hitem : Value.ofItem s.item = .ok (.int m))
    (hsame : m.val = n.val) :
    ∃ v, s.Denotes v ∧ s.host.toValue = .ok v ∧ Value.ofItem s.item = .ok v := by
  obtain rfl := WideInt.ext hsame
  exact ⟨.int m, .integer hinteger, hhost, hitem⟩

/-- A caller's scalar and a format's scalar are the same value. -/
theorem exists_value (s : Scalar) :
    ∃ v, s.Denotes v ∧ s.host.toValue = .ok v ∧ Value.ofItem s.item = .ok v := by
  cases s with
  -- Narrow integers are widened to 64 bits first on the side of the format.
  | int8 n => exact exists_value_of_integer rfl rfl rfl n.toInt_toInt64
  | int16 n => exact exists_value_of_integer rfl rfl rfl n.toInt_toInt64
  | int32 n => exact exists_value_of_integer rfl rfl rfl n.toInt_toInt64
  | int64 n => exact exists_value_of_integer rfl rfl rfl rfl
  | int128 n => exact exists_value_of_integer rfl rfl rfl rfl
  | uint8 n => exact exists_value_of_integer rfl rfl rfl (congrArg Int.ofNat n.toNat_toUInt64)
  | uint16 n => exact exists_value_of_integer rfl rfl rfl (congrArg Int.ofNat n.toNat_toUInt64)
  | uint32 n => exact exists_value_of_integer rfl rfl rfl (congrArg Int.ofNat n.toNat_toUInt64)
  | uint64 n => exact exists_value_of_integer rfl rfl rfl rfl
  | double x => exact ⟨.float x, .double x, rfl, rfl⟩
  | text s => exact ⟨.text s, .text s, rfl, rfl⟩
  | unit => exact ⟨.null, .unit, rfl, rfl⟩
  | none => exact ⟨.null, .none, rfl, rfl⟩

end Scalar

/-- An item of a kind that is no value. What compound items have inside is not looked at. -/
inductive UnfitItem where
  | uint128 (n : Fin (2 ^ (128 : Nat)))
  | bool (b : Bool)
  | bytes
  | sequence
  | map
  | enumeration
  | newtype

namespace UnfitItem

/-- The item itself. -/
def item : UnfitItem → Item
  | uint128 n => .uint128 n
  | bool b => .bool b
  | bytes => .bytes
  | sequence => .sequence
  | map => .map
  | enumeration => .enumeration
  | newtype => .newtype

/-- What the item is refused as. -/
def found : UnfitItem → Found
  | uint128 n => .unsigned128 n.val
  | bool b => .bool b
  | bytes => .bytes
  | sequence => .sequence
  | map => .map
  | enumeration => .enumeration
  | newtype => .newtype

/-- The item is refused for what it is. -/
theorem ofItem_item (u : UnfitItem) : Value.ofItem u.item = .error ⟨u.found, .scalar⟩ := by
  cases u <;> rfl

end UnfitItem

/-- Layers of presence around what a caller gives change nothing. -/
theorem Host.toValue_iterate_some (layers : Nat) (h : Host) :
    (Host.some^[layers] h).toValue = h.toValue := by
  induction layers with
  | zero => rfl
  | succ layers ih =>
    rw [Function.iterate_succ_apply', toValue]
    exact ih

/-- Layers of presence around an item change nothing. -/
theorem Value.ofItem_iterate_some (layers : Nat) (i : Item) :
    ofItem (Item.some^[layers] i) = ofItem i := by
  induction layers with
  | zero => rfl
  | succ layers ih =>
    rw [Function.iterate_succ_apply', ofItem]
    exact ih

namespace Binary

open Format (binary32 binary64)

/-- A 32-bit number keeps its sign and its value as an item. -/
theorem convert_single_of_isFinite {x : Single} (hx : x.isFinite) :
    (x.convert binary64).isFinite ∧ (x.convert binary64).negative = x.negative ∧
      (x.convert binary64).toRat = x.toRat :=
  convert_of_isFinite (by decide) (by decide) Format.binary32_isNarrower.limit (by decide) hx

/-- For a finite 32-bit number the two ways meet just if the number nearest to its shortest decimal has
its exact value. -/
theorem ofSingle_eq_convert_iff {x : Single} (hx : x.isFinite) :
    ofSingle x = x.convert binary64 ↔
      ∃ y : Double, y.negative = x.negative ∧
        y.IsNearest (signed x.negative (binary32.shortest .up x.magnitude.val).toRat) ∧
          y.toRat = x.toRat := by
  obtain ⟨-, hsign, hnearest, -⟩ := ofSingle_of_isFinite hx
  obtain ⟨-, hwideSign, hwide⟩ := convert_single_of_isFinite hx
  constructor
  · intro h
    exact ⟨ofSingle x, hsign, hnearest, by rw [h, hwide]⟩
  · rintro ⟨y, hy, hyNearest, hyValue⟩
    obtain rfl : ofSingle x = y := hnearest.unique hyNearest (hsign.trans hy.symm)
    exact eq_of_toRat_eq (hsign.trans hwideSign.symm) (hyValue.trans hwide.symm)

/-- What is not finite is the same in both ways, all NaNs taken for one. -/
theorem ofSingle_eq_convert_of_not_isFinite {x : Single} (hx : ¬ x.isFinite) :
    ofSingle x = x.convert binary64 := by
  rcases x.isFinite_or_isNaN_or_eq_infinity with hfinite | hnan | hinfinity
  · exact absurd hfinite hx
  · rw [(ofSingle_of_isNaN hnan).2, convert, if_pos hnan]
  · rw [hinfinity, (ofSingle_infinity x.negative).2, convert, isNaN_infinity,
      if_neg Bool.false_ne_true, dif_neg (by simp [isFinite_infinity])]
    rfl

end Binary

namespace Value

open Format (binary32)

/-- Callers and formats have the same value for every scalar but the 32-bit numbers, behind any number
of layers: the integer itself, never another one, and the number bit for bit. For a 32-bit number the
values are the same, NaN taken for any other NaN, just if the 64-bit number nearest to its shortest
decimal has its exact value or it is not finite. An item that is no value is refused behind layers for
what it is without them. What a value is handed over as is taken for that very value. -/
theorem toValue_and_ofItem_agree (layers : Nat) :
    (∀ s : Scalar, ∃ v, s.Denotes v ∧ (Host.some^[layers] s.host).toValue = .ok v ∧
        ofItem (Item.some^[layers] s.item) = .ok v) ∧
      (∀ x : Single, ∃ d e : Double, (Host.some^[layers] (.single x)).toValue = .ok (.float d) ∧
        ofItem (Item.some^[layers] (.single x)) = .ok (.float e) ∧
        ((float d).Same (float e) ↔
          (∃ y : Double, y.negative = x.negative ∧
            y.IsNearest (signed x.negative (binary32.shortest .up x.magnitude.val).toRat) ∧
              y.toRat = x.toRat) ∨ ¬ x.isFinite)) ∧
      (∀ u : UnfitItem, ofItem (Item.some^[layers] u.item) = ofItem u.item ∧
        ofItem u.item = .error ⟨u.found, .scalar⟩) ∧
      ∀ v : Value, ofItem v.toItem = .ok v := by
  refine ⟨fun s => ?_, fun x => ?_, fun u => ⟨ofItem_iterate_some layers _, u.ofItem_item⟩,
    fun v => ?_⟩
  · rw [Host.toValue_iterate_some, ofItem_iterate_some]
    exact s.exists_value
  · rw [Host.toValue_iterate_some, ofItem_iterate_some]
    refine ⟨.ofSingle x, x.convert _, rfl, rfl, ?_⟩
    by_cases hx : x.isFinite
    · rw [or_iff_left (not_not_intro hx), ← Binary.ofSingle_eq_convert_iff hx]
      have hfinite := (Binary.convert_single_of_isFinite hx).1
      exact or_iff_left fun h => by simp [Binary.isNaN_eq_false_of_isFinite hfinite] at h
    · exact iff_of_true (.inl (Binary.ofSingle_eq_convert_of_not_isFinite hx)) (.inr hx)
  · cases v <;> rfl

/-- A half is the same in both ways, and a tenth is not. -/
example : Binary.ofSingle (.ofBits binary32 0x3f000000) =
      (Binary.ofBits binary32 0x3f000000).convert .binary64 ∧
    Binary.ofSingle (.ofBits binary32 0x3dcccccd) ≠
      (Binary.ofBits binary32 0x3dcccccd).convert .binary64 := by decide +kernel

end Value

end ScopedSelect
