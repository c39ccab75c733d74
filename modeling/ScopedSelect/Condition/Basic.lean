import ScopedSelect.QueryError
import ScopedSelect.Value.Host

/-!
# Conditions

A condition is an equality test on a column or a group of conditions under one operator. Groups
may be empty and nest without bound. A test takes no children: `Condition.add` is the one place
where that is refused.
-/

namespace ScopedSelect

/-- What joins the children of a group. -/
inductive LogicalOp where
  | and
  | or
deriving DecidableEq

/-- The operator as it stands between two conditions. -/
def LogicalOp.word : LogicalOp → String
  | and => "and"
  | or => "or"

/-- A filter of rows. -/
inductive Condition where
  /-- The column equals the value; for null, the column is null. -/
  | eq (column : String) (value : Value)
  /-- All children, or any of them. -/
  | group (op : LogicalOp) (children : List Condition)

namespace Condition

/-- A test of a column against what a caller gave, if that is a value. -/
def leaf (column : String) (value : Host) : Except QueryError Condition :=
  match value.toValue with
  | .ok v => .ok (eq column v)
  | .error e => .error e

/-- The group without children. -/
def composite (op : LogicalOp) : Condition := group op []

/-- Whether the condition is a test. -/
def isLeaf : Condition → Bool
  | eq _ _ => true
  | group _ _ => false

/-- The operator of a group. -/
def operator? : Condition → Option LogicalOp
  | eq _ _ => none
  | group op _ => some op

/-- The children of a group; a test has none. -/
def children : Condition → List Condition
  | eq _ _ => []
  | group _ cs => cs

/-- The condition with one more child, at the end. -/
def add : Condition → Condition → Except QueryError Condition
  | eq _ _, _ => .error .nestedConditionOnLeaf
  | group op cs, c => .ok (group op (cs ++ [c]))

mutual

/-- Equality of trees: the same shape, operators and columns, and equal values. -/
def agrees : Condition → Condition → Bool
  | eq c v, eq d w => c == d && v.agrees w
  | group p cs, group q ds => p == q && allAgree cs ds
  | _, _ => false

/-- Equality of lists of trees. -/
def allAgree : List Condition → List Condition → Bool
  | [], [] => true
  | c :: cs, d :: ds => c.agrees d && allAgree cs ds
  | _, _ => false

end

mutual

/-- All nodes with their depths, each before its children. -/
def preorder : Condition → (depth : Nat) → List (Nat × Condition)
  | eq c v, depth => [(depth, eq c v)]
  | group op cs, depth => (depth, group op cs) :: preorderAll cs (depth + 1)

/-- All nodes of some trees whose roots stand at one depth. -/
def preorderAll : List Condition → (depth : Nat) → List (Nat × Condition)
  | [], _ => []
  | c :: cs, depth => c.preorder depth ++ preorderAll cs depth

end

end Condition

end ScopedSelect
