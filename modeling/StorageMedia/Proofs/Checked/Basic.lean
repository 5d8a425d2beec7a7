import StorageMedia.Offset

/-! # Arithmetic on a machine

Numbers of a machine have a width, and its lists have an end. An operation whose result has no
place, an index or a range that leaves its list and a conversion that loses the value are faults; a
`Checked` computation stops at the first of them. Each operation comes with the condition under
which it has a result, which is then that of the natural numbers or of the integers.

Offsets and sizes are unsigned numbers of 64 bits, with `maxOffset` as their largest value, and the
signed numbers of that width end at `maxSeekOffset`.
-/

namespace StorageMedia

/-- Why an operation of a machine has no result. -/
inductive Fault
  | overflow
  | underflow
  | divisionByZero
  | outOfBounds
  | lostValue
deriving DecidableEq, Repr

/-- A computation on a machine that ends at the first fault. -/
abbrev Checked := Except Fault

/-- Largest unsigned number of 16 bits. -/
def largestHalfWord : Nat := 0xffff

/-- Largest unsigned number of 32 bits. -/
def largestWord : Nat := 0xffff_ffff

namespace Checked

variable {α β : Type}

/-- Add two unsigned numbers of a type that ends at `largest`. -/
def add (largest a b : Nat) : Checked Nat :=
  if a + b ≤ largest then .ok (a + b) else .error .overflow

/-- Multiply two unsigned numbers of a type that ends at `largest`. -/
def mul (largest a b : Nat) : Checked Nat :=
  if a * b ≤ largest then .ok (a * b) else .error .overflow

def sub (a b : Nat) : Checked Nat := if b ≤ a then .ok (a - b) else .error .underflow

def div (a b : Nat) : Checked Nat := if b = 0 then .error .divisionByZero else .ok (a / b)

/-- Convert a number to an unsigned type that ends at `largest`. -/
def convert (largest : Nat) (value : Int) : Checked Nat :=
  if 0 ≤ value ∧ value ≤ largest then .ok value.toNat else .error .lostValue

/-- The result of an operation on signed numbers of 64 bits. -/
def signed (value : Int) : Checked Int :=
  if -(maxSeekOffset : Int) - 1 ≤ value ∧ value ≤ maxSeekOffset then .ok value
  else .error .overflow

/-- An offset ahead of another one by a size. -/
def ahead (offset size : Nat) : Checked Nat := do
  add maxOffset offset (← convert maxOffset size)

/-- The element of a list at an index. -/
def item (list : List α) (index : Nat) : Checked α :=
  match list[index]? with
  | some item => .ok item
  | none => .error .outOfBounds

/-- Number of elements behind the first `start` ones, where there are `size`. -/
def behind (size start : Nat) : Checked Nat :=
  if start ≤ size then .ok (size - start) else .error .outOfBounds

/-- Number of elements of the range from `start` to `stop`, where there are `size`. -/
def range (size start stop : Nat) : Checked Nat :=
  if start ≤ stop ∧ stop ≤ size then .ok (stop - start) else .error .outOfBounds

/-- A list with other elements in place of the range from `start` to `stop`. -/
def splice (list : List α) (start stop : Nat) (middle : List α) : Checked (List α) :=
  if start ≤ stop ∧ stop ≤ list.length then .ok (list.take start ++ middle ++ list.drop stop)
  else .error .outOfBounds

theorem ok_bind (value : α) (rest : α → Checked β) : (Except.ok value >>= rest) = rest value := rfl

variable {largest a b size start stop : Nat} {value : Int}

theorem add_eq (fits : a + b ≤ largest) : add largest a b = .ok (a + b) := if_pos fits

theorem mul_eq (fits : a * b ≤ largest) : mul largest a b = .ok (a * b) := if_pos fits

theorem sub_eq (le : b ≤ a) : sub a b = .ok (a - b) := if_pos le

theorem div_eq (positive : 0 < b) : div a b = .ok (a / b) := if_neg (Nat.ne_of_gt positive)

theorem convert_eq (fits : a ≤ largest) : convert largest a = .ok a :=
  if_pos ⟨Int.natCast_nonneg a, Int.ofNat_le.mpr fits⟩

theorem convert_toNat (nonneg : 0 ≤ value) (fits : value ≤ largest) :
    convert largest value = .ok value.toNat := if_pos ⟨nonneg, fits⟩

theorem signed_eq (low : -(maxSeekOffset : Int) - 1 ≤ value) (high : value ≤ maxSeekOffset) :
    signed value = .ok value := if_pos ⟨low, high⟩

theorem ahead_eq (fits : a + b ≤ maxOffset) : ahead a b = .ok (a + b) := by
  rw [ahead, convert_eq (by omega), ok_bind, add_eq fits]

theorem item_eq {list : List α} {index : Nat} (bound : index < list.length) :
    item list index = .ok list[index] := by
  rw [item, List.getElem?_eq_getElem bound]

theorem behind_eq (le : start ≤ size) : behind size start = .ok (size - start) := if_pos le

theorem range_eq (first : start ≤ stop) (last : stop ≤ size) :
    range size start stop = .ok (stop - start) := if_pos ⟨first, last⟩

theorem splice_eq {list : List α} (first : start ≤ stop) (last : stop ≤ list.length)
    (middle : List α) :
    splice list start stop middle = .ok (list.take start ++ middle ++ list.drop stop) :=
  if_pos ⟨first, last⟩

end Checked

end StorageMedia
