import StorageMedia.Offset

/-! # Regions of the media that could not be read

Regions that a tolerant read gave up are kept as a sorted list of byte ranges that neither overlap
nor touch. `ErrorRanges.insert` merges the ranges around a new one, and `ErrorRanges.Covers` is the
set of bytes that a list stands for.
-/

namespace StorageMedia

/-- A byte range of the media that was zero-filled. -/
structure ErrorRange where
  offset : Nat
  size : Nat
deriving DecidableEq, Repr

namespace ErrorRange

/-- Offset after the last byte of the range, held at the largest offset. -/
def stop (range : ErrorRange) : Nat := rangeEnd range.offset range.size

def Contains (range : ErrorRange) (byte : Nat) : Prop :=
  range.offset ≤ byte ∧ byte < range.offset + range.size

instance (range : ErrorRange) (byte : Nat) : Decidable (range.Contains byte) :=
  inferInstanceAs (Decidable (_ ∧ _))

/-- The smallest range that holds two ranges which overlap or touch. -/
def join (range other : ErrorRange) : ErrorRange :=
  let first := min range.offset other.offset
  { offset := first, size := max range.stop other.stop - first }

/-- Put a range in front of a sorted list, joined with all ranges that it reaches. -/
def absorb (range : ErrorRange) : List ErrorRange → List ErrorRange
  | [] => [range]
  | next :: rest =>
    if next.offset ≤ range.stop then (range.join next).absorb rest else range :: next :: rest

end ErrorRange

/-- Sorted byte ranges that neither overlap nor touch. -/
structure ErrorRanges where
  toList : List ErrorRange := []
deriving DecidableEq, Repr

namespace ErrorRanges

def empty : ErrorRanges := {}

/-- Record the range of `size` bytes at `offset`. Ranges that end before it stay in front, those
that it reaches are joined with it. -/
def insert (ranges : ErrorRanges) (offset size : Nat) : ErrorRanges :=
  if size = 0 then ranges
  else
    let before := ranges.toList.takeWhile (·.stop < offset)
    let after := ranges.toList.dropWhile (·.stop < offset)
    ⟨before ++ ErrorRange.absorb ⟨offset, size⟩ after⟩

/-- Record every range of another list. -/
def merge (ranges other : ErrorRanges) : ErrorRanges :=
  other.toList.foldl (fun ranges range => ranges.insert range.offset range.size) ranges

def size (ranges : ErrorRanges) : Nat := ranges.toList.length

def isEmpty (ranges : ErrorRanges) : Bool := ranges.toList.isEmpty

/-- The range at an index, in the order of offsets. -/
def get? (ranges : ErrorRanges) (index : Nat) : Option ErrorRange := ranges.toList[index]?

/-- The bytes that a list of ranges stands for. -/
def Covers (ranges : ErrorRanges) (byte : Nat) : Prop :=
  ∃ range ∈ ranges.toList, range.Contains byte

instance (ranges : ErrorRanges) (byte : Nat) : Decidable (ranges.Covers byte) :=
  inferInstanceAs (Decidable (∃ range ∈ ranges.toList, range.Contains byte))

@[simp] theorem not_covers_empty (byte : Nat) : ¬ empty.Covers byte := by simp [Covers, empty]

@[simp] theorem insert_zero (ranges : ErrorRanges) (offset : Nat) :
    ranges.insert offset 0 = ranges := by simp [insert]

@[simp] theorem insert_empty (offset : Nat) {size : Nat} (positive : 0 < size) :
    empty.insert offset size = ⟨[⟨offset, size⟩]⟩ := by
  simp [insert, empty, ErrorRange.absorb, Nat.ne_of_gt positive]

@[simp] theorem merge_empty (ranges : ErrorRanges) : ranges.merge empty = ranges := rfl

end ErrorRanges

end StorageMedia
