/-! # Bounds of media offsets

Offsets, sizes and sector numbers are natural numbers. A media holds at most `maxOffset` bytes, a
seek reaches at most `maxSeekOffset`, and the end of a range that would pass the largest offset is
held there instead of wrapping around.
-/

namespace StorageMedia

/-- Largest offset or size of a media: the largest 64-bit number. -/
def maxOffset : Nat := 0xffff_ffff_ffff_ffff

/-- Largest offset that a seek reaches: distances are signed, which costs one bit. -/
def maxSeekOffset : Nat := 0x7fff_ffff_ffff_ffff

/-- End of the range of `size` units from `start`, held at the largest offset. -/
def rangeEnd (start size : Nat) : Nat := min (start + size) maxOffset

/-- A range that fits below the largest offset ends where its size says. -/
theorem rangeEnd_eq {start size : Nat} (fits : start + size ≤ maxOffset) :
    rangeEnd start size = start + size := Nat.min_eq_left fits

theorem rangeEnd_le_maxOffset (start size : Nat) : rangeEnd start size ≤ maxOffset :=
  Nat.min_le_right _ _

theorem le_rangeEnd {start : Nat} (bound : start ≤ maxOffset) (size : Nat) :
    start ≤ rangeEnd start size := Nat.le_min.mpr ⟨Nat.le_add_right _ _, bound⟩

end StorageMedia
