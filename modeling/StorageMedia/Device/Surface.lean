import StorageMedia.IoError

/-! # Media with bad regions

Reads of a damaged surface fail where they start in a bad region and stop short before the next
one. A region may heal: it then fails a given number of reads and counts as good afterwards. Where
regions overlap, the first one in the list that is still bad decides.
-/

namespace StorageMedia

/-- A region that cannot be read. -/
structure BadRegion where
  start : Nat
  stop : Nat
  /-- Number of the error that reads fail with. -/
  code : Int
  /-- Number of reads that still fail, if the region heals. -/
  left : Option Nat := none
deriving DecidableEq, Repr

namespace BadRegion

/-- Whether the region still fails reads. -/
def isBad (region : BadRegion) : Bool := region.left != some 0

/-- Whether a read at a position fails in this region. -/
def fails (region : BadRegion) (position : Nat) : Bool :=
  region.isBad && region.start ≤ position && position < region.stop

/-- One read less that fails. -/
def wear (region : BadRegion) : BadRegion := { region with left := region.left.map (· - 1) }

end BadRegion

/-- The bad regions of a surface. -/
abbrev Surface := List BadRegion

namespace Surface

/-- Error of a read at a position, if it fails. -/
def fault? (surface : Surface) (position : Nat) : Option Int :=
  (surface.find? (·.fails position)).map (·.code)

/-- The surface after a read at a position failed. -/
def wear : Surface → Nat → Surface
  | [], _ => []
  | region :: rest, position =>
    if region.fails position then region.wear :: rest else region :: wear rest position

/-- How much of a length can be read at a position before the next bad region. -/
def reach : Surface → Nat → Nat → Nat
  | [], _, length => length
  | region :: rest, position, length =>
    if region.isBad && position < region.start then
      reach rest position (min length (region.start - position))
    else reach rest position length

/-- A read is never longer than what was asked for. -/
theorem reach_le (surface : Surface) (position length : Nat) :
    surface.reach position length ≤ length := by
  induction surface generalizing length with
  | nil => exact Nat.le_refl _
  | cons region rest ih =>
    rw [reach]
    split
    · exact Nat.le_trans (ih _) (Nat.min_le_left _ _)
    · exact ih _

end Surface

end StorageMedia
