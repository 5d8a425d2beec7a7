/-! # Text in columns

A field is cut to its precision first and then filled with spaces up to its width. A text that is
wider than its field is written whole. When the spaces around a centered text cannot be shared
evenly, the odd one goes to the right.
-/

namespace StorageMedia.Text

/-- Where a text stands in a field that is wider than it. -/
inductive Alignment
  | left
  | right
  | center
deriving DecidableEq, Repr

/-- Layout of one field. -/
structure Field where
  alignment : Alignment := .left
  width : Nat := 0
  precision : Option Nat := none
deriving DecidableEq, Repr

namespace Field

/-- Spaces in front of a text that leaves `gap` columns of its field free. -/
def leading (field : Field) (gap : Nat) : Nat :=
  match field.alignment with
  | .left => 0
  | .right => gap
  | .center => gap / 2

/-- The characters of a text laid out in a field. -/
def layOut (field : Field) (text : List Char) : List Char :=
  let shown := match field.precision with
    | none => text
    | some limit => text.take limit
  let gap := field.width - shown.length
  let before := field.leading gap
  List.replicate before ' ' ++ shown ++ List.replicate (gap - before) ' '

/-- Write a text into a field. -/
def write (field : Field) (text : String) : String := String.ofList (field.layOut text.toList)

theorem leading_le (field : Field) (gap : Nat) : field.leading gap ≤ gap := by
  simp only [leading]
  split <;> omega

/-- A laid out text fills its field exactly, or stands whole when it is wider. -/
theorem length_layOut (field : Field) (text : List Char) (whole : field.precision = none) :
    (field.layOut text).length = max field.width text.length := by
  have bound := field.leading_le (field.width - text.length)
  simp only [layOut, whole, List.length_append, List.length_replicate]
  omega

end Field

/-- Write a text into a left-aligned column. -/
def column (width : Nat) (text : String) : String := { width : Field }.write text

end StorageMedia.Text
