import StorageMedia.Proofs.Checked.Basic
import StorageMedia.Proofs.ErrorRanges.Insert

/-! # Recording ranges on a machine

A machine keeps the ranges in one list with indices. To record a range it looks for the first one
that ends at or after it, joins the ranges from there on as long as they are reached, and replaces
them by what they were joined to. On separated ranges nothing of this faults: there are fewer of
them than there are offsets, and joined ranges end after they begin.
-/

namespace StorageMedia

namespace ErrorRange

variable {range : ErrorRange} {ranges : List ErrorRange} {bound : Nat}

private theorem length_le_of_separated (separated : Separated ranges) (bounded : bound ≤ maxOffset)
    (behind : ∀ range ∈ ranges, bound ≤ range.offset) : ranges.length ≤ maxOffset - bound := by
  induction ranges generalizing bound with
  | nil => exact Nat.zero_le _
  | cons range ranges ih =>
    obtain ⟨proper, gaps, others⟩ := separated_cons.mp separated
    have first := behind range List.mem_cons_self
    have size := proper.1
    have fits := proper.2
    have rest : ranges.length ≤ maxOffset - (range.offset + range.size) := by
      refine ih others fits fun next member => ?_
      have gap := gaps next member
      rw [proper.stop_eq] at gap
      exact Nat.le_of_lt gap
    rw [List.length_cons]
    omega

theorem Separated.length_le (separated : Separated ranges) : ranges.length ≤ maxOffset :=
  length_le_of_separated separated (Nat.zero_le _) fun _ _ => Nat.zero_le _

/-- Join a range with those from an index on, as long as it reaches them, in at most so many turns.
The result is the joined range and the index of the first range that it does not reach. -/
def absorbFrom (ranges : List ErrorRange) : Nat → ErrorRange → Nat → Checked (ErrorRange × Nat)
  | 0, merged, index => .ok (merged, index)
  | turns + 1, merged, index =>
    if index < ranges.length then do
      let next ← Checked.item ranges index
      if next.offset ≤ merged.stop then
        let offset := min merged.offset next.offset
        let size ← Checked.sub (max merged.stop next.stop) offset
        let index ← Checked.add maxOffset index 1
        absorbFrom ranges turns ⟨offset, size⟩ index
      else return (merged, index)
    else .ok (merged, index)

/-- The loop absorbs what a range in front of the rest of the list absorbs. -/
theorem absorbFrom_eq (separated : Separated ranges) (turns : Nat) {merged : ErrorRange}
    {index : Nat} (proper : merged.IsProper) (inside : index ≤ ranges.length)
    (enough : ranges.length ≤ index + turns) :
    ∃ joined stop, absorbFrom ranges turns merged index = .ok (joined, stop) ∧ index ≤ stop ∧
      stop ≤ ranges.length ∧ merged.absorb (ranges.drop index) = joined :: ranges.drop stop := by
  induction turns generalizing merged index with
  | zero =>
    refine ⟨merged, index, rfl, Nat.le_refl _, inside, ?_⟩
    rw [List.drop_of_length_le (show ranges.length ≤ index from enough)]
    rfl
  | succ turns ih =>
    rw [absorbFrom]
    by_cases more : index < ranges.length
    · have split := List.drop_eq_getElem_cons more
      rw [if_pos more, Checked.item_eq more, Checked.ok_bind, split, absorb]
      by_cases reaches : ranges[index].offset ≤ merged.stop
      · have properNext := separated.proper ranges[index] (List.getElem_mem more)
        have few := separated.length_le
        have first : min merged.offset ranges[index].offset ≤
            max merged.stop ranges[index].stop :=
          Nat.le_trans (Nat.min_le_left _ _)
            (Nat.le_trans (offset_le_stop_of_le proper.inSpace) (Nat.le_max_left _ _))
        simp only [if_pos reaches, Checked.sub_eq first, Checked.ok_bind,
          Checked.add_eq (show index + 1 ≤ maxOffset by omega)]
        obtain ⟨joined, stop, loop, le, last, absorbed⟩ :=
          ih (join_proper proper properNext) (show index + 1 ≤ _ from more) (by omega)
        exact ⟨joined, stop, loop, by omega, last, absorbed⟩
      · rw [if_neg reaches, if_neg reaches]
        exact ⟨merged, index, rfl, Nat.le_refl _, inside, by rw [split]⟩
    · rw [if_neg more]
      refine ⟨merged, index, rfl, Nat.le_refl _, inside, ?_⟩
      rw [List.drop_of_length_le (Nat.le_of_not_lt more)]
      rfl

end ErrorRange

namespace ErrorRanges

open ErrorRange

variable {ranges other : ErrorRanges} {offset size : Nat}

def insertChecked (ranges : ErrorRanges) (offset size : Nat) : Checked ErrorRanges :=
  if size = 0 then .ok ranges
  else do
    let start := (ranges.toList.takeWhile (·.stop < offset)).length
    let (merged, stop) ← absorbFrom ranges.toList ranges.toList.length ⟨offset, size⟩ start
    return ⟨← Checked.splice ranges.toList start stop [merged]⟩

def mergeChecked (ranges other : ErrorRanges) : Checked ErrorRanges :=
  other.toList.foldlM (fun ranges range => ranges.insertChecked range.offset range.size) ranges

theorem insertChecked_eq (separated : ranges.IsSeparated) (fits : offset + size ≤ maxOffset) :
    ranges.insertChecked offset size = .ok (ranges.insert offset size) := by
  by_cases none : size = 0
  · simp only [insertChecked, insert, if_pos none]
  have sorted := List.takeWhile_append_dropWhile (p := (·.stop < offset)) (l := ranges.toList)
  have front := List.prefix_append (ranges.toList.takeWhile (·.stop < offset))
    (ranges.toList.dropWhile (·.stop < offset))
  rw [sorted] at front
  have inside := front.length_le
  have before := List.prefix_iff_eq_take.mp front
  have after : ranges.toList.drop (ranges.toList.takeWhile (·.stop < offset)).length =
      ranges.toList.dropWhile (·.stop < offset) := by
    conv => lhs; arg 2; rw [← sorted]
    rw [List.drop_left]
  obtain ⟨joined, stop, loop, first, last, absorbed⟩ := absorbFrom_eq separated
    ranges.toList.length (show IsProper ⟨offset, size⟩ from ⟨Nat.pos_of_ne_zero none, fits⟩) inside
    (Nat.le_add_left _ _)
  simp only [insertChecked, insert, if_neg none, loop, Checked.ok_bind,
    Checked.splice_eq first last]
  rw [after] at absorbed
  rw [absorbed, ← before]
  simp only [List.append_assoc, List.singleton_append]
  rfl

theorem mergeChecked_eq (separated : ranges.IsSeparated) (others : other.IsSeparated) :
    ranges.mergeChecked other = .ok (ranges.merge other) := by
  obtain ⟨added⟩ := other
  simp only [mergeChecked, merge]
  have proper := others.proper
  clear others
  induction added generalizing ranges with
  | nil => rfl
  | cons range added ih =>
    have fits := (proper range List.mem_cons_self).2
    rw [List.foldlM_cons, insertChecked_eq separated fits, Checked.ok_bind, List.foldl_cons]
    exact ih (isSeparated_insert separated fits)
      fun next member => proper next (List.mem_cons_of_mem _ member)

end ErrorRanges

end StorageMedia
