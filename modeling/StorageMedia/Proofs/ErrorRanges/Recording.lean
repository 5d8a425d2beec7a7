import StorageMedia.Proofs.ErrorRanges.Canonical

/-! # The list that recording ranges builds

Whatever ranges of the address space are recorded one after the other in an empty list, the list
holds their union in its one form: nonempty ranges in ascending order with a gap between each two.

The ends of the ranges ascend with the ranges. Those that end before an offset therefore come first,
and a search by halves finds where they stop. Recording a range takes the list apart there.
-/

namespace StorageMedia

namespace ErrorRange

variable {ranges : List ErrorRange} {offset index : Nat}

/-- The ranges of which the end is before an offset are the first `index` ones. -/
def Divides (ranges : List ErrorRange) (offset index : Nat) : Prop :=
  ∀ (place : Nat) (range : ErrorRange), ranges[place]? = some range →
    (range.stop < offset ↔ place < index)

/-- Separated ranges end one after the other. -/
theorem Separated.stops_ascend (separated : Separated ranges) :
    (ranges.map stop).Pairwise (· < ·) := by
  refine List.pairwise_map.mpr ?_
  refine separated.apart.imp_of_mem fun {range next} _ member ahead => ?_
  exact Nat.lt_of_lt_of_le ahead ((separated.proper next member).stop_eq ▸ Nat.le_add_right _ _)

private theorem exists_divides (ascend : (ranges.map stop).Pairwise (· < ·)) (offset : Nat) :
    ∃ index ≤ ranges.length, Divides ranges offset index := by
  induction ranges with
  | nil => exact ⟨0, Nat.le_refl 0, by simp [Divides]⟩
  | cons first rest ih =>
    rw [List.map_cons, List.pairwise_cons] at ascend
    obtain ⟨index, inside, divides⟩ := ih ascend.2
    by_cases before : first.stop < offset
    · refine ⟨index + 1, Nat.succ_le_succ inside, ?_⟩
      rintro (_ | place) range found
      · obtain rfl := Option.some.inj found
        simpa using before
      · rw [divides place range found, Nat.add_lt_add_iff_right]
    · -- All other ranges end behind the first one, which does not end before the offset.
      refine ⟨0, Nat.zero_le _, fun place range found => ?_⟩
      have behind : first.stop ≤ range.stop := by
        rcases List.mem_cons.mp (List.mem_of_getElem? found) with rfl | later
        · exact Nat.le_refl _
        · exact Nat.le_of_lt (ascend.1 _ (List.mem_map_of_mem later))
      omega

private theorem Divides.takeWhile_eq (divides : Divides ranges offset index) :
    ranges.takeWhile (·.stop < offset) = ranges.take index ∧
      ranges.dropWhile (·.stop < offset) = ranges.drop index := by
  induction ranges generalizing index with
  | nil => simp
  | cons first rest ih =>
    have ends : first.stop < offset ↔ 0 < index := divides 0 first rfl
    cases index with
    | zero =>
      have stays : ¬ first.stop < offset := fun before => absurd (ends.mp before) (Nat.lt_irrefl 0)
      simp [stays]
    | succ index =>
      have before := ends.mpr (Nat.succ_pos index)
      obtain ⟨front, back⟩ := ih fun place range found => by
        rw [divides (place + 1) range found, Nat.add_lt_add_iff_right]
      simp [before, front, back]

end ErrorRange

namespace ErrorRanges

open ErrorRange

variable {ranges : ErrorRanges} {added : List ErrorRange} {offset index size : Nat}

/-- Recording a range takes the list apart where the offset of the range divides it. -/
theorem insert_of_divides (divides : Divides ranges.toList offset index) (positive : 0 < size) :
    ranges.insert offset size =
      ⟨ranges.toList.take index ++ absorb ⟨offset, size⟩ (ranges.toList.drop index)⟩ := by
  rw [insert, if_neg (Nat.ne_of_gt positive), divides.takeWhile_eq.1, divides.takeWhile_eq.2]

/-- Ranges of the address space that are recorded in an empty list build a separated one. -/
theorem isSeparated_recorded (fit : ∀ range ∈ added, range.Fits) :
    (empty.insertAll added).IsSeparated :=
  isSeparated_insertAll isSeparated_empty fit

/-- The list covers the bytes of the ranges that were recorded and no others. -/
theorem covers_recorded (fit : ∀ range ∈ added, range.Fits) (byte : Nat) :
    (empty.insertAll added).Covers byte ↔ ∃ range ∈ added, range.Contains byte := by
  rw [covers_insertAll isSeparated_empty fit]
  exact or_iff_right (not_covers_empty byte)

/-- Ranges of the address space that are recorded in an empty list, in any order and whether they
overlap, touch, lie in one another, are repeated or empty, build the one form of their union: no
range of the list is empty, each ends with a gap before the next, and together they hold the bytes
of the recorded ranges and no others. The ends of the ranges ascend, so that every offset divides
the list into the ranges that end before it and those that do not, and this is where the list is
taken apart when one more range is recorded. -/
theorem recorded_ranges_canonical (added : List ErrorRange) (fit : ∀ range ∈ added, range.Fits) :
    let ranges := empty.insertAll added
    (∀ range ∈ ranges.toList, 0 < range.size ∧ range.Fits) ∧
      ranges.toList.Pairwise (fun range next => range.offset + range.size < next.offset) ∧
      (∀ byte, ranges.Covers byte ↔ ∃ range ∈ added, range.Contains byte) ∧
      (ranges.toList.map stop).Pairwise (· < ·) ∧
      ∀ offset, (∃ index ≤ ranges.toList.length, Divides ranges.toList offset index) ∧
        ∀ index, Divides ranges.toList offset index → ∀ size, 0 < size →
          ranges.insert offset size =
            ⟨ranges.toList.take index ++ absorb ⟨offset, size⟩ (ranges.toList.drop index)⟩ := by
  have separated := isSeparated_recorded fit
  refine ⟨separated.proper, ?_, covers_recorded fit, separated.stops_ascend, fun offset => ?_⟩
  · refine separated.apart.imp_of_mem fun {range next} member _ ahead => ?_
    rwa [(separated.proper range member).stop_eq] at ahead
  · exact ⟨exists_divides separated.stops_ascend offset,
      fun _ divides _ positive => insert_of_divides divides positive⟩

/-- Ranges apart, one that touches, one that overlaps two others, one inside of another, one at the
end of the address space and an empty one. -/
def assorted : List ErrorRange :=
  [⟨0, 512⟩, ⟨1024, 512⟩, ⟨2048, 512⟩, ⟨512, 100⟩, ⟨1500, 600⟩, ⟨1100, 10⟩, ⟨maxOffset - 5, 5⟩,
    ⟨700, 0⟩]

theorem assorted_recorded_canonical :
    (∀ range ∈ assorted, range.Fits) ∧
      empty.insertAll assorted = ⟨[⟨0, 612⟩, ⟨1024, 1536⟩, ⟨maxOffset - 5, 5⟩]⟩ ∧
      (∀ byte, (empty.insertAll assorted).Covers byte ↔ ∃ range ∈ assorted, range.Contains byte) ∧
      ∃ index ≤ 3, Divides (empty.insertAll assorted).toList 2000 index := by
  have fit : ∀ range ∈ assorted, range.Fits := by decide
  obtain ⟨_, _, covers, _, searches⟩ := recorded_ranges_canonical assorted fit
  exact ⟨fit, by decide, covers, (searches 2000).1⟩

end ErrorRanges

end StorageMedia
