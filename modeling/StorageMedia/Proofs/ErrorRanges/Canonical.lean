import StorageMedia.Proofs.ErrorRanges.Insert

/-! # One list for one set of bytes

Separated ranges are known from the bytes that they cover: the first range starts at the first of
them and ends at the gap behind it, and so on. Two lists that were built in different ways but cover
the same bytes are therefore equal. Merging lists gives the union of their bytes.
-/

namespace StorageMedia

namespace ErrorRange

variable {range other : ErrorRange} {ranges others : List ErrorRange} {byte : Nat}

def Fits (range : ErrorRange) : Prop := range.offset + range.size ≤ maxOffset

instance (range : ErrorRange) : Decidable range.Fits := inferInstanceAs (Decidable (_ ≤ _))

theorem IsProper.contains_offset (proper : range.IsProper) : range.Contains range.offset :=
  ⟨Nat.le_refl _, Nat.lt_add_of_pos_right proper.1⟩

private theorem offset_le_of_contains (separated : Separated (range :: ranges))
    (covered : ∃ member ∈ range :: ranges, member.Contains byte) : range.offset ≤ byte := by
  obtain ⟨proper, ahead, _⟩ := separated_cons.mp separated
  obtain ⟨member, _ | ⟨_, later⟩, contains⟩ := covered
  · exact contains.1
  · have gap := ahead member later
    rw [proper.stop_eq] at gap
    have first := contains.1
    omega

private theorem not_contains_stop (separated : Separated (range :: ranges)) :
    ¬ ∃ member ∈ range :: ranges, member.Contains (range.offset + range.size) := by
  obtain ⟨proper, ahead, _⟩ := separated_cons.mp separated
  rintro ⟨member, _ | ⟨_, later⟩, contains⟩
  · exact absurd contains.2 (Nat.lt_irrefl _)
  · have gap := ahead member later
    rw [proper.stop_eq] at gap
    exact absurd contains.1 (Nat.not_le.mpr gap)

private theorem contains_tail_iff (separated : Separated (range :: ranges)) :
    (∃ member ∈ ranges, member.Contains byte) ↔
      ¬ range.Contains byte ∧ ∃ member ∈ range :: ranges, member.Contains byte := by
  obtain ⟨proper, ahead, _⟩ := separated_cons.mp separated
  constructor
  · rintro ⟨member, later, contains⟩
    refine ⟨fun within => ?_, member, List.mem_cons_of_mem _ later, contains⟩
    have gap := ahead member later
    rw [proper.stop_eq] at gap
    have before := within.2
    have behind := contains.1
    omega
  · rintro ⟨outside, member, _ | ⟨_, later⟩, contains⟩
    · exact absurd contains outside
    · exact ⟨member, later, contains⟩

private theorem head_eq (first : Separated (range :: ranges)) (second : Separated (other :: others))
    (same : ∀ byte, (∃ member ∈ range :: ranges, member.Contains byte) ↔
      ∃ member ∈ other :: others, member.Contains byte) : range = other := by
  have proper := (separated_cons.mp first).1
  have properOther := (separated_cons.mp second).1
  have starts : range.offset = other.offset := by
    apply Nat.le_antisymm
    · refine offset_le_of_contains first ((same _).mpr ?_)
      exact ⟨other, List.mem_cons_self, properOther.contains_offset⟩
    · refine offset_le_of_contains second ((same _).mp ?_)
      exact ⟨range, List.mem_cons_self, proper.contains_offset⟩
  -- The shorter one of two ranges with one start would end inside of the other one.
  have sizes : range.size = other.size := by
    apply Nat.le_antisymm
    · refine Nat.le_of_not_lt fun longer => not_contains_stop second ((same _).mp ?_)
      exact ⟨range, List.mem_cons_self, by omega, by omega⟩
    · refine Nat.le_of_not_lt fun longer => not_contains_stop first ((same _).mpr ?_)
      exact ⟨other, List.mem_cons_self, by omega, by omega⟩
  cases range
  cases other
  rw [ErrorRange.mk.injEq]
  exact ⟨starts, sizes⟩

/-- Separated ranges that cover the same bytes are the same. -/
theorem Separated.eq_of_contains (first : Separated ranges) (second : Separated others)
    (same : ∀ byte, (∃ member ∈ ranges, member.Contains byte) ↔
      ∃ member ∈ others, member.Contains byte) : ranges = others := by
  induction ranges generalizing others with
  | nil =>
    cases others with
    | nil => rfl
    | cons other others =>
      have properOther := (separated_cons.mp second).1
      have covered := (same other.offset).mpr
        ⟨other, List.mem_cons_self, properOther.contains_offset⟩
      simp at covered
  | cons range ranges ih =>
    cases others with
    | nil =>
      have proper := (separated_cons.mp first).1
      have covered := (same range.offset).mp ⟨range, List.mem_cons_self, proper.contains_offset⟩
      simp at covered
    | cons other others =>
      obtain rfl := head_eq first second same
      congr 1
      refine ih (separated_cons.mp first).2.2 (separated_cons.mp second).2.2 fun byte => ?_
      rw [contains_tail_iff first, contains_tail_iff second, same byte]

end ErrorRange

namespace ErrorRanges

open ErrorRange

variable {ranges other : ErrorRanges} {byte bound : Nat}

/-- A list of ranges is known from the bytes that it covers. -/
theorem eq_of_covers (first : ranges.IsSeparated) (second : other.IsSeparated)
    (same : ∀ byte, ranges.Covers byte ↔ other.Covers byte) : ranges = other := by
  cases ranges
  cases other
  exact congrArg ErrorRanges.mk (first.eq_of_contains second same)

/-- Ranges end where the bytes that they cover do. -/
theorem end_le_of_covers_lt (separated : ranges.IsSeparated)
    (below : ∀ byte, ranges.Covers byte → byte < bound) :
    ∀ range ∈ ranges.toList, range.offset + range.size ≤ bound := by
  intro range member
  have positive := (separated.proper range member).1
  have last := below (range.offset + range.size - 1) ⟨range, member, by omega, by omega⟩
  omega

def insertAll (ranges : ErrorRanges) (added : List ErrorRange) : ErrorRanges :=
  added.foldl (fun ranges range => ranges.insert range.offset range.size) ranges

theorem merge_eq_insertAll (ranges other : ErrorRanges) :
    ranges.merge other = ranges.insertAll other.toList := rfl

theorem insertAll_append (ranges : ErrorRanges) (added others : List ErrorRange) :
    ranges.insertAll (added ++ others) = (ranges.insertAll added).insertAll others :=
  List.foldl_append

private theorem record_all {added : List ErrorRange} (separated : ranges.IsSeparated)
    (fit : ∀ range ∈ added, range.Fits) :
    (ranges.insertAll added).IsSeparated ∧
      ∀ byte, (ranges.insertAll added).Covers byte ↔
        ranges.Covers byte ∨ ∃ range ∈ added, range.Contains byte := by
  induction added generalizing ranges with
  | nil => exact ⟨separated, by simp [insertAll]⟩
  | cons range added ih =>
    have fits := fit range List.mem_cons_self
    obtain ⟨kept, covers⟩ := ih (isSeparated_insert separated fits)
      fun other member => fit other (List.mem_cons_of_mem _ member)
    refine ⟨kept, fun byte => ?_⟩
    rw [insertAll, List.foldl_cons, ← insertAll, covers byte, covers_insert separated fits]
    simp only [List.mem_cons, exists_eq_or_imp, or_assoc]
    rfl

/-- Recording ranges keeps the ranges separated. -/
theorem isSeparated_insertAll {added : List ErrorRange} (separated : ranges.IsSeparated)
    (fit : ∀ range ∈ added, range.Fits) : (ranges.insertAll added).IsSeparated :=
  (record_all separated fit).1

/-- Recording ranges adds their bytes. -/
theorem covers_insertAll {added : List ErrorRange} (separated : ranges.IsSeparated)
    (fit : ∀ range ∈ added, range.Fits) :
    (ranges.insertAll added).Covers byte ↔
      ranges.Covers byte ∨ ∃ range ∈ added, range.Contains byte :=
  (record_all separated fit).2 byte

theorem IsSeparated.fit (separated : ranges.IsSeparated) : ∀ range ∈ ranges.toList, range.Fits :=
  fun range member => (separated.proper range member).2

/-- Merging a list keeps the ranges separated. -/
theorem isSeparated_merge (separated : ranges.IsSeparated) (others : other.IsSeparated) :
    (ranges.merge other).IsSeparated :=
  isSeparated_insertAll separated others.fit

/-- Merging a list adds its bytes. -/
theorem covers_merge (separated : ranges.IsSeparated) (others : other.IsSeparated) :
    (ranges.merge other).Covers byte ↔ ranges.Covers byte ∨ other.Covers byte :=
  covers_insertAll separated others.fit

/-- Merging a list makes no range start where none of either list did. -/
theorem startsAt_of_merge (starts : (ranges.merge other).StartsAt byte) :
    ranges.StartsAt byte ∨ other.StartsAt byte := by
  obtain ⟨added⟩ := other
  simp only [merge] at starts
  induction added generalizing ranges with
  | nil => exact .inl starts
  | cons range added ih =>
    rcases ih starts with inserted | ⟨later, member, same⟩
    · rcases startsAt_of_insert inserted with rfl | before
      · exact .inr ⟨range, List.mem_cons_self, rfl⟩
      · exact .inl before
    · exact .inr ⟨later, List.mem_cons_of_mem range member, same⟩

end ErrorRanges

end StorageMedia
