import StorageMedia.ErrorRanges

/-! # Recording ranges

The ranges of a list ascend, and each ends with a gap before the next. Recording a range keeps them
so and adds its bytes, as far as offsets go, to those that the list stands for. All this is true of
every range that starts at an offset, also of one whose end is held at the largest offset.

Ranges that lie in the address space are also never empty: they are separated, and recording one
more keeps them so.
-/

namespace StorageMedia

namespace ErrorRange

variable {range next : ErrorRange} {ranges others rest : List ErrorRange} {byte bound : Nat}

def Spans (range : ErrorRange) (byte : Nat) : Prop := range.offset ≤ byte ∧ byte < range.stop

/-- Below the largest offset a range spans its bytes. -/
theorem contains_iff_spans (below : byte < maxOffset) : range.Contains byte ↔ range.Spans byte := by
  simp only [Contains, Spans, stop, rangeEnd]
  omega

theorem offset_le_stop_of_le (inSpace : range.offset ≤ maxOffset) : range.offset ≤ range.stop :=
  le_rangeEnd inSpace _

/-- Ranges that start at offsets, in ascending order with a gap between each two of them. -/
structure Ordered (ranges : List ErrorRange) : Prop where
  inSpace : ∀ range ∈ ranges, range.offset ≤ maxOffset
  apart : ranges.Pairwise fun range next => range.stop < next.offset

theorem ordered_nil : Ordered [] := ⟨by simp, .nil⟩

theorem ordered_cons :
    Ordered (range :: ranges) ↔
      range.offset ≤ maxOffset ∧ (∀ next ∈ ranges, range.stop < next.offset) ∧ Ordered ranges := by
  constructor
  · rintro ⟨inSpace, apart⟩
    rw [List.pairwise_cons] at apart
    exact ⟨inSpace _ List.mem_cons_self, apart.1,
      fun other member => inSpace other (List.mem_cons_of_mem _ member), apart.2⟩
  · rintro ⟨inSpace, ahead, ordered⟩
    refine ⟨?_, List.pairwise_cons.mpr ⟨ahead, ordered.apart⟩⟩
    rintro other (_ | ⟨_, member⟩)
    · exact inSpace
    · exact ordered.inSpace other member

theorem ordered_append :
    Ordered (ranges ++ others) ↔
      Ordered ranges ∧ Ordered others ∧
        ∀ range ∈ ranges, ∀ next ∈ others, range.stop < next.offset := by
  constructor
  · rintro ⟨inSpace, apart⟩
    rw [List.pairwise_append] at apart
    exact ⟨⟨fun range member => inSpace range (List.mem_append_left _ member), apart.1⟩,
      ⟨fun range member => inSpace range (List.mem_append_right _ member), apart.2.1⟩, apart.2.2⟩
  · rintro ⟨front, back, gaps⟩
    refine ⟨fun range member => ?_, List.pairwise_append.mpr ⟨front.apart, back.apart, gaps⟩⟩
    rcases List.mem_append.mp member with first | last
    · exact front.inSpace range first
    · exact back.inSpace range last

def IsProper (range : ErrorRange) : Prop :=
  0 < range.size ∧ range.offset + range.size ≤ maxOffset

theorem IsProper.stop_eq (proper : range.IsProper) : range.stop = range.offset + range.size :=
  rangeEnd_eq proper.2

theorem IsProper.inSpace (proper : range.IsProper) : range.offset ≤ maxOffset :=
  Nat.le_trans (Nat.le_add_right _ _) proper.2

theorem IsProper.contains_iff_spans (proper : range.IsProper) :
    range.Contains byte ↔ range.Spans byte := by
  rw [Contains, Spans, proper.stop_eq]

/-- Proper ranges in ascending order, with a gap between each two of them. -/
structure Separated (ranges : List ErrorRange) : Prop where
  proper : ∀ range ∈ ranges, range.IsProper
  apart : ranges.Pairwise fun range next => range.stop < next.offset

theorem Separated.ordered (separated : Separated ranges) : Ordered ranges :=
  ⟨fun range member => (separated.proper range member).inSpace, separated.apart⟩

theorem separated_nil : Separated [] := ⟨by simp, .nil⟩

theorem separated_cons :
    Separated (range :: ranges) ↔
      range.IsProper ∧ (∀ next ∈ ranges, range.stop < next.offset) ∧ Separated ranges := by
  constructor
  · rintro ⟨proper, apart⟩
    rw [List.pairwise_cons] at apart
    exact ⟨proper _ List.mem_cons_self, apart.1,
      fun other member => proper other (List.mem_cons_of_mem _ member), apart.2⟩
  · rintro ⟨proper, ahead, separated⟩
    refine ⟨?_, List.pairwise_cons.mpr ⟨ahead, separated.apart⟩⟩
    rintro other (_ | ⟨_, member⟩)
    · exact proper
    · exact separated.proper other member

/-! ## Joining and absorbing -/

theorem offset_join_le : (range.join next).offset ≤ range.offset := Nat.min_le_left _ _

/-- Joined ranges end where the later one of the two does. -/
theorem stop_join (inSpace : range.offset ≤ maxOffset) (inSpaceNext : next.offset ≤ maxOffset) :
    (range.join next).stop = max range.stop next.stop := by
  simp only [join, stop, rangeEnd]
  omega

/-- Ranges that overlap or touch join to a range that spans the bytes of both. -/
theorem join_spans (inSpace : range.offset ≤ maxOffset) (inSpaceNext : next.offset ≤ maxOffset)
    (reaches : next.offset ≤ range.stop) (reached : range.offset ≤ next.stop) :
    (range.join next).Spans byte ↔ range.Spans byte ∨ next.Spans byte := by
  simp only [Spans, stop_join inSpace inSpaceNext]
  simp only [join]
  omega

theorem join_proper (proper : range.IsProper) (properNext : next.IsProper) :
    (range.join next).IsProper := by
  simp only [IsProper, join, proper.stop_eq, properNext.stop_eq] at *
  omega

/-- Absorbing ranges neither adds nor loses a byte. -/
theorem absorb_spans (inSpace : range.offset ≤ maxOffset) (ordered : Ordered rest)
    (reached : ∀ next ∈ rest, range.offset ≤ next.stop) :
    (∃ other ∈ range.absorb rest, other.Spans byte) ↔
      range.Spans byte ∨ ∃ other ∈ rest, other.Spans byte := by
  induction rest generalizing range with
  | nil => simp [absorb]
  | cons next rest ih =>
    obtain ⟨inSpaceNext, _, others⟩ := ordered_cons.mp ordered
    rw [absorb]
    split
    · next reaches =>
      have joined : ∀ other ∈ rest, (range.join next).offset ≤ other.stop := fun other member =>
        Nat.le_trans offset_join_le (reached other (List.mem_cons_of_mem _ member))
      rw [ih (Nat.le_trans offset_join_le inSpace) others joined,
        join_spans inSpace inSpaceNext reaches (reached next List.mem_cons_self)]
      simp only [List.mem_cons, exists_eq_or_imp, or_assoc]
    · simp only [List.mem_cons, exists_eq_or_imp]

/-- What starts behind a bound still does after ranges were absorbed. -/
theorem lt_offset_of_mem_absorb (behind : bound < range.offset)
    (ahead : ∀ next ∈ rest, bound < next.offset) :
    ∀ other ∈ range.absorb rest, bound < other.offset := by
  induction rest generalizing range with
  | nil => simpa [absorb] using behind
  | cons next rest ih =>
    have first := ahead next List.mem_cons_self
    have others := fun other member => ahead other (List.mem_cons_of_mem next member)
    rw [absorb]
    split
    · exact ih (Nat.lt_min.mpr ⟨behind, first⟩) others
    · rintro other (_ | ⟨_, member⟩)
      · exact behind
      · exact ahead other member

/-- A range in front of ordered ranges absorbs those that it reaches, up to a gap. -/
theorem absorb_ordered (inSpace : range.offset ≤ maxOffset) (ordered : Ordered rest) :
    Ordered (range.absorb rest) := by
  induction rest generalizing range with
  | nil => exact ordered_cons.mpr ⟨inSpace, by simp, ordered_nil⟩
  | cons next rest ih =>
    obtain ⟨inSpaceNext, gaps, others⟩ := ordered_cons.mp ordered
    rw [absorb]
    split
    · exact ih (Nat.le_trans offset_join_le inSpace) others
    · next apart =>
      refine ordered_cons.mpr ⟨inSpace, ?_, ordered⟩
      rintro other (_ | ⟨_, member⟩)
      · exact Nat.lt_of_not_le apart
      · have gap := gaps other member
        have wide := offset_le_stop_of_le inSpaceNext
        omega

theorem absorb_proper (proper : range.IsProper) (properRest : ∀ next ∈ rest, next.IsProper) :
    ∀ other ∈ range.absorb rest, other.IsProper := by
  induction rest generalizing range with
  | nil => simpa [absorb] using proper
  | cons next rest ih =>
    obtain ⟨properNext, others⟩ := List.forall_mem_cons.mp properRest
    rw [absorb]
    split
    · exact ih (join_proper proper properNext) others
    · exact List.forall_mem_cons.mpr ⟨proper, properRest⟩

/-- Ranges that were joined start where one of them did. -/
theorem offset_of_mem_absorb :
    ∀ other ∈ range.absorb rest,
      other.offset = range.offset ∨ ∃ next ∈ rest, next.offset = other.offset := by
  induction rest generalizing range with
  | nil => simp [absorb]
  | cons next rest ih =>
    intro other member
    rw [absorb] at member
    split at member
    · rcases ih other member with joined | ⟨later, mem, same⟩
      · rcases Nat.le_total range.offset next.offset with first | first
        · exact .inl (joined.trans (Nat.min_eq_left first))
        · exact .inr ⟨next, List.mem_cons_self, (joined.trans (Nat.min_eq_right first)).symm⟩
      · exact .inr ⟨later, List.mem_cons_of_mem next mem, same⟩
    · rcases List.mem_cons.mp member with rfl | behind
      · exact .inl rfl
      · exact .inr ⟨other, behind, rfl⟩

end ErrorRange

namespace ErrorRanges

open ErrorRange

variable {ranges other : ErrorRanges} {offset size byte : Nat}

/-- The ranges start at offsets and ascend, each with a gap before the next. -/
def IsOrdered (ranges : ErrorRanges) : Prop := Ordered ranges.toList

theorem isOrdered_empty : empty.IsOrdered := ordered_nil

/-- The list is in the form in which ranges are kept. -/
def IsSeparated (ranges : ErrorRanges) : Prop := Separated ranges.toList

theorem isSeparated_empty : empty.IsSeparated := separated_nil

theorem IsSeparated.isOrdered (separated : ranges.IsSeparated) : ranges.IsOrdered :=
  Separated.ordered separated

private theorem toList_insert_cons {first : ErrorRange} {rest : List ErrorRange}
    (positive : size ≠ 0) :
    (insert ⟨first :: rest⟩ offset size).toList =
      if first.stop < offset then first :: (insert ⟨rest⟩ offset size).toList
      else absorb ⟨offset, size⟩ (first :: rest) := by
  by_cases before : first.stop < offset
  · simp [insert, positive, before]
  · simp [insert, positive, before]

/-- Recording a range takes the list apart where the ranges no longer end before it. The ranges in
front stay, those behind are absorbed as far as they are reached. -/
theorem insert_splits (ordered : ranges.IsOrdered) (offset : Nat) :
    ∃ front back, ranges.toList = front ++ back ∧ (∀ range ∈ front, range.stop < offset) ∧
      (∀ range ∈ back, offset ≤ range.stop) ∧
      ∀ size, 0 < size →
        (ranges.insert offset size).toList = front ++ absorb ⟨offset, size⟩ back := by
  obtain ⟨ranges⟩ := ranges
  induction ranges with
  | nil =>
    exact ⟨[], [], rfl, by simp, by simp, fun size positive => by simp [insert, Nat.ne_of_gt positive]⟩
  | cons first rest ih =>
    obtain ⟨_, gaps, others⟩ := ordered_cons.mp ordered
    by_cases before : first.stop < offset
    · obtain ⟨front, back, parts, ahead, reached, inserted⟩ := ih others
      refine ⟨first :: front, back, congrArg (first :: ·) parts,
        List.forall_mem_cons.mpr ⟨before, ahead⟩, reached, fun size positive => ?_⟩
      rw [toList_insert_cons (Nat.ne_of_gt positive), if_pos before, inserted size positive,
        List.cons_append]
    · -- All other ranges end behind the first one, which does not end before the offset.
      refine ⟨[], first :: rest, rfl, by simp, ?_, fun size positive => ?_⟩
      · rintro next (_ | ⟨_, member⟩)
        · exact Nat.le_of_not_lt before
        · have gap := gaps next member
          have wide := offset_le_stop_of_le (others.inSpace next member)
          omega
      · rw [toList_insert_cons (Nat.ne_of_gt positive), if_neg before, List.nil_append]

/-- Recording a range keeps the ranges ordered. -/
theorem isOrdered_insert (ordered : ranges.IsOrdered) (inSpace : offset ≤ maxOffset) :
    (ranges.insert offset size).IsOrdered := by
  rcases Nat.eq_zero_or_pos size with rfl | positive
  · rwa [insert_zero]
  obtain ⟨front, back, parts, ahead, _, inserted⟩ := insert_splits ordered offset
  rw [IsOrdered, parts, ordered_append] at ordered
  obtain ⟨first, last, gaps⟩ := ordered
  rw [IsOrdered, inserted size positive]
  refine ordered_append.mpr ⟨first, absorb_ordered inSpace last, fun range member => ?_⟩
  exact lt_offset_of_mem_absorb (ahead range member) (gaps range member)

/-- Recording a range adds what it spans. -/
theorem spans_insert (ordered : ranges.IsOrdered) (inSpace : offset ≤ maxOffset) :
    (∃ range ∈ (ranges.insert offset size).toList, range.Spans byte) ↔
      (∃ range ∈ ranges.toList, range.Spans byte) ∨ Spans ⟨offset, size⟩ byte := by
  rcases Nat.eq_zero_or_pos size with rfl | positive
  · have nothing : ¬ Spans ⟨offset, 0⟩ byte := by
      simp only [Spans, stop, rangeEnd]
      omega
    rw [insert_zero, or_iff_left nothing]
  obtain ⟨front, back, parts, _, reached, inserted⟩ := insert_splits ordered offset
  rw [IsOrdered, parts, ordered_append] at ordered
  rw [inserted size positive, parts]
  simp only [List.mem_append, or_and_right, exists_or]
  rw [absorb_spans inSpace ordered.2.1 reached, or_assoc, or_comm (a := Spans _ _)]

private theorem covers_iff_spans (separated : ranges.IsSeparated) :
    ranges.Covers byte ↔ ∃ range ∈ ranges.toList, range.Spans byte :=
  exists_congr fun range => and_congr_right fun member =>
    (separated.proper range member).contains_iff_spans

/-- Recording a range keeps the ranges separated. -/
theorem isSeparated_insert (separated : ranges.IsSeparated) (fits : offset + size ≤ maxOffset) :
    (ranges.insert offset size).IsSeparated := by
  rcases Nat.eq_zero_or_pos size with rfl | positive
  · rwa [insert_zero]
  obtain ⟨front, back, parts, _, _, inserted⟩ := insert_splits separated.isOrdered offset
  have proper := separated.proper
  rw [parts] at proper
  obtain ⟨first, last⟩ := List.forall_mem_append.mp proper
  refine ⟨?_, (isOrdered_insert separated.isOrdered (Nat.le_of_add_right_le fits)).apart⟩
  rw [inserted size positive]
  exact List.forall_mem_append.mpr ⟨first, absorb_proper ⟨positive, fits⟩ last⟩

/-- Recording a range adds its bytes. -/
theorem covers_insert (separated : ranges.IsSeparated) (fits : offset + size ≤ maxOffset) :
    (ranges.insert offset size).Covers byte ↔
      ranges.Covers byte ∨ (offset ≤ byte ∧ byte < offset + size) := by
  have inSpace := Nat.le_of_add_right_le fits
  rw [covers_iff_spans (isSeparated_insert separated fits), covers_iff_spans separated,
    spans_insert separated.isOrdered inSpace, Spans, stop, rangeEnd_eq fits]

/-- One of the ranges starts at the offset. -/
def StartsAt (ranges : ErrorRanges) (offset : Nat) : Prop :=
  ∃ range ∈ ranges.toList, range.offset = offset

/-- Recording a range makes no range start where neither it nor one before it did. -/
theorem startsAt_of_insert {first : Nat} (starts : (ranges.insert offset size).StartsAt first) :
    first = offset ∨ ranges.StartsAt first := by
  rcases Nat.eq_zero_or_pos size with rfl | positive
  · rw [insert_zero] at starts
    exact .inr starts
  obtain ⟨range, member, rfl⟩ := starts
  simp only [insert, if_neg (Nat.ne_of_gt positive)] at member
  rcases List.mem_append.mp member with before | after
  · exact .inr ⟨range, (List.takeWhile_prefix _).subset before, rfl⟩
  · rcases offset_of_mem_absorb range after with same | ⟨next, reached, same⟩
    · exact .inl same
    · exact .inr ⟨next, (List.dropWhile_suffix _).subset reached, same⟩

end ErrorRanges

end StorageMedia
