import StorageMedia.Proofs.ErrorRanges.Canonical

/-! # Ranges that run past the largest offset

A range may be recorded with any size, also one with which it would run past the largest offset. Its
end is then held there, but the list keeps the size as it was given. Joining works out the size from
the ends instead. So a range that runs past the end is cut as soon as a range is joined with it, the
same range recorded once more included; and at the largest offset itself nothing is left of it.

The order of the list and the gaps in it do not suffer from this, and below the largest offset the
list covers what was recorded.
-/

namespace StorageMedia

namespace ErrorRange

variable {range next : ErrorRange} {others joined after : List ErrorRange}

/-- The range without what runs past the largest offset. -/
def clipped (range : ErrorRange) : ErrorRange := ⟨range.offset, range.stop - range.offset⟩

/-- A range that is not empty and starts at the largest offset, where no byte is. -/
def AtLimit (range : ErrorRange) : Prop := range.offset = maxOffset ∧ 0 < range.size

instance (range : ErrorRange) : Decidable range.AtLimit := inferInstanceAs (Decidable (_ ∧ _))

theorem stop_clipped (inSpace : range.offset ≤ maxOffset) : range.clipped.stop = range.stop := by
  simp only [clipped, stop, rangeEnd]
  omega

/-- Clipping takes nothing from a range that lies in the address space. -/
theorem clipped_eq_self_iff (inSpace : range.offset ≤ maxOffset) :
    range.clipped = range ↔ range.Fits := by
  cases range
  simp only [clipped, stop, rangeEnd, Fits, ErrorRange.mk.injEq, true_and] at *
  omega

theorem clipped_fits (inSpace : range.offset ≤ maxOffset) : range.clipped.Fits := by
  simp only [clipped, stop, rangeEnd, Fits]
  omega

/-- A range that another one holds is lost in it, and cuts it. -/
theorem join_eq_clipped (first : next.offset ≤ range.offset) (last : range.stop ≤ next.stop) :
    range.join next = next.clipped := by
  rw [join, clipped, Nat.min_eq_right first, Nat.max_eq_right last]

theorem join_fits (inSpace : range.offset ≤ maxOffset) (inSpaceNext : next.offset ≤ maxOffset) :
    (range.join next).Fits := by
  simp only [join, Fits, stop, rangeEnd]
  omega

/-- A range that another one holds cuts it and reaches no other range. -/
theorem absorb_of_held (inSpace : range.offset ≤ maxOffset) (inSpaceNext : next.offset ≤ maxOffset)
    (first : next.offset ≤ range.offset) (last : range.stop ≤ next.stop)
    (behind : ∀ other ∈ others, next.stop < other.offset) :
    range.absorb (next :: others) = next.clipped :: others := by
  have wide := offset_le_stop_of_le inSpace
  rw [absorb, if_pos (Nat.le_trans first wide), join_eq_clipped first last]
  cases others with
  | nil => rfl
  | cons other others =>
    have gap := behind other List.mem_cons_self
    rw [absorb, stop_clipped inSpaceNext, if_neg (Nat.not_le.mpr gap)]

/-- A range joined with others, one after the other. -/
def joinAll (range : ErrorRange) (others : List ErrorRange) : ErrorRange := others.foldl join range

/-- A range absorbs the ranges at the front of a list, up to the first one that starts behind all
that was joined. -/
theorem absorb_eq (range : ErrorRange) (others : List ErrorRange) :
    ∃ joined after, others = joined ++ after ∧
      range.absorb others = range.joinAll joined :: after ∧
      ∀ next ∈ after.head?, (range.joinAll joined).stop < next.offset := by
  induction others generalizing range with
  | nil => exact ⟨[], [], rfl, rfl, by simp⟩
  | cons next others ih =>
    rw [absorb]
    split
    · obtain ⟨joined, after, parts, absorbed, behind⟩ := ih (range.join next)
      exact ⟨next :: joined, after, congrArg (next :: ·) parts, absorbed, behind⟩
    · next apart =>
      refine ⟨[], next :: others, rfl, rfl, ?_⟩
      intro first found
      obtain rfl := Option.some.inj found
      exact Nat.lt_of_not_le apart

/-- What a range is joined with makes it larger on both sides. -/
theorem joinAll_holds (inSpace : range.offset ≤ maxOffset)
    (inSpaceOthers : ∀ next ∈ others, next.offset ≤ maxOffset) :
    ∀ held ∈ range :: others,
      (range.joinAll others).offset ≤ held.offset ∧ held.stop ≤ (range.joinAll others).stop := by
  induction others generalizing range with
  | nil => simp [joinAll]
  | cons next others ih =>
    obtain ⟨inSpaceNext, inSpaceOthers⟩ := List.forall_mem_cons.mp inSpaceOthers
    obtain ⟨joined, rest⟩ := List.forall_mem_cons.mp
      (ih (Nat.le_trans offset_join_le inSpace) inSpaceOthers)
    rw [stop_join inSpace inSpaceNext] at joined
    refine List.forall_mem_cons.mpr ⟨?_, List.forall_mem_cons.mpr ⟨?_, rest⟩⟩
    · exact ⟨Nat.le_trans joined.1 (Nat.min_le_left _ _),
        Nat.le_trans (Nat.le_max_left _ _) joined.2⟩
    · exact ⟨Nat.le_trans joined.1 (Nat.min_le_right _ _),
        Nat.le_trans (Nat.le_max_right _ _) joined.2⟩

/-- Whatever was joined lies in the address space. -/
theorem joinAll_fits (inSpace : range.offset ≤ maxOffset)
    (inSpaceOthers : ∀ next ∈ others, next.offset ≤ maxOffset) (some : others ≠ []) :
    (range.joinAll others).Fits := by
  induction others generalizing range with
  | nil => exact absurd rfl some
  | cons next others ih =>
    obtain ⟨inSpaceNext, inSpaceOthers⟩ := List.forall_mem_cons.mp inSpaceOthers
    rcases List.eq_nil_or_concat others with rfl | ⟨_, _, more⟩
    · exact join_fits inSpace inSpaceNext
    · exact ih (Nat.le_trans offset_join_le inSpace) inSpaceOthers (by simp [more])

end ErrorRange

namespace ErrorRanges

open ErrorRange

variable {ranges : ErrorRanges} {offset size : Nat}

theorem eq_iff_toList {other : ErrorRanges} : ranges = other ↔ ranges.toList = other.toList := by
  cases ranges
  cases other
  simp only [ErrorRanges.mk.injEq]

/-- What becomes of a list in which a range is recorded: the ranges in front end before it, some are
joined with it, and the ranges behind start after all that was joined. -/
structure TakesIn (ranges : ErrorRanges) (range : ErrorRange)
    (front joined back : List ErrorRange) : Prop where
  parts : ranges.toList = front ++ (joined ++ back)
  ahead : ∀ other ∈ front, other.stop < range.offset
  behind : ∀ other ∈ back, (range.joinAll joined).stop < other.offset
  inserted : (ranges.insert range.offset range.size).toList =
    front ++ range.joinAll joined :: back

/-- Recording a range that is not empty joins it with a stretch of the list. -/
theorem exists_takesIn (ordered : ranges.IsOrdered) (positive : 0 < size) :
    ∃ front joined back, ranges.TakesIn ⟨offset, size⟩ front joined back := by
  obtain ⟨front, rest, parts, ahead, _, inserted⟩ := insert_splits ordered offset
  obtain ⟨joined, back, same, absorbed, gap⟩ := absorb_eq ⟨offset, size⟩ rest
  subst same
  refine ⟨front, joined, back, parts, ahead, ?_, absorbed ▸ inserted size positive⟩
  rw [IsOrdered, parts] at ordered
  obtain ⟨_, last, _⟩ := ordered_append.mp (ordered_append.mp ordered).2.1
  cases back with
  | nil => simp
  | cons first back =>
    obtain ⟨inSpace, gaps, _⟩ := ordered_cons.mp last
    have first := gap first rfl
    refine List.forall_mem_cons.mpr ⟨first, fun other member => ?_⟩
    have later := gaps other member
    have wide := offset_le_stop_of_le inSpace
    omega

namespace TakesIn

variable {range : ErrorRange} {front joined back : List ErrorRange}

section Sides

variable (takes : ranges.TakesIn range front joined back) (ordered : ranges.IsOrdered)
  (inSpace : range.offset ≤ maxOffset)

include takes ordered

theorem joined_inSpace : ∀ other ∈ joined, other.offset ≤ maxOffset := by
  rw [IsOrdered, takes.parts] at ordered
  exact (ordered_append.mp (ordered_append.mp ordered).2.1).1.inSpace

include inSpace

/-- What was recorded lies in what it was joined to. -/
theorem holds :
    (range.joinAll joined).offset ≤ range.offset ∧ range.stop ≤ (range.joinAll joined).stop :=
  joinAll_holds inSpace (takes.joined_inSpace ordered) range List.mem_cons_self

/-- Recorded once more, a range is joined with what it was joined to, which is cut where it runs past
the largest offset. -/
theorem joinAll_again :
    range.joinAll [range.joinAll joined] = (range.joinAll joined).clipped := by
  obtain ⟨first, last⟩ := takes.holds ordered inSpace
  exact join_eq_clipped first last

/-- A range that is recorded once more takes its place in the list again. -/
theorem again (positive : 0 < range.size) :
    (ranges.insert range.offset range.size).TakesIn range front [range.joinAll joined] back := by
  obtain ⟨first, last⟩ := takes.holds ordered inSpace
  have inSpaceJoined := Nat.le_trans first inSpace
  have same := takes.joinAll_again ordered inSpace
  refine ⟨takes.inserted, takes.ahead, ?_, ?_⟩
  · rw [same, stop_clipped inSpaceJoined]
    exact takes.behind
  · have wide := offset_le_stop_of_le inSpace
    have stays : ¬ (range.joinAll joined).stop < range.offset := by omega
    have ahead : ∀ other ∈ front, decide (other.stop < range.offset) = true :=
      fun other member => decide_eq_true (takes.ahead other member)
    rw [insert, if_neg (Nat.ne_of_gt positive), takes.inserted, same,
      List.takeWhile_append_of_pos ahead, List.dropWhile_append_of_pos ahead,
      List.takeWhile_cons_of_neg (by simpa using stays),
      List.dropWhile_cons_of_neg (by simpa using stays), List.append_nil]
    exact congrArg (front ++ ·) (absorb_of_held inSpace inSpaceJoined first last takes.behind)

/-- Recording a range again changes nothing exactly if it was joined to one that lies in the address
space. -/
theorem again_eq_iff (positive : 0 < range.size) :
    (ranges.insert range.offset range.size).insert range.offset range.size =
        ranges.insert range.offset range.size ↔
      (range.joinAll joined).Fits := by
  have inSpaceJoined := Nat.le_trans (takes.holds ordered inSpace).1 inSpace
  rw [← clipped_eq_self_iff inSpaceJoined, ← takes.joinAll_again ordered inSpace,
    eq_iff_toList, (takes.again ordered inSpace positive).inserted, takes.inserted]
  simp

/-- Recorded a third time, a range changes nothing any more. -/
theorem again_again (positive : 0 < range.size) :
    let twice := (ranges.insert range.offset range.size).insert range.offset range.size
    twice.insert range.offset range.size = twice := by
  have inSpaceJoined := Nat.le_trans (takes.holds ordered inSpace).1 inSpace
  refine ((takes.again ordered inSpace positive).again_eq_iff (isOrdered_insert ordered inSpace)
    inSpace positive).mpr ?_
  rw [takes.joinAll_again ordered inSpace]
  exact clipped_fits inSpaceJoined

/-- A range that runs past the largest offset stands in the list as it was recorded. -/
theorem eq_of_not_fits (past : ¬ (range.joinAll joined).Fits) : range.joinAll joined = range := by
  cases joined with
  | nil => rfl
  | cons next joined =>
    exact absurd (joinAll_fits inSpace (takes.joined_inSpace ordered) (List.cons_ne_nil _ _)) past

/-- The recorded range lies in the list only where it was joined to. -/
theorem eq_of_mem (member : range ∈ (ranges.insert range.offset range.size).toList) :
    range.joinAll joined = range := by
  have wide := offset_le_stop_of_le inSpace
  rw [takes.inserted, List.mem_append, List.mem_cons] at member
  rcases member with before | same | later
  · have early := takes.ahead range before
    omega
  · exact same.symm
  · have late := takes.behind range later
    have last := (takes.holds ordered inSpace).2
    omega

end Sides

end TakesIn

/-! ## What recording builds -/

/-- What a list has to do with the ranges that were recorded in it. -/
structure Records (added : List ErrorRange) (ranges : ErrorRanges) : Prop where
  ordered : ranges.IsOrdered
  spans : ∀ byte, (∃ range ∈ ranges.toList, range.Spans byte) ↔ ∃ range ∈ added, range.Spans byte
  /-- Only what was recorded runs past the largest offset, as it was recorded. -/
  whole : ∀ range ∈ ranges.toList, ¬ range.Fits → range ∈ added
  /-- Nothing is left of ranges at the largest offset once two of them were joined. -/
  hollow : ∀ range ∈ ranges.toList,
    range.size = 0 ↔ range.offset = maxOffset ∧ 2 ≤ added.countP (·.AtLimit)
  reached : 0 < added.countP (·.AtLimit) → ∃ range ∈ ranges.toList, range.stop = maxOffset

namespace Records

variable {added others : List ErrorRange} {range : ErrorRange}

theorem nothing : Records [] empty where
  ordered := isOrdered_empty
  spans := by simp [empty]
  whole := by simp [empty]
  hollow := by simp [empty]
  reached := by simp

/-- A range of the list at the largest offset goes back to one that was recorded there. -/
theorem countP_pos (records : Records added ranges) (member : range ∈ ranges.toList)
    (last : range.offset = maxOffset) : 0 < added.countP (·.AtLimit) := by
  rcases Nat.eq_zero_or_pos range.size with none | positive
  · exact Nat.lt_of_lt_of_le Nat.zero_lt_two ((records.hollow range member).mp none).2
  · have past : ¬ range.Fits := by
      simp only [Fits]
      omega
    exact List.countP_pos_iff.mpr
      ⟨range, records.whole range member past, decide_eq_true ⟨last, positive⟩⟩

section Step

variable (records : Records added ranges) (inSpace : range.offset ≤ maxOffset)
  {front joined back : List ErrorRange} (takes : ranges.TakesIn range front joined back)

include records inSpace takes

private theorem hollow_joinAll (positive : 0 < range.size) :
    (range.joinAll joined).size = 0 ↔
      (range.joinAll joined).offset = maxOffset ∧
        2 ≤ (added ++ [range]).countP (·.AtLimit) := by
  obtain ⟨first, last⟩ := takes.holds records.ordered inSpace
  have starts := takes.joined_inSpace records.ordered
  rw [List.countP_append, List.countP_singleton]
  constructor
  · intro none
    have some : joined ≠ [] := by
      rintro rfl
      exact absurd none (Nat.ne_of_gt positive)
    have atLimit : (range.joinAll joined).offset = maxOffset := by
      simp only [stop, rangeEnd, none] at last
      omega
    obtain ⟨next, joined, rfl⟩ := List.exists_cons_of_ne_nil some
    have member : next ∈ next :: joined := List.mem_cons_self
    have held := (joinAll_holds inSpace starts next (List.mem_cons_of_mem _ member)).1
    have listed : next ∈ ranges.toList := by
      rw [takes.parts]
      exact List.mem_append_right _ (List.mem_append_left _ member)
    have nextAtLimit : next.offset = maxOffset :=
      Nat.le_antisymm (starts next member) (atLimit ▸ held)
    have before : 0 < added.countP (·.AtLimit) := records.countP_pos listed nextAtLimit
    have here : range.AtLimit := ⟨Nat.le_antisymm inSpace (atLimit ▸ first), positive⟩
    rw [if_pos (decide_eq_true here)]
    exact ⟨atLimit, Nat.succ_le_succ before⟩
  · rintro ⟨atLimit, twice⟩
    have here : range.offset = maxOffset := Nat.le_antisymm inSpace (atLimit ▸ first)
    have before : 0 < added.countP (·.AtLimit) := by
      split at twice <;> omega
    -- A range that reaches the largest offset is there already, and can only be among the joined ones.
    obtain ⟨other, member, ends⟩ := records.reached before
    have inSpaceOther := records.ordered.inSpace other member
    have some : joined ≠ [] := by
      rintro rfl
      have wide := offset_le_stop_of_le inSpace
      rw [takes.parts, List.nil_append, List.mem_append] at member
      rcases member with front | back
      · have early := takes.ahead other front
        omega
      · have late := takes.behind other back
        omega
    have fits := joinAll_fits inSpace starts some
    simp only [Fits] at fits
    omega

private theorem hollow_other {other : ErrorRange} (member : other ∈ front ∨ other ∈ back) :
    other.size = 0 ↔
      other.offset = maxOffset ∧ 2 ≤ (added ++ [range]).countP (·.AtLimit) := by
  have listed : other ∈ ranges.toList := by
    rw [takes.parts, List.mem_append, List.mem_append]
    exact member.imp_right .inr
  have wide := offset_le_stop_of_le inSpace
  have wideOther := offset_le_stop_of_le (records.ordered.inSpace other listed)
  rw [records.hollow other listed]
  refine and_congr_right fun atLimit => ?_
  have elsewhere : ¬ range.AtLimit := by
    rintro ⟨here, _⟩
    rcases member with before | later
    · have early := takes.ahead other before
      omega
    · have late := takes.behind other later
      have last := (takes.holds records.ordered inSpace).2
      omega
  rw [List.countP_append, List.countP_singleton, if_neg (by simpa using elsewhere), Nat.add_zero]

private theorem reached_insert (some : 0 < (added ++ [range]).countP (·.AtLimit)) :
    ∃ other ∈ (ranges.insert range.offset range.size).toList, other.stop = maxOffset := by
  have starts := takes.joined_inSpace records.ordered
  have reaches {held : ErrorRange} (member : held ∈ range :: joined) (ends : held.stop = maxOffset) :
      (range.joinAll joined).stop = maxOffset :=
    Nat.le_antisymm (rangeEnd_le_maxOffset _ _) (ends ▸ (joinAll_holds inSpace starts held member).2)
  rw [takes.inserted]
  by_cases here : range.AtLimit
  · have ends : range.stop = maxOffset :=
      Nat.le_antisymm (rangeEnd_le_maxOffset _ _) (here.1 ▸ offset_le_stop_of_le inSpace)
    exact ⟨_, by simp, reaches List.mem_cons_self ends⟩
  · rw [List.countP_append, List.countP_singleton, if_neg (by simpa using here)] at some
    obtain ⟨other, member, ends⟩ := records.reached some
    rw [takes.parts, List.mem_append, List.mem_append] at member
    rcases member with before | among | later
    · exact ⟨other, by simp [before], ends⟩
    · exact ⟨_, by simp, reaches (List.mem_cons_of_mem _ among) ends⟩
    · exact ⟨other, by simp [later], ends⟩

end Step

/-- Recording one more range. -/
theorem insert (records : Records added ranges) (inSpace : range.offset ≤ maxOffset) :
    Records (added ++ [range]) (ranges.insert range.offset range.size) := by
  have spans (byte : Nat) :
      (∃ other ∈ (ranges.insert range.offset range.size).toList, other.Spans byte) ↔
        ∃ other ∈ added ++ [range], other.Spans byte := by
    rw [spans_insert records.ordered inSpace, records.spans]
    simp only [List.mem_append, or_and_right, exists_or, List.mem_singleton, exists_eq_left]
  rcases Nat.eq_zero_or_pos range.size with none | positive
  · have unmarked : (added ++ [range]).countP (·.AtLimit) = added.countP (·.AtLimit) := by
      rw [List.countP_append, List.countP_singleton, if_neg (by simp [AtLimit, none]), Nat.add_zero]
    rw [none, insert_zero] at spans ⊢
    exact ⟨records.ordered, spans,
      fun other member past => List.mem_append_left _ (records.whole other member past),
      unmarked ▸ records.hollow, unmarked ▸ records.reached⟩
  obtain ⟨front, joined, back, takes⟩ := exists_takesIn records.ordered positive
  refine ⟨isOrdered_insert records.ordered inSpace, spans, ?_, ?_,
    records.reached_insert inSpace takes⟩
  · rw [takes.inserted]
    intro other member past
    rw [List.mem_append, List.mem_cons] at member
    rcases member with before | rfl | later
    · refine List.mem_append_left _ (records.whole other ?_ past)
      simp [takes.parts, before]
    · rw [takes.eq_of_not_fits records.ordered inSpace past]
      exact List.mem_append_right _ (List.mem_singleton_self _)
    · refine List.mem_append_left _ (records.whole other ?_ past)
      simp [takes.parts, later]
  · rw [takes.inserted]
    intro other member
    rw [List.mem_append, List.mem_cons] at member
    rcases member with before | rfl | later
    · exact records.hollow_other inSpace takes (.inl before)
    · exact records.hollow_joinAll inSpace takes positive
    · exact records.hollow_other inSpace takes (.inr later)

/-- Recording ranges one after the other. -/
theorem insertAll (records : Records added ranges)
    (inSpace : ∀ range ∈ others, range.offset ≤ maxOffset) :
    Records (added ++ others) (ranges.insertAll others) := by
  induction others generalizing added ranges with
  | nil => rwa [List.append_nil]
  | cons range others ih =>
    obtain ⟨first, rest⟩ := List.forall_mem_cons.mp inSpace
    rw [List.append_cons]
    exact ih (records.insert first) rest

end Records

/-- Ranges of any sizes that are recorded in an empty list leave it in order: each range ends, as far
as offsets go, with a gap before the next one starts. Below the largest offset the list covers what
was recorded. A range of it is empty exactly if it starts at the largest offset and more than one
range was recorded there; one that runs past the largest offset is listed as it was recorded.
Recording the last range once more changes the list exactly if that range is listed and runs past the
largest offset, and a third time it changes nothing. -/
theorem ranges_past_limit_ordered (added : List ErrorRange)
    (inSpace : ∀ range ∈ added, range.offset ≤ maxOffset) :
    let ranges := empty.insertAll added
    ranges.toList.Pairwise (fun range next => range.offset < next.offset ∧
        range.stop < next.offset) ∧
      (∀ byte < maxOffset, ranges.Covers byte ↔ ∃ range ∈ added, range.Contains byte) ∧
      (∀ range ∈ ranges.toList,
        range.size = 0 ↔ range.offset = maxOffset ∧ 2 ≤ added.countP (·.AtLimit)) ∧
      (∀ range ∈ ranges.toList, ¬ range.Fits → range ∈ added) ∧
      ∀ last, added.getLast? = some last →
        let again := ranges.insert last.offset last.size
        (again = ranges ↔ (last ∈ ranges.toList → last.Fits)) ∧
          again.insert last.offset last.size = again := by
  intro ranges
  have records : Records added ranges := Records.nothing.insertAll inSpace
  refine ⟨?_, fun byte below => ?_, records.hollow, records.whole, fun last found => ?_⟩
  · refine records.ordered.apart.imp_of_mem fun {range next} member _ gap => ⟨?_, gap⟩
    exact Nat.lt_of_le_of_lt (offset_le_stop_of_le (records.ordered.inSpace range member)) gap
  · simp only [Covers, contains_iff_spans below]
    exact records.spans byte
  obtain ⟨before, rfl⟩ := List.getLast?_eq_some_iff.mp found
  have inSpaceLast := inSpace last (by simp)
  have ordered : (empty.insertAll before).IsOrdered :=
    (Records.nothing.insertAll fun range member => inSpace range (by simp [member])).ordered
  have built : ranges = (empty.insertAll before).insert last.offset last.size :=
    insertAll_append empty before [last]
  rcases Nat.eq_zero_or_pos last.size with none | positive
  · intro again
    have same : again = ranges := by simp only [again, none, insert_zero]
    rw [same]
    refine ⟨iff_of_true rfl fun _ => ?_, same⟩
    rwa [Fits, none, Nat.add_zero]
  obtain ⟨front, joined, back, takes⟩ := exists_takesIn ordered positive
  rw [built]
  refine ⟨(takes.again_eq_iff ordered inSpaceLast positive).trans ⟨fun fits member => ?_, ?_⟩,
    takes.again_again ordered inSpaceLast positive⟩
  · rwa [takes.eq_of_mem ordered inSpaceLast member] at fits
  · intro listed
    refine Decidable.byContradiction fun past => ?_
    have same := takes.eq_of_not_fits ordered inSpaceLast past
    have fits := listed (by simp [takes.inserted, same])
    rw [same] at past
    exact past fits

/-- One range that runs past the largest offset by far, recorded behind another one. -/
def overhanging : List ErrorRange := [⟨0, 512⟩, ⟨maxOffset - 5, 100⟩]

theorem overhanging_past_limit_ordered :
    (∀ range ∈ overhanging, range.offset ≤ maxOffset) ∧
      empty.insertAll overhanging = ⟨[⟨0, 512⟩, ⟨maxOffset - 5, 100⟩]⟩ ∧
      (∀ byte < maxOffset, (empty.insertAll overhanging).Covers byte ↔
        ∃ range ∈ overhanging, range.Contains byte) ∧
      let again := (empty.insertAll overhanging).insert (maxOffset - 5) 100
      again = ⟨[⟨0, 512⟩, ⟨maxOffset - 5, 5⟩]⟩ ∧ again.insert (maxOffset - 5) 100 = again := by
  have inSpace : ∀ range ∈ overhanging, range.offset ≤ maxOffset := by decide
  obtain ⟨_, covers, _, _, again⟩ := ranges_past_limit_ordered overhanging inSpace
  exact ⟨inSpace, by decide, covers, by decide, (again ⟨maxOffset - 5, 100⟩ rfl).2⟩

/-- No range of the list that recording builds is empty, each ends with a gap before the next one, and
recording the last range once more changes nothing. -/
def Settles (added : List ErrorRange) : Prop :=
  let ranges := empty.insertAll added
  (∀ range ∈ ranges.toList, 0 < range.size) ∧
    ranges.toList.Pairwise (fun range next => range.offset < next.offset ∧
      range.stop < next.offset) ∧
    ∀ last, added.getLast? = some last → ranges.insert last.offset last.size = ranges

/-- A range that is recorded twice at the largest offset becomes empty, and one that runs past the
largest offset is cut when it is recorded again. -/
theorem not_settles_past_limit :
    ¬ Settles [⟨maxOffset, 1⟩, ⟨maxOffset, 1⟩] ∧ ¬ Settles [⟨maxOffset - 5, 100⟩] := by
  constructor
  · rintro ⟨positive, _, _⟩
    exact absurd (positive ⟨maxOffset, 0⟩ (by decide)) (by decide)
  · rintro ⟨_, _, again⟩
    exact absurd (again ⟨maxOffset - 5, 100⟩ rfl) (by decide)

end ErrorRanges

end StorageMedia
