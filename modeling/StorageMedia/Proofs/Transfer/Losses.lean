import StorageMedia.Proofs.Device.Damaged
import StorageMedia.Proofs.Transfer.Delivery

/-! # What damage costs a request

Which bytes a tolerant request loses on a damaged medium and where it comes to an end depends on the
damage, the options and the bounds of the request alone, and neither on how the device cuts its
reads nor on how often a read is tried again. `DamagedMedium.Loses` and `DamagedMedium.Stops` say so
without a word about the order in which things happen. `DamagedMedium.Passes` is what holds on the
way there: reading good bytes and giving up a block keep it.

A request may end in the middle, since the media may be shorter than its device says.
-/

namespace StorageMedia

namespace Options

variable {options : Options} {start stop here byte first middle last : Nat}

/-- Two offsets are given up together. Without a granularity all offsets are, as division by zero
gives zero. -/
def SameBlock (options : Options) (first second : Nat) : Prop :=
  first / options.errorGranularity = second / options.errorGranularity

/-- Blocks have no holes. -/
theorem SameBlock.of_between (same : options.SameBlock first last) (le : first ≤ middle)
    (le' : middle ≤ last) : options.SameBlock first middle ∧ options.SameBlock middle last := by
  simp only [SameBlock] at same ⊢
  have low : first / options.errorGranularity ≤ middle / _ := Nat.div_le_div_right le
  have high : middle / options.errorGranularity ≤ last / _ := Nat.div_le_div_right le'
  omega

/-- No block reaches over a multiple of the granularity. -/
theorem not_sameBlock_of_dvd (positive : 0 < options.errorGranularity)
    (aligned : options.errorGranularity ∣ middle) (before : first < middle)
    (behind : middle ≤ last) : ¬ options.SameBlock first last := by
  obtain ⟨block, rfl⟩ := aligned
  have low : first / options.errorGranularity < block := Nat.div_lt_of_lt_mul before
  have high : block ≤ last / options.errorGranularity :=
    (Nat.le_div_iff_mul_le positive).mpr (Nat.mul_comm _ _ ▸ behind)
  simp only [SameBlock]
  omega

private theorem sameBlock_iff (positive : 0 < options.errorGranularity) :
    options.SameBlock here byte ↔
      here / options.errorGranularity * options.errorGranularity ≤ byte ∧
        byte < here / options.errorGranularity * options.errorGranularity +
          options.errorGranularity := by
  rw [SameBlock, ← Nat.succ_mul, ← Nat.le_div_iff_mul_le positive, ← Nat.div_lt_iff_lt_mul positive]
  omega

/-- What is lost at an offset of a request is its block, as far as that lies in the request and,
unless the options zero whole blocks, behind the offset. -/
theorem inside_loss_iff (first : start ≤ here) (fits : stop ≤ maxOffset) :
    (options.loss start stop here).start ≤ byte ∧ byte < (options.loss start stop here).stop ↔
      start ≤ byte ∧ byte < stop ∧ options.SameBlock here byte ∧
        (options.zeroOnError = true ∨ here ≤ byte) := by
  rcases Nat.eq_zero_or_pos options.errorGranularity with whole | positive
  · have same : options.SameBlock here byte := by simp [SameBlock, whole]
    simp only [loss, whole, same, if_true, Nat.min_self, true_and]
    cases options.zeroOnError with
    | false =>
      simp only [Bool.false_eq_true, if_false, false_or]
      omega
    | true =>
      simp only [if_true, true_or, and_true]
      omega
  · have low := Nat.div_mul_le_self here options.errorGranularity
    rw [sameBlock_iff positive]
    simp only [loss, Nat.ne_of_gt positive, if_false, rangeEnd]
    cases options.zeroOnError with
    | false =>
      simp only [Bool.false_eq_true, if_false, false_or]
      omega
    | true =>
      simp only [if_true, true_or, and_true]
      omega

/-- A request goes on behind what it lost. -/
theorem lt_loss_stop_iff (first : start ≤ here) (last : here < stop) (fits : stop ≤ maxOffset)
    (behind : here ≤ byte) :
    byte < (options.loss start stop here).stop ↔ byte < stop ∧ options.SameBlock here byte := by
  have reached := (options.loss_bounds first last fits).2.1
  constructor
  · intro before
    obtain ⟨_, upTo, same, _⟩ :=
      (inside_loss_iff first fits).mp ⟨Nat.le_trans reached behind, before⟩
    exact ⟨upTo, same⟩
  · rintro ⟨upTo, same⟩
    exact ((inside_loss_iff first fits).mpr
      ⟨Nat.le_trans first behind, upTo, same, .inr behind⟩).2

end Options

namespace DamagedMedium

variable {σ : Type} [Device σ]

/-- A byte of a read from `start` up to `stop` is lost: some bad offset that was asked for too lies
in its block and, unless the options zero whole blocks, not behind it. -/
def Loses (medium : DamagedMedium σ) (options : Options) (start stop byte : Nat) : Prop :=
  start ≤ byte ∧ byte < stop ∧
    ∃ bad, medium.Bad bad ∧ start ≤ bad ∧ bad < stop ∧ options.SameBlock bad byte ∧
      (options.zeroOnError = true ∨ bad ≤ byte)

/-- Nothing in the block of an offset failed before the offset. -/
def Fresh (medium : DamagedMedium σ) (options : Options) (start here : Nat) : Prop :=
  ∀ bad, medium.Bad bad → start ≤ bad → bad < here → ¬ options.SameBlock bad here

/-- A request that gets as far as an offset finds the end of the media there. -/
structure EndsAt (medium : DamagedMedium σ) (options : Options) (start here : Nat) : Prop where
  behind : medium.size ≤ here
  good : ¬ medium.Bad here
  fresh : medium.Fresh options start here

/-- A request from `start` up to `stop` gets as far as an offset. -/
structure Passes (medium : DamagedMedium σ) (options : Options) (start stop here : Nat) :
    Prop where
  first : start ≤ here
  last : here ≤ stop
  fresh : here < stop → medium.Fresh options start here
  onward : ∀ offset, start ≤ offset → offset < here → ¬ medium.EndsAt options start offset

/-- A request from `start` up to `stop` comes to an end at an offset. -/
structure Stops (medium : DamagedMedium σ) (options : Options) (start stop here : Nat) :
    Prop where
  first : start ≤ here
  last : here ≤ stop
  ended : here = stop ∨ medium.EndsAt options start here
  onward : ∀ offset, start ≤ offset → offset < here → ¬ medium.EndsAt options start offset

variable {medium : DamagedMedium σ} {options : Options}
  {start stop here next middle last byte : Nat}

namespace Passes

theorem begins (le : start ≤ stop) : medium.Passes options start stop start where
  first := Nat.le_refl start
  last := le
  fresh _ _ _ from_ before := absurd before (Nat.not_lt.mpr from_)
  onward _ from_ before := absurd before (Nat.not_lt.mpr from_)

/-- Reading good bytes before the end keeps a request on its way. -/
theorem reads (passes : medium.Passes options start stop here) (forward : here < next)
    (inside : next ≤ stop) (before : next ≤ medium.size)
    (good : ∀ offset, here ≤ offset → offset < next → ¬ medium.Bad offset) :
    medium.Passes options start stop next where
  first := Nat.le_trans passes.first (Nat.le_of_lt forward)
  last := inside
  fresh room bad isBad from_ upTo same := by
    have early : bad < here := by
      rcases Nat.lt_or_ge bad here with early | late
      · exact early
      · exact absurd isBad (good bad late upTo)
    -- A block that reaches from a bad offset up to the next byte would hold this byte too.
    have closer := (same.of_between (Nat.le_of_lt early) (Nat.le_of_lt forward)).1
    exact passes.fresh (by omega) bad isBad from_ early closer
  onward offset from_ upTo ends := by
    rcases Nat.lt_or_ge offset here with early | late
    · exact passes.onward offset from_ early ends
    · have behind := ends.behind
      omega

/-- Reading good bytes loses nothing. -/
theorem loses_reads (passes : medium.Passes options start stop here) (forward : here < next)
    (inside : next ≤ stop) (good : ∀ offset, here ≤ offset → offset < next → ¬ medium.Bad offset) :
    medium.Loses options start next byte ↔ medium.Loses options start here byte := by
  constructor
  · rintro ⟨first, last, bad, isBad, from_, upTo, same, mode⟩
    have early : bad < here := by
      rcases Nat.lt_or_ge bad here with early | late
      · exact early
      · exact absurd isBad (good bad late upTo)
    have before : byte < here := by
      rcases Nat.lt_or_ge byte here with before | behind
      · exact before
      · have closer := (same.of_between (Nat.le_of_lt early) behind).1
        exact absurd closer (passes.fresh (by omega) bad isBad from_ early)
    exact ⟨first, before, bad, isBad, from_, early, same, mode⟩
  · rintro ⟨first, last, bad, isBad, from_, upTo, same, mode⟩
    exact ⟨first, by omega, bad, isBad, from_, by omega, same, mode⟩

/-- Giving up a block keeps a request on its way. -/
theorem gives_up (passes : medium.Passes options start stop here) (bad : medium.Bad here)
    (room : here < stop) (fits : stop ≤ maxOffset) :
    medium.Passes options start stop (options.loss start stop here).stop := by
  obtain ⟨_, _, forward, inside⟩ := options.loss_bounds passes.first room fits
  have inBlock {byte : Nat} (behind : here ≤ byte) :
      byte < (options.loss start stop here).stop ↔ byte < stop ∧ options.SameBlock here byte :=
    Options.lt_loss_stop_iff passes.first room fits behind
  refine ⟨Nat.le_trans passes.first (Nat.le_of_lt forward), inside, ?_, ?_⟩
  · intro before other isBad from_ upTo same
    have apart : ¬ options.SameBlock here (options.loss start stop here).stop := fun same =>
      absurd ((inBlock (Nat.le_of_lt forward)).mpr ⟨before, same⟩) (Nat.lt_irrefl _)
    rcases Nat.lt_or_ge other here with early | late
    · exact apart (same.of_between (Nat.le_of_lt early) (Nat.le_of_lt forward)).2
    · exact apart (((inBlock late).mp upTo).2.trans same)
  · intro offset from_ upTo ends
    rcases Nat.lt_trichotomy offset here with early | rfl | late
    · exact passes.onward offset from_ early ends
    · exact ends.good bad
    · exact ends.fresh here bad passes.first late ((inBlock (Nat.le_of_lt late)).mp upTo).2

/-- Giving up a block loses what was given up. -/
theorem loses_gives_up (passes : medium.Passes options start stop here) (bad : medium.Bad here)
    (room : here < stop) (fits : stop ≤ maxOffset) :
    medium.Loses options start (options.loss start stop here).stop byte ↔
      medium.Loses options start here byte ∨
        ((options.loss start stop here).start ≤ byte ∧
          byte < (options.loss start stop here).stop) := by
  obtain ⟨_, _, forward, inside⟩ := options.loss_bounds passes.first room fits
  constructor
  · rintro ⟨first, last, other, isBad, from_, upTo, same, mode⟩
    rcases Nat.lt_or_ge other here with early | late
    · have before : byte < here := by
        rcases Nat.lt_or_ge byte here with before | behind
        · exact before
        · have closer := (same.of_between (Nat.le_of_lt early) behind).1
          exact absurd closer (passes.fresh room other isBad from_ early)
      exact .inl ⟨first, before, other, isBad, from_, early, same, mode⟩
    · have block := ((Options.lt_loss_stop_iff passes.first room fits late).mp upTo).2
      have reached : options.zeroOnError = true ∨ here ≤ byte :=
        mode.imp_right fun le => Nat.le_trans late le
      exact .inr ((Options.inside_loss_iff passes.first fits).mpr
        ⟨first, Nat.lt_of_lt_of_le last inside, block.trans same, reached⟩)
  · rintro (⟨first, last, other, isBad, from_, upTo, same, mode⟩ | given)
    · exact ⟨first, by omega, other, isBad, from_, by omega, same, mode⟩
    · obtain ⟨first, _, same, mode⟩ := (Options.inside_loss_iff passes.first fits).mp given
      exact ⟨first, given.2, here, bad, passes.first, forward, same, mode⟩

/-- A request on its way stops at the end of its bytes and where it reads the end of the media. -/
theorem stops (passes : medium.Passes options start stop here)
    (ended : here = stop ∨ (medium.size ≤ here ∧ ¬ medium.Bad here)) :
    medium.Stops options start stop here where
  first := passes.first
  last := passes.last
  ended := by
    rcases Nat.lt_or_ge here stop with early | late
    · rcases ended with rfl | ⟨behind, good⟩
      · exact absurd early (Nat.lt_irrefl _)
      · exact .inr ⟨behind, good, passes.fresh early⟩
    · exact .inl (Nat.le_antisymm passes.last late)
  onward := passes.onward

end Passes

namespace Stops

private theorem le_of_stops (stops : medium.Stops options start stop here)
    (other : medium.Stops options start stop last) : last ≤ here := by
  rcases Nat.lt_or_ge here last with early | late
  · rcases stops.ended with rfl | ends
    · exact other.last
    · exact absurd ends (other.onward here stops.first early)
  · exact late

theorem unique (stops : medium.Stops options start stop here)
    (other : medium.Stops options start stop last) : here = last :=
  Nat.le_antisymm (other.le_of_stops stops) (stops.le_of_stops other)

private theorem eq_of_endsAt (stops : medium.Stops options start stop last)
    (behind : medium.size ≤ start) (good : ¬ medium.Bad start) : last = start := by
  have fresh : medium.Fresh options start start :=
    fun _ _ from_ before => absurd before (Nat.not_lt.mpr from_)
  rcases Nat.lt_or_ge start last with early | late
  · exact absurd ⟨behind, good, fresh⟩ (stops.onward start (Nat.le_refl start) early)
  · exact Nat.le_antisymm late stops.first

end Stops

/-! ### One request after another -/

private theorem fresh_iff_of_dvd (positive : 0 < options.errorGranularity)
    (aligned : options.errorGranularity ∣ middle) (le : start ≤ middle) (behind : middle ≤ here) :
    medium.Fresh options start here ↔ medium.Fresh options middle here := by
  constructor
  · exact fun fresh bad isBad from_ => fresh bad isBad (Nat.le_trans le from_)
  · intro fresh bad isBad from_ before
    rcases Nat.lt_or_ge bad middle with early | late
    · exact Options.not_sameBlock_of_dvd positive aligned early behind
    · exact fresh bad isBad late before

/-- A request may be cut at a multiple of the granularity. -/
theorem Stops.append (positive : 0 < options.errorGranularity)
    (aligned : options.errorGranularity ∣ middle)
    (one : medium.Stops options start middle middle)
    (other : medium.Stops options middle stop last) : medium.Stops options start stop last := by
  have fresh {here : Nat} (behind : middle ≤ here) :
      medium.Fresh options start here ↔ medium.Fresh options middle here :=
    fresh_iff_of_dvd positive aligned one.first behind
  refine ⟨Nat.le_trans one.first other.first, other.last, ?_, ?_⟩
  · rcases other.ended with same | ends
    · exact .inl same
    · exact .inr ⟨ends.behind, ends.good, (fresh other.first).mpr ends.fresh⟩
  · intro offset from_ before ends
    rcases Nat.lt_or_ge offset middle with early | late
    · exact one.onward offset from_ early ends
    · exact other.onward offset late before ⟨ends.behind, ends.good, (fresh late).mp ends.fresh⟩

/-- What is lost on both sides of a multiple of the granularity is what is lost in all. -/
theorem loses_append (positive : 0 < options.errorGranularity)
    (aligned : options.errorGranularity ∣ middle) (le : start ≤ middle) (le' : middle ≤ last) :
    medium.Loses options start last byte ↔
      medium.Loses options start middle byte ∨ medium.Loses options middle last byte := by
  constructor
  · rintro ⟨first, upTo, bad, isBad, from_, before, same, mode⟩
    -- The bad offset lies on the same side as the byte, since they share a block.
    rcases Nat.lt_or_ge byte middle with early | late <;>
      rcases Nat.lt_or_ge bad middle with badEarly | badLate
    · exact .inl ⟨first, early, bad, isBad, from_, badEarly, same, mode⟩
    · exact absurd same.symm (Options.not_sameBlock_of_dvd positive aligned early badLate)
    · exact absurd same (Options.not_sameBlock_of_dvd positive aligned badEarly late)
    · exact .inr ⟨late, upTo, bad, isBad, badLate, before, same, mode⟩
  · rintro (⟨first, upTo, bad, isBad, from_, before, rest⟩ |
      ⟨first, upTo, bad, isBad, from_, before, rest⟩)
    · exact ⟨first, by omega, bad, isBad, from_, by omega, rest⟩
    · exact ⟨by omega, upTo, bad, isBad, by omega, before, rest⟩

theorem not_loses_empty : ¬ medium.Loses options here here byte := by
  rintro ⟨first, last, _⟩
  omega

/-- A request for `size` bytes from `start` on, of which those up to `limit` are read, comes to an
end at an offset. -/
def Reads (medium : DamagedMedium σ) (options : Options) (limit start size here : Nat) : Prop :=
  medium.Stops options start (start + min (limit - start) size) here

namespace Reads

variable {limit size more : Nat}

private theorem full_or_last (one : medium.Reads options limit start size middle)
    (other : medium.Reads options limit middle more last) :
    (middle = start + size ∧ start + min (limit - start) (size + more) =
      middle + min (limit - middle) more) ∨
      (last = middle ∧ medium.Reads options limit start (size + more) middle) := by
  simp only [Reads] at one other ⊢
  have first := other.first
  rcases one.ended with same | ends
  · by_cases all : size ≤ limit - start
    · exact .inl (by omega)
    · have upTo := other.last
      refine .inr ⟨by omega, one.first, by omega, .inl (by omega), one.onward⟩
  · have upTo := one.last
    have stays := other.eq_of_endsAt ends.behind ends.good
    exact .inr ⟨stays, one.first, by omega, .inr ends, one.onward⟩

variable (positive : 0 < options.errorGranularity)
  (aligned : options.errorGranularity ∣ start + size)

include positive aligned

/-- Two requests that meet at a multiple of the granularity get as far as one for all of their
bytes. -/
theorem append (one : medium.Reads options limit start size middle)
    (other : medium.Reads options limit middle more last) :
    medium.Reads options limit start (size + more) last := by
  rcases full_or_last one other with ⟨rfl, same⟩ | ⟨rfl, whole⟩
  · simp only [Reads] at one other ⊢
    rw [same]
    have upTo := one.last
    have all : start + min (limit - start) size = start + size := by omega
    exact Stops.append positive aligned (all ▸ one) other
  · exact whole

/-- Two requests that meet at a multiple of the granularity lose what one for all of their bytes
does. -/
theorem loses_append (one : medium.Reads options limit start size middle)
    (other : medium.Reads options limit middle more last) (byte : Nat) :
    medium.Loses options start last byte ↔
      medium.Loses options start middle byte ∨ medium.Loses options middle last byte := by
  rcases full_or_last one other with ⟨rfl, _⟩ | ⟨rfl, _⟩
  · exact DamagedMedium.loses_append positive aligned one.first other.first
  · simp only [not_loses_empty, or_false]

end Reads

open Classical in
/-- What a read from `start` up to `stop` gives: zeros for the bytes that it loses, and the bytes of
the media elsewhere. -/
noncomputable def image (medium : DamagedMedium σ) (options : Options) (start stop : Nat) :
    List UInt8 :=
  (List.range' start (stop - start)).map fun byte =>
    if medium.Loses options start stop byte then 0 else medium.byteAt byte

open Classical in
/-- Two reads that lose what one read for all their bytes does give what that read gives. -/
theorem image_append (le : start ≤ middle) (le' : middle ≤ last)
    (loses : ∀ byte, medium.Loses options start last byte ↔
      medium.Loses options start middle byte ∨ medium.Loses options middle last byte) :
    medium.image options start middle ++ medium.image options middle last =
      medium.image options start last := by
  have whole : last - start = (middle - start) + (last - middle) := by omega
  have meets : start + (middle - start) = middle := Nat.add_sub_cancel' le
  simp only [image]
  rw [whole, ← List.range'_append_1, meets, List.map_append]
  congr 1
  · refine List.map_congr_left fun byte member => ?_
    have before := List.mem_range'_1.mp member
    have outside : ¬ medium.Loses options middle last byte := fun loses => by
      have := loses.1
      omega
    simp only [loses byte, outside, or_false]
  · refine List.map_congr_left fun byte member => ?_
    have behind := List.mem_range'_1.mp member
    have outside : ¬ medium.Loses options start middle byte := fun loses => by
      have := loses.2.1
      omega
    simp only [loses byte, outside, false_or]

end DamagedMedium

end StorageMedia
