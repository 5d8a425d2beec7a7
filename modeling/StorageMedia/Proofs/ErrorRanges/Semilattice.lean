import StorageMedia.Proofs.ErrorRanges.Recording

/-! # The order in which ranges are recorded

A list that recording builds is known from the bytes that it covers, and merging adds the bytes of
one list to those of another. So the laws of the union of sets are laws of lists: the order of
recording, the order of merging and what is merged first make no difference, and what is merged
again adds nothing.
-/

namespace StorageMedia.ErrorRanges

open ErrorRange

variable {ranges other third : ErrorRanges} {added others : List ErrorRange}

/-- The list is what recording ranges of the address space one after the other builds. -/
def IsBuilt (ranges : ErrorRanges) : Prop :=
  ∃ added : List ErrorRange, (∀ range ∈ added, range.Fits) ∧ ranges = empty.insertAll added

theorem IsBuilt.isSeparated (built : ranges.IsBuilt) : ranges.IsSeparated := by
  obtain ⟨_, fit, rfl⟩ := built
  exact isSeparated_recorded fit

/-- Recording the same ranges in another order adds the same bytes, which make the same list. -/
theorem insertAll_perm (separated : ranges.IsSeparated) (fit : ∀ range ∈ added, range.Fits)
    (reordered : added.Perm others) : ranges.insertAll added = ranges.insertAll others := by
  have fit' : ∀ range ∈ others, range.Fits :=
    fun range member => fit range (reordered.mem_iff.mpr member)
  refine eq_of_covers (isSeparated_insertAll separated fit)
    (isSeparated_insertAll separated fit') fun byte => ?_
  rw [covers_insertAll separated fit, covers_insertAll separated fit']
  simp only [reordered.mem_iff]

section Laws

variable (first : ranges.IsSeparated) (second : other.IsSeparated)

include first

theorem merge_self : ranges.merge ranges = ranges := by
  refine eq_of_covers (isSeparated_merge first first) first fun byte => ?_
  rw [covers_merge first first, or_self]

/-- A separated list is what recording its own ranges builds. -/
theorem empty_merge : empty.merge ranges = ranges := by
  refine eq_of_covers (isSeparated_merge isSeparated_empty first) first fun byte => ?_
  rw [covers_merge isSeparated_empty first, or_iff_right (not_covers_empty byte)]

/-- Recording builds all separated lists. -/
theorem isBuilt_of_isSeparated : ranges.IsBuilt :=
  ⟨ranges.toList, first.fit, (empty_merge first).symm⟩

include second

theorem merge_comm : ranges.merge other = other.merge ranges := by
  refine eq_of_covers (isSeparated_merge first second) (isSeparated_merge second first)
    fun byte => ?_
  rw [covers_merge first second, covers_merge second first, or_comm]

theorem merge_assoc (last : third.IsSeparated) :
    (ranges.merge other).merge third = ranges.merge (other.merge third) := by
  have front := isSeparated_merge first second
  have back := isSeparated_merge second last
  refine eq_of_covers (isSeparated_merge front last) (isSeparated_merge first back) fun byte => ?_
  rw [covers_merge front last, covers_merge first second, covers_merge first back,
    covers_merge second last, or_assoc]

end Laws

/-- Merging a list is recording, in any order, the ranges that it was built from. -/
theorem merge_recorded (separated : ranges.IsSeparated) (fit : ∀ range ∈ added, range.Fits)
    (reordered : added.Perm others) :
    ranges.merge (empty.insertAll added) = ranges.insertAll others := by
  have built := isSeparated_recorded fit
  rw [← insertAll_perm separated fit reordered]
  refine eq_of_covers (isSeparated_merge separated built) (isSeparated_insertAll separated fit)
    fun byte => ?_
  rw [covers_merge separated built, covers_recorded fit, covers_insertAll separated fit]

/-! ## Merging as a walk along the second list -/

/-- Two lists side by side, after the range at an index of the second one was recorded in the
first. -/
def carryOver (lists : ErrorRanges × ErrorRanges) (index : Nat) : ErrorRanges × ErrorRanges :=
  match lists.2.get? index with
  | some range => (lists.1.insert range.offset range.size, lists.2)
  | none => lists

private theorem walk_eq (ranges other : ErrorRanges) {count : Nat} (inside : count ≤ other.size) :
    (List.range count).foldl carryOver (ranges, other) =
      (ranges.insertAll (other.toList.take count), other) := by
  induction count with
  | zero => rfl
  | succ count ih =>
    have present : other.get? count = some other.toList[count] := List.getElem?_eq_getElem inside
    rw [List.range_succ, List.foldl_append, ih (Nat.le_of_succ_le inside),
      List.take_succ_eq_append_getElem inside, insertAll_append]
    simp only [List.foldl_cons, List.foldl_nil, carryOver, present, insertAll]

/-- Merging is a walk along the whole second list, which stays as it is. -/
theorem carryOver_all (ranges other : ErrorRanges) :
    (List.range other.size).foldl carryOver (ranges, other) = (ranges.merge other, other) := by
  rw [walk_eq ranges other (Nat.le_refl _), size, List.take_length, merge_eq_insertAll]

/-- The lists that recording ranges of the address space builds form a semilattice under merging. A
list does not depend on the order in which its ranges were recorded. Merging is commutative,
associative and idempotent and has the empty list as its identity; it does what recording the ranges
of the second list does, in any order, and a walk along the second list that merges it leaves that
list as it is. -/
theorem built_lists_semilattice :
    (∀ added others : List ErrorRange, added.Perm others → (∀ range ∈ added, range.Fits) →
      empty.insertAll added = empty.insertAll others) ∧
    ∀ a b c : ErrorRanges, a.IsBuilt → b.IsBuilt → c.IsBuilt →
      (a.merge b).IsBuilt ∧ a.merge b = b.merge a ∧
      (a.merge b).merge c = a.merge (b.merge c) ∧ a.merge a = a ∧
      a.merge empty = a ∧ empty.merge a = a ∧
      (∀ added others : List ErrorRange, (∀ range ∈ added, range.Fits) →
        b = empty.insertAll added → added.Perm others → a.merge b = a.insertAll others) ∧
      (List.range b.size).foldl carryOver (a, b) = (a.merge b, b) := by
  refine ⟨fun added others reordered fit => insertAll_perm isSeparated_empty fit reordered, ?_⟩
  intro a b c builtA builtB builtC
  have first := builtA.isSeparated
  have second := builtB.isSeparated
  refine ⟨isBuilt_of_isSeparated (isSeparated_merge first second), merge_comm first second,
    merge_assoc first second builtC.isSeparated, merge_self first, merge_empty a,
    empty_merge first, ?_, carryOver_all a b⟩
  rintro added others fit rfl reordered
  exact merge_recorded first fit reordered

/-- Lists that overlap, touch and fill each other's gaps. -/
theorem interleaved_lists_semilattice :
    let a : ErrorRanges := ⟨[⟨0, 512⟩, ⟨4096, 512⟩]⟩
    let b : ErrorRanges := ⟨[⟨512, 512⟩, ⟨4000, 1000⟩, ⟨8192, 16⟩]⟩
    let c : ErrorRanges := ⟨[⟨1024, 2976⟩]⟩
    a.IsBuilt ∧ b.IsBuilt ∧ c.IsBuilt ∧
      a.merge b = ⟨[⟨0, 1024⟩, ⟨4000, 1000⟩, ⟨8192, 16⟩]⟩ ∧ a.merge b = b.merge a ∧
      (a.merge b).merge c = a.merge (b.merge c) ∧
      a.merge b = a.insertAll [⟨8192, 16⟩, ⟨4500, 500⟩, ⟨512, 512⟩, ⟨4000, 600⟩] := by
  intro a b c
  have builtA : a.IsBuilt := ⟨[⟨4096, 512⟩, ⟨0, 512⟩], by decide, by decide⟩
  have fit : ∀ range ∈ ([⟨512, 512⟩, ⟨4000, 600⟩, ⟨4500, 500⟩, ⟨8192, 16⟩] : List ErrorRange),
      range.Fits := by decide
  have builtB : b.IsBuilt := ⟨_, fit, by decide⟩
  have builtC : c.IsBuilt := ⟨[⟨1024, 2976⟩], by decide, by decide⟩
  obtain ⟨_, laws⟩ := built_lists_semilattice
  obtain ⟨_, comm, assoc, _, _, _, recorded, _⟩ := laws a b c builtA builtB builtC
  exact ⟨builtA, builtB, builtC, by decide, comm, assoc,
    recorded _ _ fit (by decide) (by decide)⟩

end StorageMedia.ErrorRanges
