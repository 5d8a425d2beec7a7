import StorageMedia.Proofs.Handle.Endings
import StorageMedia.Proofs.Handle.EntryPoints

/-! # Reads fill buffers

Whatever a read is told, it is refused at once or it fills a buffer on a handle that was moved to
its offset: the buffer of the caller, or one with zeros for all the bytes that it is asked for. A
fact about reads into buffers is therefore one about all reads, also where the geometry of the media
is not known yet.
-/

namespace StorageMedia

variable {σ : Type}

/-- The buffer that a read fills, as it is before the read. -/
def Operation.unfilled (handle : Handle σ) : Operation σ → Bytes
  | read size | readAt size _ => .replicate size.toNat 0
  | readDefault => .replicate handle.options.defaultReadSize 0
  | readBuffer bytes | readBufferAt bytes _ | streamRead bytes => bytes
  | _ => .empty

/-- The response to a read that fills a buffer: it leaves what filling the buffer leaves, and when
it succeeds it returns the front of the buffer. -/
structure Response.Fills (response : Response σ) (read : BufferRead σ) : Prop where
  state : response.outcome.state = read.outcome.state
  events : response.outcome.events = read.outcome.events
  returns : ∀ value, response.outcome.result = .ok value → ∃ count,
    read.outcome.result = .ok count ∧ response.Returns (read.buffer.toList.take count)

variable [Device σ] {patience : Nat} {handle : Handle σ}

namespace Handle

private theorem fills_ofRead (patience : Nat) (handle : Handle σ) (bytes : Bytes) :
    (Response.ofRead (handle.readBuffer patience bytes)).Fills
      (handle.readBuffer patience bytes) where
  state := rfl
  events := rfl
  returns value succeeded := by
    obtain ⟨count, read, _⟩ := Outcome.ok_of_map succeeded
    have stays := readBuffer_staysWithin patience handle bytes
    have few : count ≤ (handle.readBuffer patience bytes).buffer.size := by
      rw [stays.size]
      exact Nat.le_trans (stays.given count read) (Nat.min_le_left _ _)
    have length : ((handle.readBuffer patience bytes).buffer.toList.take count).length = count := by
      rw [List.length_take, Bytes.length_toList, Nat.min_eq_left few]
    exact ⟨count, read, Response.returns_ofRead (by rw [read, length]) (List.take_prefix _ _)⟩

private theorem fills_readUpTo (patience : Nat) (handle : Handle σ) (size : Nat) :
    (Response.of (handle.readUpTo patience size) .bytes).Fills
      (handle.readBuffer patience (.replicate size 0)) := by
  rw [readUpTo_eq]
  refine ⟨rfl, rfl, fun value succeeded => ?_⟩
  obtain ⟨bytes, read, _⟩ := Outcome.ok_of_map succeeded
  obtain ⟨count, filled, rfl⟩ := Outcome.ok_of_map read
  refine ⟨count, filled, ?_⟩
  rw [← Bytes.toList_take]
  exact Response.returns_of read

private theorem seek_start_cases (handle : Handle σ) {target : Int} (inside : 0 ≤ target) :
    (∃ cause, handle.seek target .start = .refuse cause handle) ∨
      ∃ offset, handle.seek target .start =
        .answer offset { handle with cursor := target.toNat } := by
  obtain ⟨offset, rfl⟩ := Int.eq_ofNat_of_zero_le inside
  by_cases opened : handle.isOpen = true
  · by_cases reachable : offset ≤ maxSeekOffset
    · exact .inr ⟨_, seek_start_of_open opened reachable⟩
    · refine .inl ⟨.outOfBounds offset .start, ?_⟩
      simp only [seek, opened, if_true, seekFrom]
      rw [if_neg (by omega)]
  · exact .inl ⟨.notOpen, by simp only [seek, opened, Bool.false_eq_true, if_false]⟩

private theorem read_cases (patience : Nat) (handle : Handle σ) (size : Int) :
    (∃ cause, handle.read patience size = .refuse cause handle) ∨
      (Response.of (handle.read patience size) .bytes).Fills
        (handle.readBuffer patience (.replicate size.toNat 0)) := by
  simp only [read]
  cases checked : checkReadSize size with
  | error cause => exact .inl ⟨cause, rfl⟩
  | ok amount =>
    obtain ⟨rfl, _⟩ := checkReadSize_eq_ok_iff.mp checked
    exact .inr (fills_readUpTo patience handle amount)

end Handle

/-- A read is refused, or it fills its buffer on the handle that was moved to its offset. -/
theorem Operation.reads_fill (host : Host σ) (patience : Nat) {operation : Operation σ}
    {start : Nat} (reads : operation.readStart? handle = some start) :
    (∃ cause, (operation.apply host patience handle).outcome = .refuse cause handle) ∨
      (operation.apply host patience handle).Fills
        (({ handle with cursor := start } : Handle σ).readBuffer patience
          (operation.unfilled handle)) := by
  cases operation with
  | read size =>
    cases reads
    rcases handle.read_cases patience size with ⟨cause, refused⟩ | fills
    · simp only [apply, refused]
      exact .inl ⟨cause, rfl⟩
    · exact .inr fills
  | readDefault =>
    cases reads
    rcases handle.read_cases patience handle.options.defaultReadSize with ⟨cause, refused⟩ | fills
    · simp only [apply, Handle.readDefault, refused]
      exact .inl ⟨cause, rfl⟩
    · exact .inr fills
  | readAt size target =>
    cases reads
    simp only [apply, Handle.readAt]
    cases checked : checkReadSize size with
    | error cause => exact .inl ⟨cause, rfl⟩
    | ok amount =>
      obtain ⟨rfl, _⟩ := Handle.checkReadSize_eq_ok_iff.mp checked
      dsimp only
      split
      · exact .inl ⟨_, rfl⟩
      next inside =>
      rcases handle.seek_start_cases (Int.not_lt.mp inside) with ⟨cause, refused⟩ | ⟨_, moved⟩
      · rw [refused, Outcome.andThen_refuse]
        exact .inl ⟨cause, rfl⟩
      · rw [moved, Outcome.andThen_answer]
        exact .inr (Handle.fills_readUpTo patience _ amount)
  | readBuffer bytes | streamRead bytes =>
    cases reads
    exact .inr (Handle.fills_ofRead patience handle bytes)
  | readBufferAt bytes target =>
    cases reads
    simp only [apply]
    rcases Handle.readBufferAt_cases handle start with ⟨cause, refused⟩ | moved
    · rw [refused]
      exact .inl ⟨cause, rfl⟩
    · rw [moved]
      exact .inr (Handle.fills_ofRead patience _ bytes)
  | _ => simp [readStart?] at reads

end StorageMedia
