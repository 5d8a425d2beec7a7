import StorageMedia.CommandLine.Dump
import StorageMedia.Proofs.Handle.Accounting
import StorageMedia.Proofs.Handle.Endings

/-! # Dumps, chunk by chunk

A dump reads its chunks one after the other, each where the last one ended. `Dump.Dumps` lists how
it goes on and how it ends, and what every chunk keeps holds of the whole dump: the chunks together
are what one read of the range would deliver, without a gap and without a byte that comes twice,
and the ranges that were given up lie inside of them. A dump ends early only where the device
reports the end of its data, and it comes to an end unless it was interrupted more often than it
waits for.
-/

namespace StorageMedia

variable {σ : Type}

/-- Data that was read behind other data is delivered together with it. -/
theorem Delivers.append {byteAt : Nat → UInt8} {start : Nat} {lost more : ErrorRanges}
    {data rest : List UInt8} (one : Delivers byteAt start lost data) (separated : lost.IsSeparated)
    (other : Delivers byteAt (start + data.length) more rest) (separated' : more.IsSeparated) :
    Delivers byteAt start (lost.merge more) (data ++ rest) := by
  have covers (byte : Nat) : (lost.merge more).Covers byte ↔ lost.Covers byte ∨ more.Covers byte :=
    ErrorRanges.covers_merge separated separated'
  have index_lt {index : Nat} (covered : lost.Covers (start + index)) : index < data.length := by
    have bounds := one.covers covered
    omega
  have le_index {index : Nat} (covered : more.Covers (start + index)) : data.length ≤ index := by
    have bounds := other.covers covered
    omega
  have behind {index : Nat} (le : data.length ≤ index) :
      start + data.length + (index - data.length) = start + index := by omega
  refine ⟨?_, fun index bound covered => ?_, fun index bound uncovered => ?_⟩
  · rw [List.length_append]
    refine ErrorRanges.inside_of_covers (ErrorRanges.isSeparated_merge separated separated')
      fun byte covered => ?_
    rcases (covers byte).mp covered with before | later
    · have bounds := one.covers before
      omega
    · have bounds := other.covers later
      omega
  · rcases (covers _).mp covered with before | later
    · rw [List.getElem?_append_left (index_lt before)]
      exact one.zeroed index (index_lt before) before
    · have le := le_index later
      rw [List.length_append] at bound
      rw [List.getElem?_append_right le]
      exact other.zeroed _ (by omega) ((behind le).symm ▸ later)
  · rw [covers, not_or] at uncovered
    rcases Nat.lt_or_ge index data.length with front | le
    · rw [List.getElem?_append_left front]
      exact one.read index front uncovered.1
    · rw [List.length_append] at bound
      rw [List.getElem?_append_right le]
      have given := other.read (index - data.length) (by omega) ((behind le).symm ▸ uncovered.2)
      rwa [behind le] at given

/-- Nothing is lost of no data. -/
theorem Delivers.lost_eq_empty {byteAt : Nat → UInt8} {start : Nat} {lost : ErrorRanges}
    {data : List UInt8} (delivers : Delivers byteAt start lost data) (separated : lost.IsSeparated)
    (nothing : data.length = 0) : lost = .empty := by
  refine ErrorRanges.eq_of_covers separated ErrorRanges.isSeparated_empty fun byte => ?_
  constructor
  · intro covered
    have bounds := delivers.covers covered
    omega
  · intro covered
    exact absurd covered (ErrorRanges.not_covers_empty byte)

namespace CommandLine.Dump

variable [Device σ]

def readChunk (patience chunkSize : Nat) (dump : Dump σ) : BufferRead σ :=
  dump.handle.readBufferAt patience (.replicate (min dump.remaining chunkSize) 0) dump.offset

omit [Device σ] in
/-- The dump after a read that gave no chunk. -/
def touch (dump : Dump σ) (read : BufferRead σ) : Dump σ :=
  { dump with handle := read.outcome.state, events := dump.events ++ read.outcome.events }

omit [Device σ] in
/-- The dump after a read that gave a chunk, which is passed on. -/
def pass (dump : Dump σ) (read : BufferRead σ) (count : Nat) : Dump σ :=
  { dump.touch read with
    remaining := dump.remaining - count
    offset := dump.offset + count
    chunks := read.buffer.take count :: dump.chunks
    total := dump.total + count }

/-- How a dump goes on and ends. -/
inductive Dumps (patience chunkSize : Nat) : Dump σ → Dump σ → Result Unit → Prop
  | complete {dump : Dump σ} (done : dump.remaining = 0) : Dumps patience chunkSize dump dump (.ok ())
  /-- Nothing more was read. -/
  | drained {dump : Dump σ} (left : 0 < dump.remaining)
      (nothing : (dump.readChunk patience chunkSize).outcome.result = .ok 0) :
      Dumps patience chunkSize dump (dump.touch (dump.readChunk patience chunkSize)) (.ok ())
  | failed {dump : Dump σ} {cause : Error} (left : 0 < dump.remaining)
      (failed : (dump.readChunk patience chunkSize).outcome.result = .error cause) :
      Dumps patience chunkSize dump (dump.touch (dump.readChunk patience chunkSize)) (.error cause)
  | waiting {dump : Dump σ} (left : 0 < dump.remaining)
      (pending : (dump.readChunk patience chunkSize).outcome.result = .pending) :
      Dumps patience chunkSize dump (dump.touch (dump.readChunk patience chunkSize)) .pending
  | chunk {dump final : Dump σ} {count : Nat} {result : Result Unit} (left : 0 < dump.remaining)
      (given : (dump.readChunk patience chunkSize).outcome.result = .ok count)
      (positive : 0 < count)
      (rest : Dumps patience chunkSize (dump.pass (dump.readChunk patience chunkSize) count) final
        result) : Dumps patience chunkSize dump final result

/-- A dump that may read as many chunks as bytes are left comes to one of these ends. -/
theorem run_dumps (patience chunkSize : Nat) {chunks : Nat} {dump : Dump σ}
    (enough : dump.remaining ≤ chunks) :
    Dumps patience chunkSize dump (run patience chunkSize chunks dump).1
      (run patience chunkSize chunks dump).2 := by
  induction chunks generalizing dump with
  | zero => exact .complete (Nat.le_zero.mp enough)
  | succ chunks ih =>
    rw [run]
    split
    · next done => exact .complete done
    next some =>
    have left : 0 < dump.remaining := Nat.pos_of_ne_zero some
    dsimp only
    split
    · next nothing => exact .drained left nothing
    · next count positive given =>
      have shorter : (dump.pass (dump.readChunk patience chunkSize) count).remaining ≤ chunks := by
        have some : count ≠ 0 := positive
        simp only [pass]
        omega
      exact .chunk left given (Nat.pos_of_ne_zero positive) (ih shorter)
    · next failed => exact .failed left failed
    · next pending => exact .waiting left pending

omit [Device σ] in
@[simp] theorem toList_bytes (dump : Dump σ) :
    dump.bytes.toList = dump.chunks.reverse.flatMap Bytes.toList := by
  simp only [bytes, Bytes.toList, List.flatMap_assoc]
  rfl

omit [Device σ] in
theorem toList_bytes_pass (dump : Dump σ) (read : BufferRead σ) (count : Nat) :
    (dump.pass read count).bytes.toList = dump.bytes.toList ++ (read.buffer.take count).toList := by
  simp only [toList_bytes, pass, List.reverse_cons, List.flatMap_append, List.flatMap_singleton]

/-- What a dump has copied so far of a range of the media. -/
structure Copies (medium : Medium σ) (geometry : Geometry) (start length : Nat) (dump : Dump σ) :
    Prop where
  tracks : dump.handle.Tracks medium.toPositioned
  found : dump.handle.geometry.result = .ok geometry
  separated : dump.handle.errors.IsSeparated
  delivers : Delivers medium.byteAt start dump.handle.errors dump.bytes.toList
  /-- The next chunk goes on where the copy ends. -/
  offset : dump.offset = start + dump.bytes.toList.length
  remaining : dump.remaining + dump.bytes.toList.length = length
  total : dump.total = dump.bytes.toList.length
  inside : dump.bytes.toList.length ≤ geometry.mediaSize.toNat - start

namespace Copies

variable {medium : Medium σ} {geometry : Geometry} {start length patience chunkSize : Nat}
  {dump final : Dump σ}

theorem begins {handle : Handle σ} (tracks : handle.Tracks medium.toPositioned)
    (found : handle.geometry.result = .ok geometry) (none : handle.errors = {})
    (start length : Nat) :
    Copies medium geometry start length { handle, remaining := length, offset := start } where
  tracks := tracks
  found := found
  separated := none ▸ ErrorRanges.isSeparated_empty
  delivers := by
    rw [none]
    exact delivers_nil medium.byteAt start
  offset := rfl
  remaining := rfl
  total := rfl
  inside := Nat.zero_le _

private theorem readChunk_keeps (copies : dump.Copies medium geometry start length)
    (patience chunkSize : Nat) :
    let read := dump.readChunk patience chunkSize
    read.outcome.state.Tracks medium.toPositioned ∧
      read.outcome.state.geometry.result = .ok geometry ∧
      ((∀ count, read.outcome.result ≠ .ok count) →
        read.outcome.state.errors = dump.handle.errors) := by
  have found := Handle.found_moved copies.found dump.offset
  rcases Handle.readBufferAt_cases dump.handle dump.offset with ⟨cause, refused⟩ | moved
  · simp only [readChunk, refused, Outcome.refuse]
    exact ⟨copies.tracks, copies.found, fun _ => trivial⟩
  · simp only [readChunk, moved]
    refine ⟨(Handle.readBuffer_steps patience _ _).keep Handle.Step.tracks copies.tracks,
      Handle.geometry_after_readBuffer found patience _, fun failed => ?_⟩
    exact ReadCall.errors_of_failed (show ∀ count, (ReadCall.read patience
      ⟨{ dump.handle with cursor := dump.offset }, _⟩).outcome.result ≠ .ok count from failed)

private theorem readChunk_gives (copies : dump.Copies medium geometry start length) {count : Nat}
    (given : (dump.readChunk patience chunkSize).outcome.result = .ok count) :
    ∃ lost, lost.IsSeparated ∧
      ((dump.readChunk patience chunkSize).buffer.take count).toList.length = count ∧
      Delivers medium.byteAt dump.offset lost
        ((dump.readChunk patience chunkSize).buffer.take count).toList ∧
      (dump.readChunk patience chunkSize).outcome.state.errors = dump.handle.errors.merge lost ∧
      count ≤ min (geometry.mediaSize.toNat - dump.offset) (min dump.remaining chunkSize) ∧
      (count = min (geometry.mediaSize.toNat - dump.offset) (min dump.remaining chunkSize) ∨
        ∃ event ∈ (dump.readChunk patience chunkSize).outcome.events,
          event.reportsEnd = true) := by
  have found := Handle.found_moved copies.found dump.offset
  rcases Handle.readBufferAt_cases dump.handle dump.offset with ⟨cause, refused⟩ | moved
  · simp [readChunk, refused, Outcome.refuse] at given
  · simp only [readChunk, moved] at given ⊢
    obtain ⟨data, lost, separated, length, front, reads⟩ := Handle.readBuffer_delivers
      (show Handle.Tracks medium.toPositioned { dump.handle with cursor := dump.offset } from
        copies.tracks) given
    have short := Handle.readBuffer_short found given
    rw [Handle.clampedSize, Bytes.size_replicate] at short
    have taken := List.prefix_iff_eq_take.mp front
    rw [length, ← Bytes.toList_take] at taken
    rw [← taken]
    exact ⟨lost, separated, length, reads.delivers, reads.recorded, short⟩

/-- A dump that passes a chunk on has copied it too. -/
theorem pass (copies : dump.Copies medium geometry start length) {count : Nat}
    (given : (dump.readChunk patience chunkSize).outcome.result = .ok count) :
    (dump.pass (dump.readChunk patience chunkSize) count).Copies medium geometry start length := by
  obtain ⟨lost, separated, size, delivers, recorded, most, _⟩ := copies.readChunk_gives given
  obtain ⟨tracks, found, _⟩ := copies.readChunk_keeps patience chunkSize
  have all := toList_bytes_pass dump (dump.readChunk patience chunkSize) count
  have whole : (dump.pass (dump.readChunk patience chunkSize) count).bytes.toList.length =
      dump.bytes.toList.length + count := by
    rw [all, List.length_append, size]
  have offset := copies.offset
  have remaining := copies.remaining
  have total := copies.total
  have inside := copies.inside
  constructor
  case tracks => exact tracks
  case found => exact found
  case separated =>
    simp only [Dump.pass, touch, recorded]
    exact ErrorRanges.isSeparated_merge copies.separated separated
  case delivers =>
    rw [offset] at delivers
    rw [all]
    simp only [Dump.pass, touch, recorded]
    exact copies.delivers.append copies.separated delivers separated
  case inside =>
    rw [whole]
    omega
  all_goals
    rw [whole]
    simp only [Dump.pass, touch]
    omega

/-- A dump whose last read passes nothing on has copied as much as before. -/
theorem touch (copies : dump.Copies medium geometry start length)
    (nothing : ∀ count, (dump.readChunk patience chunkSize).outcome.result = .ok count →
      count = 0) :
    (dump.touch (dump.readChunk patience chunkSize)).Copies medium geometry start length := by
  obtain ⟨tracks, found, failed⟩ := copies.readChunk_keeps patience chunkSize
  have errors : (dump.readChunk patience chunkSize).outcome.state.errors = dump.handle.errors := by
    cases result : (dump.readChunk patience chunkSize).outcome.result with
    | error | pending => exact failed (by simp [result])
    | ok count =>
      obtain rfl := nothing count result
      obtain ⟨lost, separated, size, delivers, recorded, _⟩ := copies.readChunk_gives result
      rw [recorded, delivers.lost_eq_empty separated size, ErrorRanges.merge_empty]
  have handle : (dump.touch (dump.readChunk patience chunkSize)).handle.errors =
    dump.handle.errors := errors
  exact ⟨tracks, found, handle ▸ copies.separated, handle ▸ copies.delivers, copies.offset,
    copies.remaining, copies.total, copies.inside⟩

end Copies

/-- What a dump of `length` bytes from `start` on comes to, of media of some size. -/
structure CopiesRange (byteAt : Nat → UInt8) (mediaSize start length : Nat) (dump : Dump σ)
    (result : Result Unit) : Prop where
  /-- What was passed on are the bytes of the media, one for each offset from `start` on, but for
  zeros in the ranges that are recorded. These lie inside of what was passed on. -/
  delivers : Delivers byteAt start dump.handle.errors dump.bytes.toList
  inside : dump.bytes.toList.length ≤ min length (mediaSize - start)
  total : dump.total = dump.bytes.toList.length
  /-- A dump that succeeds is complete, or it found the end of the data. -/
  complete : result = .ok () → dump.bytes.toList.length = min length (mediaSize - start) ∨
    ∃ event ∈ dump.events, event.reportsEnd = true

namespace Dumps

variable {medium : Medium σ} {geometry : Geometry} {start length patience chunkSize : Nat}
  {dump final : Dump σ} {result : Result Unit}

/-- Whatever a dump comes to, it has copied what it passed on. -/
theorem copies (dumps : Dumps patience chunkSize dump final result)
    (copies : dump.Copies medium geometry start length) :
    final.Copies medium geometry start length := by
  induction dumps with
  | complete => exact copies
  | drained left nothing => exact copies.touch (by simp [nothing])
  | failed left failed => exact copies.touch (by simp [failed])
  | waiting left pending => exact copies.touch (by simp [pending])
  | chunk left given positive rest ih => exact ih (copies.pass given)

/-- A dump that succeeds has copied the whole range, as far as it lies on the media, or found the
end of the data. -/
theorem reads_all (dumps : Dumps patience chunkSize dump final result)
    (copies : dump.Copies medium geometry start length) (sized : 0 < chunkSize)
    (succeeded : result = .ok ()) :
    final.bytes.toList.length = min length (geometry.mediaSize.toNat - start) ∨
      ∃ event ∈ final.events, event.reportsEnd = true := by
  induction dumps with
  | complete done =>
    have remaining := copies.remaining
    have inside := copies.inside
    exact .inl (by omega)
  | @drained dump left nothing =>
    obtain ⟨_, _, _, _, _, _, short⟩ := copies.readChunk_gives nothing
    rcases short with none | ⟨event, member, ends⟩
    · have offset := copies.offset
      have remaining := copies.remaining
      have inside := copies.inside
      have same : (dump.touch (dump.readChunk patience chunkSize)).bytes = dump.bytes := rfl
      rw [same]
      exact .inl (by omega)
    · exact .inr ⟨event, List.mem_append_right _ member, ends⟩
  | failed => simp at succeeded
  | waiting => simp at succeeded
  | chunk left given positive rest ih => exact ih (copies.pass given) succeeded

/-- A dump that does not come to an end was interrupted more often than each read waits for. -/
theorem patience_lt (dumps : Dumps patience chunkSize dump final result)
    (pending : result = .pending) : patience < Event.interruptions final.events := by
  induction dumps with
  | waiting left waits =>
    have interrupted : patience <
        Event.interruptions (Dump.readChunk patience chunkSize _).outcome.events :=
      Handle.patience_lt_of_readBufferAt_pending waits
    simp only [Dump.touch, Event.interruptions_append]
    omega
  | chunk left given positive rest ih => exact ih pending
  | complete => simp at pending
  | drained => simp at pending
  | failed => simp at pending

end Dumps

variable {medium : Medium σ} {geometry : Geometry} {handle : Handle σ}
  {patience chunkSize start length : Nat}

/-- A dump of a range comes to one of its ends. -/
theorem ofRange_dumps (patience chunkSize : Nat) (handle : Handle σ) (start length : Nat) :
    Dumps patience chunkSize { handle, remaining := length, offset := start }
      (ofRange patience chunkSize handle start length).1
      (ofRange patience chunkSize handle start length).2 :=
  run_dumps patience chunkSize (Nat.le_refl length)

/-- A dump on media of a known size copies what it passes on. -/
theorem ofRange_copiesRange (tracks : handle.Tracks medium.toPositioned)
    (found : handle.geometry.result = .ok geometry) (none : handle.errors = {})
    (sized : 0 < chunkSize) (patience start length : Nat) :
    CopiesRange medium.byteAt geometry.mediaSize.toNat start length
      (ofRange patience chunkSize handle start length).1
      (ofRange patience chunkSize handle start length).2 := by
  have dumps := ofRange_dumps patience chunkSize handle start length
  have begins := Copies.begins tracks found none start length
  have copies := dumps.copies begins
  have remaining := copies.remaining
  have inside := copies.inside
  exact ⟨copies.delivers, by omega, copies.total, dumps.reads_all begins sized⟩

/-- Waiting for more interruptions does not change a dump that has come to an end. -/
theorem run_add {chunks : Nat} {dump : Dump σ}
    (ended : (run patience chunkSize chunks dump).2 ≠ .pending) (more : Nat) :
    run (patience + more) chunkSize chunks dump = run patience chunkSize chunks dump := by
  induction chunks generalizing dump with
  | zero => rfl
  | succ chunks ih =>
    rw [run] at ended
    rw [run, run]
    by_cases done : dump.remaining = 0
    · rw [if_pos done, if_pos done]
    rw [if_neg done] at ended
    rw [if_neg done, if_neg done]
    dsimp only at ended ⊢
    cases result : (dump.handle.readBufferAt patience (.replicate (min dump.remaining chunkSize) 0)
      dump.offset).outcome.result with
    | pending =>
      rw [result] at ended
      exact absurd rfl ended
    | error cause => rw [Handle.readBufferAt_add (by simp [result]), result]
    | ok count =>
      rw [Handle.readBufferAt_add (by simp [result])]
      rw [result] at ended ⊢
      cases count with
      | zero => rfl
      | succ count => exact ih ended

/-- A dump comes to an end when its device interrupts finitely many reads: however long it waits,
from some patience on it is the same dump, and that is not pending. -/
theorem ofRange_ends (bound : Nat) (handle : Handle σ) (start length : Nat)
    (few : ∀ patience, Event.interruptions
      (ofRange patience chunkSize handle start length).1.events ≤ bound) :
    (ofRange bound chunkSize handle start length).2 ≠ .pending ∧ ∀ patience, bound ≤ patience →
      ofRange patience chunkSize handle start length =
        ofRange bound chunkSize handle start length := by
  have ended : (ofRange bound chunkSize handle start length).2 ≠ .pending := fun pending => by
    have interrupted := (ofRange_dumps bound chunkSize handle start length).patience_lt pending
    have most := few bound
    omega
  refine ⟨ended, fun patience enough => ?_⟩
  obtain ⟨more, rfl⟩ := Nat.exists_eq_add_of_le enough
  exact run_add ended more

/-- Dumps of a range from a handle, however long they wait for interrupted reads. -/
structure Reliable (byteAt : Nat → UInt8) (mediaSize chunkSize : Nat) (handle : Handle σ)
    (start length : Nat) : Prop where
  copies : ∀ patience, CopiesRange byteAt mediaSize start length
    (ofRange patience chunkSize handle start length).1
    (ofRange patience chunkSize handle start length).2
  /-- Each chunk was read where the last one ended, until one gave nothing or failed. -/
  chunks : ∀ patience, Dumps patience chunkSize { handle, remaining := length, offset := start }
    (ofRange patience chunkSize handle start length).1
    (ofRange patience chunkSize handle start length).2
  /-- When finitely many reads are interrupted, the dump comes to an end. -/
  ends : ∀ bound, (∀ patience, Event.interruptions
      (ofRange patience chunkSize handle start length).1.events ≤ bound) →
    (ofRange bound chunkSize handle start length).2 ≠ .pending ∧ ∀ patience, bound ≤ patience →
      ofRange patience chunkSize handle start length = ofRange bound chunkSize handle start length

/-- A handle on media of a known size dumps reliably. -/
theorem reliable (tracks : handle.Tracks medium.toPositioned)
    (found : handle.geometry.result = .ok geometry) (none : handle.errors = {})
    (sized : 0 < chunkSize) (start length : Nat) :
    Reliable medium.byteAt geometry.mediaSize.toNat chunkSize handle start length where
  copies patience := ofRange_copiesRange tracks found none sized patience start length
  chunks patience := ofRange_dumps patience chunkSize handle start length
  ends bound few := ofRange_ends bound handle start length few

end CommandLine.Dump

end StorageMedia
