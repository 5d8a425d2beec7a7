import StorageMedia.Proofs.ErrorRanges.Canonical
import StorageMedia.Proofs.Handle.Accounting
import StorageMedia.Proofs.Handle.Requests
import StorageMedia.Proofs.Transfer.Damaged

/-! # Splitting a read

A tolerant read of a damaged medium may be split at multiples of the granularity: read after read
gives the data, the offset and the recorded ranges that one read of all bytes gives. Blocks are
aligned to the media, so that a split at their bounds tears none of them, and ranges that touch at a
split are joined in the record.
-/

namespace StorageMedia

def Bytes.totalSize : List Bytes → Nat
  | [] => 0
  | bytes :: rest => bytes.size + totalSize rest

/-- Each of several requests, one behind the other, starts at a multiple of the granularity. -/
def Options.StartAtBlocks (options : Options) : Nat → List Bytes → Prop
  | _, [] => True
  | start, bytes :: rest =>
    options.errorGranularity ∣ start ∧ options.StartAtBlocks (start + bytes.size) rest

variable {σ : Type} [Device σ] {medium : DamagedMedium σ} {geometry : Geometry} {patience : Nat}

namespace Handle

variable {handle middle after : Handle σ} {size : Nat} {data : List UInt8}

/-- Read into a buffer and take from it what was read. -/
def readData (patience : Nat) (handle : Handle σ) (bytes : Bytes) :
    Outcome σ (Handle σ) (List UInt8) :=
  let read := handle.readBuffer patience bytes
  read.outcome.map fun count => read.buffer.toList.take count

/-- Read into one buffer after the other and put together what was read, unless a read fails. -/
def readEach (patience : Nat) : Handle σ → List Bytes → Outcome σ (Handle σ) (List UInt8)
  | handle, [] => .answer [] handle
  | handle, bytes :: rest =>
    (handle.readData patience bytes).andThen fun data handle =>
      (handle.readEach patience rest).map (data ++ ·)

/-- A handle that reads around the damage of a medium, whose geometry can be found. -/
structure Surveys (medium : DamagedMedium σ) (geometry : Geometry) (handle : Handle σ) : Prop where
  tracks : handle.Tracks medium.toPositioned
  found : handle.geometry.result = .ok geometry
  tolerant : handle.options.tolerateErrors = true
  running : handle.aborted = false
  separated : handle.errors.IsSeparated

/-- Reads of so many bytes in all gave data and left a handle behind what they read. -/
structure ReadsAround (medium : DamagedMedium σ) (geometry : Geometry) (handle : Handle σ)
    (size : Nat) (data : List UInt8) (after : Handle σ) : Prop where
  surveys : after.Surveys medium geometry
  options : after.options = handle.options
  reads : medium.Reads handle.options geometry.mediaSize.toNat handle.cursor size after.cursor
  data : data = medium.image handle.options handle.cursor after.cursor
  errors : ∀ byte, after.errors.Covers byte ↔
    handle.errors.Covers byte ∨ medium.Loses handle.options handle.cursor after.cursor byte

/-- A read of a damaged medium succeeds and gets around the damage. -/
theorem Surveys.readBuffer (surveys : handle.Surveys medium geometry) (patience : Nat)
    (bytes : Bytes) :
    ∃ count, (handle.readBuffer patience bytes).outcome.result = .ok count ∧
      (handle.readBuffer patience bytes).outcome.state.cursor = handle.cursor + count ∧
      handle.ReadsAround medium geometry bytes.size
        ((handle.readBuffer patience bytes).buffer.toList.take count)
        (handle.readBuffer patience bytes).outcome.state := by
  have steps := readBuffer_steps patience handle bytes
  have tracks := steps.keep Step.tracks surveys.tracks
  have found := geometry_after_readBuffer surveys.found patience bytes
  obtain ⟨session, opened, measured, reads⟩ :=
    readBuffer_readsMeasured surveys.found patience bytes
  generalize handle.readBuffer patience bytes = read at *
  have running : (handle.resume session.geometry).aborted = false :=
    (aborted_resume ((surveys.tracks session opened).geometry_calm medium.calm) handle).trans
      surveys.running
  cases reads with
  | outside none =>
    rw [clampedSize] at none
    have stops : medium.Reads handle.options geometry.mediaSize.toNat handle.cursor bytes.size
        handle.cursor := by
      rw [DamagedMedium.Reads, none]
      exact (DamagedMedium.Passes.begins (Nat.le_refl _)).stops (.inl rfl)
    have data : [] = medium.image handle.options handle.cursor handle.cursor := by
      simp [DamagedMedium.image]
    exact ⟨0, rfl, rfl, ⟨tracks, found, surveys.tolerant, running, surveys.separated⟩,
      rfl, stops, data, fun byte => (or_iff_left DamagedMedium.not_loses_empty).symm⟩
  | @transferred size transfer clamped positive runs =>
    obtain ⟨taken, _, _⟩ := clamped_bounds clamped positive
    obtain ⟨final, same, ended, stops⟩ :=
      Transfer.read_surveys (surveys.tracks session opened).geometry surveys.tolerant patience
        handle.cursor (bytes.take size) (clamped_fits clamped positive)
    rw [running, same] at runs
    subst runs
    rw [taken, ← clamped] at stops
    have separated := ErrorRanges.isSeparated_merge surveys.separated ended.faithful.separated
    have filled : final.buffer.done ≤ final.buffer.bytes.toList.length := by
      rw [Buffer.length_bytes]
      omega
    have data : (final.buffer.bytes ++ bytes.drop size).toList.take final.buffer.done =
        medium.image handle.options handle.cursor (handle.cursor + final.buffer.done) := by
      rw [Bytes.toList_append, List.take_append_of_le_length filled, ended.take_done]
    have covers (byte : Nat) : (handle.errors.merge final.skipped).Covers byte ↔
        handle.errors.Covers byte ∨ medium.Loses handle.options handle.cursor
          (handle.cursor + final.buffer.done) byte := by
      rw [← ended.lost byte]
      exact ErrorRanges.covers_merge surveys.separated ended.faithful.separated
    exact ⟨final.buffer.done, rfl, rfl,
      ⟨tracks, found, surveys.tolerant, ended.running, separated⟩, rfl, stops, data, covers⟩

theorem Surveys.readData (surveys : handle.Surveys medium geometry) (patience : Nat)
    (bytes : Bytes) :
    ∃ data, (handle.readData patience bytes).result = .ok data ∧
      handle.ReadsAround medium geometry bytes.size data
        (handle.readData patience bytes).state := by
  obtain ⟨count, succeeded, _, around⟩ := surveys.readBuffer patience bytes
  refine ⟨_, ?_, around⟩
  simp only [Handle.readData, Outcome.map, succeeded, Result.map]

namespace ReadsAround

variable {more : Nat} {rest : List UInt8}

/-- Reads that go on at a multiple of the granularity read as one read of all bytes does. -/
theorem append (one : handle.ReadsAround medium geometry size data middle)
    (positive : 0 < handle.options.errorGranularity)
    (aligned : handle.options.errorGranularity ∣ handle.cursor + size)
    (other : middle.ReadsAround medium geometry more rest after) :
    handle.ReadsAround medium geometry (size + more) (data ++ rest) after := by
  obtain ⟨surveys, options, reads, data, errors⟩ := other
  rw [one.options] at options reads data errors
  have loses := one.reads.loses_append positive aligned reads
  refine ⟨surveys, options, one.reads.append positive aligned reads, ?_, fun byte => ?_⟩
  · rw [one.data, data]
    exact DamagedMedium.image_append one.reads.first reads.first loses
  · rw [errors byte, one.errors byte, loses byte, or_assoc]

/-- Reads of as many bytes from the same handle agree. -/
theorem unique (one : handle.ReadsAround medium geometry size data middle)
    (other : handle.ReadsAround medium geometry size rest after) :
    rest = data ∧ after.cursor = middle.cursor ∧ after.errors = middle.errors := by
  have same : middle.cursor = after.cursor := one.reads.unique other.reads
  refine ⟨?_, same.symm, ?_⟩
  · rw [other.data, one.data, same]
  · refine ErrorRanges.eq_of_covers other.surveys.separated one.surveys.separated fun byte => ?_
    rw [other.errors byte, one.errors byte, same]

/-- Reads that each start at a multiple of the granularity go on as one read does. -/
theorem readEach {pieces : List Bytes} (positive : 0 < handle.options.errorGranularity)
    (patience : Nat) (one : handle.ReadsAround medium geometry size data middle)
    (aligned : handle.options.StartAtBlocks (handle.cursor + size) pieces) :
    ∃ more, (middle.readEach patience pieces).result = .ok more ∧
      handle.ReadsAround medium geometry (size + Bytes.totalSize pieces) (data ++ more)
        (middle.readEach patience pieces).state := by
  induction pieces generalizing size data middle with
  | nil =>
    refine ⟨[], rfl, ?_⟩
    rw [List.append_nil]
    exact one
  | cons bytes pieces ih =>
    obtain ⟨begins, aligned⟩ := aligned
    obtain ⟨next, read, around⟩ := one.surveys.readData patience bytes
    rw [Nat.add_assoc] at aligned
    obtain ⟨more, others, whole⟩ := ih (one.append positive begins around) aligned
    rw [Handle.readEach, Outcome.andThen_of_ok read]
    refine ⟨next ++ more, ?_, ?_⟩
    · simp [Outcome.map, others, Result.map]
    · rw [Nat.add_assoc, List.append_assoc] at whole
      exact whole

end ReadsAround

private theorem readData_of_unfound {session : Session σ} {cause : Error}
    (opened : handle.session = some session) (failed : session.geometry.result = .error cause)
    (patience : Nat) (bytes : Bytes) :
    (handle.readData patience bytes).result = .error cause ∧
      (handle.readData patience bytes).state.cursor = handle.cursor ∧
      (handle.readData patience bytes).state.errors = handle.errors := by
  have reads := readBuffer_readsTo patience handle bytes
  simp only [Handle.readData]
  generalize handle.readBuffer patience bytes = read at reads ⊢
  cases reads with
  | closed closed => simp [opened] at closed
  | unmeasured other again =>
    obtain rfl := Option.some.inj (opened.symm.trans other)
    obtain rfl : cause = _ := by simpa [failed] using again
    exact ⟨rfl, rfl, rfl⟩
  | outside other found | transferred other found =>
    obtain rfl := Option.some.inj (opened.symm.trans other)
    simp [failed] at found

/-- In every state of a session that tolerates errors with a granularity, on a device with damage
that stays, reads into one buffer after the other, each but the first of which starts at a multiple
of the granularity, give together what one read into a buffer as large as all of them gives: the
same data or the same failure, the same offset and the same recorded ranges. If the geometry of the
media is found they do not fail, and what they give is what the damage leaves of the media. -/
theorem split_read_agrees {host : Host σ} {device : σ} (medium : DamagedMedium σ)
    (obeys : medium.Obeys device) (within : Operation.InSession host patience device handle)
    (tolerant : handle.options.tolerateErrors = true)
    (positive : 0 < handle.options.errorGranularity) (running : handle.aborted = false)
    {whole first : Bytes} {rest : List Bytes}
    (sizes : whole.size = first.size + Bytes.totalSize rest)
    (aligned : handle.options.StartAtBlocks (handle.cursor + first.size) rest) :
    let one := handle.readData patience whole
    let split := handle.readEach patience (first :: rest)
    split.result = one.result ∧ split.state.cursor = one.state.cursor ∧
      split.state.errors = one.state.errors ∧
      ∀ geometry, handle.geometry.result = .ok geometry → ∃ data, one.result = .ok data ∧
        handle.ReadsAround medium geometry whole.size data one.state := by
  intro one split
  obtain ⟨session, opened⟩ := Option.isSome_iff_exists.mp within.isOpen
  cases measured : session.geometry.result with
  | pending => exact absurd measured (Session.geometry_ne_pending session)
  | error cause =>
    obtain ⟨failed, cursor, errors⟩ := readData_of_unfound opened measured patience whole
    obtain ⟨begins, cursor', errors'⟩ := readData_of_unfound opened measured patience first
    have ended : split.result = .error cause ∧
        split.state = (handle.readData patience first).state := by
      simp only [split, Handle.readEach, Outcome.andThen, begins, and_self]
    refine ⟨ended.1.trans failed.symm, ?_, ?_, fun geometry found => ?_⟩
    · rw [ended.2, cursor']
      exact cursor.symm
    · rw [ended.2, errors']
      exact errors.symm
    · simp [result_geometry opened, measured] at found
  | ok geometry =>
    have found := (result_geometry opened).trans measured
    have surveys : handle.Surveys medium geometry :=
      ⟨within.tracks obeys, found, tolerant, running, within.recorded.separated⟩
    obtain ⟨data, read, around⟩ := surveys.readData patience whole
    obtain ⟨front, begins, starts⟩ := surveys.readData patience first
    obtain ⟨more, others, together⟩ := starts.readEach positive patience aligned
    rw [← sizes] at together
    obtain ⟨same, cursor, errors⟩ := around.unique together
    have ended : split.result = .ok (front ++ more) ∧
        split.state = ((handle.readData patience first).state.readEach patience rest).state := by
      simp only [split, Handle.readEach, Outcome.andThen_of_ok begins]
      simp [Outcome.map, others, Result.map]
    refine ⟨?_, ?_, ?_, fun other again => ?_⟩
    · rw [ended.1, same]
      exact read.symm
    · rw [ended.2]
      exact cursor
    · rw [ended.2]
      exact errors
    · obtain rfl : geometry = other := by simpa [found] using again
      exact ⟨data, read, around⟩

/-- A handle in the middle of the first block of a scratched device. -/
def scratchedHandle : Handle ScriptedDevice :=
  (Operation.apply Host.empty 0 (Operation.tolerantHandle.startSession "drive" .scratched)
    (.seek 1 .start)).outcome.state

theorem inSession_scratchedHandle :
    Operation.InSession Host.empty 0 .scratched scratchedHandle :=
  .step _ (.opened (.fresh _) rfl (by decide)) (by rintro ⟨⟩) rfl

/-- A read of a scratched device from the middle of a block may be split in three. The two blocks
that are lost touch where it is split, and are recorded as one range. -/
theorem scratched_split_agrees :
    let one := scratchedHandle.readData 0 (.replicate 11 0x77)
    let split := scratchedHandle.readEach 0
      [.replicate 3 0x77, .replicate 2 0x77, .replicate 6 0x77]
    one.result = .ok [1, 0, 0, 0, 0, 6, 7, 8, 9, 10, 11] ∧
      one.state.errors = ⟨[⟨2, 4⟩]⟩ ∧
      split.result = one.result ∧ split.state.cursor = one.state.cursor ∧
      split.state.errors = one.state.errors := by
  have agrees := split_read_agrees
    (ScriptedDevice.damagedMedium .scratched ScriptedDevice.hasDamage_scratched)
    ScriptedDevice.isMoved_scratched inSession_scratchedHandle rfl (by decide) rfl
    (show (Bytes.replicate 11 0x77).size = _ from rfl)
    (show scratchedHandle.options.StartAtBlocks (scratchedHandle.cursor +
      (Bytes.replicate 3 0x77).size) [.replicate 2 0x77, .replicate 6 0x77] from
        ⟨by decide, by decide, trivial⟩)
  exact ⟨by decide, by decide, agrees.1, agrees.2.1, agrees.2.2.1⟩

end Handle

end StorageMedia
