import StorageMedia.CommandLine.Run
import StorageMedia.Proofs.Checked.Device
import StorageMedia.Proofs.Checked.Handle
import StorageMedia.Proofs.Handle.Endings

/-! # Runs on a machine

Every operation of a handle and every dump is run on a machine here, where each of its computations
may fault. None does: the checked runs give what the runs of the handle give, for every device and
all arguments that fit into their types. The one exception is told by the responses themselves,
where the number of sectors is asked for of a media whose sectors have no size.
-/

namespace StorageMedia

variable {σ : Type}

/-- The response is that a number was divided by zero. -/
def Response.DividesByZero (response : Response σ) : Prop :=
  response.outcome.result = .ok (.sectorCount (.error .divisionByZero))

namespace Operation

/-- The arguments of the operation fit into the numbers of a machine. The granularity of errors is the
only one that is computed with before it is checked; the others may be anything. -/
def IsSized : Operation σ → Prop
  | setOptions chosen => chosen.errorGranularity ≤ maxOffset
  | _ => True

variable [Device σ]

/-- Perform an operation. What is not listed here computes nothing. -/
def applyChecked (host : Host σ) (patience : Nat) (handle : Handle σ) :
    Operation σ → Checked (Response σ)
  | numberOfSectors =>
    match handle.geometry.result with
    | .ok found => do
      let sectors ← found.numberOfSectorsChecked
      return .of handle.geometry fun _ => .sectorCount (.ok sectors)
    | _ => .ok (apply host patience handle numberOfSectors)
  | seek distance origin => do return .of (← handle.seekChecked distance origin) .nat
  | seekByCode distance code => do return .of (← handle.seekByCodeChecked distance code) .nat
  | read size => do return .of (← handle.readChecked patience size) .bytes
  | readDefault => do
    return .of (← handle.readChecked patience handle.options.defaultReadSize) .bytes
  | readAt size target => do return .of (← handle.readAtChecked patience size target) .bytes
  | readBuffer bytes => do return .ofRead (← handle.readBufferChecked patience bytes)
  | readBufferAt bytes target => do
    return .ofRead (← handle.readBufferAtChecked patience bytes target)
  | streamRead bytes => do return .ofRead (← handle.readBufferChecked patience bytes)
  | streamReadExact bytes => do
    let (buffer, outcome) ← handle.readExactChecked patience bytes
    return { outcome := outcome.map fun _ => .unit, buffer := some buffer }
  | streamSeek position => do return .of (← handle.streamSeekChecked position) .nat
  | streamRewind => do
    let moved ← handle.streamSeekChecked (.start 0)
    return .of (moved.map fun _ => ()) fun _ => .unit
  | streamPosition => do return .of (← handle.streamSeekChecked (.current 0)) .nat
  | operation => .ok (operation.apply host patience handle)

def runChecked (host : Host σ) (patience : Nat) :
    Handle σ → List (Operation σ) → Checked (List (Response σ))
  | _, [] => .ok []
  | handle, operation :: rest => do
    let response ← operation.applyChecked host patience handle
    match response.outcome.result with
    | .pending => return [response]
    | _ => return response :: (← runChecked host patience response.outcome.state rest)

variable {host : Host σ} {patience : Nat} {handle : Handle σ} {operation : Operation σ}

/-- An operation on a sound handle faults only where its response tells it. -/
theorem applyChecked_eq (sound : handle.Sound)
    (whole : ¬ (operation.apply host patience handle).DividesByZero) :
    operation.applyChecked host patience handle = .ok (operation.apply host patience handle) := by
  cases operation with
  | numberOfSectors =>
    simp only [Response.DividesByZero, applyChecked, apply, Response.of, Outcome.map] at whole ⊢
    cases result : handle.geometry.result with
    | error | pending => simp only
    | ok found =>
      simp only [result, Result.map] at whole ⊢
      cases sectors : found.numberOfSectors with
      | error fault =>
        cases fault
        exact absurd (by rw [sectors]) whole
      | ok count =>
        rw [Geometry.numberOfSectorsChecked_eq_ok_iff.mpr sectors, Checked.ok_bind]
        rfl
  | seek | seekByCode | streamSeek | streamRewind | streamPosition =>
    simp only [applyChecked, Handle.seekChecked_eq, Handle.seekByCodeChecked_eq,
      Handle.streamSeekChecked_eq, Checked.ok_bind]
    rfl
  | read | readDefault | readAt | readBuffer | readBufferAt | streamRead | streamReadExact =>
    simp only [applyChecked, Handle.readChecked_eq sound, Handle.readAtChecked_eq sound,
      Handle.readBufferChecked_eq sound, Handle.readBufferAtChecked_eq sound,
      Handle.readExactChecked_eq sound, Checked.ok_bind]
    rfl
  | _ => rfl

omit [Device σ] in
private theorem not_dividesByZero_map {α : Type} {outcome : Outcome σ (Handle σ) α}
    {value : α → Value} {buffer : Option Bytes}
    (other : ∀ result, value result ≠ .sectorCount (.error .divisionByZero)) :
    ¬ Response.DividesByZero { outcome := outcome.map value, buffer } := by
  simp only [Response.DividesByZero, Outcome.map]
  cases outcome.result with
  | ok result => exact fun same => other result (Result.ok.inj same)
  | error | pending => rintro ⟨⟩

/-- The exception is the division of a media into sectors that have no size. -/
theorem dividesByZero_iff :
    (operation.apply host patience handle).DividesByZero ↔ operation = numberOfSectors ∧
      ∃ geometry, handle.geometry.result = .ok geometry ∧ geometry.bytesPerSector = some 0 := by
  cases operation with
  | numberOfSectors =>
    simp only [Response.DividesByZero, apply, Response.of, Outcome.map]
    cases result : handle.geometry.result with
    | error | pending => simp [Result.map]
    | ok found =>
      simp only [Result.map, Result.ok.injEq, Value.sectorCount.injEq, true_and,
        exists_eq_left', Geometry.numberOfSectors]
      cases found.bytesPerSector with
      | none => simp
      | some size => by_cases zero : size = 0 <;> simp [zero]
  | isOpen | filename | options | setOptions | numberOfErrors | errorAt | signalAbort | describe =>
    exact iff_of_false (by simp [Response.DividesByZero, apply, Response.look, Outcome.answer])
      (by simp)
  | _ => exact iff_of_false (not_dividesByZero_map fun _ => by simp) (by simp)

/-- The granularity of a handle is the one it had, unless other options were chosen. -/
theorem granularity_apply (host : Host σ) (patience : Nat) (sized : operation.IsSized)
    (before : handle.options.errorGranularity ≤ maxOffset) :
    (operation.apply host patience handle).outcome.state.options.errorGranularity ≤ maxOffset := by
  by_cases works : operation.worksInSession = true
  · have kept : (operation.apply host patience handle).outcome.state.options = handle.options :=
      (apply_steps works).options
    exact kept ▸ before
  · cases operation with
    | setOptions => exact sized
    | openPath path mode =>
      simp only [apply, Response.of, Outcome.map_state, Handle.openPath]
      repeat' split
      all_goals exact before
    | openDevice path device =>
      simp only [apply, Response.of, Outcome.map_state, Handle.openDevice]
      repeat' split
      all_goals exact before
    | close =>
      simp only [apply, Response.of, Outcome.map_state, Handle.close]
      split <;> exact before
    | signalAbort => exact before
    | _ => exact absurd rfl works

/-- Operations on a reachable handle fault only where a response tells it. -/
theorem runChecked_eq {operations : List (Operation σ)} (reached : Reachable host patience handle)
    (before : handle.options.errorGranularity ≤ maxOffset)
    (sized : ∀ operation ∈ operations, operation.IsSized)
    (whole : ∀ response ∈ run host patience handle operations, ¬ response.DividesByZero) :
    runChecked host patience handle operations = .ok (run host patience handle operations) := by
  induction operations generalizing handle with
  | nil => rfl
  | cons operation rest ih =>
    have after := granularity_apply host patience (sized operation List.mem_cons_self) before
    have others (operation : Operation σ) (member : operation ∈ rest) : operation.IsSized :=
      sized operation (List.mem_cons_of_mem _ member)
    rw [run] at whole
    rw [runChecked, run]
    cases result : (operation.apply host patience handle).outcome.result with
    | pending =>
      simp only [result] at whole
      rw [applyChecked_eq ⟨reached.recorded, before⟩ (whole _ List.mem_cons_self), Checked.ok_bind]
      simp only [result]
      rfl
    | ok | error =>
      simp only [result] at whole
      have next := reached.step operation (by simp [result])
      rw [applyChecked_eq ⟨reached.recorded, before⟩ (whole _ List.mem_cons_self), Checked.ok_bind]
      simp only [result, ih next after others fun response member =>
        whole response (List.mem_cons_of_mem _ member), Checked.ok_bind]
      rfl

end Operation

namespace CommandLine.Dump

variable [Device σ]

/-- Read chunks into a buffer of `chunkSize` bytes, at most `chunks` of them. -/
def runChecked (patience chunkSize : Nat) : Nat → Dump σ → Checked (Dump σ × Result Unit)
  | 0, dump => .ok (dump, .ok ())
  | chunks + 1, dump =>
    if dump.remaining = 0 then .ok (dump, .ok ())
    else do
      let chunk ← Checked.convert maxOffset (min dump.remaining chunkSize : Nat)
      let room ← Checked.range chunkSize 0 chunk
      let read ← dump.handle.readBufferAtChecked patience (.replicate room 0) dump.offset
      let dump :=
        { dump with
          handle := read.outcome.state
          events := dump.events ++ read.outcome.events }
      match read.outcome.result with
      | .ok 0 => return (dump, .ok ())
      | .ok count =>
        let passed ← Checked.range chunkSize 0 count
        let offset ← Checked.ahead dump.offset count
        let total ← Checked.ahead dump.total count
        let remaining ← Checked.sub dump.remaining (← Checked.convert maxOffset count)
        runChecked patience chunkSize chunks
          { dump with remaining, offset, chunks := read.buffer.take passed :: dump.chunks, total }
      | .error cause => return (dump, .error cause)
      | .pending => return (dump, .pending)

def ofRangeChecked (patience chunkSize : Nat) (handle : Handle σ) (offset length : Nat) :
    Checked (Dump σ × Result Unit) :=
  runChecked patience chunkSize length { handle, remaining := length, offset }

variable {patience chunkSize : Nat} {handle : Handle σ}

private theorem chunk_fits {bytes : Bytes} {offset count : Nat}
    (given : (handle.readBufferAt patience bytes offset).outcome.result = .ok count)
    (positive : 0 < count) : count ≤ bytes.size ∧ offset + count ≤ maxOffset := by
  rcases Handle.readBufferAt_cases handle offset with ⟨cause, refused⟩ | moved
  · simp [refused, Outcome.refuse] at given
  · rw [moved] at given
    have most := (Handle.readBuffer_staysWithin patience _ bytes).given count given
    have size := Handle.knownSize_le_maxOffset
      (({ handle with cursor := offset } : Handle σ).readBuffer patience bytes).outcome.state
    dsimp only at most
    omega

/-- Chunks that were passed on end where the next one starts, and that is on the media. -/
theorem runChecked_eq (sized : chunkSize ≤ maxOffset) (chunks : Nat) {dump : Dump σ}
    (sound : dump.handle.Sound) (behind : dump.total ≤ dump.offset) :
    runChecked patience chunkSize chunks dump = .ok (run patience chunkSize chunks dump) := by
  induction chunks generalizing dump with
  | zero => rfl
  | succ chunks ih =>
    rw [runChecked, run]
    split
    · rfl
    have next := sound.steps (Handle.readBufferAt_steps patience dump.handle
      (.replicate (min dump.remaining chunkSize) 0) dump.offset)
    have room : min dump.remaining chunkSize ≤ chunkSize := Nat.min_le_right ..
    have needed : min dump.remaining chunkSize ≤ dump.remaining := Nat.min_le_left ..
    generalize min dump.remaining chunkSize = chunk at next room needed
    rw [Checked.convert_eq (Nat.le_trans room sized), Checked.ok_bind,
      Checked.range_eq (Nat.zero_le _) room, Checked.ok_bind, Nat.sub_zero,
      Handle.readBufferAtChecked_eq sound, Checked.ok_bind]
    cases result : (dump.handle.readBufferAt patience (.replicate chunk 0) dump.offset).outcome.result
      with
    | error | pending =>
      simp only [result]
      rfl
    | ok count =>
      cases count with
      | zero =>
        simp only [result]
        rfl
      | succ count =>
        obtain ⟨most, fits⟩ := chunk_fits result (Nat.succ_pos count)
        rw [Bytes.size_replicate] at most
        have counted : dump.total + (count + 1) ≤ dump.offset + (count + 1) := by omega
        simp only [result, Checked.range_eq (Nat.zero_le _) (Nat.le_trans most room),
          Checked.ahead_eq fits, Checked.ahead_eq (Nat.le_trans counted fits),
          Checked.convert_eq (Nat.le_trans (Nat.le_add_left ..) fits),
          Checked.sub_eq (Nat.le_trans most needed), Checked.ok_bind, Nat.sub_zero]
        exact ih next counted

theorem ofRangeChecked_eq (sized : chunkSize ≤ maxOffset) (sound : handle.Sound)
    (offset length : Nat) :
    ofRangeChecked patience chunkSize handle offset length =
      .ok (ofRange patience chunkSize handle offset length) :=
  runChecked_eq sized length sound (Nat.zero_le _)

end CommandLine.Dump

/-! ## Runs without faults -/

namespace ScriptedDevice

/-- The largest media, with bytes that are never read from the largest offset of a seek on. -/
def vast : ScriptedDevice where
  content := .pattern maxOffset
  surface := [{ start := maxSeekOffset, stop := maxOffset, code := 5 }]
  mediaSize := .ok (some 0xffff_ffff_ffff_ffff)
  seekEnd := .ok 0xffff_ffff_ffff_ffff
  bytesPerSector := .ok (some 512)

end ScriptedDevice

namespace Operation

variable [Device σ] {host : Host σ} {patience : Nat} {handle : Handle σ}

/-- Nothing that is worked out for a handle, on whatever device, meets a fault on the machine. -/
structure ComputesWithoutFault (host : Host σ) (patience : Nat) (handle : Handle σ) : Prop where
  /-- Operations give what they give without a machine, for all arguments that fit. -/
  runs (operations : List (Operation σ)) (sized : ∀ operation ∈ operations, operation.IsSized)
    (whole : ∀ response ∈ run host patience handle operations, ¬ response.DividesByZero) :
    runChecked host patience handle operations = .ok (run host patience handle operations)
  /-- The exception is the number of sectors of a media whose sectors have no size. -/
  exception (operation : Operation σ) :
    (operation.apply host patience handle).DividesByZero ↔ operation = numberOfSectors ∧
      ∃ geometry, handle.geometry.result = .ok geometry ∧ geometry.bytesPerSector = some 0
  /-- Every dump of the program runs to the end that it has without a machine. -/
  dumps (offset length : Nat) :
    CommandLine.Dump.ofRangeChecked patience CommandLine.chunkSize handle offset length =
      .ok (CommandLine.Dump.ofRange patience CommandLine.chunkSize handle offset length)
  /-- The contents of a disc are found from any entries that fit into a list. -/
  contents (entries : List TocEntry) (few : entries.length ≤ maxOffset) (leadOut : Nat)
    (lastSession : Option Nat) :
    TableOfContents.ofEntriesChecked entries leadOut lastSession =
      .ok (TableOfContents.ofEntries entries leadOut lastSession)
  /-- The contents of a disc and the size of a transfer are found from any answers of a drive. -/
  drives (drive : Drive) : drive.tableOfContentsChecked = .ok drive.tableOfContents ∧
    drive.maxTransferSizeChecked = .ok drive.maxTransferSize
  /-- A serial number is found in any page. -/
  pages (page : List UInt8) :
    Sysfs.unitSerialNumberChecked page = .ok (Sysfs.unitSerialNumber? page)
  /-- Sectors are counted on every media, unless they have no size. -/
  sectors (geometry : Geometry) (sized : geometry.bytesPerSector ≠ some 0) :
    ∃ sectors, geometry.numberOfSectorsChecked = .ok sectors ∧
      geometry.numberOfSectors = .ok sectors

/-- Whatever device a handle reads from, whatever it was asked to do before and is asked to do now,
no number overflows or underflows, no index or range leaves its list and no conversion loses a value
on the way; the responses, dumps and contents of discs are those that numbers without a width give.
Dividing a media into sectors that have no size is the one exception. -/
theorem reachable_computesWithoutFault (reached : Reachable host patience handle)
    (granular : handle.options.errorGranularity ≤ maxOffset) :
    ComputesWithoutFault host patience handle where
  runs _ sized whole := runChecked_eq reached granular sized whole
  exception _ := dividesByZero_iff
  dumps := CommandLine.Dump.ofRangeChecked_eq (by decide) ⟨reached.recorded, granular⟩
  contents _ few leadOut lastSession := TableOfContents.ofEntriesChecked_eq few leadOut lastSession
  drives drive := ⟨drive.tableOfContentsChecked_eq, drive.maxTransferSizeChecked_eq⟩
  pages := Sysfs.unitSerialNumberChecked_eq
  sectors geometry sized := by
    have counted : ∃ sectors, geometry.numberOfSectors = .ok sectors := by
      simp only [Geometry.numberOfSectors]
      cases reported : geometry.bytesPerSector with
      | none => exact ⟨none, rfl⟩
      | some size =>
        have positive : size ≠ 0 := by
          rintro rfl
          exact sized reported
        exact ⟨_, if_neg positive⟩
    obtain ⟨sectors, counted⟩ := counted
    exact ⟨sectors, Geometry.numberOfSectorsChecked_eq_ok_iff.mpr counted, counted⟩

/-- A handle that gives up the largest of blocks. -/
def coarseHandle : Handle ScriptedDevice :=
  .withOptions { tolerateErrors := true, errorGranularity := maxOffset, zeroOnError := true }

/-- A read across the largest offset of a seek, which no seek can answer with any more. -/
def farOperations : List (Operation ScriptedDevice) :=
  [.openDevice "drive" .vast, .readBufferAt (.replicate 8 7) (maxSeekOffset - 3), .streamPosition,
    .numberOfSectors]

/-- Numbers as large as they get are read, given up and counted without a fault. -/
theorem vast_computesWithoutFault :
    (Reachable Host.empty 0 coarseHandle ∧ coarseHandle.options.errorGranularity ≤ maxOffset) ∧
      (run Host.empty 0 coarseHandle farOperations).map (·.outcome.result) =
        [.ok .unit, .ok (.count 8), .error (.outOfBounds 0 .current),
          .ok (.sectorCount (.ok (some 0x7f_ffff_ffff_ffff)))] ∧
      runChecked Host.empty 0 coarseHandle farOperations =
        .ok (run Host.empty 0 coarseHandle farOperations) := by
  have reached : Reachable Host.empty 0 coarseHandle := .fresh _
  have granular : coarseHandle.options.errorGranularity ≤ maxOffset := Nat.le_refl _
  have results : (run Host.empty 0 coarseHandle farOperations).map (·.outcome.result) =
      [.ok .unit, .ok (.count 8), .error (.outOfBounds 0 .current),
        .ok (.sectorCount (.ok (some 0x7f_ffff_ffff_ffff)))] := rfl
  refine ⟨⟨reached, granular⟩, results,
    (reachable_computesWithoutFault reached granular).runs farOperations ?_ ?_⟩
  · simp [farOperations, IsSized]
  · intro response member divides
    have listed : response.outcome.result ∈
        (run Host.empty 0 coarseHandle farOperations).map (·.outcome.result) :=
      List.mem_map_of_mem member
    rw [results, divides] at listed
    simp at listed

end Operation

end StorageMedia
