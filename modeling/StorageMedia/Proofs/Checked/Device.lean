import StorageMedia.Geometry
import StorageMedia.Proofs.Checked.Basic
import StorageMedia.Proofs.Media.Drive
import StorageMedia.Sysfs.Identification

/-! # Answers of devices on a machine

A drive answers with addresses, sector counts and pages of bytes that may be anything their types
allow. Tracks and sessions are as long as the distance between two sectors, which is taken only
after the later one was checked to come last; addresses are worked out from single bytes; a page is
sliced inside of its length. Only a sector size of zero leaves the number of sectors of a media
without a value.
-/

namespace StorageMedia

/-! ## Sectors of a media -/

def Geometry.numberOfSectorsChecked (geometry : Geometry) : Checked (Option Nat) :=
  match geometry.bytesPerSector with
  | none => .ok none
  | some size => do return some (← Checked.div geometry.mediaSize.toNat size.toNat)

/-- A media has a number of sectors exactly if the machine finds one. -/
theorem Geometry.numberOfSectorsChecked_eq_ok_iff {geometry : Geometry} {sectors : Option Nat} :
    geometry.numberOfSectorsChecked = .ok sectors ↔ geometry.numberOfSectors = .ok sectors := by
  simp only [numberOfSectorsChecked, numberOfSectors]
  cases geometry.bytesPerSector with
  | none => simp
  | some size =>
    by_cases zero : size = 0
    · subst zero
      exact ⟨by rintro ⟨⟩, by rintro ⟨⟩⟩
    · have positive : 0 < size.toNat := by
        rcases Nat.eq_zero_or_pos size.toNat with none | positive
        · exact absurd (UInt32.toNat_inj.mp none) zero
        · exact positive
      simp [Checked.div_eq positive, Checked.ok_bind, zero, pure, Except.pure]

example : ({ mediaSize := 8, bytesPerSector := some 0 } : Geometry).numberOfSectorsChecked =
    .error .divisionByZero := rfl

/-! ## Contents of a disc -/

namespace TableOfContents

/-- Tracks of the entries from an index on. -/
def tracksFromChecked (entries : List TocEntry) (leadOut : Nat) :
    Nat → List TocEntry → Checked (Except IoError (List Track))
  | _, [] => .ok (.ok [])
  | index, entry :: rest => do
    let next ← Checked.add maxOffset index 1
    let stop := (entries[next]?.map (·.start)).getD leadOut
    if stop < entry.start then return .error (.trackOrder entry.number stop entry.start)
    else
      let count ← Checked.sub stop entry.start
      let tracks ← tracksFromChecked entries leadOut next rest
      return tracks.map (⟨entry.number, entry.start, count, entry.type⟩ :: ·)

def sessionsOfChecked (first leadOut : Nat) : Option Nat → Checked (List SectorRange)
  | none => do return [⟨first, ← Checked.sub leadOut first⟩]
  | some last =>
    if first < last ∧ last < leadOut then do
      return [⟨first, ← Checked.sub last first⟩, ⟨last, ← Checked.sub leadOut last⟩]
    else do return [⟨first, ← Checked.sub leadOut first⟩]

def ofEntriesChecked (entries : List TocEntry) (leadOut : Nat) (lastSession : Option Nat) :
    Checked (Except IoError TableOfContents) := do
  match ← tracksFromChecked entries leadOut 0 entries with
  | .error error => return .error error
  | .ok tracks =>
    match entries with
    | [] => return .ok { tracks }
    | entry :: _ =>
      return .ok { tracks, sessions := ← sessionsOfChecked entry.start leadOut lastSession }

variable {entries rest : List TocEntry} {entry : TocEntry} {tracks : List Track} {first leadOut : Nat}

private theorem nextStart_eq (leadOut : Nat) (entries : List TocEntry) :
    nextStart leadOut entries = (entries.head?.map (·.start)).getD leadOut := by
  cases entries <;> rfl

private theorem tracksFromChecked_eq (few : entries.length ≤ maxOffset) {index : Nat}
    (split : entries.drop index = rest) :
    tracksFromChecked entries leadOut index rest = .ok (tracksOf leadOut rest) := by
  induction rest generalizing index with
  | nil => rfl
  | cons entry rest ih =>
    have inside : index < entries.length := by
      rcases Nat.lt_or_ge index entries.length with inside | behind
      · exact inside
      · simp [List.drop_of_length_le behind] at split
    have behind : entries.drop (index + 1) = rest := by
      rw [← List.tail_drop, split, List.tail_cons]
    have next : entries[index + 1]? = rest.head? := by rw [← behind, List.head?_drop]
    rw [tracksFromChecked, tracksOf, Checked.add_eq (Nat.le_trans inside few), Checked.ok_bind, next,
      ← nextStart_eq]
    dsimp only
    split
    · rfl
    next inOrder =>
    rw [Checked.sub_eq (Nat.le_of_not_lt inOrder), Checked.ok_bind, ih behind, Checked.ok_bind]
    rfl

private theorem sessionsOfChecked_eq (inOrder : first ≤ leadOut) (lastSession : Option Nat) :
    sessionsOfChecked first leadOut lastSession = .ok (sessionsOf first leadOut lastSession) := by
  cases lastSession with
  | none =>
    simp only [sessionsOfChecked, Checked.sub_eq inOrder, Checked.ok_bind]
    rfl
  | some last =>
    simp only [sessionsOfChecked, sessionsOf]
    split
    · next between =>
      rw [Checked.sub_eq (Nat.le_of_lt between.1), Checked.ok_bind,
        Checked.sub_eq (Nat.le_of_lt between.2), Checked.ok_bind]
      rfl
    · rw [Checked.sub_eq inOrder, Checked.ok_bind]
      rfl

/-- Whatever the entries are, no distance is taken to an earlier sector. -/
theorem ofEntriesChecked_eq (few : entries.length ≤ maxOffset) (leadOut : Nat)
    (lastSession : Option Nat) :
    ofEntriesChecked entries leadOut lastSession = .ok (ofEntries entries leadOut lastSession) := by
  simp only [ofEntriesChecked, ofEntries, tracksFromChecked_eq few List.drop_zero,
    Checked.ok_bind]
  cases inOrder : tracksOf leadOut entries with
  | error error => rfl
  | ok tracks =>
    cases entries with
    | nil => rfl
    | cons entry rest =>
      dsimp only
      have before : entry.start ≤ leadOut := (tiles_of_tracksOf inOrder).start_le_stop
      rw [sessionsOfChecked_eq before, Checked.ok_bind]
      rfl

end TableOfContents

/-! ## Addresses on a disc -/

def sectorOfTimeChecked (minute second frame : Nat) : Checked Int := do
  let minutes ← Checked.signed (minute * 60)
  let seconds ← Checked.signed (minutes + second)
  let frames ← Checked.signed (seconds * framesPerSecond)
  let played ← Checked.signed (frames + frame)
  Checked.signed (played - leadInFrames)

def AddressFormat.readChecked (format : AddressFormat) (address : Int) : Checked Int :=
  match format with
  | sector => .ok address
  | time =>
    sectorOfTimeChecked (byteOfWord address 0) (byteOfWord address 1) (byteOfWord address 2)

def sectorOfAddressChecked (format : Nat) (address : Int) : Checked (Except IoError Nat) :=
  match AddressFormat.ofCode? format with
  | none => .ok (.error (.addressFormat format))
  | some format => do
    let sector ← format.readChecked address
    if sector < 0 then return .error (.addressBeforeDisc sector) else return .ok sector.toNat

private theorem byteOfWord_lt (word : Int) (index : Nat) : byteOfWord word index < 256 :=
  Nat.mod_lt _ (by decide)

/-- The times that bytes can tell are far from the largest number. -/
theorem sectorOfTimeChecked_eq {minute second frame : Nat} (minutes : minute < 256)
    (seconds : second < 256) (frames : frame < 256) :
    sectorOfTimeChecked minute second frame = .ok (sectorOfTime minute second frame) := by
  simp (disch := (simp only [maxSeekOffset, framesPerSecond, leadInFrames]; omega)) only
    [sectorOfTimeChecked, Checked.signed_eq, Checked.ok_bind]
  simp only [sectorOfTime]
  congr 1

theorem sectorOfAddressChecked_eq (format : Nat) (address : Int) :
    sectorOfAddressChecked format address = .ok (sectorOfAddress format address) := by
  simp only [sectorOfAddressChecked, sectorOfAddress]
  cases AddressFormat.ofCode? format with
  | none => rfl
  | some format =>
    have reads : format.readChecked address = .ok (format.read address) := by
      cases format with
      | sector => rfl
      | time =>
        exact sectorOfTimeChecked_eq (byteOfWord_lt ..) (byteOfWord_lt ..) (byteOfWord_lt ..)
    simp only [reads, Checked.ok_bind]
    split <;> rfl

/-! ## Requests to a drive -/

namespace Drive

def maxTransferSizeChecked (drive : Drive) : Checked (Except IoError (Option UInt32)) :=
  match drive.maxSectors with
  | .error error => .ok (.error error)
  | .ok sectors => do
    let size ← Checked.mul largestWord sectors.toNat requestSectorSize.toNat
    return .ok (if 0 < size then some (UInt32.ofNat size) else none)

def trackStartChecked (drive : Drive) (number : Nat) : Checked (Except IoError (Nat × Bool)) :=
  match drive.track number with
  | .error error => .ok (.error error)
  | .ok answer => do
    match ← sectorOfAddressChecked answer.format.toNat answer.address with
    | .error error => return .error error
    | .ok start => return .ok (start, answer.isData)

def entriesChecked (drive : Drive) : List Nat → Checked (Except IoError (List TocEntry))
  | [] => .ok (.ok [])
  | number :: rest => do
    match ← drive.trackStartChecked number with
    | .error error => return .error error
    | .ok (start, isData) =>
      return (← drive.entriesChecked rest).map (⟨number, start, isData⟩ :: ·)

def lastSessionStartChecked (drive : Drive) : Checked (Option Nat) :=
  match drive.lastSession with
  | .error _ => .ok none
  | .ok answer =>
    if answer.multiple = 0 then .ok none
    else do return (← sectorOfAddressChecked answer.format.toNat answer.address).toOption

def tableOfContentsChecked (drive : Drive) :
    Checked (Except IoError (Option TableOfContents)) :=
  match drive.header with
  | .error error =>
    .ok (if error.code?.any (noDiscErrors.contains ·) then .ok none else .error error)
  | .ok (first, last) => do
    match ← drive.entriesChecked (trackNumbers first last) with
    | .error error => return .error error
    | .ok entries =>
      match ← drive.trackStartChecked leadOutTrack with
      | .error error => return .error error
      | .ok (leadOut, _) =>
        let lastSession ← drive.lastSessionStartChecked
        return (← TableOfContents.ofEntriesChecked entries leadOut lastSession).map some

variable (drive : Drive)

/-- No number of sectors of 16 bits makes more bytes than 32 bits hold. -/
theorem maxTransferSizeChecked_eq :
    drive.maxTransferSizeChecked = .ok drive.maxTransferSize := by
  simp only [maxTransferSizeChecked, maxTransferSize]
  cases drive.maxSectors with
  | error error => rfl
  | ok sectors =>
    have most : sectors.toNat < 0x1_0000 := sectors.toNat_lt
    have factor : requestSectorSize.toNat = 512 := rfl
    have fits : sectors.toNat * requestSectorSize.toNat ≤ largestWord := by
      simp only [factor, largestWord]
      omega
    have product : UInt32.ofNat (sectors.toNat * requestSectorSize.toNat) =
        sectors.toUInt32 * requestSectorSize := by
      refine UInt32.toNat_inj.mp ?_
      simp [factor]
    have answer : (if 0 < sectors.toNat * requestSectorSize.toNat then
          some (UInt32.ofNat (sectors.toNat * requestSectorSize.toNat)) else none) =
        if sectors = 0 then none else some (sectors.toUInt32 * requestSectorSize) := by
      by_cases none : sectors = 0
      · rw [if_pos none, if_neg (by rw [none]; decide)]
      · have some : sectors.toNat ≠ 0 := fun zero => none (UInt16.toNat_inj.mp zero)
        rw [if_neg none, if_pos (by rw [factor]; omega), product]
    dsimp only
    rw [Checked.mul_eq fits, Checked.ok_bind, answer]
    rfl

private theorem trackStartChecked_eq (number : Nat) :
    drive.trackStartChecked number = .ok (drive.trackStart number) := by
  simp only [trackStartChecked, trackStart, sectorOfAddressChecked_eq]
  cases drive.track number with
  | error error => rfl
  | ok answer =>
    simp only [Checked.ok_bind]
    cases sectorOfAddress answer.format.toNat answer.address <;> rfl

private theorem entriesChecked_eq (numbers : List Nat) :
    drive.entriesChecked numbers = .ok (drive.entries numbers) := by
  induction numbers with
  | nil => rfl
  | cons number rest ih =>
    simp only [entriesChecked, entries, trackStartChecked_eq, Checked.ok_bind, ih]
    cases drive.trackStart number <;> rfl

private theorem lastSessionStartChecked_eq :
    drive.lastSessionStartChecked = .ok drive.lastSessionStart? := by
  simp only [lastSessionStartChecked, lastSessionStart?, sectorOfAddressChecked_eq,
    Checked.ok_bind]
  cases drive.lastSession with
  | error error => rfl
  | ok answer =>
    dsimp only
    split <;> rfl

/-- Whatever a drive answers, its contents are found without a fault. -/
theorem tableOfContentsChecked_eq :
    drive.tableOfContentsChecked = .ok drive.tableOfContents := by
  simp only [tableOfContentsChecked, tableOfContents]
  cases drive.header with
  | error error => rfl
  | ok numbers =>
    obtain ⟨first, last⟩ := numbers
    simp only [entriesChecked_eq, trackStartChecked_eq, lastSessionStartChecked_eq,
      Checked.ok_bind]
    cases read : drive.entries (trackNumbers first last) with
    | error error => rfl
    | ok entries =>
      have few : entries.length ≤ maxOffset := by
        have most : last.toNat < 256 := last.toNat_lt
        obtain ⟨numbered, _⟩ := entries_eq_ok_iff.mp read
        rw [← List.length_map, numbered, trackNumbers, List.length_range', maxOffset]
        omega
      dsimp only
      cases drive.trackStart leadOutTrack with
      | error error => rfl
      | ok start =>
        dsimp only
        rw [TableOfContents.ofEntriesChecked_eq few, Checked.ok_bind]
        rfl

end Drive

/-! ## Pages of a device -/

namespace Sysfs

def unitSerialNumberChecked (page : List UInt8) : Checked (Option (List UInt8)) :=
  if page.length ≤ 4 then .ok none
  else do
    let code ← Checked.item page 1
    if code ≠ unitSerialNumberPage then return none
    else
      let length ← Checked.item page 3
      let rest ← Checked.sub page.length 4
      let stop ← Checked.add maxOffset 4 (min length.toNat rest)
      let size ← Checked.range page.length 4 stop
      return some ((page.drop 4).take size)

/-- The length in a page is cut to the page before anything is sliced. -/
theorem unitSerialNumberChecked_eq (page : List UInt8) :
    unitSerialNumberChecked page = .ok (unitSerialNumber? page) := by
  match page with
  | [] | [_] | [_, _] | [_, _, _] => rfl
  | first :: code :: third :: length :: number =>
    have size : (first :: code :: third :: length :: number).length = number.length + 4 := rfl
    simp only [unitSerialNumberChecked, unitSerialNumber?, size]
    by_cases empty : number = []
    · subst empty
      simp
    have nonempty := List.length_pos_iff.mpr empty
    have most : length.toNat < 256 := length.toNat_lt
    have second : Checked.item (first :: code :: third :: length :: number) 1 = .ok code := rfl
    have fourth : Checked.item (first :: code :: third :: length :: number) 3 = .ok length := rfl
    rw [if_neg (by omega), second, Checked.ok_bind, fourth]
    by_cases page : code = unitSerialNumberPage
    · have fits : 4 + min length.toNat number.length ≤ maxOffset := by
        simp only [maxOffset]
        omega
      have taken : number.take (min length.toNat number.length) = number.take length.toNat := by
        rw [← List.take_take, List.take_length]
      rw [if_neg (not_not_intro page), if_pos ⟨page, empty⟩, Checked.ok_bind,
        Checked.sub_eq (Nat.le_add_left ..), Checked.ok_bind, Nat.add_sub_cancel,
        Checked.add_eq fits, Checked.ok_bind, Checked.range_eq (Nat.le_add_right ..) (by omega),
        Checked.ok_bind, Nat.add_sub_cancel_left]
      exact congrArg (fun bytes => Except.ok (some bytes)) taken
    · rw [if_pos page, if_neg (fun both => page both.1)]
      rfl

end Sysfs

end StorageMedia
