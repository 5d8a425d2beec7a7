import StorageMedia.Device.Raw
import StorageMedia.Proofs.Media.Layout

/-! # Contents of a drive are all or nothing

A drive answers one request for the range of its track numbers, one for each track of the range and
for the lead-out, and one for its last session. What it tells is said here by relations between an
answer and a sector, without an order of requests and without failures: contents are found exactly
if the relations hold of the whole disc. The answer about the last session is the only one that
they can do without.
-/

namespace StorageMedia

/-! ## Addresses -/

/-- An address tells a sector, by its number in format 1 and in format 2 by the minute, second and
frame at which it is played, the first two seconds of which come before the disc. -/
def Locates (format : Nat) (address : Int) (sector : Nat) : Prop :=
  format = 1 ∧ address = sector ∨
  format = 2 ∧ sector + 150 =
    (byteOfWord address 0 * 60 + byteOfWord address 1) * 75 + byteOfWord address 2

private theorem ok_toNat_iff {sought : Int} {sector : Nat} {error : IoError} :
    (if sought < 0 then .error error else .ok sought.toNat) = Except.ok sector ↔
      sought = sector := by
  by_cases before : sought < 0
  · rw [if_pos before]
    exact ⟨by rintro ⟨⟩, by rintro rfl; omega⟩
  · rw [if_neg before, Except.ok.injEq]
    omega

/-- A sector is found exactly for an address that tells one. -/
theorem sectorOfAddress_eq_ok_iff {format sector : Nat} {address : Int} :
    sectorOfAddress format address = .ok sector ↔ Locates format address sector := by
  rw [sectorOfAddress, AddressFormat.ofCode?, Locates]
  by_cases number : format = 1
  · subst number
    exact ok_toNat_iff.trans (by simp [AddressFormat.read])
  · by_cases time : format = 2
    · subst time
      refine ok_toNat_iff.trans ?_
      simp only [AddressFormat.read, sectorOfTime, framesPerSecond, leadInFrames, number, false_and,
        false_or, true_and]
      omega
    · simp [number, time]

namespace Drive

variable {drive : Drive} {number start leadOut : Nat} {isData : Bool} {numbers : List Nat}
  {entries : List TocEntry}

/-! ## Tracks -/

/-- The drive tells that a track starts at a sector, and whether it holds data: bit 2 of the upper
half of its control byte. -/
def Tells (drive : Drive) (number start : Nat) (isData : Bool) : Prop :=
  ∃ answer, drive.track number = .ok answer ∧
    Locates answer.format.toNat answer.address start ∧
    isData = (answer.addressControl.toNat >>> 4).testBit 2

theorem trackStart_eq_ok_iff :
    drive.trackStart number = .ok (start, isData) ↔ drive.Tells number start isData := by
  rw [trackStart, Tells]
  cases drive.track number with
  | error error => simp
  | ok answer =>
    have located := @sectorOfAddress_eq_ok_iff answer.format.toNat start answer.address
    have bit : (answer.addressControl.toNat >>> 4).testBit 2 = answer.isData :=
      Nat.testBit_shiftRight ..
    simp only [Except.ok.injEq, exists_eq_left', bit, ← located]
    cases sectorOfAddress answer.format.toNat answer.address with
    | error error => simp
    | ok sector => simp [eq_comm]

/-- A drive tells one start and one type of a track. -/
theorem Tells.unique {other : Nat} {otherData : Bool} (tells : drive.Tells number start isData)
    (again : drive.Tells number other otherData) : other = start ∧ otherData = isData := by
  have same := (trackStart_eq_ok_iff.mpr again).symm.trans (trackStart_eq_ok_iff.mpr tells)
  exact Prod.mk.inj (Except.ok.inj same)

/-- Entries are read exactly if they are those that the drive tells about the tracks. -/
theorem entries_eq_ok_iff :
    drive.entries numbers = .ok entries ↔ entries.map (·.number) = numbers ∧
      ∀ entry ∈ entries, drive.Tells entry.number entry.start entry.isData := by
  induction numbers generalizing entries with
  | nil => cases entries <;> simp [Drive.entries]
  | cons number numbers ih =>
    rw [Drive.entries]
    constructor
    · intro read
      split at read
      · cases read
      · next start isData told =>
        cases others : drive.entries numbers with
        | error error => simp [others, Except.map] at read
        | ok later =>
          obtain rfl : _ :: later = entries := by simpa [others, Except.map] using read
          obtain ⟨numbered, tells⟩ := ih.mp others
          exact ⟨congrArg _ numbered,
            List.forall_mem_cons.mpr ⟨trackStart_eq_ok_iff.mp told, tells⟩⟩
    · intro ⟨numbered, tells⟩
      cases entries with
      | nil => cases numbered
      | cons entry later =>
        obtain ⟨rfl, rest⟩ := List.cons.inj numbered
        obtain ⟨told, tells⟩ := List.forall_mem_cons.mp tells
        rw [trackStart_eq_ok_iff.mpr told, ih.mpr ⟨rest, tells⟩]
        rfl

theorem exists_entries_eq_ok_iff :
    (∃ entries, drive.entries numbers = .ok entries) ↔
      ∀ number ∈ numbers, ∃ start isData, drive.Tells number start isData := by
  simp only [entries_eq_ok_iff]
  constructor
  · rintro ⟨entries, rfl, tells⟩ number member
    obtain ⟨entry, listed, rfl⟩ := List.mem_map.mp member
    exact ⟨_, _, tells entry listed⟩
  · intro all
    induction numbers with
    | nil => exact ⟨[], rfl, by rintro _ ⟨⟩⟩
    | cons number numbers ih =>
      obtain ⟨⟨start, isData, told⟩, others⟩ := List.forall_mem_cons.mp all
      obtain ⟨later, numbered, tells⟩ := ih others
      exact ⟨⟨number, start, isData⟩ :: later, congrArg _ numbered,
        List.forall_mem_cons.mpr ⟨told, tells⟩⟩

private theorem start_le_of_number_le (ascend : (entries.map (·.number)).Pairwise (· < ·))
    (starts : (entries.map (·.start)).Pairwise (· ≤ ·)) {entry later : TocEntry}
    (member : entry ∈ entries) (laterMember : later ∈ entries)
    (before : entry.number ≤ later.number) : entry.start ≤ later.start := by
  induction entries with
  | nil => cases member
  | cons head entries ih =>
    obtain ⟨least, ascend⟩ := List.pairwise_cons.mp ascend
    obtain ⟨first, starts⟩ := List.pairwise_cons.mp starts
    rcases List.mem_cons.mp member with rfl | behind <;>
      rcases List.mem_cons.mp laterMember with rfl | laterBehind
    · exact Nat.le_refl _
    · exact first _ (List.mem_map_of_mem laterBehind)
    · exact absurd (least _ (List.mem_map_of_mem behind)) (Nat.not_lt.mpr before)
    · exact ih ascend starts behind laterBehind

/-- What the drive tells about a track of the range is among the entries. -/
theorem mem_entries_of_tells (read : drive.entries numbers = .ok entries)
    (member : number ∈ numbers) (tells : drive.Tells number start isData) :
    ⟨number, start, isData⟩ ∈ entries := by
  obtain ⟨rfl, told⟩ := entries_eq_ok_iff.mp read
  obtain ⟨entry, listed, rfl⟩ := List.mem_map.mp member
  obtain ⟨rfl, rfl⟩ := (told entry listed).unique tells
  exact listed

/-! ## Sessions -/

/-- The drive tells that a disc with more than one session has the last of them at a sector. -/
def TellsSession (drive : Drive) (sector : Nat) : Prop :=
  ∃ answer, drive.lastSession = .ok answer ∧ answer.multiple ≠ 0 ∧
    Locates answer.format.toNat answer.address sector

theorem lastSessionStart?_eq_some_iff {sector : Nat} :
    drive.lastSessionStart? = some sector ↔ drive.TellsSession sector := by
  rw [lastSessionStart?, TellsSession]
  cases drive.lastSession with
  | error error => simp
  | ok answer =>
    simp only [Except.ok.injEq, exists_eq_left', ← sectorOfAddress_eq_ok_iff]
    split
    · next single => simp [single]
    · next multiple =>
      cases sectorOfAddress answer.format.toNat answer.address <;> simp [multiple, Except.toOption]

/-! ## Discs -/

open TableOfContents

/-- The drive has no disc that it knows of: it does not know or implement the request, finds its
argument invalid, or has no medium. -/
def HasNoDisc (drive : Drive) : Prop :=
  ∃ code, drive.header = .error (.system code) ∧
    (code = SystemError.unknownRequest ∨ code = SystemError.invalidArgument ∨
      code = SystemError.notImplemented ∨ code = SystemError.noMedium)

/-- The drive tells a whole disc: the range of its track numbers, the start of each track in it and
of the lead-out, all of them in order. -/
structure TellsDisc (drive : Drive) (first last : UInt8) (leadOut : Nat) : Prop where
  header : drive.header = .ok (first, last)
  tracks : ∀ number, first.toNat ≤ number → number ≤ last.toNat →
    ∃ start isData, drive.Tells number start isData
  ends : ∃ isData, drive.Tells leadOutTrack leadOut isData
  inOrder : ∀ number later start next isData nextData, first.toNat ≤ number → number ≤ later →
    later ≤ last.toNat → drive.Tells number start isData → drive.Tells later next nextData →
    start ≤ next
  before : ∀ number start isData, first.toNat ≤ number → number ≤ last.toNat →
    drive.Tells number start isData → start ≤ leadOut

/-- Contents that are those which the drive tells of the disc. -/
structure Describes (drive : Drive) (first last : UInt8) (leadOut : Nat)
    (contents : TableOfContents) : Prop where
  numbers : contents.tracks.map (·.number) =
    List.range' first.toNat (last.toNat + 1 - first.toNat)
  told : ∀ track ∈ contents.tracks, drive.Tells track.number track.start (track.type == .data)
  /-- A range that ends before it starts has no tracks and no sessions. -/
  nothing : last.toNat < first.toNat → contents = {}
  one : ∀ track ∈ contents.tracks.head?,
    (∀ sector, drive.TellsSession sector → sector ≤ track.start ∨ leadOut ≤ sector) →
    contents.sessions.length = 1
  two : ∀ track ∈ contents.tracks.head?, ∀ sector, drive.TellsSession sector →
    track.start < sector → sector < leadOut → contents.sessions.length = 2
  /-- Tracks and sessions tile the disc. -/
  layout : ∃ lastSession, (∀ sector, lastSession = some sector ↔ drive.TellsSession sector) ∧
    ∀ track ∈ contents.tracks.head?,
      LaysOut (contents.tracks.map Track.entry) track.start leadOut lastSession contents

variable {first last : UInt8} {contents : TableOfContents}

/-- Entries of ascending numbers are in order exactly if what the drive tells of the numbers is. -/
theorem inOrder_iff_tells (read : drive.entries numbers = .ok entries)
    (ascend : numbers.Pairwise (· < ·)) :
    InOrder entries leadOut ↔
      (∀ number ∈ numbers, ∀ later ∈ numbers, number ≤ later → ∀ start next isData nextData,
        drive.Tells number start isData → drive.Tells later next nextData → start ≤ next) ∧
      ∀ number ∈ numbers, ∀ start isData, drive.Tells number start isData → start ≤ leadOut := by
  obtain ⟨rfl, told⟩ := entries_eq_ok_iff.mp read
  constructor
  · intro inOrder
    constructor
    · intro number member later listed before start next isData nextData tells tellsNext
      exact start_le_of_number_le ascend inOrder.starts (mem_entries_of_tells read member tells)
        (mem_entries_of_tells read listed tellsNext) before
    · intro number member start isData tells
      exact inOrder.leadOut _ (mem_entries_of_tells read member tells)
  · intro ⟨steps, ends⟩
    have listed entry (member : entry ∈ entries) : entry.number ∈ entries.map (·.number) :=
      List.mem_map_of_mem member
    constructor
    · refine List.pairwise_map.mpr ((List.pairwise_map.mp ascend).imp_of_mem ?_)
      intro entry later member behind before
      exact steps _ (listed entry member) _ (listed later behind) (Nat.le_of_lt before) _ _ _ _
        (told entry member) (told later behind)
    · intro entry member
      exact ends _ (listed entry member) _ _ (told entry member)

/-- A drive tells a disc exactly if its tracks and its lead-out are read and in order. -/
theorem tellsDisc_iff :
    drive.TellsDisc first last leadOut ↔ drive.header = .ok (first, last) ∧
      (∃ isData, drive.trackStart leadOutTrack = .ok (leadOut, isData)) ∧
      ∃ entries, drive.entries (trackNumbers first last) = .ok entries ∧
        InOrder entries leadOut := by
  have ascend : (trackNumbers first last).Pairwise (· < ·) := List.pairwise_lt_range'
  simp only [trackStart_eq_ok_iff]
  constructor
  · intro disc
    obtain ⟨entries, read⟩ := exists_entries_eq_ok_iff.mpr fun number member =>
      disc.tracks number (mem_trackNumbers.mp member).1 (mem_trackNumbers.mp member).2
    refine ⟨disc.header, disc.ends, entries, read, (inOrder_iff_tells read ascend).mpr ⟨?_, ?_⟩⟩
    · intro number member later listed before start next isData nextData
      exact disc.inOrder number later start next isData nextData (mem_trackNumbers.mp member).1
        before (mem_trackNumbers.mp listed).2
    · intro number member start isData
      exact disc.before number start isData (mem_trackNumbers.mp member).1
        (mem_trackNumbers.mp member).2
  · rintro ⟨header, ends, entries, read, inOrder⟩
    obtain ⟨steps, before⟩ := (inOrder_iff_tells read ascend).mp inOrder
    refine ⟨header, ?_, ends, ?_, ?_⟩
    · intro number least most
      exact exists_entries_eq_ok_iff.mp ⟨entries, read⟩ number (mem_trackNumbers.mpr ⟨least, most⟩)
    · intro number later start next isData nextData least order most
      exact steps number (mem_trackNumbers.mpr ⟨least, Nat.le_trans order most⟩) later
        (mem_trackNumbers.mpr ⟨Nat.le_trans least order, most⟩) order start next isData nextData
    · intro number start isData least most
      exact before number (mem_trackNumbers.mpr ⟨least, most⟩) start isData

private theorem isNoDisc_iff {error : IoError} :
    error.code?.any (noDiscErrors.contains ·) = true ↔ ∃ code, error = .system code ∧
      (code = SystemError.unknownRequest ∨ code = SystemError.invalidArgument ∨
        code = SystemError.notImplemented ∨ code = SystemError.noMedium) := by
  cases error <;> simp [IoError.code?, noDiscErrors]

theorem tableOfContents_of_error {error : IoError} (header : drive.header = .error error) :
    drive.tableOfContents =
      if error.code?.any (noDiscErrors.contains ·) then .ok none else .error error := by
  rw [tableOfContents, header]

/-- Behind a header, contents are the layout of what the drive tells about its tracks. -/
theorem tableOfContents_eq_ok_iff (header : drive.header = .ok (first, last))
    {answer : Option TableOfContents} :
    drive.tableOfContents = .ok answer ↔ ∃ entries leadOut isData contents,
      drive.entries (trackNumbers first last) = .ok entries ∧
      drive.trackStart leadOutTrack = .ok (leadOut, isData) ∧
      ofEntries entries leadOut drive.lastSessionStart? = .ok contents ∧
      some contents = answer := by
  simp only [tableOfContents, header]
  cases drive.entries (trackNumbers first last) with
  | error error => simp
  | ok entries =>
    cases drive.trackStart leadOutTrack with
    | error error => simp
    | ok found =>
      obtain ⟨leadOut, isData⟩ := found
      cases laid : ofEntries entries leadOut drive.lastSessionStart? <;> simp [laid, Except.map]

/-- No contents are found exactly if there is no disc. -/
theorem tableOfContents_eq_none_iff : drive.tableOfContents = .ok none ↔ drive.HasNoDisc := by
  cases header : drive.header with
  | error error =>
    simp only [tableOfContents_of_error header, HasNoDisc, header, Except.error.injEq,
      ← isNoDisc_iff]
    split
    · next known => exact iff_of_true rfl known
    · next unknown => exact iff_of_false (by rintro ⟨⟩) unknown
  | ok range =>
    rw [tableOfContents_eq_ok_iff header]
    simp [HasNoDisc, header]

/-- Contents are found exactly if the drive tells a whole disc, and they are what it tells. -/
theorem exists_tableOfContents_iff :
    (∃ contents, drive.tableOfContents = .ok (some contents)) ↔
      ∃ first last leadOut, drive.TellsDisc first last leadOut := by
  cases header : drive.header with
  | error error =>
    simp only [tableOfContents_of_error header, tellsDisc_iff, header]
    split <;> simp
  | ok range =>
    obtain ⟨first, last⟩ := range
    simp only [tableOfContents_eq_ok_iff header, tellsDisc_iff, header]
    constructor
    · rintro ⟨_, entries, leadOut, isData, contents, read, ends, laid, _⟩
      exact ⟨first, last, leadOut, rfl, ⟨isData, ends⟩, entries, read,
        exists_ofEntries_eq_ok_iff.mp ⟨contents, laid⟩⟩
    · rintro ⟨_, _, leadOut, same, ⟨isData, ends⟩, entries, read, inOrder⟩
      obtain ⟨rfl, rfl⟩ := Prod.mk.inj (Except.ok.inj same)
      obtain ⟨contents, laid⟩ := exists_ofEntries_eq_ok_iff.mpr inOrder
      exact ⟨contents, entries, leadOut, isData, contents, read, ends, laid, rfl⟩

/-- Contents are what the drive tells of the disc. -/
theorem describes_of_tableOfContents (disc : drive.TellsDisc first last leadOut)
    (found : drive.tableOfContents = .ok (some contents)) :
    drive.Describes first last leadOut contents := by
  obtain ⟨entries, _, _, _, read, ends, laid, same⟩ :=
    (tableOfContents_eq_ok_iff disc.header).mp found
  obtain rfl := Option.some.inj same
  obtain ⟨_, tells⟩ := disc.ends
  obtain ⟨rfl, _⟩ := tells.unique (trackStart_eq_ok_iff.mp ends)
  obtain ⟨numbered, told⟩ := entries_eq_ok_iff.mp read
  have listed := map_entry_of_tracksOf (tracksOf_of_ofEntries laid)
  have layout track (head : track ∈ _) := laysOut_of_head laid (Option.mem_def.mp head)
  exact
    { numbers := by
        rw [← trackNumbers, ← numbered, ← listed, List.map_map]
        rfl
      told := fun track member => by
        rw [← listed] at told
        exact told track.entry (List.mem_map_of_mem member)
      nothing := fun none => by
        have empty : entries = [] := by
          rw [← List.map_eq_nil_iff, numbered, trackNumbers, List.range'_eq_nil_iff]
          omega
        subst empty
        exact (Except.ok.inj laid).symm
      one := fun track head outside => by
        have starts := (layout track head).one fun sector known =>
          outside sector (lastSessionStart?_eq_some_iff.mp known)
        simpa using congrArg List.length starts
      two := fun track head sector known after before => by
        have starts := (layout track head).two sector (lastSessionStart?_eq_some_iff.mpr known)
          after before
        simpa using congrArg List.length starts
      layout := ⟨drive.lastSessionStart?, fun _ => lastSessionStart?_eq_some_iff, by
        rw [listed]
        exact layout⟩ }

section

variable {other : Drive}

theorem entries_congr
    (same : ∀ number ∈ numbers, other.trackStart number = drive.trackStart number) :
    other.entries numbers = drive.entries numbers := by
  induction numbers with
  | nil => rfl
  | cons number numbers ih =>
    obtain ⟨first, later⟩ := List.forall_mem_cons.mp same
    rw [Drive.entries, Drive.entries, first, ih later]

/-- Drives that tell the same tracks find the same ones or fail alike, whatever they tell about
their last session. -/
theorem map_tracks_congr (same : other.track = drive.track)
    (header : other.header = drive.header) :
    other.tableOfContents.map (Option.map (·.tracks)) =
      drive.tableOfContents.map (Option.map (·.tracks)) := by
  have starts number : other.trackStart number = drive.trackStart number := by
    rw [trackStart, trackStart, same]
  rw [tableOfContents, tableOfContents, header]
  cases drive.header with
  | error error => rfl
  | ok range =>
    simp only [entries_congr fun number _ => starts number, starts]
    cases drive.entries (trackNumbers range.1 range.2) with
    | error error => rfl
    | ok entries =>
      cases drive.trackStart leadOutTrack with
      | error error => rfl
      | ok found =>
        have tracks lastSession :
            ((ofEntries entries found.1 lastSession).map some).map (Option.map (·.tracks)) =
              (tracksOf found.1 entries).map some := by
          rw [← map_tracks_ofEntries entries found.1 lastSession]
          cases ofEntries entries found.1 lastSession <;> rfl
        exact (tracks _).trans (tracks _).symm

/-- Contents are worked out from the starts of the tracks that are asked for, of the lead-out and of
the last session. -/
theorem tableOfContents_congr (header : other.header = drive.header)
    (tracks : ∀ first last, drive.header = .ok (first, last) → ∀ number ∈ trackNumbers first last,
      other.trackStart number = drive.trackStart number)
    (leadOut : other.trackStart leadOutTrack = drive.trackStart leadOutTrack)
    (lastSession : other.lastSessionStart? = drive.lastSessionStart?) :
    other.tableOfContents = drive.tableOfContents := by
  rw [tableOfContents, tableOfContents, header, leadOut, lastSession]
  cases known : drive.header with
  | error error => rfl
  | ok range => simp only [entries_congr (tracks range.1 range.2 known)]

end

end Drive

namespace RawDevice

open Drive

/-- A block device passes on what its drive finds. -/
theorem tableOfContents_of_block {device : RawDevice} (block : device.isBlockDevice = true) :
    (Device.tableOfContents device).2 = device.behaviour.drive.tableOfContents := if_pos block

/-- A block device tells its contents exactly if its drive tells a whole disc, and then they are what
the drive tells: the tracks of the range in order, in one or two sessions. It tells that there are
none exactly if the drive has no disc, and fails otherwise. What the drive answers about its last
session changes neither the tracks nor a failure. -/
theorem contents_all_or_nothing (device : RawDevice) (block : device.isBlockDevice = true) :
    let drive := device.behaviour.drive
    let answer := (Device.tableOfContents device).2
    (answer = .ok none ↔ drive.HasNoDisc) ∧
    ((∃ contents, answer = .ok (some contents)) ↔
      ∃ first last leadOut, drive.TellsDisc first last leadOut) ∧
    ((∃ error, answer = .error error) ↔
      ¬ drive.HasNoDisc ∧ ¬ ∃ first last leadOut, drive.TellsDisc first last leadOut) ∧
    (∀ first last leadOut contents, drive.TellsDisc first last leadOut →
      answer = .ok (some contents) → drive.Describes first last leadOut contents) ∧
    ∀ other : RawDevice, other.isBlockDevice = true →
      other.behaviour.drive.header = drive.header → other.behaviour.drive.track = drive.track →
      (Device.tableOfContents other).2.map (Option.map (·.tracks)) =
        answer.map (Option.map (·.tracks)) := by
  intro drive answer
  have answered : answer = drive.tableOfContents := tableOfContents_of_block block
  rw [answered, ← tableOfContents_eq_none_iff, ← exists_tableOfContents_iff]
  refine ⟨.rfl, .rfl, ?_, fun _ _ _ _ disc found => describes_of_tableOfContents disc found, ?_⟩
  · cases drive.tableOfContents with
    | error error => simp
    | ok found => cases found <;> simp
  · intro other otherBlock header track
    rw [tableOfContents_of_block otherBlock]
    exact map_tracks_congr track header

/-- A drive with an audio track that starts at minute 0 and second 2, and a data track in a session
of its own. -/
def mixedDrive : RawDevice where
  path := "/dev/sr0"
  location := ["dev", "sr0"]
  kind := .block
  behaviour :=
    { isBlockDevice := true
      drive :=
        { header := .ok (1, 2)
          track := fun number =>
            .ok (if number = 1 then ⟨0x01, 2, 0x200⟩
              else if number = 2 then ⟨0x41, 1, 1000⟩ else ⟨0x41, 1, 3000⟩)
          lastSession := .ok ⟨1000, 1, 1⟩ } }

theorem mixed_contents_all_or_nothing :
    mixedDrive.isBlockDevice = true ∧ ∃ first last leadOut,
      mixedDrive.behaviour.drive.TellsDisc first last leadOut ∧
      mixedDrive.behaviour.drive.Describes first last leadOut
        { sessions := [⟨0, 1000⟩, ⟨1000, 2000⟩]
          tracks := [⟨1, 0, 1000, .audio⟩, ⟨2, 1000, 2000, .data⟩] } := by
  obtain ⟨_, tells, _, describes, _⟩ := contents_all_or_nothing mixedDrive rfl
  obtain ⟨first, last, leadOut, disc⟩ := tells.mp ⟨_, rfl⟩
  exact ⟨rfl, first, last, leadOut, disc, describes first last leadOut _ disc rfl⟩

end RawDevice

end StorageMedia
