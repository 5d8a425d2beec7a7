import StorageMedia.Proofs.Media.Drive

/-! # The format of addresses is of no account

A drive chooses for each answer whether it gives a sector by its number or by the time at which it
is played. A time has one byte for each of its three parts, which is why it reaches only so far, and
a fourth byte of the word is left over. A disc is said here by its sectors alone, whatever a drive
makes of them: contents are a function of the disc, since each address leads back to its sector
before anything is compared.
-/

namespace StorageMedia

/-! ## Written addresses -/

/-- Signed 32-bit number of four bytes, from the least significant one on. -/
def wordOfBytes (first second third fourth : UInt8) : Int :=
  (fourth.toBitVec ++ third.toBitVec ++ second.toBitVec ++ first.toBitVec).toInt

/-- A sector is played at a minute, second and frame. -/
structure PlayedAt (sector : Nat) (minute second frame : UInt8) : Prop where
  seconds : second.toNat < 60
  frames : frame.toNat < 75
  played : sector + 150 = (60 * minute.toNat + second.toNat) * 75 + frame.toNat

/-- The formats and addresses by which a drive may give a sector. -/
inductive Writes (sector : Nat) : (format : UInt8) → (address : Int) → Prop
  | number : Writes sector 1 sector
  | time {minute second frame : UInt8} (played : PlayedAt sector minute second frame)
      (fourth : UInt8) : Writes sector 2 (wordOfBytes minute second frame fourth)

def WritesNumber (sector : Nat) (format : UInt8) (address : Int) : Prop :=
  format = 1 ∧ address = sector

variable {sector : Nat} {format : UInt8} {address : Int}

/-- The sectors up to minute 255, second 59 and frame 74 are those that are played at some time. -/
theorem exists_playedAt_iff :
    (∃ minute second frame, PlayedAt sector minute second frame) ↔
      sector ≤ 255 * 60 * 75 + 59 * 75 + 74 - 150 := by
  constructor
  · rintro ⟨minute, second, frame, seconds, frames, played⟩
    have := minute.toNat_lt
    omega
  · intro bound
    -- The digits of the frame to the bases 75 and 60; the bound keeps the minute in its byte.
    refine ⟨.ofNat ((sector + 150) / 4500), .ofNat ((sector + 150) / 75 % 60),
      .ofNat ((sector + 150) % 75), ?_⟩
    have minute : (sector + 150) / 4500 < 256 := by omega
    have second : (sector + 150) / 75 % 60 < 256 := by omega
    have frame : (sector + 150) % 75 < 256 := by omega
    constructor <;>
      simp only [UInt8.toNat_ofNat_of_lt' minute, UInt8.toNat_ofNat_of_lt' second,
        UInt8.toNat_ofNat_of_lt' frame] <;>
      omega

private theorem byteOfWord_toInt (word : BitVec 32) (index : Nat) :
    byteOfWord word.toInt index = word.toNat >>> (8 * index) % 0x100 := by
  have bound := word.isLt
  have unsigned : word.toInt % 0x1_0000_0000 = word.toNat := by
    rw [BitVec.toInt_eq_toNat_cond]
    omega
  rw [byteOfWord, unsigned, Int.toNat_natCast]

private theorem toNat_append_byte {width : Nat} (high : BitVec width) (low : UInt8) :
    (high ++ low.toBitVec).toNat = high.toNat * 0x100 + low.toNat := by
  rw [BitVec.toNat_append, ← Nat.shiftLeft_add_eq_or_of_lt low.toBitVec.isLt, Nat.shiftLeft_eq]
  rfl

theorem byteOfWord_wordOfBytes (first second third fourth : UInt8) :
    byteOfWord (wordOfBytes first second third fourth) 0 = first.toNat ∧
      byteOfWord (wordOfBytes first second third fourth) 1 = second.toNat ∧
      byteOfWord (wordOfBytes first second third fourth) 2 = third.toNat := by
  have firstBound := first.toNat_lt
  have secondBound := second.toNat_lt
  have thirdBound := third.toNat_lt
  simp only [wordOfBytes, byteOfWord_toInt, toNat_append_byte, Nat.shiftRight_eq_div_pow]
  omega

/-- A written address tells its sector. -/
theorem Writes.sectorOfAddress_eq (writes : Writes sector format address) :
    sectorOfAddress format.toNat address = .ok sector := by
  rw [sectorOfAddress_eq_ok_iff]
  cases writes with
  | number => exact .inl ⟨rfl, rfl⟩
  | @time minute second frame played fourth =>
    obtain ⟨minutes, seconds, frames⟩ := byteOfWord_wordOfBytes minute second frame fourth
    refine .inr ⟨rfl, ?_⟩
    rw [minutes, seconds, frames, played.played, Nat.mul_comm 60]

/-! ## Discs -/

/-- What a drive can tell about a disc, apart from how it writes addresses: each part of it or the
failure of the request for it. -/
structure Disc where
  header : Except IoError (UInt8 × UInt8)
  /-- Control bits and first sector of a track, or of the lead-out. -/
  track : Nat → Except IoError (UInt8 × Nat)
  /-- Whether there is more than one session, and the first sector of the last one. -/
  lastSession : Except IoError (UInt8 × Nat)

namespace Disc

variable {disc : Disc} {allowed : Nat → UInt8 → Int → Prop} {drive : Drive} {number : Nat}

/-- A number under which a track of the disc, or its lead-out, is asked for. -/
def Asked (disc : Disc) (number : Nat) : Prop :=
  number = Drive.leadOutTrack ∨
    ∃ first last, disc.header = .ok (first, last) ∧ first.toNat ≤ number ∧ number ≤ last.toNat

/-- A drive tells a disc and writes each sector on its own in one of the allowed ways. -/
structure ToldBy (disc : Disc) (allowed : Nat → UInt8 → Int → Prop) (drive : Drive) : Prop where
  header : drive.header = disc.header
  track : ∀ number control sector, disc.Asked number → disc.track number = .ok (control, sector) →
    ∃ format address, allowed sector format address ∧
      drive.track number = .ok ⟨control, format, address⟩
  failedTrack : ∀ number error, disc.Asked number → disc.track number = .error error →
    drive.track number = .error error
  session : ∀ multiple sector, disc.lastSession = .ok (multiple, sector) →
    ∃ format address, allowed sector format address ∧
      drive.lastSession = .ok ⟨address, multiple, format⟩
  failedSession : ∀ error, disc.lastSession = .error error →
    ∃ other, drive.lastSession = .error other

def start (disc : Disc) (number : Nat) : Except IoError (Nat × Bool) :=
  (disc.track number).map fun told => (told.2, told.1.toNat.testBit 6)

/-- Start of the last session of a disc with more than one. -/
def sessionStart? (disc : Disc) : Option Nat :=
  match disc.lastSession with
  | .error _ => none
  | .ok (multiple, sector) => if multiple = 0 then none else some sector

/-- A drive that writes sectors finds the starts of the disc. -/
theorem ToldBy.trackStart_eq (told : disc.ToldBy Writes drive) (asked : disc.Asked number) :
    drive.trackStart number = disc.start number := by
  cases known : disc.track number with
  | error error => rw [Drive.trackStart, told.failedTrack number error asked known, start, known]; rfl
  | ok answer =>
    obtain ⟨control, sector⟩ := answer
    obtain ⟨format, address, writes, answered⟩ := told.track number control sector asked known
    rw [Drive.trackStart, answered, start, known]
    dsimp only
    rw [writes.sectorOfAddress_eq]
    rfl

theorem ToldBy.lastSessionStart?_eq (told : disc.ToldBy Writes drive) :
    drive.lastSessionStart? = disc.sessionStart? := by
  rw [Drive.lastSessionStart?, sessionStart?]
  cases known : disc.lastSession with
  | error error =>
    obtain ⟨other, failed⟩ := told.failedSession error known
    rw [failed]
  | ok answer =>
    obtain ⟨multiple, sector⟩ := answer
    obtain ⟨format, address, writes, answered⟩ := told.session multiple sector known
    rw [answered]
    dsimp only
    rw [writes.sectorOfAddress_eq]
    rfl

/-- Drives find the same contents of a disc in whatever ways they write its sectors. -/
theorem ToldBy.tableOfContents_eq {other : Drive} (told : disc.ToldBy Writes drive)
    (also : disc.ToldBy Writes other) : other.tableOfContents = drive.tableOfContents := by
  have starts number (asked : disc.Asked number) :
      other.trackStart number = drive.trackStart number :=
    (also.trackStart_eq asked).trans (told.trackStart_eq asked).symm
  refine Drive.tableOfContents_congr (also.header.trans told.header.symm) ?_ (starts _ (.inl rfl))
    (also.lastSessionStart?_eq.trans told.lastSessionStart?_eq.symm)
  intro first last header number member
  exact starts number (.inr ⟨first, last, told.header.symm.trans header,
    Drive.mem_trackNumbers.mp member⟩)

/-- A drive that writes sectors in allowed ways only tells the disc also where more is allowed. -/
theorem ToldBy.mono {more : Nat → UInt8 → Int → Prop} (told : disc.ToldBy allowed drive)
    (allows : ∀ sector format address, allowed sector format address → more sector format address) :
    disc.ToldBy more drive :=
  { told with
    track := fun number control sector asked known => by
      obtain ⟨format, address, writes, answered⟩ := told.track number control sector asked known
      exact ⟨format, address, allows _ _ _ writes, answered⟩
    session := fun multiple sector known => by
      obtain ⟨format, address, writes, answered⟩ := told.session multiple sector known
      exact ⟨format, address, allows _ _ _ writes, answered⟩ }

end Disc

namespace RawDevice

/-- Exactly the sectors of the first 256 minutes can be written as a time. Block devices
whose drives tell the same disc find the same contents, or fail alike, if one of them gives all
sectors by their numbers and the other one gives each of them in either format. -/
theorem contents_ignore_address_format :
    (∀ sector, (∃ minute second frame, PlayedAt sector minute second frame) ↔
      sector ≤ 255 * 60 * 75 + 59 * 75 + 74 - 150) ∧
    ∀ (disc : Disc) (numbering mixed : RawDevice), numbering.isBlockDevice = true →
      mixed.isBlockDevice = true → disc.ToldBy WritesNumber numbering.behaviour.drive →
      disc.ToldBy Writes mixed.behaviour.drive →
      (Device.tableOfContents mixed).2 = (Device.tableOfContents numbering).2 := by
  refine ⟨fun sector => exists_playedAt_iff, ?_⟩
  intro disc numbering mixed numberingBlock mixedBlock numbers mixes
  have numberingTells : disc.ToldBy Writes numbering.behaviour.drive := by
    refine numbers.mono ?_
    rintro sector format address ⟨rfl, rfl⟩
    exact .number
  rw [tableOfContents_of_block mixedBlock, tableOfContents_of_block numberingBlock]
  exact numberingTells.tableOfContents_eq mixes

/-- A disc whose second track starts beyond minute 127, in a session of its own. -/
def longDisc : Disc where
  header := .ok (1, 2)
  track number :=
    .ok (if number = 1 then (0x01, 0) else if number = 2 then (0x41, 600000) else (0x41, 700000))
  lastSession := .ok (1, 600000)

/-- A drive with that disc, by the formats and addresses that it gives of the tracks, the lead-out
and the last session. -/
def longDrive (first second leadOut session : UInt8 × Int) : RawDevice where
  path := "/dev/sr0"
  location := ["dev", "sr0"]
  kind := .block
  behaviour :=
    { isBlockDevice := true
      drive :=
        { header := .ok (1, 2)
          track := fun number =>
            .ok (if number = 1 then ⟨0x01, first.1, first.2⟩
              else if number = 2 then ⟨0x41, second.1, second.2⟩
              else ⟨0x41, leadOut.1, leadOut.2⟩)
          lastSession := .ok ⟨session.2, 1, session.1⟩ } }

private theorem longDisc_toldBy {allowed : Nat → UInt8 → Int → Prop}
    {first second leadOut session : UInt8 × Int} (firstWritten : allowed 0 first.1 first.2)
    (secondWritten : allowed 600000 second.1 second.2)
    (leadOutWritten : allowed 700000 leadOut.1 leadOut.2)
    (sessionWritten : allowed 600000 session.1 session.2) :
    longDisc.ToldBy allowed (longDrive first second leadOut session).behaviour.drive where
  header := rfl
  track number control sector _ known := by
    simp only [longDisc, Except.ok.injEq] at known
    simp only [longDrive]
    split at known
    · next one =>
      cases known
      exact ⟨_, _, firstWritten, by rw [if_pos one]⟩
    · next more =>
      split at known
      · next two =>
        cases known
        exact ⟨_, _, secondWritten, by rw [if_neg more, if_pos two]⟩
      · next other =>
        cases known
        exact ⟨_, _, leadOutWritten, by rw [if_neg more, if_neg other]⟩
  failedTrack := by rintro _ _ _ ⟨⟩
  session := by
    rintro _ _ ⟨⟩
    exact ⟨_, _, sessionWritten, rfl⟩
  failedSession := by rintro _ ⟨⟩

theorem long_contents_ignore_address_format :
    let numbering := longDrive (1, 0) (1, 600000) (1, 700000) (1, 600000)
    let mixed := longDrive (2, -16776704) (2, -2147477883) (1, 700000) (2, 0x1685)
    longDisc.ToldBy WritesNumber numbering.behaviour.drive ∧
      longDisc.ToldBy Writes mixed.behaviour.drive ∧
      (Device.tableOfContents mixed).2 = .ok (some
        { sessions := [⟨0, 600000⟩, ⟨600000, 100000⟩]
          tracks := [⟨1, 0, 600000, .audio⟩, ⟨2, 600000, 100000, .data⟩] }) := by
  intro numbering mixed
  have opening : PlayedAt 0 0 2 0 := ⟨by decide, by decide, by decide⟩
  have far : PlayedAt 600000 133 22 0 := ⟨by decide, by decide, by decide⟩
  have numbers : longDisc.ToldBy WritesNumber numbering.behaviour.drive :=
    longDisc_toldBy ⟨rfl, rfl⟩ ⟨rfl, rfl⟩ ⟨rfl, rfl⟩ ⟨rfl, rfl⟩
  -- Left over bytes from 128 on make the first two words negative.
  have mixes : longDisc.ToldBy Writes mixed.behaviour.drive :=
    longDisc_toldBy (.time opening 0xff) (.time far 0x80) .number (.time far 0)
  refine ⟨numbers, mixes, ?_⟩
  rw [contents_ignore_address_format.2 longDisc numbering mixed rfl rfl numbers mixes]
  rfl

end RawDevice

end StorageMedia
