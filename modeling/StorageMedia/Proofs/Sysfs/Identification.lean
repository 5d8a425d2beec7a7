import Mathlib.Data.List.DropRight
import StorageMedia.Proofs.Checked.Device
import StorageMedia.Sysfs.Information

/-! # Identification strings have no padding

What is left of a text when its padding is taken off is given here by what it must be: a middle part
of the text with blanks only on both sides of it and no blank at either end. There is exactly one
such part, and it is empty exactly for a text of blanks, which is why trimming a second time changes
nothing and why a reported string is never empty. A page tells its serial number by the few bytes
that its header points at.
-/

namespace StorageMedia

namespace Text

variable {text inner : List Char}

/-! ## Trimmed text -/

/-- A text is a part of another one with only blanks around it, and neither starts nor ends with a
blank. -/
structure IsTrimmedOf (inner text : List Char) : Prop where
  cut : ∃ front back, text = front ++ inner ++ back ∧ (∀ c ∈ front, isBlank c = true) ∧
    ∀ c ∈ back, isBlank c = true
  first : ∀ c ∈ inner.head?, isBlank c = false
  last : ∀ c ∈ inner.getLast?, isBlank c = false

theorem trim_eq_rdropWhile (text : List Char) :
    trim text = (text.dropWhile isBlank).rdropWhile isBlank := rfl

/-- Trimming cuts a text in three. -/
theorem isTrimmedOf_trim (text : List Char) : IsTrimmedOf (trim text) text := by
  rw [trim_eq_rdropWhile]
  constructor
  · refine ⟨text.takeWhile isBlank, (text.dropWhile isBlank).rtakeWhile isBlank, ?_, ?_, ?_⟩
    · rw [List.append_assoc, List.rdropWhile_append_rtakeWhile, List.takeWhile_append_dropWhile]
    · intro c member
      exact List.mem_takeWhile_imp member
    · intro c member
      exact List.mem_rtakeWhile_imp member
  · intro c head
    -- Cutting at the back leaves the first character, if any, where the front was cut.
    obtain ⟨rest, split⟩ := List.rdropWhile_prefix isBlank (text.dropWhile isBlank)
    have first := List.head?_dropWhile_not isBlank text
    rw [← split, List.head?_append, Option.mem_def.mp head] at first
    simpa using first
  · intro c last
    obtain ⟨nonempty, rfl⟩ := List.mem_getLast?_eq_getLast last
    simpa using List.rdropWhile_last_not isBlank (text.dropWhile isBlank) nonempty

private theorem rdropWhile_append {back : List Char} (blank : ∀ c ∈ back, isBlank c = true) :
    (inner ++ back).rdropWhile isBlank = inner.rdropWhile isBlank := by
  rw [List.rdropWhile, List.reverse_append, List.dropWhile_append_of_pos]
  · rfl
  · intro c member
    exact blank c (List.mem_reverse.mp member)

/-- No other part of a text is like the one that trimming leaves. -/
theorem IsTrimmedOf.eq_trim (trimmed : IsTrimmedOf inner text) : inner = trim text := by
  obtain ⟨⟨front, back, rfl, frontBlank, backBlank⟩, first, last⟩ := trimmed
  rw [trim_eq_rdropWhile, List.append_assoc, List.dropWhile_append_of_pos frontBlank]
  -- The blanks behind an empty part go with those in front of it. Otherwise its first character
  -- stops the cut from the front, and its last one the cut from the back.
  cases inner with
  | nil =>
    have nothing : back.dropWhile isBlank = [] := List.dropWhile_eq_nil_iff.mpr backBlank
    rw [List.nil_append, nothing, List.rdropWhile_nil]
  | cons c rest =>
    have stays : (c :: (rest ++ back)).dropWhile isBlank = c :: (rest ++ back) :=
      List.dropWhile_cons_of_neg (by simp [first c rfl])
    rw [List.cons_append, stays, ← List.cons_append, rdropWhile_append backBlank, eq_comm,
      List.rdropWhile_eq_self_iff]
    intro nonempty
    simp [last _ (List.getLast?_eq_some_getLast nonempty)]

theorem trim_eq_iff : trim text = inner ↔ IsTrimmedOf inner text := by
  constructor
  · rintro rfl
    exact isTrimmedOf_trim text
  · exact fun trimmed => trimmed.eq_trim.symm

/-- Nothing is left to trim off a trimmed text. -/
theorem IsTrimmedOf.trim_eq_self (trimmed : IsTrimmedOf inner text) : trim inner = inner :=
  trim_eq_iff.mpr ⟨⟨[], [], by simp, by simp, by simp⟩, trimmed.first, trimmed.last⟩

/-- Only blanks leave nothing. -/
theorem trim_eq_nil_iff : trim text = [] ↔ ∀ c ∈ text, isBlank c = true := by
  rw [trim_eq_iff]
  constructor
  · rintro ⟨⟨front, back, rfl, frontBlank, backBlank⟩, -, -⟩ c member
    rw [List.append_nil] at member
    rcases List.mem_append.mp member with before | behind
    · exact frontBlank c before
    · exact backBlank c behind
  · intro blank
    exact ⟨⟨text, [], by simp, blank, by simp⟩, by simp, by simp⟩

end Text

namespace Sysfs

open Text

/-! ## Attributes -/

variable {bytes : List UInt8} {text : String}

/-- The bytes decode to nothing but white space and NUL characters. -/
def IsPadding (bytes : List UInt8) : Prop := ∀ c ∈ decodeLossy bytes, isBlank c = true

theorem identification?_eq_some_iff :
    identification? bytes = some text ↔
      text ≠ "" ∧ IsTrimmedOf text.toList (decodeLossy bytes) := by
  rw [← trim_eq_iff]
  constructor
  · intro found
    refine ⟨identification?_ne_empty found, ?_⟩
    simp only [identification?] at found
    split at found
    · cases found
    · cases found
      exact String.toList_ofList.symm
  · rintro ⟨nonempty, same⟩
    have left : text.toList.isEmpty = false := by simpa using nonempty
    simp [identification?, same, left]

theorem identification?_eq_none_iff : identification? bytes = none ↔ IsPadding bytes := by
  simp only [identification?, IsPadding, ← trim_eq_nil_iff]
  split
  · next empty => exact iff_of_true rfl (List.isEmpty_iff.mp empty)
  · next nonempty => exact iff_of_false (by rintro ⟨⟩) (by simpa using nonempty)

/-- What is reported of the contents of an attribute, if it can be read. -/
structure Reports (content : Option (List UInt8)) (reported : Option String) : Prop where
  absent : reported = none ↔ ∀ bytes, content = some bytes → IsPadding bytes
  present : ∀ text, reported = some text ↔
    ∃ bytes, content = some bytes ∧ text ≠ "" ∧ IsTrimmedOf text.toList (decodeLossy bytes)
  trimmed : ∀ text, reported = some text → trim text.toList = text.toList

theorem reports_bind (content : Option (List UInt8)) :
    Reports content (content.bind identification?) where
  absent := by
    cases content with
    | none => simp
    | some bytes => simp [identification?_eq_none_iff]
  present text := by
    rw [Option.bind_eq_some_iff]
    simp only [identification?_eq_some_iff]
  trimmed text reported := by
    obtain ⟨bytes, _, found⟩ := Option.bind_eq_some_iff.mp reported
    exact (identification?_eq_some_iff.mp found).2.trim_eq_self

/-! ## Pages -/

variable {page other : List UInt8}

/-- The bytes that the fourth byte of a page announces behind it, as far as the page has them. -/
def announced (page : List UInt8) : List UInt8 :=
  (page.drop 4).take (min (page[3]?.getD 0).toNat (page.length - 4))

/-- A page has a serial number if it goes on behind its header and its second byte tells its kind. -/
theorem unitSerialNumber?_eq (page : List UInt8) :
    unitSerialNumber? page =
      if 4 < page.length ∧ page[1]? = some 0x80 then some (announced page) else none := by
  match page with
  | [] | [_] | [_, _] | [_, _, _] => rfl
  | first :: code :: third :: length :: number =>
    have cut : announced (first :: code :: third :: length :: number) =
        number.take length.toNat := by
      simp [announced, ← List.take_take]
    have long : 4 < (first :: code :: third :: length :: number).length ↔ number ≠ [] := by
      rw [← List.length_pos_iff]
      simp only [List.length_cons]
      omega
    simp only [unitSerialNumber?, cut, long, unitSerialNumberPage]
    congr 1
    simp [and_comm]

/-- Nothing else of a page has a part in the serial number. -/
theorem serialOfPage?_congr (long : 4 < other.length ↔ 4 < page.length)
    (code : other[1]? = page[1]?) (number : announced other = announced page) :
    serialOfPage? other = serialOfPage? page := by
  rw [serialOfPage?, serialOfPage?, unitSerialNumber?_eq, unitSerialNumber?_eq, number, code]
  simp only [long]

/-! ## Disks -/

/-- What is reported of a disk is what its attributes tell. Its serial number is that of the page
exactly if the attribute for it has none. -/
structure Identifies (tree : FileTree) (directory : Location) (information : MediaInformation) :
    Prop where
  vendor : Reports (tree.read? directory ["device", "vendor"]) information.vendor
  model : Reports (tree.read? directory ["device", "model"]) information.model
  serial : ∀ bytes, tree.read? directory ["device", "serial"] = some bytes → ¬ IsPadding bytes →
    Reports (some bytes) information.serialNumber
  page : (∀ bytes, tree.read? directory ["device", "serial"] = some bytes → IsPadding bytes) →
    Reports ((tree.read? directory ["device", "vpd_pg80"]).bind unitSerialNumber?)
      information.serialNumber

theorem information_identifies (tree : FileTree) (directory : Location) :
    Identifies tree directory (information tree directory) where
  vendor := reports_bind _
  model := reports_bind _
  serial bytes read text := by
    cases reported : identification? bytes with
    | none => exact absurd (identification?_eq_none_iff.mp reported) text
    | some serial =>
      have same : (information tree directory).serialNumber = (some bytes).bind identification? := by
        simp [information, attribute?, read, reported]
      rw [same]
      exact reports_bind _
  page padding := by
    have none : attribute? tree directory ["device", "serial"] = none :=
      (reports_bind _).absent.mpr padding
    have same : (information tree directory).serialNumber =
        ((tree.read? directory ["device", "vpd_pg80"]).bind unitSerialNumber?).bind
          identification? := by
      simp only [information, none, Option.bind_assoc]
      rfl
    rw [same]
    exact reports_bind _

/-- Strings that identify a disk are the texts of its attributes without blanks at their ends, or
absent where nothing else is in them. The page of the serial number is read in its bounds only, and
tells no more than the bytes that it announces. -/
theorem strings_identify_disk :
    (∀ tree directory, Identifies tree directory (information tree directory)) ∧
    ∀ page, unitSerialNumberChecked page = .ok (unitSerialNumber? page) ∧
      unitSerialNumber? page =
        (if 4 < page.length ∧ page[1]? = some 0x80 then
          some ((page.drop 4).take (min (page[3]?.getD 0).toNat (page.length - 4)))
        else none) ∧
      ∀ other, (4 < other.length ↔ 4 < page.length) → other[1]? = page[1]? →
        announced other = announced page → serialOfPage? other = serialOfPage? page :=
  ⟨information_identifies, fun page => ⟨unitSerialNumberChecked_eq page, unitSerialNumber?_eq page,
    fun _ => serialOfPage?_congr⟩⟩

/-- A disk whose serial number is blank in its attribute, and padded in a page that announces more
bytes than it has. -/
def paddedDisk : FileTree where
  entries :=
    [(["sda"], .directory), (["sda", "device"], .directory),
      (["sda", "device", "serial"], .file (.ofArray #[0x20, 0x0a, 0])),
      (["sda", "device", "vpd_pg80"],
        .file (.ofArray #[0, 0x80, 0, 0xff, 0x20, 0x53, 0x33, 0x20, 0x5a, 0, 0]))]

theorem padded_strings_identify_disk :
    (information paddedDisk ["sda"]).vendor = none ∧
      (information paddedDisk ["sda"]).serialNumber = some "S3 Z" ∧
      serialOfPage? [7, 0x80, 7, 2, 0x53, 0x33, 0x20] =
        serialOfPage? [0, 0x80, 0, 2, 0x53, 0x33] := by
  obtain ⟨identifies, pages⟩ := strings_identify_disk
  obtain ⟨vendorRead, serialRead, pageRead⟩ :
      paddedDisk.read? ["sda"] ["device", "vendor"] = none ∧
      paddedDisk.read? ["sda"] ["device", "serial"] = some [0x20, 0x0a, 0] ∧
      (paddedDisk.read? ["sda"] ["device", "vpd_pg80"]).bind unitSerialNumber? =
        some [0x20, 0x53, 0x33, 0x20, 0x5a, 0, 0] := by
    refine ⟨?_, ?_, ?_⟩ <;>
      simp [FileTree.read?, FileTree.find, FileTree.node?, paddedDisk, FilePath.maximumNameSize] <;>
      rfl
  have decoded : decodeLossy [0x20, 0x53, 0x33, 0x20, 0x5a, 0, 0] =
      [' '] ++ ['S', '3', ' ', 'Z'] ++ ['\x00', '\x00'] := by simp [decodeLossy, decodeFirst]
  have blank : IsPadding [0x20, 0x0a, 0] := by
    have padding : decodeLossy [0x20, 0x0a, 0] = [' ', '\n', '\x00'] := by
      simp [decodeLossy, decodeFirst]
    rw [IsPadding, padding]
    exact List.all_eq_true.mp rfl
  have vendor := (identifies paddedDisk ["sda"]).vendor
  have serial := (identifies paddedDisk ["sda"]).page (by
    rw [serialRead]
    rintro _ ⟨⟩
    exact blank)
  rw [vendorRead] at vendor
  rw [pageRead] at serial
  refine ⟨vendor.absent.mpr (by rintro _ ⟨⟩), ?_, (pages _).2.2 _ (by decide) rfl rfl⟩
  refine (serial.present _).mpr ⟨_, rfl, by decide, ?_⟩
  rw [decoded]
  refine ⟨⟨_, _, rfl, List.all_eq_true.mp rfl, List.all_eq_true.mp rfl⟩, ?_, ?_⟩
  · rintro c ⟨⟩
    rfl
  · rintro c ⟨⟩
    rfl

end Sysfs

end StorageMedia
