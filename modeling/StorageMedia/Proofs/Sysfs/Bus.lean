import StorageMedia.Sysfs.Information

/-! # The outermost bus decides

Names of busses are given here by their form, and the bus of a device by the place at which such a
name stands first in its path. No name has the form of two busses, so that the order in which the
forms are tried is of no account, and names in front of the first one that has a form are as good as
absent.
-/

namespace StorageMedia

namespace BusType

variable {word name : String} {bus other : BusType} {path before after : List String}
  {subsystem : Option (List String)}

/-! ## Names of busses -/

/-- A name is a word and one or more ASCII digits behind it, and nothing else. -/
def Numbers (word name : String) : Prop :=
  ∃ digits, digits ≠ [] ∧ (∀ c ∈ digits, '0' ≤ c ∧ c ≤ '9') ∧ name.toList = word.toList ++ digits

/-- The names of each bus. -/
inductive Names : BusType → String → Prop
  | usb {name : String} (numbers : Numbers "usb" name) : Names .usb name
  | fireWire {name : String} (numbers : Numbers "fw" name) : Names .fireWire name
  | fireWireItself : Names .fireWire "firewire"
  | ata {name : String} (numbers : Numbers "ata" name) : Names .ata name

/-- A name that is of no bus. -/
def IsPlain (name : String) : Prop := ∀ bus, ¬ Names bus name

theorem isNumbered_iff : isNumbered word.toList name.toList = true ↔ Numbers word name := by
  simp only [isNumbered, Bool.and_eq_true, bne_iff_ne, List.all_eq_true, decide_eq_true_eq]
  constructor
  · rintro ⟨⟨begins, longer⟩, digits⟩
    obtain ⟨rest, split⟩ := List.isPrefixOf_iff_prefix.mp begins
    rw [← split] at longer digits
    rw [List.drop_left] at digits
    refine ⟨rest, ?_, digits, split.symm⟩
    rintro rfl
    exact longer (by rw [List.append_nil])
  · rintro ⟨rest, nonempty, digits, split⟩
    rw [split, List.drop_left, List.length_append]
    refine ⟨⟨List.isPrefixOf_iff_prefix.mpr (List.prefix_append ..), ?_⟩, digits⟩
    have := List.length_pos_iff.mpr nonempty
    omega

theorem Numbers.head?_eq (numbers : Numbers word name) (nonempty : word.toList ≠ []) :
    name.toList.head? = word.toList.head? := by
  obtain ⟨digits, _, _, split⟩ := numbers
  rw [split, List.head?_append, Option.or_of_isSome (by simpa using nonempty)]

/-- The first letter of a name tells the bus. -/
theorem Names.initial (names : Names bus name) :
    (bus, name.toList.head?) ∈
      [(BusType.usb, some 'u'), (BusType.fireWire, some 'f'), (BusType.ata, some 'a')] := by
  cases names with
  | usb numbers =>
    rw [numbers.head?_eq (by decide)]
    decide
  | fireWire numbers =>
    rw [numbers.head?_eq (by decide)]
    decide
  | fireWireItself => decide
  | ata numbers =>
    rw [numbers.head?_eq (by decide)]
    decide

/-- A name is of one bus at most. -/
theorem Names.unique (names : Names bus name) (also : Names other name) : other = bus := by
  have initial := names.initial
  have otherInitial := also.initial
  -- The words of the three busses begin with three different letters.
  simp only [List.mem_cons, Prod.mk.injEq, List.not_mem_nil, or_false] at initial otherInitial
  rcases initial with ⟨rfl, letter⟩ | ⟨rfl, letter⟩ | ⟨rfl, letter⟩ <;>
    simpa [letter] using otherInitial

theorem names_of_ofName? (found : ofName? name = some bus) : Names bus name := by
  rw [ofName?] at found
  split at found
  · next numbered =>
    cases found
    exact .usb (isNumbered_iff.mp numbered)
  split at found
  · next either =>
    cases found
    rcases (Bool.or_eq_true ..).mp either with numbered | itself
    · exact .fireWire (isNumbered_iff.mp numbered)
    · obtain rfl := eq_of_beq itself
      exact .fireWireItself
  split at found
  · next numbered =>
    cases found
    exact .ata (isNumbered_iff.mp numbered)
  · cases found

theorem ofName?_ne_none (names : Names bus name) : ofName? name ≠ none := by
  cases names with
  | usb numbers =>
    have numbered : isNumbered ['u', 's', 'b'] name.toList = true := isNumbered_iff.mpr numbers
    simp [ofName?, numbered]
  | fireWire numbers =>
    have numbered : isNumbered ['f', 'w'] name.toList = true := isNumbered_iff.mpr numbers
    -- The bus of an earlier test is a bus as well; which one it is plays no part here.
    simp only [ofName?, numbered, Bool.true_or, if_true]
    split <;> simp
  | fireWireItself => decide
  | ata numbers =>
    have numbered : isNumbered ['a', 't', 'a'] name.toList = true := isNumbered_iff.mpr numbers
    simp only [ofName?, numbered, if_true]
    split
    · simp
    · split <;> simp

/-- A name stands for a bus exactly if it has the form of a name of the bus. -/
theorem ofName?_eq_some_iff : ofName? name = some bus ↔ Names bus name := by
  refine ⟨names_of_ofName?, fun names => ?_⟩
  obtain ⟨other, found⟩ := Option.ne_none_iff_exists'.mp (ofName?_ne_none names)
  rw [found, names.unique (names_of_ofName? found)]

theorem ofName?_eq_none_iff : ofName? name = none ↔ IsPlain name := by
  simp only [IsPlain, ← ofName?_eq_some_iff, Option.eq_none_iff_forall_ne_some, ne_eq]

/-! ## Paths -/

/-- Which bus a device is on, by the names in its path and in the path of its subsystem. Either path
may be missing. -/
inductive IsOn : Option (List String) → Option (List String) → BusType → Prop
  /-- The first name of a bus decides, whatever comes behind it. -/
  | named {before after : List String} {name : String} {bus : BusType}
      {subsystem : Option (List String)} (first : ∀ earlier ∈ before, IsPlain earlier)
      (names : Names bus name) : IsOn (some (before ++ name :: after)) subsystem bus
  | scsi {path above : List String} (plain : ∀ name ∈ path, IsPlain name) :
      IsOn (some path) (some (above ++ ["scsi"])) .scsi
  | unknown {path : List String} {subsystem : Option (List String)}
      (plain : ∀ name ∈ path, IsPlain name)
      (other : ∀ above, subsystem ≠ some (above ++ ["scsi"])) : IsOn (some path) subsystem .unknown
  | unresolved {subsystem : Option (List String)} : IsOn none subsystem .unknown

theorem findSome?_of_plain (plain : ∀ name ∈ path, IsPlain name) : path.findSome? ofName? = none :=
  List.findSome?_eq_none_iff.mpr fun name member => ofName?_eq_none_iff.mpr (plain name member)

/-- A device is on the bus that is found for its path: either some name decides or all are plain. -/
theorem isOn_ofDevice (path : List String) (subsystem : Option (List String)) :
    IsOn (some path) subsystem (ofDevice path subsystem) := by
  simp only [ofDevice]
  cases found : path.findSome? ofName? with
  | some bus =>
    obtain ⟨before, name, after, rfl, named, earlier⟩ := List.findSome?_eq_some_iff.mp found
    exact .named (fun name member => ofName?_eq_none_iff.mp (earlier name member))
      (ofName?_eq_some_iff.mp named)
  | none =>
    have plain name (member : name ∈ path) : IsPlain name :=
      ofName?_eq_none_iff.mp (List.findSome?_eq_none_iff.mp found name member)
    cases subsystem with
    | none => exact .unknown plain (by rintro above ⟨⟩)
    | some names =>
      dsimp only
      split
      · next last =>
        obtain ⟨above, rfl⟩ := List.getLast?_eq_some_iff.mp last
        exact .scsi plain
      · next last =>
        refine .unknown plain ?_
        rintro above ⟨⟩
        exact last List.getLast?_concat

theorem ofDevice_of_isOn (on : IsOn (some path) subsystem bus) : ofDevice path subsystem = bus := by
  cases on with
  | @named before after name _ _ first names =>
    have found : (before ++ name :: after).findSome? ofName? = some bus :=
      List.findSome?_eq_some_iff.mpr ⟨before, name, after, rfl, ofName?_eq_some_iff.mpr names,
        fun earlier member => ofName?_eq_none_iff.mpr (first earlier member)⟩
    simp only [ofDevice, found]
  | scsi plain => simp only [ofDevice, findSome?_of_plain plain, List.getLast?_concat, if_true]
  | unknown plain other =>
    simp only [ofDevice, findSome?_of_plain plain]
    cases subsystem with
    | none => rfl
    | some names =>
      refine if_neg fun last => ?_
      obtain ⟨above, rfl⟩ := List.getLast?_eq_some_iff.mp last
      exact other above rfl

/-- The bus of a path is the one that the device is on. -/
theorem ofDevice_eq_iff : ofDevice path subsystem = bus ↔ IsOn (some path) subsystem bus := by
  refine ⟨?_, ofDevice_of_isOn⟩
  rintro rfl
  exact isOn_ofDevice path subsystem

/-- A name that is of no bus may as well be missing. -/
theorem ofDevice_skip (plain : IsPlain name) :
    ofDevice (before ++ name :: after) subsystem = ofDevice (before ++ after) subsystem := by
  have skipped : ofName? name = none := ofName?_eq_none_iff.mpr plain
  simp only [ofDevice, List.findSome?_append, List.findSome?_cons, skipped]

end BusType

namespace Sysfs

open BusType

/-- The bus of a disk is that of the first name of a bus in the path of its device. Without one, the
subsystem decides whether the device is a SCSI device. -/
theorem outermost_bus_decides :
    (∀ tree directory bus, busType tree directory = bus ↔
      IsOn (tree.find FileTree.maximumLinks directory ["device"]).toOption
        (tree.find FileTree.maximumLinks directory ["device", "subsystem"]).toOption bus) ∧
    (∀ path subsystem bus, ofDevice path subsystem = bus ↔ IsOn (some path) subsystem bus) ∧
    (∀ before name after subsystem, IsPlain name →
      ofDevice (before ++ name :: after) subsystem = ofDevice (before ++ after) subsystem) ∧
    ∀ name ∈ ["usb", "usbx", "usb2-1", "ata", "xata1"], IsPlain name := by
  refine ⟨?_, fun _ _ _ => ofDevice_eq_iff, fun _ _ _ _ plain => ofDevice_skip plain, ?_⟩
  · intro tree directory bus
    rw [busType]
    cases tree.find FileTree.maximumLinks directory ["device"] with
    | error error =>
      constructor
      · rintro rfl
        exact .unresolved
      · rintro ⟨⟩
        rfl
    | ok path => exact ofDevice_eq_iff
  · intro name member
    refine ofName?_eq_none_iff.mp ?_
    revert name
    decide

/-- A disk behind a FireWire adapter in front of a USB hub, under a name that only looks like one. -/
def adapterTree : FileTree where
  entries :=
    [(["block"], .directory), (["block", "sdb"], .directory),
      (["block", "sdb", "device"], .link (.ofText "../../devices/usbx/fw0/usb2")),
      (["devices"], .directory), (["devices", "usbx"], .directory),
      (["devices", "usbx", "fw0"], .directory), (["devices", "usbx", "fw0", "usb2"], .directory)]

theorem adapter_bus_decides :
    busType adapterTree ["block", "sdb"] = .fireWire ∧ IsPlain "usbx" ∧
      ∀ subsystem, ofDevice ["devices", "usbx", "fw0", "usb2"] subsystem =
        ofDevice ["devices", "fw0", "usb2"] subsystem := by
  have target : FilePath.ofText "../../devices/usbx/fw0/usb2" =
      { isAbsolute := false, names := ["..", "..", "devices", "usbx", "fw0", "usb2"] } := rfl
  have found : adapterTree.find FileTree.maximumLinks ["block", "sdb"] ["device"] =
      .ok (["devices", "usbx"] ++ "fw0" :: ["usb2"]) := by
    simp [FileTree.find, FileTree.node?, adapterTree, target, FilePath.steps,
      FileTree.maximumLinks, FilePath.maximumNameSize]
    rfl
  obtain ⟨decides, _, skips, plain⟩ := outermost_bus_decides
  have lookalike : IsPlain "usbx" := plain "usbx" (by decide)
  have numbers : Numbers "fw" "fw0" := ⟨['0'], by decide, by simp, rfl⟩
  refine ⟨(decides ..).mpr ?_, lookalike, fun _ => skips ["devices"] _ _ _ lookalike⟩
  rw [found]
  refine .named ?_ (.fireWire numbers)
  rintro name (_ | ⟨_, _ | ⟨_, ⟨⟩⟩⟩)
  · exact ofName?_eq_none_iff.mp (by decide)
  · exact lookalike

end Sysfs

end StorageMedia
