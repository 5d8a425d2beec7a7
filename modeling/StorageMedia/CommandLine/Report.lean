import StorageMedia.ErrorRanges
import StorageMedia.Geometry
import StorageMedia.Media.Contents
import StorageMedia.Media.Information
import StorageMedia.Text.Number
import StorageMedia.Text.Padded

/-! # The report on a device

The report tells what is known about a device, line by line: its identification and geometry, then
the sessions and tracks of an optical disc and, at the end of a dump, the ranges that could not be
read. Lists are tables with a heading and a rule; an empty list is left out altogether.
-/

namespace StorageMedia.CommandLine

/-- A value, or a remark that it is not known. -/
def orUnknown : Option String → String
  | some text => text
  | none => "(unknown)"

def rule (width : Nat) : String := String.ofList (List.replicate width '-')

/-- A row of left-aligned columns, each with its width, apart by a space. -/
def row (cells : List (Nat × String)) : String :=
  " ".intercalate (cells.map fun cell => Text.column cell.1 cell.2)

/-- Lines on the sectors of a media. -/
def sectorLines (geometry : Geometry) : List String :=
  match geometry.bytesPerSector with
  | none => ["Bytes per sector: (unknown)"]
  | some size =>
    s!"Bytes per sector: {size}" ::
      match geometry.numberOfSectors with
      | .ok (some count) => [s!"Number of sectors: {count}"]
      | _ => []

def transferLine (geometry : Geometry) : String :=
  match geometry.maxTransferSize with
  | none => "Maximum transfer size: (unknown)"
  | some size => s!"Maximum transfer size: {size} bytes"

def deviceLines (path : String) (information : MediaInformation) (geometry : Geometry) :
    List String :=
  [s!"Device: {path}",
   s!"Bus type: {information.busType.text}",
   s!"Vendor: {orUnknown information.vendor}",
   s!"Model: {orUnknown information.model}",
   s!"Serial: {orUnknown information.serialNumber}",
   s!"Media type: {information.mediaType.text}",
   s!"Media size: {geometry.mediaSize} bytes (0x{Text.hex geometry.mediaSize.toNat})"] ++
    sectorLines geometry ++ [transferLine geometry]

def sessionRow (session : SectorRange) (index : Nat) : String :=
  row [(6, toString index), (14, toString session.start), (14, toString (session.stop - 1)),
    (14, toString session.count)]

def sessionLines (sessions : List SectorRange) : List String :=
  if sessions.isEmpty then []
  else
    ["", s!"Sessions: {sessions.length}",
     row [(6, "Index"), (14, "First sector"), (14, "Last sector"), (14, "Sectors")], rule 50] ++
      sessions.zipIdx.map fun entry => sessionRow entry.1 entry.2

def trackRow (track : Track) : String :=
  row [(6, toString track.number), (6, track.type.text), (14, toString track.start),
    (14, toString (track.start + track.count - 1)), (14, toString track.count)]

def trackLines (tracks : List Track) : List String :=
  if tracks.isEmpty then []
  else
    ["", s!"Tracks: {tracks.length}",
     row [(6, "Track"), (6, "Type"), (14, "First sector"), (14, "Last sector"), (14, "Sectors")],
     rule 57] ++ tracks.map trackRow

def errorRow (range : ErrorRange) (index : Nat) : String :=
  " ".intercalate [Text.column 6 (toString index), "0x" ++ Text.zeroPaddedHex 16 range.offset,
    "0x" ++ Text.zeroPaddedHex 16 range.size]

def errorLines (errors : ErrorRanges) : List String :=
  if errors.isEmpty then []
  else
    ["", "Read errors:", row [(6, "Index"), (20, "Offset"), (20, "Size")], rule 48] ++
      (errors.toList.zipIdx.map fun entry => errorRow entry.1 entry.2) ++
      [rule 48, s!"Total: {errors.size} error(s)"]

end StorageMedia.CommandLine
