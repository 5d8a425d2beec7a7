import StorageMedia.IoError
import StorageMedia.Offset

/-! # Sessions and tracks of an optical disc

A drive lists the first sector of each track, the sector where the lead-out starts and, for a disc
with more than one session, the first sector of the last session. `TableOfContents.ofEntries`
derives the layout: each track ends where the next one starts and the last one at the lead-out.
Nothing tells earlier sessions apart, so they are one range.
-/

namespace StorageMedia

/-- A run of sectors. -/
structure SectorRange where
  start : Nat
  count : Nat
deriving DecidableEq, Repr

/-- Sector after the last one of a run, held at the largest offset. -/
def SectorRange.stop (range : SectorRange) : Nat := rangeEnd range.start range.count

/-- What a track holds. -/
inductive TrackType
  | audio
  | data
deriving DecidableEq, Repr

def TrackType.text : TrackType → String
  | audio => "audio"
  | data => "data"

/-- A track of an optical disc, under the number that is recorded on the disc. -/
structure Track where
  number : Nat
  start : Nat
  count : Nat
  type : TrackType
deriving DecidableEq, Repr

/-- Sessions and tracks of an optical disc, none for other media. -/
structure TableOfContents where
  sessions : List SectorRange := []
  tracks : List Track := []
deriving DecidableEq, Repr

/-- A track as the drive lists it. -/
structure TocEntry where
  number : Nat
  start : Nat
  isData : Bool
deriving DecidableEq, Repr

def TocEntry.type (entry : TocEntry) : TrackType := if entry.isData then .data else .audio

namespace TableOfContents

/-- Sector where the track before some entries ends: the start of the next one, or the lead-out. -/
def nextStart (leadOut : Nat) : List TocEntry → Nat
  | [] => leadOut
  | entry :: _ => entry.start

/-- Tracks of some entries. The first entry that starts after its end is refused. -/
def tracksOf (leadOut : Nat) : List TocEntry → Except IoError (List Track)
  | [] => .ok []
  | entry :: rest =>
    let stop := nextStart leadOut rest
    if stop < entry.start then .error (.trackOrder entry.number stop entry.start)
    else (tracksOf leadOut rest).map (⟨entry.number, entry.start, stop - entry.start, entry.type⟩ :: ·)

/-- Sessions between the first sector of a disc and its lead-out. The last session is a range of
its own when it starts strictly between the two. -/
def sessionsOf (first leadOut : Nat) : Option Nat → List SectorRange
  | none => [⟨first, leadOut - first⟩]
  | some last =>
    if first < last ∧ last < leadOut then [⟨first, last - first⟩, ⟨last, leadOut - last⟩]
    else [⟨first, leadOut - first⟩]

/-- Layout of a disc from its entries, its lead-out and the start of its last session. -/
def ofEntries (entries : List TocEntry) (leadOut : Nat) (lastSession : Option Nat) :
    Except IoError TableOfContents :=
  (tracksOf leadOut entries).map fun tracks =>
    { tracks
      sessions := match entries with
        | [] => []
        | entry :: _ => sessionsOf entry.start leadOut lastSession }

@[simp] theorem ofEntries_nil (leadOut : Nat) (lastSession : Option Nat) :
    ofEntries [] leadOut lastSession = .ok {} := rfl

end TableOfContents

end StorageMedia
