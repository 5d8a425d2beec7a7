import StorageMedia.Handle.Basic

/-! # Questions about the media of a handle

Geometry, identification and contents of the media behind an open handle. The session asks the
device once and keeps the answer.
-/

namespace StorageMedia.Handle

variable {σ : Type} [Device σ]

/-- Size and granularity of the media. -/
def geometry (handle : Handle σ) : Outcome σ (Handle σ) Geometry :=
  handle.onSession Session.geometry

def mediaSize (handle : Handle σ) : Outcome σ (Handle σ) UInt64 :=
  handle.geometry.map (·.mediaSize)

/-- Size of a logical sector, if the device reports one. -/
def bytesPerSector (handle : Handle σ) : Outcome σ (Handle σ) (Option UInt32) :=
  handle.geometry.map (·.bytesPerSector)

/-- Size of the largest transfer, if the device reports one. -/
def maxTransferSize (handle : Handle σ) : Outcome σ (Handle σ) (Option UInt32) :=
  handle.geometry.map (·.maxTransferSize)

/-- Media, bus and identification strings of the device. -/
def mediaInformation (handle : Handle σ) : Outcome σ (Handle σ) MediaInformation :=
  handle.onSession Session.mediaInformation

def mediaType (handle : Handle σ) : Outcome σ (Handle σ) MediaType :=
  handle.mediaInformation.map (·.mediaType)

def busType (handle : Handle σ) : Outcome σ (Handle σ) BusType :=
  handle.mediaInformation.map (·.busType)

/-- Identification string of a name. -/
def informationValue (handle : Handle σ) (identifier : String) :
    Outcome σ (Handle σ) (Option String) :=
  if identifier = "" then .refuse (.invalidArgument .emptyIdentifier) handle
  else handle.mediaInformation.map (·.value? identifier)

def tableOfContents (handle : Handle σ) : Outcome σ (Handle σ) TableOfContents :=
  handle.onSession Session.tableOfContents

/-- Number of sessions, zero for media other than optical discs. -/
def numberOfSessions (handle : Handle σ) : Outcome σ (Handle σ) Nat :=
  handle.tableOfContents.map (·.sessions.length)

/-- Number of tracks, zero for media other than optical discs. -/
def numberOfTracks (handle : Handle σ) : Outcome σ (Handle σ) Nat :=
  handle.tableOfContents.map (·.tracks.length)

def sessionAt (handle : Handle σ) (index : Nat) : Outcome σ (Handle σ) SectorRange :=
  handle.tableOfContents.andThen fun contents handle =>
    match contents.sessions[index]? with
    | some session => .answer session handle
    | none => .refuse (.invalidArgument (.sessionIndex index)) handle

def trackAt (handle : Handle σ) (index : Nat) : Outcome σ (Handle σ) Track :=
  handle.tableOfContents.andThen fun contents handle =>
    match contents.tracks[index]? with
    | some track => .answer track handle
    | none => .refuse (.invalidArgument (.trackIndex index)) handle

end StorageMedia.Handle
