import StorageMedia.Handle.Basic

/-! # Describing a handle

A handle is described on one line for diagnostics: its path, offset, geometry if that is known,
options and the ranges that its reads gave up, each under its name and nested in braces.
-/

namespace StorageMedia

namespace Description

/-- A record with named parts. -/
def record (name : String) (parts : List (String × String)) : String :=
  name ++ " \x7b " ++ ", ".intercalate (parts.map fun part => part.1 ++ ": " ++ part.2) ++ " \x7d"

/-- A value that may be missing. -/
def optional {α : Type} (describe : α → String) : Option α → String
  | none => "None"
  | some value => "Some(" ++ describe value ++ ")"

def flag : Bool → String
  | true => "true"
  | false => "false"

end Description

open Description

def Geometry.describe (geometry : Geometry) : String :=
  record "Geometry"
    [("media_size", toString geometry.mediaSize.toNat),
     ("bytes_per_sector", optional (toString ·.toNat) geometry.bytesPerSector),
     ("max_transfer_size", optional (toString ·.toNat) geometry.maxTransferSize)]

def Options.describe (options : Options) : String :=
  record "Options"
    [("tolerate_errors", flag options.tolerateErrors),
     ("error_retries", toString options.errorRetries.toNat),
     ("error_granularity", toString options.errorGranularity),
     ("zero_on_error", flag options.zeroOnError),
     ("sequential_access", flag options.sequentialAccess),
     ("default_read_size", toString options.defaultReadSize)]

def ErrorRange.describe (range : ErrorRange) : String :=
  record "ErrorRange" [("offset", toString range.offset), ("size", toString range.size)]

def ErrorRanges.describe (ranges : ErrorRanges) : String :=
  record "ErrorRanges"
    [("ranges", "[" ++ ", ".intercalate (ranges.toList.map ErrorRange.describe) ++ "]")]

def Handle.describe {σ : Type} (handle : Handle σ) : String :=
  record "DeviceHandle"
    [("path", optional Text.quote handle.filename?),
     ("cursor", toString handle.cursor),
     ("geometry", optional Geometry.describe (handle.session.bind (·.knownGeometry))),
     ("options", handle.options.describe),
     ("errors", handle.errors.describe)]

end StorageMedia
