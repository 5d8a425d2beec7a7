/-! # Failures of devices and files

A device, a file or a stream fails with a numbered error of the operating system, with one of the
faults that this library finds itself, or with an error that the caller of a device made up. Each
failure has a kind, on which callers decide what to do next, and a text for people.
-/

namespace StorageMedia

/-- Kind of a failure, shared by all sources of failures. -/
inductive IoErrorKind
  | addrInUse
  | addrNotAvailable
  | alreadyExists
  | argumentListTooLong
  | brokenPipe
  | connectionAborted
  | connectionRefused
  | connectionReset
  | crossesDevices
  | deadlock
  | directoryNotEmpty
  | executableFileBusy
  | fileTooLarge
  | filesystemLoop
  | hostUnreachable
  | inProgress
  | inputOutputError
  | interrupted
  | invalidData
  | invalidFilename
  | invalidInput
  | isADirectory
  | networkDown
  | networkUnreachable
  | notADirectory
  | notConnected
  | notFound
  | notSeekable
  | other
  | outOfMemory
  | permissionDenied
  | quotaExceeded
  | readOnlyFilesystem
  | resourceBusy
  | staleNetworkFileHandle
  | storageFull
  | timedOut
  | tooManyLinks
  | uncategorized
  | unexpectedEof
  | unsupported
  | wouldBlock
  | writeZero
deriving DecidableEq, Repr

/-! ## Numbered errors of the operating system -/

namespace SystemError

def notPermitted : Int := 1

def noEntry : Int := 2

def inputOutput : Int := 5

def noDeviceOrAddress : Int := 6

def noDevice : Int := 19

def notDirectory : Int := 20

def isDirectory : Int := 21

def invalidArgument : Int := 22

def unknownRequest : Int := 25

def illegalSeek : Int := 29

def nameTooLong : Int := 36

def notImplemented : Int := 38

def tooManyLinks : Int := 40

def noMedium : Int := 123

/-- Text and kind of the numbered errors that have a name. -/
def table : List (Int × String × IoErrorKind) :=
  [(0, "Success", .uncategorized),
   (1, "Operation not permitted", .permissionDenied),
   (2, "No such file or directory", .notFound),
   (4, "Interrupted system call", .interrupted),
   (5, "Input/output error", .inputOutputError),
   (6, "No such device or address", .uncategorized),
   (9, "Bad file descriptor", .uncategorized),
   (11, "Resource temporarily unavailable", .wouldBlock),
   (13, "Permission denied", .permissionDenied),
   (14, "Bad address", .uncategorized),
   (16, "Device or resource busy", .resourceBusy),
   (17, "File exists", .alreadyExists),
   (19, "No such device", .uncategorized),
   (20, "Not a directory", .notADirectory),
   (21, "Is a directory", .isADirectory),
   (22, "Invalid argument", .invalidInput),
   (25, "Inappropriate ioctl for device", .uncategorized),
   (27, "File too large", .fileTooLarge),
   (28, "No space left on device", .storageFull),
   (29, "Illegal seek", .notSeekable),
   (30, "Read-only file system", .readOnlyFilesystem),
   (36, "File name too long", .invalidFilename),
   (38, "Function not implemented", .unsupported),
   (40, "Too many levels of symbolic links", .filesystemLoop),
   (61, "No data available", .uncategorized),
   (75, "Value too large for defined data type", .uncategorized),
   (84, "Invalid or incomplete multibyte or wide character", .uncategorized),
   (95, "Operation not supported", .unsupported),
   (110, "Connection timed out", .timedOut),
   (121, "Remote I/O error", .uncategorized),
   (123, "No medium found", .uncategorized),
   (124, "Wrong medium type", .uncategorized)]

def text (code : Int) : String :=
  match table.find? (·.1 == code) with
  | some (_, text, _) => text
  | none => s!"Unknown error {code}"

def kind (code : Int) : IoErrorKind :=
  match table.find? (·.1 == code) with
  | some (_, _, kind) => kind
  | none => .uncategorized

end SystemError

/-! ## Failures -/

/-- A failure of a device, a file or a stream. -/
inductive IoError
  /-- A numbered error of the operating system. -/
  | system (code : Int)
  /-- A device reported more bytes than it was asked for. -/
  | excessiveCount (count : Nat)
  /-- A drive reported an address in a format other than sectors or minutes. -/
  | addressFormat (format : Nat)
  /-- A drive reported an address before the first sector of the disc. -/
  | addressBeforeDisc (sector : Int)
  /-- A drive reported a track that ends before it starts. -/
  | trackOrder (number stop start : Nat)
  /-- A path holds a NUL character, which no file name can. -/
  | nulInPath
  /-- The data ended before a buffer was full. -/
  | unfilledBuffer
  /-- A failure with a kind and a text of the caller's choice. -/
  | custom (kind : IoErrorKind) (text : String)
deriving DecidableEq, Repr

namespace IoError

def kind : IoError → IoErrorKind
  | system code => SystemError.kind code
  | excessiveCount _ | addressFormat _ | addressBeforeDisc _ | trackOrder .. => .invalidData
  | nulInPath => .invalidInput
  | unfilledBuffer => .unexpectedEof
  | custom kind _ => kind

/-- Number that the operating system gave a failure. -/
def code? : IoError → Option Int
  | system code => some code
  | _ => none

def message : IoError → String
  | system code => s!"{SystemError.text code} (os error {code})"
  | excessiveCount count => s!"{count} bytes"
  | addressFormat format => s!"unsupported TOC address format: {format}"
  | addressBeforeDisc sector => s!"TOC address before the start of the disc: {sector}"
  | trackOrder number stop start =>
    s!"track {number} ends at sector {stop} before it starts at {start}"
  | nulInPath => "file name contained an unexpected NUL byte"
  | unfilledBuffer => "failed to fill whole buffer"
  | custom _ text => text

/-- Whether a call was interrupted before it did anything. -/
def isInterrupted (error : IoError) : Bool := error.kind == .interrupted

/-- Whether a failed read may succeed when it is tried again. A device that is gone, that refuses
reads or that cannot seek fails the same way every time. -/
def isRetryable (error : IoError) : Bool :=
  error.code? != some SystemError.illegalSeek && error.code? != some SystemError.notPermitted &&
    error.code? != some SystemError.noDeviceOrAddress && error.code? != some SystemError.noDevice

end IoError

end StorageMedia
