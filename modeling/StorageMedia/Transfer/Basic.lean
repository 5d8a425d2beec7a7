import StorageMedia.ErrorRanges
import StorageMedia.Handle.Session
import StorageMedia.Options
import StorageMedia.Transfer.Buffer

/-! # Reading a range of the media

A transfer fills a buffer from consecutive offsets of the media. `Transfer.step` reads the device
once: bytes that arrive are kept, an interrupted read is tried again, and a failed read either ends
the transfer or, with tolerant options, is tried again until its block is given up. Blocks that
were given up are zeroed and listed apart; the caller records them once the transfer succeeded.

A step that goes on either keeps a byte, gives up a byte or uses up a retry of the next byte,
unless the device was interrupted. The steps of `Transfer.run` therefore suffice for every device
that interrupts at most `patience` reads.
-/

namespace StorageMedia

/-- Bounds of what is lost when a read at an offset of a request fails for good. -/
structure Loss where
  /-- First offset that is zeroed and recorded. -/
  start : Nat
  /-- Offset at which reading goes on. -/
  stop : Nat
deriving DecidableEq, Repr

/-- What is lost at `position` of the request from `start` to `stop`. Blocks are aligned to the
media, not to the request, and are cut at the ends of the request. -/
def Options.loss (options : Options) (start stop position : Nat) : Loss :=
  let granularity := options.errorGranularity
  let blockStart := if granularity = 0 then start else position / granularity * granularity
  let blockStop := if granularity = 0 then stop else rangeEnd blockStart granularity
  { start := if options.zeroOnError then max blockStart start else position
    stop := min blockStop stop }

/-- A transfer on its way. -/
structure Transfer (σ : Type) where
  session : Session σ
  /-- Whether an abort is signalled. -/
  aborted : Bool
  buffer : Buffer
  /-- Ranges that this transfer gave up. -/
  skipped : ErrorRanges := {}
  /-- Failed reads since the last range was given up. -/
  failures : Nat := 0
  /-- What happened so far, last event first. -/
  events : List (Event σ) := []

/-- What one step of a transfer comes to. -/
inductive TransferStep (σ : Type)
  /-- The transfer goes on. -/
  | more (transfer : Transfer σ)
  /-- The transfer has ended. -/
  | ended (transfer : Transfer σ) (result : Result Nat)

namespace Transfer

variable {σ : Type}

def report (transfer : Transfer σ) (fact : Notice) : Transfer σ :=
  { transfer with events := .notice fact :: transfer.events }

def loseTrack (transfer : Transfer σ) : Transfer σ :=
  { transfer with session := { transfer.session with position := none } }

/-- Keep bytes that a read delivered at an offset. -/
def keep (transfer : Transfer σ) (position count : Nat) : Transfer σ :=
  { transfer with
    buffer := transfer.buffer.advance count
    session := { transfer.session with position := some (position + count) } }

/-- Give up the block around an offset that cannot be read. -/
def giveUp (options : Options) (start : Nat) (transfer : Transfer σ) : Transfer σ :=
  let position := start + transfer.buffer.done
  let loss := options.loss start (position + transfer.buffer.free) position
  { transfer with
    buffer := transfer.buffer.zero (position - loss.start) (loss.stop - position)
    skipped := transfer.skipped.insert loss.start (loss.stop - loss.start)
    failures := 0
    events := .notice (.skipped (loss.stop - loss.start) loss.start (loss.stop - position)) ::
      transfer.events }

/-- Go on after a failed read that is tolerated. -/
def tolerate (options : Options) (start : Nat) (transfer : Transfer σ) (error : IoError) :
    Transfer σ :=
  let failures := transfer.failures + 1
  let noted := ({ transfer with failures } : Transfer σ).report
    (.readFailed failures (start + transfer.buffer.done) error)
  if options.errorRetries.toNat < failures then noted.giveUp options start else noted

variable [Device σ]

/-- Read the device into the free part of the buffer. -/
def readDevice (start : Nat) (transfer : Transfer σ) : Transfer σ × Except IoError Nat :=
  let device := transfer.session.device
  let reply := Device.read device transfer.buffer.free
  ({ transfer with
      session := { transfer.session with device := reply.device }
      aborted := transfer.aborted || reply.abort
      buffer := transfer.buffer.store reply.stored
      events := .read device (start + transfer.buffer.done) transfer.buffer.free reply.result ::
        transfer.events },
    reply.result)

/-- Go on after a device read with its outcome. -/
def settle (options : Options) (start : Nat) (transfer : Transfer σ) :
    Except IoError Nat → TransferStep σ
  | .ok count =>
    if count = 0 then .ended transfer (.ok transfer.buffer.done)
    else if transfer.buffer.free < count then
      .ended transfer.loseTrack (.error (.platform .countingRead (.excessiveCount count)))
    else .more (transfer.keep (start + transfer.buffer.done) count)
  | .error error =>
    if error.isInterrupted then .more transfer.loseTrack
    else if options.tolerateErrors && error.isRetryable then
      .more (transfer.loseTrack.tolerate options start error)
    else .ended transfer.loseTrack (.error (.platform .reading error))

/-- One step of the transfer whose buffer starts at `start` on the media. -/
def step (options : Options) (start : Nat) (transfer : Transfer σ) : TransferStep σ :=
  if transfer.buffer.free = 0 then .ended transfer (.ok transfer.buffer.done)
  else if transfer.aborted then
    .ended (transfer.report (.aborted (start + transfer.buffer.done))).loseTrack (.error .aborted)
  else
    let moved := transfer.session.moveTo (start + transfer.buffer.done)
    let ready : Transfer σ :=
      { transfer with
        session := moved.state
        aborted := transfer.aborted || moved.events.any Event.raises
        events := moved.events.reverse ++ transfer.events }
    match moved.result with
    | .ok () =>
      let (transfer, outcome) := ready.readDevice start
      transfer.settle options start outcome
    | .error cause => .ended ready (.error cause)
    | .pending => .ended ready .pending

/-- Run a transfer for a number of steps. -/
def run (options : Options) (start : Nat) : Nat → Transfer σ → Transfer σ × Result Nat
  | 0, transfer => (transfer, .pending)
  | steps + 1, transfer =>
    match transfer.step options start with
    | .more transfer => transfer.run options start steps
    | .ended transfer result => (transfer, result)

/-- Steps that a transfer of some bytes needs on a device that interrupts at most `patience` of its
reads: every byte is read or given up after at most its retries. -/
def steps (options : Options) (patience size : Nat) : Nat :=
  size * (options.errorRetries.toNat + 1) + patience + 1

/-- Fill a buffer from the media, starting at an offset. -/
def read (options : Options) (patience : Nat) (session : Session σ) (aborted : Bool) (start : Nat)
    (bytes : Bytes) : Transfer σ × Result Nat :=
  ({ session, aborted, buffer := .ofBytes bytes } : Transfer σ).run options start
    (steps options patience bytes.size)

/-- A transfer with nothing left to fill has succeeded, even if an abort is signalled. -/
theorem step_of_full {options : Options} {start : Nat} {transfer : Transfer σ}
    (full : transfer.buffer.free = 0) :
    transfer.step options start = .ended transfer (.ok transfer.buffer.done) := by
  simp [step, full]

/-- More steps do not change the end of a transfer that has ended. -/
theorem run_add {options : Options} {start : Nat} {transfer : Transfer σ} {count : Nat}
    (extra : Nat) (ended : (transfer.run options start count).2 ≠ .pending) :
    transfer.run options start (count + extra) = transfer.run options start count := by
  induction count generalizing transfer with
  | zero => exact absurd rfl ended
  | succ count ih =>
    rw [show count + 1 + extra = count + extra + 1 by omega]
    simp only [run] at ended ⊢
    split
    · next more => exact ih (by simpa [more] using ended)
    · rfl

end Transfer

end StorageMedia
