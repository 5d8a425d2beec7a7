import StorageMedia.CommandLine.Arguments
import StorageMedia.CommandLine.Dump
import StorageMedia.CommandLine.Report
import StorageMedia.CommandLine.Run
import StorageMedia.Device.Basic
import StorageMedia.Device.Bytes
import StorageMedia.Device.Content
import StorageMedia.Device.Drive
import StorageMedia.Device.Either
import StorageMedia.Device.Host
import StorageMedia.Device.Raw
import StorageMedia.Device.Scripted
import StorageMedia.Device.Surface
import StorageMedia.Error
import StorageMedia.ErrorRanges
import StorageMedia.Event
import StorageMedia.Files.Machine
import StorageMedia.Files.Path
import StorageMedia.Files.Tree
import StorageMedia.Geometry
import StorageMedia.Geometry.Resolution
import StorageMedia.Handle.Basic
import StorageMedia.Handle.Console
import StorageMedia.Handle.Description
import StorageMedia.Handle.Operation
import StorageMedia.Handle.Query
import StorageMedia.Handle.Read
import StorageMedia.Handle.Seek
import StorageMedia.Handle.Session
import StorageMedia.Handle.Stream
import StorageMedia.IoError
import StorageMedia.Main
import StorageMedia.Media.Address
import StorageMedia.Media.Contents
import StorageMedia.Media.Information
import StorageMedia.Offset
import StorageMedia.Options
import StorageMedia.Outcome
import StorageMedia.Proofs.Device.Damaged
import StorageMedia.Proofs.Device.Inquiry
import StorageMedia.Proofs.Device.Medium
import StorageMedia.Proofs.Device.Steady
import StorageMedia.Proofs.ErrorRanges.Canonical
import StorageMedia.Proofs.ErrorRanges.Insert
import StorageMedia.Proofs.ErrorRanges.Recording
import StorageMedia.Proofs.ErrorRanges.Semilattice
import StorageMedia.Proofs.Handle.Abort
import StorageMedia.Proofs.Handle.Accounting
import StorageMedia.Proofs.Handle.Asking
import StorageMedia.Proofs.Handle.AskingOnce
import StorageMedia.Proofs.Handle.Atomicity
import StorageMedia.Proofs.Handle.Bounds
import StorageMedia.Proofs.Handle.Causes
import StorageMedia.Proofs.Handle.Clamping
import StorageMedia.Proofs.Handle.Consultation
import StorageMedia.Proofs.Handle.Delivery
import StorageMedia.Proofs.Handle.EntryPoints
import StorageMedia.Proofs.Handle.Knowledge
import StorageMedia.Proofs.Handle.Lifecycle
import StorageMedia.Proofs.Handle.Losses
import StorageMedia.Proofs.Handle.Openings
import StorageMedia.Proofs.Handle.Position
import StorageMedia.Proofs.Handle.Rejections
import StorageMedia.Proofs.Handle.Retries
import StorageMedia.Proofs.Handle.Renewal
import StorageMedia.Proofs.Handle.Requests
import StorageMedia.Proofs.Handle.Runs
import StorageMedia.Proofs.Handle.Signal
import StorageMedia.Proofs.Handle.Splitting
import StorageMedia.Proofs.Handle.Steps
import StorageMedia.Proofs.Stream.Handle
import StorageMedia.Proofs.Stream.Ideal
import StorageMedia.Proofs.Stream.Refinement
import StorageMedia.Proofs.Stream.Scripted
import StorageMedia.Proofs.Stream.Session
import StorageMedia.Proofs.Transfer.Abort
import StorageMedia.Proofs.Transfer.Bounds
import StorageMedia.Proofs.Transfer.Damaged
import StorageMedia.Proofs.Transfer.Delivery
import StorageMedia.Proofs.Transfer.Losses
import StorageMedia.Proofs.Transfer.Position
import StorageMedia.Proofs.Transfer.Progress
import StorageMedia.Proofs.Transfer.Rejections
import StorageMedia.Proofs.Transfer.Retries
import StorageMedia.Proofs.Transfer.Seeking
import StorageMedia.Proofs.Transfer.Steps
import StorageMedia.Sysfs.Bus
import StorageMedia.Sysfs.DeviceNumber
import StorageMedia.Sysfs.Identification
import StorageMedia.Sysfs.Information
import StorageMedia.Text.Blank
import StorageMedia.Text.Number
import StorageMedia.Text.Padded
import StorageMedia.Text.Quoted
import StorageMedia.Text.Utf8
import StorageMedia.Text.Visible
import StorageMedia.Transfer.Basic
import StorageMedia.Transfer.Buffer
import StorageMedia.Proofs.Transfer.Endings
import StorageMedia.Proofs.Handle.Endings
import StorageMedia.Proofs.CommandLine.Chunks
import StorageMedia.Proofs.Device.Raw
import StorageMedia.Proofs.CommandLine.Execution
import StorageMedia.Proofs.Checked.Basic
import StorageMedia.Proofs.Checked.ErrorRanges
import StorageMedia.Proofs.Checked.Transfer
import StorageMedia.Proofs.Checked.Handle
import StorageMedia.Proofs.Checked.Device
import StorageMedia.Proofs.Checked.Run
import StorageMedia.Proofs.Transfer.Blocks
import StorageMedia.Proofs.Handle.Blocks
import StorageMedia.Proofs.Device.Tolerable
import StorageMedia.Proofs.Device.Alike
import StorageMedia.Proofs.Device.Disturbed
import StorageMedia.Proofs.Transfer.Disturbed
import StorageMedia.Proofs.Handle.Disturbed
import StorageMedia.Proofs.Transfer.Completion
import StorageMedia.Proofs.Handle.Completion
import StorageMedia.Proofs.Transfer.Termination
import StorageMedia.Proofs.Handle.Termination
import StorageMedia.Proofs.ErrorRanges.Saturation
import StorageMedia.Proofs.Handle.Seeking
import StorageMedia.Proofs.Media.Layout
import StorageMedia.Proofs.Media.Drive
import StorageMedia.Proofs.Media.Addresses
import StorageMedia.Proofs.Sysfs.DeviceNumber
import StorageMedia.Proofs.Sysfs.Bus
import StorageMedia.Proofs.Sysfs.Identification
