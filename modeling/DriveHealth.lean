import DriveHealth.Farm.Sink
import DriveHealth.Main
import DriveHealth.Proofs.Ata.Addressed
import DriveHealth.Proofs.Attribute.Decoded
import DriveHealth.Proofs.Attribute.Views
import DriveHealth.Proofs.Bytes.Span
import DriveHealth.Proofs.Capture.Edited
import DriveHealth.Proofs.Capture.LogTransfers
import DriveHealth.Proofs.Capture.SavedPage
import DriveHealth.Proofs.Check.Monotone
import DriveHealth.Proofs.CommandLine.ExitStatus
import DriveHealth.Proofs.ErrorLog.Blamed
import DriveHealth.Proofs.ErrorLog.Lossless
import DriveHealth.Proofs.ErrorLog.Report
import DriveHealth.Proofs.ErrorLog.Selection
import DriveHealth.Proofs.ErrorLog.Widened
import DriveHealth.Proofs.Farm.Accepted
import DriveHealth.Proofs.Farm.Alignment
import DriveHealth.Proofs.Farm.Closed
import DriveHealth.Proofs.Farm.Counted
import DriveHealth.Proofs.Farm.Delimited
import DriveHealth.Proofs.Farm.FileName
import DriveHealth.Proofs.Farm.Limit
import DriveHealth.Proofs.Farm.Ordering
import DriveHealth.Proofs.Farm.Recorded
import DriveHealth.Proofs.Node.Command
import DriveHealth.Proofs.Node.Diagnostic
import DriveHealth.Proofs.Node.LogRead
import DriveHealth.Proofs.Node.Residual
import DriveHealth.Proofs.Node.ReturnDescriptor
import DriveHealth.Proofs.Node.TransferLength
import DriveHealth.Proofs.Node.Wrapped
import DriveHealth.Proofs.Nvme.Overflow
