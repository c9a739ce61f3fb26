import RecordFile.Bytes
import RecordFile.Bytes.LittleEndian
import RecordFile.Bytes.Patch
import RecordFile.Dictionary.Basic
import RecordFile.Dictionary.Config
import RecordFile.Dictionary.Config.Reader
import RecordFile.Dictionary.Encoding
import RecordFile.Dictionary.Error
import RecordFile.Dictionary.Flags
import RecordFile.Dictionary.Form
import RecordFile.Dictionary.Journal
import RecordFile.Dictionary.Load
import RecordFile.Dictionary.Mode
import RecordFile.Dictionary.Open
import RecordFile.Dictionary.Owner
import RecordFile.Dictionary.Scratch
import RecordFile.Dictionary.Surrogate
import RecordFile.EngineError
import RecordFile.Environment
import RecordFile.Environment.Mapping
import RecordFile.Environment.Words
import RecordFile.Fault
import RecordFile.Header
import RecordFile.Image
import RecordFile.Image.Committed
import RecordFile.Image.Lemmas
import RecordFile.Layout
import RecordFile.Lock
import RecordFile.Log
import RecordFile.Notification
import RecordFile.OpenFlags
import RecordFile.Placement
import RecordFile.Placement.Words
import RecordFile.Proofs.Contents
import RecordFile.Proofs.Dictionary.Budgets
import RecordFile.Proofs.Dictionary.BulkHandle
import RecordFile.Proofs.Dictionary.Catalog
import RecordFile.Proofs.Dictionary.Closing
import RecordFile.Proofs.Dictionary.Deleting
import RecordFile.Proofs.Dictionary.Forms
import RecordFile.Proofs.Dictionary.Handles
import RecordFile.Proofs.Dictionary.Handshake
import RecordFile.Proofs.Dictionary.Load
import RecordFile.Proofs.Dictionary.Locking
import RecordFile.Proofs.Dictionary.Opening
import RecordFile.Proofs.Dictionary.Readers
import RecordFile.Proofs.Dictionary.Replaying
import RecordFile.Proofs.Dictionary.Requests
import RecordFile.Proofs.Dictionary.Scanning
import RecordFile.Proofs.Dictionary.Settling
import RecordFile.Proofs.Dictionary.Sharing
import RecordFile.Proofs.Dictionary.Shelf
import RecordFile.Proofs.Dictionary.Undecided
import RecordFile.Proofs.Dictionary.Updates
import RecordFile.Proofs.Environment.Acceptance
import RecordFile.Proofs.Environment.Admission
import RecordFile.Proofs.Environment.CopyOnWrite
import RecordFile.Proofs.Environment.Failing
import RecordFile.Proofs.Environment.Fitting
import RecordFile.Proofs.Environment.Headers
import RecordFile.Proofs.Environment.Keeping
import RecordFile.Proofs.Environment.Measuring
import RecordFile.Proofs.Environment.Opening
import RecordFile.Proofs.Environment.Refreshing
import RecordFile.Proofs.Environment.Reports
import RecordFile.Proofs.Environment.Sharing
import RecordFile.Proofs.Environment.Tracking
import RecordFile.Proofs.Environment.Widening
import RecordFile.Proofs.Environment.Words
import RecordFile.Proofs.Environment.WriteMap
import RecordFile.Proofs.Environment.Writing
import RecordFile.Proofs.Header.Codec
import RecordFile.Proofs.Parties
import RecordFile.Proofs.Placement
import RecordFile.Proofs.Placement.Words
import RecordFile.Proofs.Records.Buffer
import RecordFile.Proofs.Records.Codec
import RecordFile.Proofs.Records.SortedMap
import RecordFile.Proofs.Session.Budget
import RecordFile.Proofs.Session.Bulk
import RecordFile.Proofs.Session.Calls
import RecordFile.Proofs.Session.Closing
import RecordFile.Proofs.Session.Draft
import RecordFile.Proofs.Session.Fitting
import RecordFile.Proofs.Session.Growth
import RecordFile.Proofs.Session.Isolation
import RecordFile.Proofs.Session.Ledger
import RecordFile.Proofs.Session.MapSize
import RecordFile.Proofs.Session.Notifying
import RecordFile.Proofs.Session.Opening
import RecordFile.Proofs.Session.Readers
import RecordFile.Proofs.Session.Refreshing
import RecordFile.Proofs.Session.Reporting
import RecordFile.Proofs.Session.Restarting
import RecordFile.Proofs.Session.Scanning
import RecordFile.Proofs.Session.Searching
import RecordFile.Proofs.Session.Sharing
import RecordFile.Proofs.Session.Writers
import RecordFile.Proofs.Transaction
import RecordFile.Proofs.Transaction.Edits
import RecordFile.Proofs.Transaction.Words
import RecordFile.Records
import RecordFile.Records.Buffer
import RecordFile.Records.Codec
import RecordFile.Session
import RecordFile.Session.Text
import RecordFile.SharedFile
import RecordFile.SystemError
import RecordFile.Text.Json
import RecordFile.Text.Printable
import RecordFile.Text.Quoted
import RecordFile.Transaction
import RecordFile.Transaction.Words
import RecordFile.Volume.Addresses
import RecordFile.Volume.Basic
import RecordFile.Volume.Open
import RecordFile.Volume.Path
import RecordFile.Word
