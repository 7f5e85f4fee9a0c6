import RemainderService.Binary64
import RemainderService.Operation
import RemainderService.Method
import RemainderService.Remainder
import RemainderService.Status
import RemainderService.Duration
import RemainderService.Signal
import RemainderService.Uri
import RemainderService.Address
import RemainderService.Endpoint
import RemainderService.Fault
import RemainderService.FileTree
import RemainderService.Event
import RemainderService.OperationSet
import RemainderService.Wire.Fault
import RemainderService.Wire.Varint
import RemainderService.Wire.Key
import RemainderService.Wire.Scan
import RemainderService.Wire.Message
import RemainderService.Wire.Grammar
import RemainderService.Wire.Frame
import RemainderService.Percent
import RemainderService.RequestBody
import RemainderService.Route
import RemainderService.Exchange
import RemainderService.Retry
import RemainderService.Timeline
import RemainderService.Script
import RemainderService.Peer
import RemainderService.Connect
import RemainderService.Client
import RemainderService.Session
import RemainderService.Listener
import RemainderService.Deployment
import RemainderService.Shutdown
import RemainderService.ExitStatus
import RemainderService.ServerProcess
import RemainderService.Text.Ranges
import RemainderService.Text.Alphanumeric
import RemainderService.Text.Blank
import RemainderService.Text.Shapeless
import RemainderService.Log.Pattern
import RemainderService.Log.Pattern.CharacterClass
import RemainderService.Log.Pattern.Escape
import RemainderService.Log.Pattern.Height
import RemainderService.Log.Pattern.Mode
import RemainderService.Log.Directive
import RemainderService.Log.Filter
import RemainderService.Log.Line
import RemainderService.Log.Logger
import RemainderService.Console
import RemainderService.Main
import RemainderService.Proofs.Entry
import RemainderService.Proofs.Retry.Course
import RemainderService.Proofs.Retry.LastAttempt
import RemainderService.Proofs.Retry.Segments
import RemainderService.Proofs.Retry.Connection
import RemainderService.Proofs.Retry.Endings
import RemainderService.Proofs.Retry.ClientReport
import RemainderService.Proofs.Retry.Cap
import RemainderService.Proofs.Retry.AttemptNumbers
import RemainderService.Proofs.Retry.Trace
import RemainderService.Proofs.Retry.Comparison
import RemainderService.Proofs.Retry.Schedule
import RemainderService.Proofs.Zeros
import RemainderService.Proofs.Binary64.Value
import RemainderService.Proofs.Binary64.Rounding
import RemainderService.Proofs.Binary64.Truncation
import RemainderService.Proofs.Binary64.Saturation
import RemainderService.Proofs.Remainder
import RemainderService.Proofs.Division
import RemainderService.Proofs.Wire.Spelling
import RemainderService.Proofs.Wire.Turns
import RemainderService.Proofs.Wire.Acceptance
import RemainderService.Proofs.Wire.Concatenation
import RemainderService.Proofs.Wire.ReadBack
import RemainderService.Proofs.Wire.Canonical
import RemainderService.Proofs.Wire.Frames
import RemainderService.Proofs.Request.Interface
import RemainderService.Proofs.Request.Body
import RemainderService.Proofs.Request.Evaluation
import RemainderService.Proofs.Request.Answer
import RemainderService.Proofs.Request.OneStatus
import RemainderService.Proofs.Percent
import RemainderService.Proofs.Request.Refusal
import RemainderService.Proofs.Server.History
import RemainderService.Proofs.Server.Reports
import RemainderService.Proofs.Server.Steps
import RemainderService.Proofs.Server.Stopping
