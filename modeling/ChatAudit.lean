import ChatAudit.Console.Page
import ChatAudit.Api.Traffic
import ChatAudit.Export.Save
import ChatAudit.Export.Text
import ChatAudit.Logging
import ChatAudit.Proofs.Export.Disk
import ChatAudit.Proofs.Api.Outcome
import ChatAudit.Proofs.Api.Refusal
import ChatAudit.Proofs.Export.Landing
import ChatAudit.Proofs.Net.Path
import ChatAudit.Proofs.Api.SessionTarget
import ChatAudit.Proofs.Console.Maintenance
import ChatAudit.Proofs.Console.History
import ChatAudit.Proofs.Api.Body
import ChatAudit.Proofs.Console.Effects
import ChatAudit.Proofs.Net.Ending
import ChatAudit.Proofs.Api.Chat
import ChatAudit.Proofs.Console.Conversation
import ChatAudit.Proofs.Console.Paging
import ChatAudit.Proofs.Console.Deletion
import ChatAudit.Proofs.Console.Isolation
import ChatAudit.Proofs.Console.Breaks
import ChatAudit.Proofs.Pager
import ChatAudit.Proofs.Api.Traffic
import ChatAudit.Proofs.Payload.Unset
import ChatAudit.Proofs.Api.Again
import ChatAudit.Proofs.Api.Query
import ChatAudit.Proofs.Api.Written
import ChatAudit.Proofs.Api.Envelope
import ChatAudit.Proofs.Api.Log
import ChatAudit.Proofs.Api.Detail
import ChatAudit.Proofs.Api.Wording
import ChatAudit.Proofs.Calendar.Stamp
import ChatAudit.Proofs.Chat.Created
import ChatAudit.Proofs.Chat.Recovery
import ChatAudit.Proofs.Chat.Sides
import ChatAudit.Proofs.Chat.Limit
import ChatAudit.Proofs.Calendar.Range
import ChatAudit.Proofs.Report.Bytes
import ChatAudit.Proofs.Net.Disposition
import ChatAudit.Proofs.Chat.Lists
import ChatAudit.Proofs.Export.Text
import ChatAudit.Proofs.Chat.Evolution
import ChatAudit.Proofs.Logging
import ChatAudit.Proofs.Console.KeyChoice
import ChatAudit.Proofs.Console.UserId
