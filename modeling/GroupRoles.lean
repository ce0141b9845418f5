import GroupRoles.Directory.Memory
import GroupRoles.Directory.Script
import GroupRoles.Main
import GroupRoles.Proofs.Fulfil.Course
import GroupRoles.Proofs.Fulfil.References
import GroupRoles.Proofs.Fulfil.Refusal
import GroupRoles.Proofs.Fulfil.Protocol
import GroupRoles.Proofs.Fulfil.Plan
import GroupRoles.Proofs.Fulfil.Abort
import GroupRoles.Proofs.Fulfil.Failures
import GroupRoles.Proofs.Memory.Reach
import GroupRoles.Proofs.Fulfil.Changes
import GroupRoles.Proofs.Memory.Batch
import GroupRoles.Proofs.Memory.Ending
import GroupRoles.Proofs.Memory.Direction
import GroupRoles.Proofs.Memory.Frame
import GroupRoles.Proofs.Memory.Forecast
import GroupRoles.Proofs.Directory.Pool
import GroupRoles.Proofs.Memory.Absent
import GroupRoles.Proofs.Memory.Present
import GroupRoles.Proofs.Memory.Again
import GroupRoles.Proofs.Fulfil.Report
import GroupRoles.Proofs.Memory.Idempotent
import GroupRoles.Proofs.Directory.Alike
import GroupRoles.Proofs.Fulfil.Preview
import GroupRoles.Proofs.Service.Alike
import GroupRoles.Proofs.Service.Exchange
import GroupRoles.Proofs.Service.Token
import GroupRoles.Proofs.Service.Lifetime
import GroupRoles.Proofs.Service.Course
import GroupRoles.Proofs.Service.Session
import GroupRoles.Proofs.Service.Process
import GroupRoles.Proofs.Service.Callers
import GroupRoles.Proofs.Service.Sharing
import GroupRoles.Proofs.Text.Utf8
import GroupRoles.Proofs.Url.Segment
import GroupRoles.Proofs.Url.Text
import GroupRoles.Proofs.Json.Token
import GroupRoles.Proofs.Json.Spelling
import GroupRoles.Proofs.Shape.Record
import GroupRoles.Proofs.Shape.OfJson
import GroupRoles.Proofs.Shape.Faithful
import GroupRoles.Proofs.Shape.Written
import GroupRoles.Proofs.Directory.Agree
import GroupRoles.Proofs.Service.Resource
import GroupRoles.Proofs.Service.Plain
import GroupRoles.Proofs.Service.Endpoint
import GroupRoles.Proofs.Service.Wire
import GroupRoles.Proofs.Service.Host
import GroupRoles.Proofs.Service.Served
import GroupRoles.Proofs.Command.Load
import GroupRoles.Proofs.Command.Words
import GroupRoles.Proofs.Command.Preview
import GroupRoles.Proofs.Command.Printed
import GroupRoles.Proofs.Command.Validate
import GroupRoles.Proofs.Memory.Shared
import GroupRoles.Proofs.Fulfil.Account
import GroupRoles.Proofs.Memory.Order
import GroupRoles.Proofs.Directory.Agenda
import GroupRoles.Proofs.Service.Secret
import GroupRoles.Proofs.Command.Secret
import GroupRoles.Proofs.Fulfil.Resolution
import GroupRoles.Proofs.Service.Answer
import GroupRoles.Proofs.Service.Search
import GroupRoles.Proofs.Http.ErrorText
import GroupRoles.Proofs.Service.Detail
