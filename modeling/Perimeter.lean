import Perimeter.Assignment
import Perimeter.Binary64
import Perimeter.Codename
import Perimeter.Fault
import Perimeter.Folder
import Perimeter.Grant
import Perimeter.Group
import Perimeter.Hierarchy.Basic
import Perimeter.Hierarchy.Change
import Perimeter.Hierarchy.Load
import Perimeter.Id
import Perimeter.Idn.ClassTable
import Perimeter.Idn.Domain
import Perimeter.Idn.MappingTable
import Perimeter.Idn.Normal
import Perimeter.Idn.Punycode
import Perimeter.Idn.Table
import Perimeter.Instant
import Perimeter.IpText
import Perimeter.Json.Basic
import Perimeter.Json.Decode
import Perimeter.Json.Doc
import Perimeter.Json.Token
import Perimeter.Mailbox
import Perimeter.Outline
import Perimeter.Page
import Perimeter.Registry
import Perimeter.Role
import Perimeter.Seats
import Perimeter.Settings.Basic
import Perimeter.Settings.Layer
import Perimeter.Settings.Load
import Perimeter.Sql.Address
import Perimeter.Sql.Load
import Perimeter.Sql.Query
import Perimeter.Sql.Relation
import Perimeter.Sql.Schema.Initial
import Perimeter.Sql.Schema.Update
import Perimeter.Sql.Statement
import Perimeter.Sql.Tables
import Perimeter.Storage.Basic
import Perimeter.Storage.Depot
import Perimeter.Storage.Table
import Perimeter.System.Access
import Perimeter.System.Basic
import Perimeter.System.Folders
import Perimeter.Text.Blank
import Perimeter.Text.Case
import Perimeter.Text.CaseTable
import Perimeter.Text.Utf8
import Perimeter.Toml.Document
import Perimeter.Toml.Scalar
import Perimeter.Toml.Value
import Perimeter.User
import Perimeter.Web.Call
import Perimeter.Web.MediaType
import Perimeter.Web.Message
import Perimeter.Web.Route
import Perimeter.Web.Serve
import Perimeter.Web.Target
import Perimeter.Width
import Perimeter.Wire.Answers
import Perimeter.Wire.Complaint
import Perimeter.Wire.Requests
import Perimeter.Wire.Rows
import Perimeter.Proofs.Lineage
import Perimeter.Proofs.Tables
import Perimeter.Proofs.Sorting
import Perimeter.Proofs.Tree
import Perimeter.Proofs.Upkeep
import Perimeter.Proofs.Acceptance
import Perimeter.Proofs.Writes
import Perimeter.Proofs.Operations
import Perimeter.Proofs.Mirror
import Perimeter.Proofs.Runs
import Perimeter.Proofs.Restart
import Perimeter.Proofs.Editors
import Perimeter.Proofs.SeatCap
import Perimeter.Proofs.Permissions
import Perimeter.Proofs.Entitlement
import Perimeter.Proofs.Refusals
import Perimeter.Proofs.Licensing
import Perimeter.Proofs.Integrity
import Perimeter.Proofs.Texts
import Perimeter.Proofs.Addresses
import Perimeter.Proofs.Rejections
import Perimeter.Proofs.Loading
import Perimeter.Proofs.Columns
import Perimeter.Proofs.Moves
import Perimeter.Proofs.Admission
import Perimeter.Proofs.Database
import Perimeter.Proofs.Revisions
import Perimeter.Proofs.Walks
import Perimeter.Proofs.Paths
import Perimeter.Proofs.Outlines
import Perimeter.Proofs.Scanning
import Perimeter.Proofs.Rounding
import Perimeter.Proofs.Reading
import Perimeter.Proofs.Nesting
import Perimeter.Proofs.Removals
import Perimeter.Proofs.Pages
import Perimeter.Proofs.Arrivals
import Perimeter.Proofs.Names
import Perimeter.Proofs.Trails
import Perimeter.Proofs.Undoing
import Perimeter.Proofs.Exchange
import Perimeter.Proofs.Descriptions
import Perimeter.Proofs.Masking
import Perimeter.Proofs.Circles
import Perimeter.Proofs.Retries
import Perimeter.Proofs.Reordering
import Perimeter.Proofs.Listings
import Perimeter.Proofs.Codenames
