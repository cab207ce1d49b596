import EntitlementClient.Body
import EntitlementClient.Calendar
import EntitlementClient.Catalogue
import EntitlementClient.Catalogue.Access
import EntitlementClient.Catalogue.Consumers
import EntitlementClient.Catalogue.Delivery
import EntitlementClient.Catalogue.Entitlements
import EntitlementClient.Catalogue.Environments
import EntitlementClient.Catalogue.OwnerUser
import EntitlementClient.Catalogue.Owners
import EntitlementClient.Catalogue.Products
import EntitlementClient.Catalogue.Service
import EntitlementClient.Client.Basic
import EntitlementClient.Client.Registration
import EntitlementClient.Content
import EntitlementClient.Duration
import EntitlementClient.Error
import EntitlementClient.Http.Connection
import EntitlementClient.Http.Credentials
import EntitlementClient.Http.Draft
import EntitlementClient.Http.Header
import EntitlementClient.Http.Reply
import EntitlementClient.Http.Url
import EntitlementClient.Json.Basic
import EntitlementClient.Json.Printer
import EntitlementClient.Json.Reader
import EntitlementClient.Number.Binary64
import EntitlementClient.Number.Decimal
import EntitlementClient.Operation.Basic
import EntitlementClient.Operation.Call
import EntitlementClient.Options.Basic
import EntitlementClient.Options.Defaults
import EntitlementClient.Options.Edit
import EntitlementClient.Options.Requirement
import EntitlementClient.OrderedMap
import EntitlementClient.Proofs.Access.OwnerRole
import EntitlementClient.Proofs.Access.OwnerUser
import EntitlementClient.Proofs.Access.OwnerUserProtocol
import EntitlementClient.Proofs.Access.OwnerUserRequests
import EntitlementClient.Proofs.Calendar
import EntitlementClient.Proofs.Catalogue.Attributes
import EntitlementClient.Proofs.Catalogue.Bind
import EntitlementClient.Proofs.Catalogue.DotSegments
import EntitlementClient.Proofs.Catalogue.Entry
import EntitlementClient.Proofs.Catalogue.Made
import EntitlementClient.Proofs.Catalogue.MergedValues
import EntitlementClient.Proofs.Catalogue.NullMembers
import EntitlementClient.Proofs.Catalogue.OneRequest
import EntitlementClient.Proofs.Catalogue.Paths
import EntitlementClient.Proofs.Catalogue.ProductOwners
import EntitlementClient.Proofs.Catalogue.Products
import EntitlementClient.Proofs.Catalogue.References
import EntitlementClient.Proofs.Catalogue.Register
import EntitlementClient.Proofs.Catalogue.Required
import EntitlementClient.Proofs.Client.Consumer
import EntitlementClient.Proofs.Client.Exchange
import EntitlementClient.Proofs.Client.History
import EntitlementClient.Proofs.Client.NameForms
import EntitlementClient.Proofs.Client.Registered
import EntitlementClient.Proofs.Client.Registration
import EntitlementClient.Proofs.Duration
import EntitlementClient.Proofs.Error
import EntitlementClient.Proofs.Http.ContentType
import EntitlementClient.Proofs.Http.Credentials
import EntitlementClient.Proofs.Http.Draft
import EntitlementClient.Proofs.Http.Failure
import EntitlementClient.Proofs.Http.Fields
import EntitlementClient.Proofs.Http.Frames
import EntitlementClient.Proofs.Http.Location
import EntitlementClient.Proofs.Http.MediaType
import EntitlementClient.Proofs.Http.Query
import EntitlementClient.Proofs.Http.Reply
import EntitlementClient.Proofs.Http.Step
import EntitlementClient.Proofs.Json.Numeral
import EntitlementClient.Proofs.Json.RoundTrip
import EntitlementClient.Proofs.Operation.Apart
import EntitlementClient.Proofs.Operation.Body
import EntitlementClient.Proofs.Operation.Call
import EntitlementClient.Proofs.Operation.Defaults
import EntitlementClient.Proofs.Operation.Missing
import EntitlementClient.Proofs.Operation.Path
import EntitlementClient.Proofs.Operation.Sent
import EntitlementClient.Proofs.Operation.Validation
import EntitlementClient.Proofs.Options.Declarations
import EntitlementClient.Proofs.Options.Edit
import EntitlementClient.Proofs.Options.Merge
import EntitlementClient.Proofs.Options.Segment
import EntitlementClient.Proofs.OrderedMap
import EntitlementClient.Proofs.Outcome
import EntitlementClient.Proofs.Query
import EntitlementClient.Proofs.Settings.Assigned
import EntitlementClient.Proofs.Settings.Members
import EntitlementClient.Proofs.Settings.Sources
import EntitlementClient.Proofs.Text.Base64
import EntitlementClient.Proofs.Text.Form
import EntitlementClient.Proofs.Text.Levels
import EntitlementClient.Proofs.Text.Percent
import EntitlementClient.Proofs.Text.Utf8
import EntitlementClient.Proofs.Tls.Host
import EntitlementClient.Proofs.Tls.Lines
import EntitlementClient.Proofs.Tls.Pem
import EntitlementClient.Proofs.Wire.Attributes
import EntitlementClient.Proofs.Wire.Case
import EntitlementClient.Proofs.Wire.Keys
import EntitlementClient.Proofs.Wire.Preimage
import EntitlementClient.Proofs.Wire.Renamed
import EntitlementClient.Proofs.Wire.RoundTrip
import EntitlementClient.Query
import EntitlementClient.Request
import EntitlementClient.Response
import EntitlementClient.Settings.Basic
import EntitlementClient.Settings.Environment
import EntitlementClient.Settings.Scalar
import EntitlementClient.Settings.Sources
import EntitlementClient.Settings.Value
import EntitlementClient.Status
import EntitlementClient.Text.Base64
import EntitlementClient.Text.Blank
import EntitlementClient.Text.CaseMapping
import EntitlementClient.Text.CaseTable
import EntitlementClient.Text.EscapeTable
import EntitlementClient.Text.Percent
import EntitlementClient.Text.Quoted
import EntitlementClient.Text.Split
import EntitlementClient.Text.Utf8
import EntitlementClient.Tls.Host
import EntitlementClient.Tls.Material
import EntitlementClient.Tls.Pem
import EntitlementClient.Wire.Case
import EntitlementClient.Wire.Keys
import EntitlementClient.Wire.Shape
