import UpnpGateway.Text.Cut
import UpnpGateway.Text.Blank
import UpnpGateway.Text.Letter
import UpnpGateway.Text.Glyphless
import UpnpGateway.Text.Numeral
import UpnpGateway.Text.Quoted
import UpnpGateway.Text.Utf8
import UpnpGateway.Xml.Tag
import UpnpGateway.Xml.Escape
import UpnpGateway.Xml.Event
import UpnpGateway.Xml.Element
import UpnpGateway.Xml.Document
import UpnpGateway.Xml.WellFormed
import UpnpGateway.Device.DataType
import UpnpGateway.Device.Basic
import UpnpGateway.Device.Description
import UpnpGateway.Device.ServiceDescription
import UpnpGateway.Net.Ip
import UpnpGateway.Text.Table
import UpnpGateway.Text.Unassigned
import UpnpGateway.Text.Mark
import UpnpGateway.Text.Canonical.Class
import UpnpGateway.Text.Canonical.Forms
import UpnpGateway.Text.Canonical.Pairs
import UpnpGateway.Text.Canonical.Normal
import UpnpGateway.Net.Domain.Punycode
import UpnpGateway.Net.Domain.Fold
import UpnpGateway.Net.Domain.Direction
import UpnpGateway.Net.Domain.Joiner
import UpnpGateway.Net.Domain.Name
import UpnpGateway.Net.Url.Percent
import UpnpGateway.Net.Url.Basic
import UpnpGateway.Net.Url.Walk
import UpnpGateway.Net.Url.Parse
import UpnpGateway.Device.Links
import UpnpGateway.Vendor
import UpnpGateway.Duration
import UpnpGateway.Text.Truth
import UpnpGateway.Soap.Value
import UpnpGateway.Soap.Inputs
import UpnpGateway.Soap.Envelope
import UpnpGateway.Soap.Fault
import UpnpGateway.Error
import UpnpGateway.Soap.Response
import UpnpGateway.Http.Reply
import UpnpGateway.Discovery.Advertisement
import UpnpGateway.Discovery.Search
import UpnpGateway.Discovery.Collector
import UpnpGateway.Discovery.Schedule
import UpnpGateway.Mapping.Basic
import UpnpGateway.Mapping.FreePort
import UpnpGateway.Mapping.Answer
import UpnpGateway.Config.Basic
import UpnpGateway.Config.Binary
import UpnpGateway.Config.Reading
import UpnpGateway.Net.Network
import UpnpGateway.Net.Offline
import UpnpGateway.Http.Client
import UpnpGateway.Soap.Invocation
import UpnpGateway.Device.Retrieval
import UpnpGateway.Discovery.Discover
import UpnpGateway.Session
import UpnpGateway.Mapping.Operations
import UpnpGateway.ControlPoint
import UpnpGateway.Proofs.Text.Cut
import UpnpGateway.Proofs.Text.Blank
import UpnpGateway.Proofs.Text.Letter
import UpnpGateway.Proofs.Text.Numeral
import UpnpGateway.Proofs.Text.Hexadecimal
import UpnpGateway.Proofs.Text.Lines
import UpnpGateway.Proofs.Text.Utf8
import UpnpGateway.Proofs.Net.IpText
import UpnpGateway.Proofs.Http.CutReplies
import UpnpGateway.Proofs.Http.Framing
import UpnpGateway.Proofs.Xml.Escaping
import UpnpGateway.Proofs.Xml.Scanning
import UpnpGateway.Proofs.Xml.Content
import UpnpGateway.Proofs.Xml.Renaming
import UpnpGateway.Proofs.Xml.Agreement
import UpnpGateway.Proofs.Xml.LetterCase
import UpnpGateway.Proofs.Device.Reading
import UpnpGateway.Proofs.Device.Agreement
import UpnpGateway.Proofs.Device.LetterCase
import UpnpGateway.Proofs.Soap.Inputs
import UpnpGateway.Proofs.Soap.InputOrder
import UpnpGateway.Proofs.Soap.Answers
import UpnpGateway.Proofs.Mapping.ReadBack
import UpnpGateway.Proofs.Net.Asking
import UpnpGateway.Proofs.Http.Posting
import UpnpGateway.Proofs.Soap.Requests
import UpnpGateway.Proofs.Session.Invocation
import UpnpGateway.Proofs.Mapping.EndlessList
import UpnpGateway.Proofs.Mapping.Enumeration
import UpnpGateway.Proofs.Mapping.FreePort
import UpnpGateway.Proofs.Mapping.NextMapping
import UpnpGateway.Proofs.ControlPoint.Deeds
import UpnpGateway.Proofs.ControlPoint.LifeCycle
import UpnpGateway.Proofs.Discovery.Collecting
import UpnpGateway.Proofs.Soap.Naming
import UpnpGateway.Proofs.Device.Services
import UpnpGateway.Proofs.Device.Retrieval
import UpnpGateway.Proofs.Device.Declarations
import UpnpGateway.Proofs.Device.ServiceLetterCase
import UpnpGateway.Proofs.Xml.RootEnd
import UpnpGateway.Proofs.Device.Trailing
import UpnpGateway.Proofs.Xml.Changes
import UpnpGateway.Proofs.Xml.Entities
import UpnpGateway.Proofs.Xml.Entries
import UpnpGateway.Proofs.Soap.Faults
import UpnpGateway.Proofs.Device.DescriptionRoundTrip
import UpnpGateway.Proofs.Device.DeclarationRoundTrip
import UpnpGateway.Proofs.Device.BrokenTexts
import UpnpGateway.Proofs.Device.Spots
import UpnpGateway.Proofs.Net.HostText
import UpnpGateway.Proofs.Http.RequestLines
import UpnpGateway.Proofs.Http.Chunks
import UpnpGateway.Proofs.Http.ChunkedEnd
import UpnpGateway.Proofs.Http.Heads
import UpnpGateway.Proofs.Net.UrlText
import UpnpGateway.Proofs.Soap.RequestFraming
import UpnpGateway.Proofs.Soap.InputChecks
import UpnpGateway.Proofs.Soap.Values
import UpnpGateway.Proofs.Xml.Siblings
import UpnpGateway.Proofs.Soap.Outputs
import UpnpGateway.Proofs.Session.Conversation
import UpnpGateway.Proofs.Discovery.Windows
import UpnpGateway.Proofs.Xml.Search
import UpnpGateway.Proofs.Soap.VendorFaults
import UpnpGateway.Proofs.Device.Links
import UpnpGateway.Proofs.Discovery.SearchText
import UpnpGateway.Proofs.Discovery.AnswerText
import UpnpGateway.Proofs.Xml.References
import UpnpGateway.Proofs.Xml.Unclosed
import UpnpGateway.Proofs.Xml.DocumentOrder
import UpnpGateway.Proofs.Device.RootCheck
