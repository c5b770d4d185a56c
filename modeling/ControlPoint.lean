import ControlPoint.Host.Machine
import ControlPoint.Main
import ControlPoint.Proofs.Naming.Scope
import ControlPoint.Proofs.Naming.Identifier
import ControlPoint.Proofs.Language.Escape
import ControlPoint.Proofs.Class.Constant
import ControlPoint.Proofs.Class.Draft
import ControlPoint.Proofs.Class.ServiceNames
import ControlPoint.Proofs.Language.Places
import ControlPoint.Proofs.Class.Code
import ControlPoint.Proofs.Class.ServiceCode
import ControlPoint.Proofs.Class.Declarations
import ControlPoint.Proofs.Class.Closed
import ControlPoint.Proofs.Class.Enumeration
import ControlPoint.Proofs.Class.Marshalling
import ControlPoint.Proofs.Class.Dispatch
import ControlPoint.Proofs.Markup.Nesting
import ControlPoint.Proofs.Markup.Scan
import ControlPoint.Proofs.Description.Reading
import ControlPoint.Proofs.Description.Edits
import ControlPoint.Proofs.Description.Acceptance
import ControlPoint.Proofs.Description.KeyedMap
import ControlPoint.Proofs.Description.StateTable
import ControlPoint.Proofs.Generation.Outcomes
import ControlPoint.Proofs.Generation.Children
import ControlPoint.Proofs.Class.Device
import ControlPoint.Proofs.Text.Cut
import ControlPoint.Proofs.Xml.Part
import ControlPoint.Proofs.Xml.Document
import ControlPoint.Proofs.Class.Probe
import ControlPoint.Proofs.Soap.Call
import ControlPoint.Proofs.Host.Script
import ControlPoint.Proofs.Generation.Writing
import ControlPoint.Proofs.Class.DeviceCode
import ControlPoint.Proofs.Description.DeviceTree
import ControlPoint.Proofs.Naming.ClassName
import ControlPoint.Proofs.Generation.Files
import ControlPoint.Proofs.Generation.Isolation
import ControlPoint.Proofs.Class.Completeness
import ControlPoint.Proofs.Class.Level
import ControlPoint.Proofs.Settings.Document
import ControlPoint.Proofs.Text.Lower
import ControlPoint.Proofs.Settings.Load
import ControlPoint.Proofs.Text.Lines
import ControlPoint.Proofs.Template.Lines
import ControlPoint.Proofs.Language.Lines
import ControlPoint.Proofs.Language.Comment
import ControlPoint.Proofs.Class.Quotes
import ControlPoint.Proofs.Class.Lines
import ControlPoint.Proofs.Description.Filing
import ControlPoint.Proofs.Settings.Keys
import ControlPoint.Proofs.Description.Ranks
import ControlPoint.Proofs.Description.References
import ControlPoint.Proofs.Language.Literal
import ControlPoint.Proofs.Class.Requests
import ControlPoint.Proofs.Class.Capture
import ControlPoint.Proofs.Description.Splitting
import ControlPoint.Proofs.Settings.Assignment
import ControlPoint.Proofs.Yaml.Same
import ControlPoint.Proofs.Yaml.Document
import ControlPoint.Proofs.Settings.Merging
import ControlPoint.Proofs.Settings.Reload
import ControlPoint.Proofs.Description.Identities
import ControlPoint.Proofs.Class.Properties
import ControlPoint.Proofs.Language.Usable
import ControlPoint.Proofs.Class.Namespace
import ControlPoint.Proofs.Naming.Stability
import ControlPoint.Proofs.Description.Preorder
import ControlPoint.Proofs.Naming.Allocation
import ControlPoint.Markup.Scanner
import ControlPoint.Proofs.Markup.Scanner
import ControlPoint.Proofs.Description.Urn
import ControlPoint.Proofs.Soap.Reply
import ControlPoint.Description.Reader
import ControlPoint.Proofs.Description.Reader
