import Scaffold.Generation
import Scaffold.CommandLine.Help
import Scaffold.CommandLine.Options
import Scaffold.Decimal
import Scaffold.Decimal.Shortest
import Scaffold.Journal.Filter
import Scaffold.Pipeline.Failure
import Scaffold.Pipeline.Load
import Scaffold.Pipeline.Run
import Scaffold.Session
import Scaffold.Store.Disk
import Scaffold.Store.Memory
import Scaffold.Proofs.Generation
import Scaffold.Proofs.Pipeline.Accounting
import Scaffold.Proofs.Pipeline.Confluence
import Scaffold.Proofs.Pipeline.Handover
import Scaffold.Proofs.Collection.Parts
import Scaffold.Proofs.Fixture.Isolation
import Scaffold.Proofs.Fixture.Reading
import Scaffold.Proofs.Fixture.Wiring
import Scaffold.Proofs.Report.Duplicates
import Scaffold.Proofs.Fixture.Distinct
import Scaffold.Proofs.Settings.Nearest
import Scaffold.Proofs.Session
import Scaffold.Proofs.Path.Ancestors
import Scaffold.Proofs.Store.Calls
import Scaffold.Proofs.Store.Closed
import Scaffold.Proofs.Store.Beneath
import Scaffold.Proofs.Pipeline.Refusal
import Scaffold.Proofs.Fixture.Members
import Scaffold.Proofs.Fixture.Locals
import Scaffold.Proofs.Fixture.Keywords
import Scaffold.Proofs.Mocking.BaseName
import Scaffold.Proofs.Mocking.Convention
import Scaffold.Proofs.Mocking.Arrays
import Scaffold.Proofs.Fixture.Message
import Scaffold.Proofs.CSharp.Parameter
import Scaffold.Proofs.CSharp.Outline
import Scaffold.Proofs.Report.Kinds
import Scaffold.Proofs.Collection.Scope
import Scaffold.Proofs.Fixture.Identifiers
import Scaffold.Proofs.Pipeline.Targets
import Scaffold.Proofs.Collection.Spelling
import Scaffold.Proofs.Fixture.FreeNames
import Scaffold.Proofs.Fixture.Usings
import Scaffold.Proofs.Fixture.Namespaces
import Scaffold.Proofs.CommandLine.Sources
import Scaffold.Proofs.Report.Summary
import Scaffold.Proofs.CSharp.Slots
import Scaffold.Proofs.CSharp.Layout
import Scaffold.Proofs.CSharp.Faults
