import SchemaGen.CommandLine.Arguments
import SchemaGen.CommandLine.Command
import SchemaGen.CommandLine.Switch
import SchemaGen.CommandLine.Usage
import SchemaGen.CommandLine.Word
import SchemaGen.Console
import SchemaGen.Entries
import SchemaGen.Failure
import SchemaGen.Files.Destination
import SchemaGen.Files.Error
import SchemaGen.Files.Path
import SchemaGen.Files.Tree
import SchemaGen.Files.Writing
import SchemaGen.Generation.Error
import SchemaGen.Generation.Generator
import SchemaGen.Host.Basic
import SchemaGen.Host.Run
import SchemaGen.Host.Session
import SchemaGen.Json.Printer
import SchemaGen.Json.Reader
import SchemaGen.Log
import SchemaGen.Log.Threshold
import SchemaGen.Main
import SchemaGen.Model.ForeignKeyText
import SchemaGen.Model.LoadError
import SchemaGen.Model.Loading
import SchemaGen.Model.Reading
import SchemaGen.Model.Relations
import SchemaGen.Model.Table
import SchemaGen.Model.Warning
import SchemaGen.Number.Binary64
import SchemaGen.Number.Shortest
import SchemaGen.Package.ModuleName
import SchemaGen.Package.Namespace
import SchemaGen.Package.SchemaName
import SchemaGen.Perl.Declaration
import SchemaGen.Perl.Factory
import SchemaGen.Perl.Generator
import SchemaGen.Perl.Layout
import SchemaGen.Perl.Quote
import SchemaGen.Perl.ResultClass
import SchemaGen.Perl.SchemaClass
import SchemaGen.Proofs.Closure
import SchemaGen.Proofs.CommandLine
import SchemaGen.Proofs.Conservation
import SchemaGen.Proofs.Containment
import SchemaGen.Proofs.Creation
import SchemaGen.Proofs.DistinctFiles
import SchemaGen.Proofs.DryRun
import SchemaGen.Proofs.Entries.Gathering
import SchemaGen.Proofs.Entries.Merging
import SchemaGen.Proofs.Failures
import SchemaGen.Proofs.Files.Directories
import SchemaGen.Proofs.Files.Path
import SchemaGen.Proofs.Files.Tree
import SchemaGen.Proofs.Files.Writing
import SchemaGen.Proofs.Host.Effects
import SchemaGen.Proofs.Host.Surroundings
import SchemaGen.Proofs.Injectivity
import SchemaGen.Proofs.InputOrder
import SchemaGen.Proofs.JoinColumns
import SchemaGen.Proofs.Model.Acceptance
import SchemaGen.Proofs.Model.Derivation
import SchemaGen.Proofs.Model.Doubts
import SchemaGen.Proofs.Model.EntryList
import SchemaGen.Proofs.Model.ForeignKeyEntries
import SchemaGen.Proofs.Model.ForeignKeySpelling
import SchemaGen.Proofs.Model.ForeignKeyText
import SchemaGen.Proofs.Model.Locality
import SchemaGen.Proofs.Model.Mirror
import SchemaGen.Proofs.Model.Reading
import SchemaGen.Proofs.Model.WellFormed
import SchemaGen.Proofs.Modules
import SchemaGen.Proofs.NewTable
import SchemaGen.Proofs.Outcome
import SchemaGen.Proofs.Package.Joining
import SchemaGen.Proofs.Package.Namespace
import SchemaGen.Proofs.Package.Segments
import SchemaGen.Proofs.Perl.Emission
import SchemaGen.Proofs.Perl.Lines
import SchemaGen.Proofs.Perl.Packages
import SchemaGen.Proofs.Perl.Quoting
import SchemaGen.Proofs.Perl.Reader
import SchemaGen.Proofs.Perl.Statements
import SchemaGen.Proofs.Perl.Success
import SchemaGen.Proofs.Scheme
import SchemaGen.Proofs.Settings.Checked
import SchemaGen.Proofs.Settings.Namespace
import SchemaGen.Proofs.Success
import SchemaGen.Proofs.Target.Registration
import SchemaGen.Proofs.Text.Cutting
import SchemaGen.Proofs.Text.Lines
import SchemaGen.Proofs.Text.Words
import SchemaGen.Proofs.Xml.Content
import SchemaGen.Proofs.Xml.Markup
import SchemaGen.Proofs.Xml.Octets
import SchemaGen.Proofs.Xml.Script
import SchemaGen.Proofs.Xml.Selection
import SchemaGen.Proofs.Xml.Tags
import SchemaGen.Proofs.Xml.Values
import SchemaGen.Scheme
import SchemaGen.Settings.Basic
import SchemaGen.Settings.Loading
import SchemaGen.Settings.Merge
import SchemaGen.Settings.Source
import SchemaGen.Target.Making
import SchemaGen.Target.Registration
import SchemaGen.Target.Registry
import SchemaGen.Target.Shipped
import SchemaGen.Text.Blank
import SchemaGen.Text.Digit
import SchemaGen.Text.LetterCase
import SchemaGen.Text.Pieces
import SchemaGen.Text.Printable
import SchemaGen.Text.Quoted
import SchemaGen.Text.Runs
import SchemaGen.Text.Tidy
import SchemaGen.Text.Utf8
import SchemaGen.Text.Word
import SchemaGen.Value.Basic
import SchemaGen.Value.Display
import SchemaGen.Web.Address
import SchemaGen.Web.Request
import SchemaGen.Web.Url
import SchemaGen.Xml.Charset
import SchemaGen.Xml.Declaration
import SchemaGen.Xml.Document
import SchemaGen.Xml.Dtd
import SchemaGen.Xml.Element
import SchemaGen.Xml.Fault
import SchemaGen.Xml.Input
import SchemaGen.Xml.NameChars
import SchemaGen.Xml.Namespaces
import SchemaGen.Xml.Prolog.Grammar
import SchemaGen.Xml.Prolog.Token
import SchemaGen.Xml.Scan
import SchemaGen.Proofs.Json.Objects
import SchemaGen.Proofs.Settings.Precedence
import SchemaGen.Proofs.Perl.Factory
import SchemaGen.Proofs.Settings.Custom
import SchemaGen.Proofs.Target.Listing
import SchemaGen.Proofs.Text.Spacing
import SchemaGen.Proofs.TidySources
import SchemaGen.Proofs.Perl.Literals
