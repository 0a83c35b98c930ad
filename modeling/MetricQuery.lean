import MetricQuery.Calendar.Date
import MetricQuery.Calendar.Instant
import MetricQuery.Calendar.TimeZone
import MetricQuery.Catalog.Basic
import MetricQuery.Catalog.Dimensions
import MetricQuery.Collection
import MetricQuery.Config.Check
import MetricQuery.Config.Dimensions
import MetricQuery.Config.File
import MetricQuery.Config.Templates
import MetricQuery.Config.Usual
import MetricQuery.Datum.Basic
import MetricQuery.Datum.Exchange
import MetricQuery.Datum.Written
import MetricQuery.Document.Cursor
import MetricQuery.Document.Lexer
import MetricQuery.Document.Node
import MetricQuery.Document.Read
import MetricQuery.Document.Scalar
import MetricQuery.Document.Tag
import MetricQuery.Document.Token
import MetricQuery.Document.Value
import MetricQuery.Fault
import MetricQuery.Keyed
import MetricQuery.Maker.Basic
import MetricQuery.Maker.Class
import MetricQuery.Maker.Dictionary
import MetricQuery.Maker.Module
import MetricQuery.Maker.Signature
import MetricQuery.Maker.Template
import MetricQuery.Notice
import MetricQuery.Number.Binary64
import MetricQuery.Number.Layout
import MetricQuery.Number.Literal
import MetricQuery.Number.Selection
import MetricQuery.Query.Interval
import MetricQuery.Query.Predicate
import MetricQuery.Query.Record
import MetricQuery.Query.Response
import MetricQuery.Query.Sort
import MetricQuery.Query.Spec
import MetricQuery.Rows.Store
import MetricQuery.Setup.EnvFile
import MetricQuery.Setup.Log
import MetricQuery.Setup.Settings
import MetricQuery.Text.Blank
import MetricQuery.Text.Case
import MetricQuery.Text.CaseMap
import MetricQuery.Text.Cased
import MetricQuery.Text.CharSet
import MetricQuery.Text.Digit
import MetricQuery.Text.Lines
import MetricQuery.Text.Printable
import MetricQuery.Text.Quoted
import MetricQuery.Text.Spelling
import MetricQuery.Vocabulary.Glossary
import MetricQuery.Vocabulary.Granularity
import MetricQuery.Vocabulary.Term
import MetricQuery.Proofs.Distinct
import MetricQuery.Proofs.Outcome
import MetricQuery.Proofs.Spec.Facet
import MetricQuery.Proofs.Spec.Update
import MetricQuery.Proofs.Spec.Sort
import MetricQuery.Proofs.Spec.TimeSort
import MetricQuery.Proofs.Keyed
import MetricQuery.Proofs.Maker.Build
import MetricQuery.Proofs.Maker.Dictionary
import MetricQuery.Proofs.Rows.Attach
import MetricQuery.Proofs.Catalog.Dimensions
import MetricQuery.Proofs.Catalog.Load
import MetricQuery.Proofs.Document.Lexer
import MetricQuery.Proofs.Document.Node
import MetricQuery.Proofs.Document.Read
import MetricQuery.Proofs.Document.Row
import MetricQuery.Proofs.Document.Integer
import MetricQuery.Proofs.Document.Fraction
import MetricQuery.Proofs.Document.Plain
import MetricQuery.Proofs.Document.PlainLine
import MetricQuery.Proofs.Document.Entry
import MetricQuery.Proofs.Config.File
import MetricQuery.Proofs.Vocabulary.Glossary
import MetricQuery.Proofs.Rows.History
import MetricQuery.Proofs.Config.Dimensions
import MetricQuery.Maker.Supply
import MetricQuery.Proofs.Maker.Supply
import MetricQuery.Proofs.Maker.Summary
import MetricQuery.Proofs.Calendar.TimeZone
import MetricQuery.Proofs.Query.Interval
import MetricQuery.Proofs.Config.Templates
import MetricQuery.Proofs.Equality
import MetricQuery.Proofs.Collection
import MetricQuery.Proofs.Spec.Congruence
import MetricQuery.Proofs.Spec.TimeSortUpdate
import MetricQuery.Proofs.Text.Case
import MetricQuery.Proofs.Maker.Dependencies
import MetricQuery.Proofs.Maker.Spelling
import MetricQuery.Proofs.Number.Numeral
import MetricQuery.Proofs.Number.Rounding
import MetricQuery.Proofs.Number.Selection
import MetricQuery.Proofs.Maker.Numeral
import MetricQuery.Proofs.Maker.Refusal
import MetricQuery.Proofs.Text.Quoted
import MetricQuery.Proofs.Maker.FilterValue
import MetricQuery.Proofs.Text.Spelling
import MetricQuery.Proofs.Maker.Literal
import MetricQuery.Proofs.Number.Integer
import MetricQuery.Proofs.Maker.Binding
import MetricQuery.Proofs.Maker.Signature
import MetricQuery.Proofs.Text.Sigma
import MetricQuery.Proofs.Rows.Search
import MetricQuery.Proofs.Catalog.Register
import MetricQuery.Proofs.Setup.Defaults
import MetricQuery.Proofs.Members
import MetricQuery.Proofs.Spec.FilterGroups
import MetricQuery.Proofs.Datum.Distinct
import MetricQuery.Proofs.Log.Tree
import MetricQuery.Proofs.Log.Level
import MetricQuery.Proofs.Log.Name
import MetricQuery.Proofs.Log.Chain
import MetricQuery.Proofs.Log.History
import MetricQuery.Proofs.Log.Record
