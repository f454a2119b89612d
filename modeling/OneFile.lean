import OneFile.Bundle.Json
import OneFile.Markup.Json
import OneFile.Markup.Walk
import OneFile.Json.Reader
import OneFile.Json.Writer
import OneFile.Proofs.Markup.Lossless
import OneFile.Proofs.Component.Hoisting
import OneFile.Proofs.Component.Sorting
import OneFile.Proofs.Style.Matching
import OneFile.Proofs.Style.Storage
import OneFile.Proofs.Text.Order
import OneFile.Proofs.Markup.RoundTrip
import OneFile.Proofs.Markup.WellFormed
import OneFile.Proofs.Bundle.Serving
import OneFile.Proofs.Component.Verbatim
import OneFile.Proofs.Script.Coverage
import OneFile.Proofs.Markup.Composition
import OneFile.Proofs.Component.Insertion
import OneFile.Proofs.Component.Rereading
import OneFile.Proofs.Style.PseudoElements
import OneFile.Proofs.Markup.Balance
import OneFile.Proofs.Component.Failure
import OneFile.Proofs.Markup.Inversion
import OneFile.Proofs.Markup.Truncation
import OneFile.Proofs.Markup.Replacement
import OneFile.Proofs.Component.RawBodies
import OneFile.Proofs.Markup.Legibility
import OneFile.Proofs.Markup.Tidy
import OneFile.Proofs.Markup.Serialization
import OneFile.Proofs.Markup.Enclosure
import OneFile.Proofs.Style.Narrowing
import OneFile.Proofs.Text.Hanging
import OneFile.Proofs.Component.TemplateStrings
import OneFile.Proofs.Bytes.Safety
import OneFile.Proofs.Markup.Scoping
import OneFile.Proofs.Component.Reporting
import OneFile.Proofs.Bundle.Resolution
import OneFile.Proofs.Bundle.Proxy
import OneFile.Proofs.Markup.ValueParts
import OneFile.Proofs.Component.TemplateLayout
import OneFile.Proofs.Markup.Extent
import OneFile.Proofs.Markup.Visitor
import OneFile.Proofs.Markup.Walking
import OneFile.Proofs.Json.Form
import OneFile.Proofs.Json.Records
import OneFile.Proofs.Json.Reading
import OneFile.Proofs.Json.Restoring
import OneFile.Proofs.Style.TreeText
