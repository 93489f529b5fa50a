import GatewayRecipes.Gateway.Draft
import GatewayRecipes.Main
import GatewayRecipes.Recipe.Decode
import GatewayRecipes.Proofs.Element
import GatewayRecipes.Proofs.Gateway.Check
import GatewayRecipes.Proofs.Gateway.Content
import GatewayRecipes.Proofs.Gateway.Acceptance
import GatewayRecipes.Proofs.Gateway.Properties
import GatewayRecipes.Proofs.Gateway.Modes
import GatewayRecipes.Proofs.Gateway.Shape
import GatewayRecipes.Proofs.Equality
import GatewayRecipes.Proofs.Gateway.Equality
import GatewayRecipes.Proofs.Occurrence
import GatewayRecipes.Proofs.Registry.Fold
import GatewayRecipes.Proofs.Registry.History
import GatewayRecipes.Proofs.Markup.Attribute
import GatewayRecipes.Proofs.Markup.Traversal
import GatewayRecipes.Proofs.Markup.Assembly
import GatewayRecipes.Proofs.Markup.Escape
import GatewayRecipes.Proofs.Markup.Written
import GatewayRecipes.Proofs.Markup.Spelling
import GatewayRecipes.Proofs.Gateway.Draft
import GatewayRecipes.Proofs.Registry.Draft
import GatewayRecipes.Proofs.Gateway.Reading
import GatewayRecipes.Proofs.Registry.Sequence
import GatewayRecipes.Proofs.Json.Layout
import GatewayRecipes.Proofs.Recipe.Decode
import GatewayRecipes.Proofs.Recipe.RoundTrip
import GatewayRecipes.Proofs.Settings.Passes
import GatewayRecipes.Proofs.Settings.Substitution
import GatewayRecipes.Proofs.Registry.Numbering
import GatewayRecipes.Proofs.Registry.Blank
import GatewayRecipes.Proofs.Registry.Order
import GatewayRecipes.Proofs.Output.Outline
import GatewayRecipes.Proofs.Gateway.Nesting
import GatewayRecipes.Proofs.Output.Printed
import GatewayRecipes.Proofs.Registry.Failure
import GatewayRecipes.Proofs.CommandLine.Run
import GatewayRecipes.Proofs.CommandLine.Agreement
import GatewayRecipes.Proofs.Registry.Recording
import GatewayRecipes.Proofs.Text.Casing
import GatewayRecipes.Proofs.Settings.Key
import GatewayRecipes.Proofs.Settings.Order
import GatewayRecipes.Proofs.Settings.Layer
import GatewayRecipes.Proofs.Settings.Precedence
import GatewayRecipes.Proofs.Gateway.Headers
import GatewayRecipes.Proofs.Gateway.Inline
import GatewayRecipes.Proofs.Registry.Generated
import GatewayRecipes.Proofs.Registry.Chain
import GatewayRecipes.Proofs.Registry.Parsers
import GatewayRecipes.Proofs.Settings.Bare
import GatewayRecipes.Proofs.Settings.Loading
import GatewayRecipes.Proofs.Number.Numeral
import GatewayRecipes.Proofs.Settings.LogLevel
import GatewayRecipes.Proofs.Text.Capital
import GatewayRecipes.Proofs.Markup.Passage
import GatewayRecipes.Proofs.Markup.Position
import GatewayRecipes.Proofs.Gateway.PropertyName
import GatewayRecipes.Proofs.Gateway.Diagnostics
import GatewayRecipes.Proofs.Registry.Journal
