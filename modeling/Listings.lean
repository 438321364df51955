import Listings.Directive.Description
import Listings.Engine.Preparation
import Listings.Files.Tree
import Listings.Grammar.Pattern.Reader
import Listings.Main
import Listings.Markup.Path
import Listings.Proofs.Cache.Turns
import Listings.Proofs.Directive.LastTokens
import Listings.Proofs.Grammar.ScopesInForce
import Listings.Proofs.Highlighter.Failures
import Listings.Proofs.Highlighter.Source
import Listings.Proofs.Layout.Scopes
import Listings.Proofs.LineSet.Canonical
import Listings.Proofs.Markdown.Rendering
import Listings.Proofs.Markup.Unambiguous
import Listings.Proofs.Markup.Erasure
import Listings.Proofs.Markup.Escaping
import Listings.Proofs.Markup.DocumentOrder
import Listings.Proofs.Layout.Attributes
import Listings.Proofs.Layout.Roots
import Listings.Proofs.Files.Ancestors
import Listings.Proofs.Settings.Faults
import Listings.Proofs.Settings.Written
import Listings.Proofs.Settings.FromFile
import Listings.Proofs.Settings.Sources
import Listings.Proofs.Settings.InMemory
import Listings.Proofs.Markdown.FenceInfo
import Listings.Proofs.Command.CodeTask
import Listings.Proofs.LineSet.Reading
import Listings.Proofs.Directive.Grammar
import Listings.Proofs.Directive.Quoting
import Listings.Proofs.Layout.SingleLine
import Listings.Proofs.Grammar.Joining
import Listings.Proofs.Engine.Selection
import Listings.Proofs.Engine.Runs
import Listings.Proofs.Settings.References
import Listings.Proofs.Highlighter.Languages
import Listings.Proofs.Highlighter.Classes
