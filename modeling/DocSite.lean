import DocSite.Browser.Draw
import DocSite.Browser.KeyName
import DocSite.Browser.Move
import DocSite.Browser.Outline
import DocSite.Browser.Page
import DocSite.Browser.Query
import DocSite.Browser.Session
import DocSite.Browser.State
import DocSite.CommandLine.Arguments
import DocSite.CommandLine.Command
import DocSite.CommandLine.Perform
import DocSite.Error
import DocSite.Files
import DocSite.Files.Path
import DocSite.Json
import DocSite.Main
import DocSite.Nav.Descriptor
import DocSite.Nav.Link
import DocSite.Nav.Node
import DocSite.Nav.PageIndex
import DocSite.Nav.Printer
import DocSite.Nav.Resolve
import DocSite.Nav.Row
import DocSite.Nav.Tree
import DocSite.Nav.Walk
import DocSite.Notice
import DocSite.Number.Double
import DocSite.Number.Numeral
import DocSite.Proofs.Browser.Breadcrumb
import DocSite.Proofs.Browser.Invariant
import DocSite.Proofs.Browser.LinkRow
import DocSite.Proofs.Browser.Outcome
import DocSite.Proofs.Browser.Outline
import DocSite.Proofs.Browser.PageMove
import DocSite.Proofs.Browser.Relative
import DocSite.Proofs.Browser.Target
import DocSite.Proofs.Files.Directory
import DocSite.Proofs.Nav.Addition
import DocSite.Proofs.Nav.DocumentOrder
import DocSite.Proofs.Nav.Growth
import DocSite.Proofs.Nav.Listing
import DocSite.Proofs.Nav.LoadedOnce
import DocSite.Proofs.Nav.PageChain
import DocSite.Proofs.Nav.PageOrder
import DocSite.Proofs.Nav.Place
import DocSite.Proofs.Nav.PlainLink
import DocSite.Proofs.Nav.RoundTrip
import DocSite.Proofs.Nav.Rows
import DocSite.Proofs.Nav.Structure
import DocSite.Proofs.Nav.Subtree
import DocSite.Proofs.Nav.Validation
import DocSite.Proofs.Nav.Walk
import DocSite.Proofs.Nav.WellFormed
import DocSite.Proofs.Nav.Writable
import DocSite.Proofs.Number.Numeral
import DocSite.Proofs.Readback
import DocSite.Proofs.Script.Comment.Alike
import DocSite.Proofs.Script.Comment.Collection
import DocSite.Proofs.Script.Comment.Ending
import DocSite.Proofs.Script.Comment.Expression
import DocSite.Proofs.Script.Comment.Function
import DocSite.Proofs.Script.Comment.Markup
import DocSite.Proofs.Script.Comment.Number
import DocSite.Proofs.Script.Comment.Operand
import DocSite.Proofs.Script.Comment.Operator
import DocSite.Proofs.Script.Comment.Phrase
import DocSite.Proofs.Script.Comment.Place
import DocSite.Proofs.Script.Comment.Reach
import DocSite.Proofs.Script.Comment.Reading
import DocSite.Proofs.Script.Comment.Sign
import DocSite.Proofs.Script.Comment.Statement
import DocSite.Proofs.Script.Comment.StatementEnd
import DocSite.Proofs.Script.Comment.Token
import DocSite.Proofs.Script.Comment.Value
import DocSite.Proofs.Script.Data
import DocSite.Proofs.Script.Declared
import DocSite.Proofs.Script.Escape
import DocSite.Proofs.Script.NumberValue
import DocSite.Proofs.Script.Quotation
import DocSite.Proofs.Script.Quote
import DocSite.Proofs.Script.Reader
import DocSite.Proofs.Script.Surrogate
import DocSite.Proofs.Script.Written
import DocSite.Proofs.Search.FileName
import DocSite.Proofs.Search.History
import DocSite.Proofs.Search.Hits
import DocSite.Proofs.Search.KeyForm
import DocSite.Proofs.Search.Narrowing
import DocSite.Proofs.Search.OnDemand
import DocSite.Proofs.Search.Opening
import DocSite.Proofs.Search.OwnName
import DocSite.Proofs.Search.Pruning
import DocSite.Proofs.Search.Ranking
import DocSite.Proofs.Search.RoundTrip
import DocSite.Proofs.Search.SectionFilter
import DocSite.Proofs.Search.Validation
import DocSite.Proofs.Text.Digit
import DocSite.Proofs.Text.Lowercase
import DocSite.Screen.Box
import DocSite.Screen.Cell
import DocSite.Screen.Paint
import DocSite.Script
import DocSite.Script.Expr
import DocSite.Script.Grammar
import DocSite.Script.Grammar.Basic
import DocSite.Script.Grammar.Collection
import DocSite.Script.Grammar.Expression
import DocSite.Script.Grammar.Function
import DocSite.Script.Grammar.Markup
import DocSite.Script.Grammar.Object
import DocSite.Script.Grammar.Operator
import DocSite.Script.Grammar.Statement
import DocSite.Script.Lift
import DocSite.Script.Literal
import DocSite.Script.Load
import DocSite.Script.NumberToken
import DocSite.Script.Parser
import DocSite.Script.Quote
import DocSite.Script.Token
import DocSite.Script.Trivia
import DocSite.Script.Unescape
import DocSite.Script.Word
import DocSite.Search.Catalog
import DocSite.Search.Index
import DocSite.Search.Key
import DocSite.Search.Partition
import DocSite.Search.Printer
import DocSite.Settings
import DocSite.Settings.Basic
import DocSite.Site
import DocSite.Text.Alphanumeric
import DocSite.Text.Blank
import DocSite.Text.Cluster
import DocSite.Text.Digit
import DocSite.Text.Display
import DocSite.Text.Extending
import DocSite.Text.Lowercase
import DocSite.Text.Ranges
import DocSite.Text.Unprintable
import DocSite.Text.Width
import DocSite.Toml.Document
import DocSite.Toml.Scalar
import DocSite.Toml.Value
