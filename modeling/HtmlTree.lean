import HtmlTree.Text.CharSet
import HtmlTree.Text.Blank
import HtmlTree.Text.Lower
import HtmlTree.Text.CaseFold
import HtmlTree.Text.Printable
import HtmlTree.Text.WordChar
import HtmlTree.Text.Quoted
import HtmlTree.Text.Numeral
import HtmlTree.Text.Placeholder
import HtmlTree.Text.Escape
import HtmlTree.Text.Pattern
import HtmlTree.Text.Pattern.Reader
import HtmlTree.Attributes
import HtmlTree.Node
import HtmlTree.Failure
import HtmlTree.Forest
import HtmlTree.Walk
import HtmlTree.Walk.Trails
import HtmlTree.Edit
import HtmlTree.Edit.Normalize
import HtmlTree.Edit.Clone
import HtmlTree.Content
import HtmlTree.Render
import HtmlTree.Predicate
import HtmlTree.Search
import HtmlTree.Builder
import HtmlTree.Diagnostic
import HtmlTree.Tree
import HtmlTree.Source.Cursor
import HtmlTree.Token
import HtmlTree.Token.References
import HtmlTree.Scan
import HtmlTree.Scan.Reference
import HtmlTree.Scan.Content
import HtmlTree.Scan.Tags
import HtmlTree.Scan.Declarations
import HtmlTree.Scan.Step
import HtmlTree.Source.Piece
import HtmlTree.Source.Unicode
import HtmlTree.Source.Codepage
import HtmlTree.Source.Grid
import HtmlTree.Source.Grid.Jis208
import HtmlTree.Source.Grid.Jis212
import HtmlTree.Source.Grid.Gb2312
import HtmlTree.Source.Grid.Big5
import HtmlTree.Source.Grid.Ksx1001
import HtmlTree.Source.Chinese
import HtmlTree.Source.Japanese
import HtmlTree.Source.Korean
import HtmlTree.Source.Designation
import HtmlTree.Source.Encoding
import HtmlTree.Source.Declared
import HtmlTree.Construct
import HtmlTree.Construct.Elements
import HtmlTree.Construct.Open
import HtmlTree.Construct.Place
import HtmlTree.Construct.Adoption
import HtmlTree.Construct.Rules
import HtmlTree.Construct.Doctypes
import HtmlTree.Construct.Head
import HtmlTree.Construct.BodyEnds
import HtmlTree.Construct.Body
import HtmlTree.Construct.Table
import HtmlTree.Construct.Select
import HtmlTree.Construct.Outer
import HtmlTree.Construct.Foreign
import HtmlTree.Construct.Run
import HtmlTree.Document
import HtmlTree.CommandLine.Arguments
import HtmlTree.CommandLine
import HtmlTree.Interface
import HtmlTree.Main
import HtmlTree.Proofs.Lineage
import HtmlTree.Proofs.Edits
import HtmlTree.Proofs.Insertion
import HtmlTree.Proofs.Ownership
import HtmlTree.Proofs.Moves
import HtmlTree.Proofs.Upkeep
import HtmlTree.Proofs.Merging
import HtmlTree.Proofs.Requests
import HtmlTree.Proofs.Histories
import HtmlTree.Proofs.Footprint
import HtmlTree.Proofs.Grounds
import HtmlTree.Proofs.Sites
import HtmlTree.Proofs.Enclosure
import HtmlTree.Proofs.Refusals
import HtmlTree.Proofs.Depths
import HtmlTree.Proofs.Traversals
import HtmlTree.Proofs.Copies
import HtmlTree.Proofs.Sharing
import HtmlTree.Proofs.Duplicates
import HtmlTree.Proofs.DocumentOrder
import HtmlTree.Proofs.Placement
import HtmlTree.Proofs.Piecewise
import HtmlTree.Proofs.Runs
import HtmlTree.Proofs.Normalizing
import HtmlTree.Proofs.Searching
import HtmlTree.Proofs.TemplateWalks
import HtmlTree.Proofs.Kinship
import HtmlTree.Proofs.Undoing
import HtmlTree.Proofs.BlockMoves
import HtmlTree.Proofs.Normalized
import HtmlTree.Proofs.Merged
import HtmlTree.Proofs.Invisible
import HtmlTree.Proofs.Renderings
import HtmlTree.Proofs.Layouts
import HtmlTree.Proofs.Unaltered
import HtmlTree.Proofs.Grown
import HtmlTree.Proofs.TagNames
import HtmlTree.Proofs.Tended
import HtmlTree.Proofs.TendedBody
import HtmlTree.Proofs.TendedModes
import HtmlTree.Proofs.Unseen
import HtmlTree.Proofs.Decoding
import HtmlTree.Proofs.RoundTrip
import HtmlTree.Proofs.Upcoming
import HtmlTree.Proofs.Spelling
import HtmlTree.Proofs.Stages
import HtmlTree.Proofs.TagPieces
import HtmlTree.Proofs.CommentPieces
import HtmlTree.Proofs.Frames
import HtmlTree.Proofs.Growth
import HtmlTree.Proofs.Gathering
import HtmlTree.Proofs.Calm
import HtmlTree.Proofs.BodyRules
import HtmlTree.Proofs.BodyStarts
import HtmlTree.Proofs.Passages
import HtmlTree.Proofs.Faithful
import HtmlTree.Proofs.Readings
import HtmlTree.Proofs.Rereading
import HtmlTree.Proofs.Clearing
import HtmlTree.Proofs.Refilling
import HtmlTree.Proofs.AttributeCalls
import HtmlTree.Proofs.Words
import HtmlTree.Proofs.Escaping
import HtmlTree.Proofs.Reparenting
import HtmlTree.Proofs.TextInsertion
import HtmlTree.Proofs.Evaluation
import HtmlTree.Proofs.CallOrder
