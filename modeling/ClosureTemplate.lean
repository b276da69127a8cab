import ClosureTemplate.Files.Tree
import ClosureTemplate.Inspect.Findings
import ClosureTemplate.Main
import ClosureTemplate.Proofs.Scan.Run
import ClosureTemplate.Query.Join
import ClosureTemplate.Token.GrammarCodes
import ClosureTemplate.Proofs.Scan.Lossless
import ClosureTemplate.Proofs.Word.Fragment
import ClosureTemplate.Proofs.Word.Refinement
import ClosureTemplate.Proofs.Doc.Buffer
import ClosureTemplate.Proofs.Scan.Coherence
import ClosureTemplate.Proofs.Scan.Resynchronisation
import ClosureTemplate.Proofs.Scan.Locality
import ClosureTemplate.Scan.Window
import ClosureTemplate.Proofs.Doc.Chunks
import ClosureTemplate.Proofs.Query.Balance
import ClosureTemplate.Proofs.Scan.Comment
import ClosureTemplate.Proofs.Scan.HandOut
import ClosureTemplate.Proofs.Doc.Marker
import ClosureTemplate.Proofs.Doc.Declared
import ClosureTemplate.Proofs.Scan.DocLexeme
import ClosureTemplate.Proofs.Scan.Identifier
import ClosureTemplate.Proofs.Tree.Arena
import ClosureTemplate.Proofs.Tree.Collection
import ClosureTemplate.Proofs.Query.Membership
import ClosureTemplate.Proofs.Scan.Grammar
import ClosureTemplate.Proofs.Scan.Passage
import ClosureTemplate.Proofs.Text.Occurrence
import ClosureTemplate.Proofs.Scan.StringExtent
import ClosureTemplate.Proofs.Scan.CommentExtent
import ClosureTemplate.Proofs.Pattern.Literal
import ClosureTemplate.Proofs.Query.Program
import ClosureTemplate.Proofs.Inspect.Callees
import ClosureTemplate.Proofs.Inspect.CallParameters
import ClosureTemplate.Proofs.Inspect.Findings
import ClosureTemplate.Proofs.Inspect.ParameterUse
import ClosureTemplate.Proofs.Tree.Descent
import ClosureTemplate.Proofs.Inspect.Enabling
import ClosureTemplate.Proofs.Query.Stopping
import ClosureTemplate.Proofs.Query.Splicing
import ClosureTemplate.Proofs.Query.Inlining
import ClosureTemplate.Proofs.Query.Tracing
import ClosureTemplate.Proofs.Query.Scopes
import ClosureTemplate.Proofs.Word.Position
import ClosureTemplate.Proofs.Scan.LiteralBlock
import ClosureTemplate.Proofs.Scan.StackBottom
import ClosureTemplate.Proofs.Scan.Interruption
import ClosureTemplate.Proofs.Scan.TemplateComment
import ClosureTemplate.Proofs.Doc.Sections
import ClosureTemplate.Proofs.Doc.Delimiter
import ClosureTemplate.Proofs.Scan.Delimiters
import ClosureTemplate.Proofs.Scan.Session
import ClosureTemplate.Proofs.Word.Session
import ClosureTemplate.Proofs.Word.Accessors
import ClosureTemplate.Proofs.Token.WriteOnce
import ClosureTemplate.Proofs.Word.Decomposition
import ClosureTemplate.Proofs.Number.Numeral
import ClosureTemplate.Proofs.Scan.IntegerLiteral
