import SourceLine.Text.Basic
import SourceLine.Text.CodeRanges
import SourceLine.Text.Blank
import SourceLine.Text.Printable
import SourceLine.Text.Combining
import SourceLine.Text.Quoted
import SourceLine.Text.Lowercase
import SourceLine.Pattern.CharSet
import SourceLine.Pattern.Basic
import SourceLine.Pattern.Written
import SourceLine.Pattern.Reach
import SourceLine.Pattern.Pieces
import SourceLine.Pattern.Language
import SourceLine.Pattern.Matcher
import SourceLine.Pattern.Occurrence
import SourceLine.Shape
import SourceLine.Construct.Basic
import SourceLine.Construct.Spelling
import SourceLine.Construct.Encoding
import SourceLine.Error
import SourceLine.Line.Detect
import SourceLine.Line.ClassName
import SourceLine.Line.FunctionName
import SourceLine.Line.Outline
import SourceLine.Line.Declared
import SourceLine.Proofs.Pattern.Denotes
import SourceLine.Proofs.Pattern.Longest
import SourceLine.Proofs.Pattern.CharSet
import SourceLine.Proofs.Pattern.Matches
import SourceLine.Proofs.Pattern.Cuts
import SourceLine.Proofs.Shape.Texts
import SourceLine.Proofs.Shape.Matches
import SourceLine.Proofs.Line.Constructs
import SourceLine.Proofs.Line.Header
import SourceLine.Proofs.Line.KeywordHeader
import SourceLine.Proofs.Line.LineFeed
import SourceLine.Proofs.Line.Embedding
import SourceLine.Proofs.Text.Blank
import SourceLine.Proofs.Line.Indentation
import SourceLine.Proofs.Line.Declared
import SourceLine.Proofs.Line.NamePlaces
import SourceLine.Proofs.Line.KeywordFunction
import SourceLine.Proofs.Line.Binding
import SourceLine.Proofs.Line.Condition
import SourceLine.Proofs.Line.ClassNames
import SourceLine.Proofs.Line.FunctionNames
import SourceLine.Proofs.Line.TypedHeaders
import SourceLine.Proofs.Text.Segments
import SourceLine.Proofs.Line.BindingWords
import SourceLine.Proofs.Line.Parameters
import SourceLine.Proofs.Construct.Spelling
import SourceLine.Proofs.Text.Quoted
import SourceLine.Proofs.Error
