/-!
# Tokens of YAML

The words of a document. Indentation is a word of its own: block collections have a start and an
end.
-/
namespace TestSelection.Yaml

/-- How a scalar is written. -/
inductive ScalarStyle
  | plain
  | singleQuoted
  | doubleQuoted
  | literal
  | folded
  deriving DecidableEq

inductive Token
  | versionDirective (major minor : Nat)
  | tagDirective (handle head : String)
  | documentStart
  | documentEnd
  | blockSequenceStart
  | blockMappingStart
  | blockEnd
  | flowSequenceStart
  | flowSequenceEnd
  | flowMappingStart
  | flowMappingEnd
  | blockEntry
  | flowEntry
  | key
  | value
  | aliasTo (name : String)
  | anchor (name : String)
  | tag (handle suffix : String)
  | scalar (style : ScalarStyle) (text : String)
  deriving DecidableEq, Inhabited

/-- Why a text is no document. -/
inductive SyntaxError
  | forbiddenCharacter
  | unexpectedCharacter
  | simpleKey
  | blockEntryPlace
  | keyPlace
  | valuePlace
  | directive
  | anchorName
  | tag
  | blockHeader
  | tabIndentation
  | colonInFlow
  | escape
  | unclosedQuote
  | documentMarkerInQuote
  | unexpectedToken
  | undefinedHandle
  | unknownAnchor
  | severalDocuments
  deriving DecidableEq

def SyntaxError.message : SyntaxError → String
  | forbiddenCharacter => "control characters are not allowed"
  | unexpectedCharacter => "found character that cannot start any token"
  | simpleKey => "could not find expected ':'"
  | blockEntryPlace => "block sequence entries are not allowed in this context"
  | keyPlace => "mapping keys are not allowed in this context"
  | valuePlace => "mapping values are not allowed in this context"
  | directive => "malformed directive"
  | anchorName => "malformed anchor or alias"
  | tag => "malformed tag"
  | blockHeader => "malformed block scalar header"
  | tabIndentation => "found a tab character where an indentation space is expected"
  | colonInFlow => "found unexpected ':'"
  | escape => "malformed escape sequence"
  | unclosedQuote => "found unexpected end of stream"
  | documentMarkerInQuote => "found unexpected document indicator"
  | unexpectedToken => "did not find expected node content"
  | undefinedHandle => "found undefined tag handle"
  | unknownAnchor => "unknown anchor"
  | severalDocuments => "more than one document"

end TestSelection.Yaml
