/-!
Finding a text inside another one.
-/
namespace TestSelection.Text

/-- Whether the pattern stands somewhere in the text, character by character. -/
def occurs (pattern : List Char) : List Char → Bool
  | [] => pattern.isEmpty
  | c :: rest => pattern.isPrefixOf (c :: rest) || occurs pattern rest

end TestSelection.Text
