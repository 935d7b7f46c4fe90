/-!
# Escaped text

Texts enter the markup of a page with the five characters that could be taken
for markup written as entities.
-/

namespace QuickFill

namespace Text

/-- A character as it stands inside markup. -/
def escapeChar : Char → List Char
  | '&' => "&amp;".toList
  | '<' => "&lt;".toList
  | '>' => "&gt;".toList
  | '"' => "&quot;".toList
  | '\'' => "&#39;".toList
  | character => [character]

def escape (text : String) : String :=
  String.ofList (text.toList.flatMap escapeChar)

end Text

end QuickFill
