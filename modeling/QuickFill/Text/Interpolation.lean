/-!
# Positional interpolation

A message template has slots written `%s`.  One pass from left to right puts the
arguments into the slots; an argument is never looked at again.
-/

namespace QuickFill

namespace Text

/-- Fill the slots of a template in order; a slot without an argument is kept. -/
def fillSlots : List Char → List String → List Char
  | '%' :: 's' :: rest, argument :: more => argument.toList ++ fillSlots rest more
  | '%' :: 's' :: rest, [] => '%' :: 's' :: fillSlots rest []
  | character :: rest, arguments => character :: fillSlots rest arguments
  | [], _ => []

def interpolate (template : String) (arguments : List String) : String :=
  String.ofList (fillSlots template.toList arguments)

end Text

end QuickFill
