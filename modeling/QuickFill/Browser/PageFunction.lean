import QuickFill.Json.Value
import QuickFill.Translator

/-!
# Functions of a page

A page may define four functions that put texts into the language of its reader.
Each of them is used when it is there and answers with something usable; otherwise
the English service takes its place, for that function alone.
-/

namespace QuickFill

/-- Any function that scripts may have put on a page, known by what it answers to its
arguments; none when it raises an exception.  Only texts and arrays are ever used of what it
answers with, so null may stand for all other values. -/
structure PageFunction where
  call : List Json → Option Json

namespace PageFunction

def constant (answer : Json) : PageFunction where
  call _ := some answer

def failing : PageFunction where
  call _ := none

/-! ### Functions of a catalogue

Pages often get their functions from a catalogue, which knows the texts of one language.
-/

/-- An argument that the caller may have left out. -/
def argument (arguments : List Json) (place : Nat) : Json :=
  arguments[place]?.getD .null

/-- The text of an argument, for a function that takes texts. -/
def textOf : Json → String
  | .string text => text
  | _ => ""

def textsOf : Json → List String
  | .array items _ => items.map textOf
  | _ => []

/-- A template with its slots filled; a slot without an argument says so. -/
def fill (template : String) (values : List String) : String :=
  Text.interpolate template (values ++ List.replicate template.length "undefined")

def isOne : Json → Bool
  | .number value _ => value == Decimal.ofInt 1
  | _ => false

/-- Looks its first argument up in a table. -/
def messages (table : List (String × String)) : PageFunction where
  call arguments :=
    let message := textOf (argument arguments 0)
    some (.string ((table.lookup message).getD message))

/-- Looks its second argument up in a table of forms for one and for more. -/
def plurals (table : List (String × String × String)) : PageFunction where
  call arguments :=
    let count := argument arguments 2
    match table.lookup (textOf (argument arguments 1)) with
    | some (one, other) => some (.string (if isOne count then one else other))
    | none => some (if isOne count then argument arguments 0 else argument arguments 1)

/-- Fills the slots of its first argument from its second. -/
def slots : PageFunction where
  call arguments :=
    some (.string (fill (textOf (argument arguments 0)) (textsOf (argument arguments 1))))

end PageFunction

structure PageFunctions where
  gettext : Option PageFunction := none
  ngettext : Option PageFunction := none
  interpolate : Option PageFunction := none
  dateTemplates : Option PageFunction := none

namespace PageFunctions

/-- The functions with the property of a name set; other names mean nothing. -/
def define (functions : PageFunctions) (name : String) (function : Option PageFunction) :
    PageFunctions :=
  if name = "gettext" then { functions with gettext := function }
  else if name = "ngettext" then { functions with ngettext := function }
  else if name = "interpolate" then { functions with interpolate := function }
  else if name = "get_format" then { functions with dateTemplates := function }
  else functions

def textFrom (function : Option PageFunction) (arguments : List Json) : Option String :=
  match function.bind fun function => function.call arguments with
  | some (.string text) => some text
  | _ => none

/-- The first item of the array that a function answers with. -/
def firstFrom (function : Option PageFunction) (arguments : List Json) : Option String :=
  match function.bind fun function => function.call arguments with
  | some (.array (.string text :: _) _) => some text
  | _ => none

/-- The translator made of the functions of a page, with English in the gaps. -/
def translator (functions : PageFunctions) : Translator where
  gettext message :=
    (textFrom functions.gettext [.string message]).getD (Translator.english.gettext message)
  ngettext singular plural count :=
    (textFrom functions.ngettext [.string singular, .string plural, .ofNat count]).getD
      (Translator.english.ngettext singular plural count)
  interpolate template arguments :=
    (textFrom functions.interpolate
      [.string template, .array (arguments.map Json.string) true]).getD
      (Translator.english.interpolate template arguments)
  dateTemplate :=
    (firstFrom functions.dateTemplates [.string "DATE_INPUT_FORMATS"]).getD
      Translator.english.dateTemplate

end PageFunctions

end QuickFill
