import QuickFill.Text.Interpolation

/-!
# Translators

What a page offers for showing texts in the language of its reader.
-/

namespace QuickFill

/-- The four services by which texts are put into a language. -/
structure Translator where
  /-- The text shown for a message. -/
  gettext : String → String
  /-- The text shown for a count of things, from its forms for one and for more. -/
  ngettext : String → String → Nat → String
  /-- A text with its slots filled. -/
  interpolate : String → List String → String
  dateTemplate : String

namespace Translator

def englishForm (singular plural : String) (count : Nat) : String :=
  if count = 1 then singular else plural

def englishDateTemplate : String := "%Y-%m-%d"

def english : Translator where
  gettext message := message
  ngettext := englishForm
  interpolate := Text.interpolate
  dateTemplate := englishDateTemplate

/-- Texts looked up in tables; plurals are looked up by their form for many. -/
def ofTables (messages : List (String × String)) (plurals : List (String × String × String))
    (dateTemplate : String) : Translator where
  gettext message := (messages.lookup message).getD message
  ngettext singular plural count :=
    match plurals.lookup plural with
    | some (one, other) => englishForm one other count
    | none => englishForm singular plural count
  interpolate := Text.interpolate
  dateTemplate := dateTemplate

end Translator

end QuickFill
