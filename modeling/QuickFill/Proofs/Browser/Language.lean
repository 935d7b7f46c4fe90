import QuickFill.Browser.PageFunction

/-!
# Functions that say nothing

A page may bring a function for each of the four services of a translator.  One that raises
an exception or answers with something unusable, however it is called, is as good as none at
all: English serves in its place.  The four services do not look at each other.
-/

namespace QuickFill

/-- The services for which a page may have functions. -/
inductive LanguageService where
  | gettext
  | ngettext
  | interpolate
  | dateTemplates
  deriving DecidableEq, Repr

namespace LanguageService

/-- The property of the window that a service is looked for in. -/
def name : LanguageService → String
  | .gettext => "gettext"
  | .ngettext => "ngettext"
  | .interpolate => "interpolate"
  | .dateTemplates => "get_format"

def named? (name : String) : Option LanguageService :=
  [gettext, ngettext, interpolate, dateTemplates].find? fun service => service.name = name

/-- The arguments that the function of a service may be called with. -/
def IsCall : LanguageService → List Json → Prop
  | .gettext, arguments => ∃ message, arguments = [.string message]
  | .ngettext, arguments =>
    ∃ singular plural count, arguments = [.string singular, .string plural, .ofNat count]
  | .interpolate, arguments =>
    ∃ (template : String) (values : List String),
      arguments = [.string template, .array (values.map Json.string) true]
  | .dateTemplates, arguments => arguments = [.string "DATE_INPUT_FORMATS"]

/-- What a service can be served with: a text, or an array that begins with a text. -/
def IsUsable : LanguageService → Json → Prop
  | .dateTemplates, answer => ∃ text rest closed, answer = .array (.string text :: rest) closed
  | _, answer => ∃ text, answer = .string text

/-- No call is answered with something usable: there is no function, or it raises an exception
or answers with something else each time. -/
def Unusable (service : LanguageService) (function : Option PageFunction) : Prop :=
  ∀ arguments, service.IsCall arguments →
    ∀ answer, (function.bind fun called => called.call arguments) = some answer →
      ¬service.IsUsable answer

/-- Functions that are the same, or of which none is of any use. -/
def Alike (service : LanguageService) (function other : Option PageFunction) : Prop :=
  other = function ∨ service.Unusable function ∧ service.Unusable other

/-- Translators that serve in one way. -/
def SameIn : LanguageService → Translator → Translator → Prop
  | .gettext, translator, other => other.gettext = translator.gettext
  | .ngettext, translator, other => other.ngettext = translator.ngettext
  | .interpolate, translator, other => other.interpolate = translator.interpolate
  | .dateTemplates, translator, other => other.dateTemplate = translator.dateTemplate

theorem unusable_none (service : LanguageService) : service.Unusable none := by
  rintro arguments - answer ⟨⟩

theorem unusable_failing (service : LanguageService) : service.Unusable (some .failing) := by
  rintro arguments - answer ⟨⟩

theorem unusable_constant {service : LanguageService} {answer : Json}
    (useless : ¬service.IsUsable answer) : service.Unusable (some (.constant answer)) := by
  rintro arguments - other same
  exact Option.some.inj same ▸ useless

theorem Alike.refl (service : LanguageService) (function : Option PageFunction) :
    service.Alike function function :=
  Or.inl rfl

theorem SameIn.trans {service : LanguageService} {first second third : Translator}
    (same : service.SameIn first second) (further : service.SameIn second third) :
    service.SameIn first third := by
  cases service <;> exact Eq.trans further same

theorem SameIn.symm {service : LanguageService} {first second : Translator}
    (same : service.SameIn first second) : service.SameIn second first := by
  cases service <;> exact Eq.symm same

/-- Translators that serve in one way throughout are the same. -/
theorem eq_of_sameIn {first second : Translator}
    (same : ∀ service : LanguageService, service.SameIn first second) : second = first := by
  obtain ⟨gettext, ngettext, interpolate, dateTemplate⟩ := first
  obtain rfl := same .gettext
  obtain rfl := same .ngettext
  obtain rfl := same .interpolate
  obtain rfl := same .dateTemplates
  rfl

end LanguageService

namespace PageFunctions

/-- The function of a service. -/
def of (functions : PageFunctions) : LanguageService → Option PageFunction
  | .gettext => functions.gettext
  | .ngettext => functions.ngettext
  | .interpolate => functions.interpolate
  | .dateTemplates => functions.dateTemplates

theorem textFrom_eq_none {function : Option PageFunction} {arguments : List Json}
    (unusable : ∀ answer, (function.bind fun called => called.call arguments) = some answer →
      ¬∃ text, answer = .string text) : textFrom function arguments = none := by
  rw [textFrom]
  split
  · next text answered => exact absurd ⟨text, rfl⟩ (unusable _ answered)
  · rfl

theorem firstFrom_eq_none {function : Option PageFunction} {arguments : List Json}
    (unusable : ∀ answer, (function.bind fun called => called.call arguments) = some answer →
      ¬∃ text rest closed, answer = .array (.string text :: rest) closed) :
    firstFrom function arguments = none := by
  rw [firstFrom]
  split
  · next text rest closed answered => exact absurd ⟨text, rest, closed, rfl⟩ (unusable _ answered)
  · rfl

variable {functions others : PageFunctions} {service : LanguageService}

/-- A service looks at its own function only. -/
theorem sameIn_of_eq (same : others.of service = functions.of service) :
    service.SameIn functions.translator others.translator := by
  cases service with
  | gettext =>
      funext message
      exact congrArg (fun function => (textFrom function [.string message]).getD _) same
  | ngettext =>
      funext singular plural count
      exact congrArg (fun function =>
        (textFrom function [.string singular, .string plural, .ofNat count]).getD _) same
  | interpolate =>
      funext template values
      exact congrArg (fun function =>
        (textFrom function [.string template, .array (values.map Json.string) true]).getD _) same
  | dateTemplates =>
      exact congrArg (fun function =>
        (firstFrom function [.string "DATE_INPUT_FORMATS"]).getD _) same

/-- A service without a usable function is served in English, whatever the others are. -/
theorem sameIn_english (unusable : service.Unusable (functions.of service)) :
    service.SameIn .english functions.translator := by
  cases service with
  | gettext =>
      funext message
      exact congrArg (Option.getD · _) (textFrom_eq_none (unusable _ ⟨message, rfl⟩))
  | ngettext =>
      funext singular plural count
      exact congrArg (Option.getD · _)
        (textFrom_eq_none (unusable _ ⟨singular, plural, count, rfl⟩))
  | interpolate =>
      funext template values
      exact congrArg (Option.getD · _) (textFrom_eq_none (unusable _ ⟨template, values, rfl⟩))
  | dateTemplates => exact congrArg (Option.getD · _) (firstFrom_eq_none (unusable _ rfl))

theorem sameIn_of_alike (alike : service.Alike (functions.of service) (others.of service)) :
    service.SameIn functions.translator others.translator := by
  rcases alike with same | ⟨unusable, otherUnusable⟩
  · exact sameIn_of_eq same
  · exact (sameIn_english unusable).symm.trans (sameIn_english otherUnusable)

theorem translator_eq (alike : ∀ service : LanguageService,
    service.Alike (functions.of service) (others.of service)) :
    others.translator = functions.translator :=
  LanguageService.eq_of_sameIn fun service => sameIn_of_alike (alike service)

theorem translator_eq_english (unusable : ∀ service : LanguageService,
    service.Unusable (functions.of service)) : functions.translator = .english :=
  LanguageService.eq_of_sameIn fun service => sameIn_english (unusable service)

end PageFunctions

end QuickFill
