import QuickFill.Proofs.Browser.Mended
import QuickFill.Proofs.Browser.Reentry

/-!
# English in the gaps

A page function that is of no use is as good as none.  Two pages that differ in such functions
only show the same in every step of a run, even if scripts set more of them on the way, and
they end as the same page but for these functions.
-/

namespace QuickFill

/-- Events that are the same but for functions of no use. -/
inductive SameButUseless : PageEvent → PageEvent → Prop
  | same (event : PageEvent) : SameButUseless event event
  | setGlobal (service : LanguageService) {function other : Option PageFunction} :
    service.Alike function other →
      SameButUseless (.setGlobal service.name function) (.setGlobal service.name other)
  | listen (id : String) {events others : List PageEvent} :
    List.Forall₂ SameButUseless events others →
      SameButUseless (.listen id events) (.listen id others)

theorem LanguageService.named?_name (service : LanguageService) :
    named? service.name = some service := by
  cases service <;> rfl

mutual

theorem SameButUseless.mended_eq {event other : PageEvent} :
    SameButUseless event other → other.mended = event.mended
  | .same event => rfl
  | .setGlobal service alike => by
    rw [PageEvent.mended, PageEvent.mended, LanguageService.mendNamed, LanguageService.mendNamed,
      service.named?_name]
    simp only [LanguageService.mend_eq_of_alike alike]
  | .listen id same => congrArg (PageEvent.listen id) (mendedAll_eq same)

theorem mendedAll_eq {events others : List PageEvent} :
    List.Forall₂ SameButUseless events others →
      PageEvent.mendedAll others = PageEvent.mendedAll events
  | .nil => rfl
  | .cons head tail => congrArg₂ List.cons head.mended_eq (mendedAll_eq tail)

end

theorem mendedListeners_eq {listeners others : List (Nat × List PageEvent)}
    (same : List.Forall₂ (fun listener other => other.1 = listener.1 ∧
      List.Forall₂ SameButUseless listener.2 other.2) listeners others) :
    mendedListeners others = mendedListeners listeners := by
  induction same with
  | nil => rfl
  | cons head _ ih => exact congrArg₂ List.cons (Prod.ext head.1 (mendedAll_eq head.2)) ih

theorem PageFunctions.mended_eq {functions others : PageFunctions}
    (alike : ∀ service : LanguageService,
      service.Alike (functions.of service) (others.of service)) :
    others.mended = functions.mended := by
  have same (service : LanguageService) :
      service.mend (others.of service) = service.mend (functions.of service) :=
    LanguageService.mend_eq_of_alike (alike service)
  rw [mended, mended, PageFunctions.mk.injEq]
  exact ⟨same .gettext, same .ngettext, same .interpolate, same .dateTemplates⟩

namespace Browser

/-- Pages that are the same but for functions of no use, now and later. -/
structure SameButFunctions (page other : Browser) : Prop where
  page_eq : other = { page with functions := other.functions, listeners := other.listeners }
  functions : ∀ service : LanguageService,
    service.Alike (page.functions.of service) (other.functions.of service)
  listeners : List.Forall₂ (fun listener another => another.1 = listener.1 ∧
    List.Forall₂ SameButUseless listener.2 another.2) page.listeners other.listeners

variable {page other : Browser}

theorem SameButFunctions.mended_eq (same : SameButFunctions page other) :
    other.mended = page.mended := by
  rw [same.page_eq, mended, mended]
  simp only [PageFunctions.mended_eq same.functions, mendedListeners_eq same.listeners]

/-- What is the same without useless functions differs in functions only. -/
theorem eq_of_mended_eq (same : other.mended = page.mended) :
    other = { page with functions := other.functions, listeners := other.listeners } := by
  have restored (page : Browser) : page =
      { page.mended with functions := page.functions, listeners := page.listeners } := rfl
  have plainly := restored other
  rw [same] at plainly
  exact plainly

/-- Functions of no use have no part in what a page shows, and English stands in for each of
them by itself. -/
structure EnglishInGaps (page other : Browser) (events others : List PageEvent) : Prop where
  /-- Each step has the same answer, focus, values, lines on the console and nested answers. -/
  steps_eq : (other.run others).1 = (page.run events).1
  /-- The documents and all that sessions know are the same at the end. -/
  page_eq : (other.run others).2 = { (page.run events).2 with
    functions := (other.run others).2.functions
    listeners := (other.run others).2.listeners }
  /-- A service depends on its own function only. -/
  own : ∀ (service : LanguageService) (functions : PageFunctions),
    functions.of service = page.functions.of service →
      service.SameIn page.functions.translator functions.translator
  /-- A service without a usable function is that of English, whatever the others are. -/
  fallsBack : ∀ service : LanguageService, service.Unusable (page.functions.of service) →
    service.SameIn .english page.functions.translator
  /-- Without any usable function the labels of links, the texts of notes and the template for
  picked dates are those of English. -/
  english : (∀ service : LanguageService, service.Unusable (page.functions.of service)) →
    (∀ (session : Session Nat) (label : String) (action : QuickLink),
      (Session.shortcutOf ⟨session, page⟩ label action).label = label) ∧
    (∀ gap : ZoneGap, gap.noteText? (Environment.translator page) = gap.noteText? .english) ∧
    ∀ (session : Session Nat) (year : Int) (month day : Nat),
      Session.pickText ⟨session, page⟩ year month day =
        match Date.ofSupported? year month day with
        | none => .error (.invalidDate year month day)
        | some date => Session.fill "%Y-%m-%d" (.ofWall date ⟨0, 0⟩)

/-- A page function that is of no use is as good as none. -/
theorem useless_as_absent {events others : List PageEvent} (samePage : SameButFunctions page other)
    (sameEvents : List.Forall₂ SameButUseless events others) :
    EnglishInGaps page other events others := by
  have runs : Prod.map id mended (other.run others) = Prod.map id mended (page.run events) := by
    rw [← run_events_mended, ← run_events_mended, samePage.mended_eq, mendedAll_eq sameEvents]
  obtain ⟨stepsEq, lastEq⟩ := Prod.ext_iff.mp runs
  refine ⟨stepsEq, eq_of_mended_eq lastEq,
    fun service functions same => PageFunctions.sameIn_of_eq same,
    fun service unusable => PageFunctions.sameIn_english unusable, fun unusable => ?_⟩
  have translatorEq : Environment.translator page = .english :=
    PageFunctions.translator_eq_english unusable
  refine ⟨fun session label action => ?_, fun gap => by rw [translatorEq],
    fun session year month day => ?_⟩
  · rw [Session.shortcutOf, translatorEq]
    rfl
  · rw [Session.pickText, translatorEq]
    rfl

/-- A function that raises an exception for one text and answers with a number to all others. -/
def moody (text : String) : PageFunction where
  call arguments :=
    if PageFunction.textOf (PageFunction.argument arguments 0) = text then none
    else some (.ofNat 1)

theorem unusable_moody (text : String) : LanguageService.gettext.Unusable (some (moody text)) := by
  rintro arguments - answer answered ⟨other, rfl⟩
  simp only [Option.bind_some, moody] at answered
  split at answered <;> cases answered

/-- The agenda in a language of which the page knows one word, and functions that fail. -/
def foreignAgenda (ngettext interpolate dateTemplates : Option PageFunction) : Browser :=
  { agenda with functions :=
    { gettext := some (.messages [("Today", "Heute")]), ngettext := ngettext,
      interpolate := interpolate, dateTemplates := dateTemplates } }

/-- Its one word is forgotten, and then it is booted and its day is filled. -/
def forgetfulEvents (forgotten : Option PageFunction) : List PageEvent :=
  [.setGlobal "gettext" forgotten, .boot none, .click 0]

theorem useless_as_absent_agenda :
    SameButFunctions
        (foreignAgenda (some .failing) (some (.constant .null)) (some (.constant (.ofList []))))
        (foreignAgenda none none none) ∧
      List.Forall₂ SameButUseless (forgetfulEvents (some (moody "Today")))
        (forgetfulEvents none) ∧
      EnglishInGaps
        (foreignAgenda (some .failing) (some (.constant .null)) (some (.constant (.ofList []))))
        (foreignAgenda none none none) (forgetfulEvents (some (moody "Today")))
        (forgetfulEvents none) ∧
      ((foreignAgenda none none none).run (forgetfulEvents none)).1.map PageStep.values =
        [["", ""], ["", ""], ["1970-01-01", ""]] := by
  have samePage : SameButFunctions
      (foreignAgenda (some .failing) (some (.constant .null)) (some (.constant (.ofList []))))
      (foreignAgenda none none none) := by
    refine ⟨rfl, fun service => ?_, .nil⟩
    cases service with
    | gettext => exact .refl _ _
    | ngettext => exact .inr ⟨LanguageService.unusable_failing _, LanguageService.unusable_none _⟩
    | interpolate =>
        exact .inr ⟨LanguageService.unusable_constant (by rintro ⟨text, ⟨⟩⟩),
          LanguageService.unusable_none _⟩
    | dateTemplates =>
        exact .inr ⟨LanguageService.unusable_constant (by rintro ⟨text, rest, closed, ⟨⟩⟩),
          LanguageService.unusable_none _⟩
  have sameEvents : List.Forall₂ SameButUseless (forgetfulEvents (some (moody "Today")))
      (forgetfulEvents none) :=
    .cons (.setGlobal .gettext (.inr ⟨unusable_moody "Today", LanguageService.unusable_none _⟩))
      (.cons (.same _) (.cons (.same _) .nil))
  exact ⟨samePage, sameEvents, useless_as_absent samePage sameEvents, by decide +kernel⟩

end Browser

end QuickFill
