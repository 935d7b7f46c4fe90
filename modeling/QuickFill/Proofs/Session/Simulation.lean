import QuickFill.Proofs.Session.Filling
import Mathlib.Data.List.Forall2

/-!
# Sessions on two pages

A session acts alike on two pages of different kinds when each operation of the pages
does.  This file proves that once and for all: what corresponds is given by relations
between pages, inputs and causes of refusals, and every operation of a session takes
corresponding sessions to corresponding answers or faults, and to corresponding sessions.
-/

namespace QuickFill

/-- What corresponds on two pages: the pages, the inputs on them, and the causes for
which they refuse a change. -/
structure Likeness (σ τ ι κ : Type) where
  settings : Settings
  pages : σ → τ → Prop
  inputs : ι → κ → Prop
  causes : PageFault → PageFault → Prop

namespace Likeness

variable {σ τ ι κ α β : Type}

inductive Faults (like : Likeness σ τ ι κ) : Fault → Fault → Prop
  | same (fault : Fault) : Faults like fault fault
  | refused {cause other : PageFault} : like.causes cause other →
    Faults like (.page cause) (.page other)

inductive Changes (like : Likeness σ τ ι κ) : Except PageFault σ → Except PageFault τ → Prop
  | made {page : σ} {other : τ} : like.pages page other → Changes like (.ok page) (.ok other)
  | refused {cause other : PageFault} : like.causes cause other →
    Changes like (.error cause) (.error other)

/-- Sessions that correspond, with their pages. -/
structure Sessions (like : Likeness σ τ ι κ) (running : Running σ ι) (other : Running τ κ) :
    Prop where
  settings_eq : running.session.settings = like.settings
  other_settings_eq : other.session.settings = like.settings
  gap_eq : other.session.gap = running.session.gap
  started_eq : other.session.started = running.session.started
  inputs : ∀ kind, List.Forall₂ like.inputs (running.session.registry.inputs kind)
    (other.session.registry.inputs kind)
  pages : like.pages running.page other.page

/-- Outcomes that correspond: one answer, or corresponding faults. -/
inductive Outcomes (like : Likeness σ τ ι κ) :
    EStateM.Result Fault (Running σ ι) α → EStateM.Result Fault (Running τ κ) α → Prop
  | answered (value : α) {running : Running σ ι} {other : Running τ κ} :
    like.Sessions running other → Outcomes like (.ok value running) (.ok value other)
  | failed {fault otherFault : Fault} {running : Running σ ι} {other : Running τ κ} :
    like.Faults fault otherFault → like.Sessions running other →
      Outcomes like (.error fault running) (.error otherFault other)

/-- Operations that take corresponding sessions to corresponding outcomes. -/
def Actions (like : Likeness σ τ ι κ) (action : Action σ ι α) (other : Action τ κ α) : Prop :=
  ∀ running another, like.Sessions running another →
    like.Outcomes (action.run running) (other.run another)

/-- All that pages have to do alike for sessions on them to do alike. -/
structure Bridge (like : Likeness σ τ ι κ) [Environment σ] [Attachable σ ι] [Fillable σ ι]
    [Environment τ] [Attachable τ κ] [Fillable τ κ] : Prop where
  inputs_iff : ∀ {input another : ι} {other further : κ}, like.inputs input other →
    like.inputs another further → (input = another ↔ other = further)
  clock_eq : ∀ {page : σ} {other : τ}, like.pages page other →
    Environment.clock other = Environment.clock page
  translator_eq : ∀ {page : σ} {other : τ}, like.pages page other →
    Environment.translator other = Environment.translator page
  record : ∀ {page : σ} {other : τ} (event : LogEvent), like.pages page other →
    like.pages (Environment.record event page) (Environment.record event other)
  fields : ∀ {page : σ} {other : τ}, like.pages page other →
    List.Forall₂ (fun (found : Field ι) (otherFound : Field κ) =>
      like.inputs found.input otherFound.input ∧
        otherFound.kind? like.settings = found.kind? like.settings)
      (Attachable.fields page) (Attachable.fields other)
  insertShortcut : ∀ {page : σ} {other : τ} {input : ι} {otherInput : κ} {shortcut : Shortcut},
    like.pages page other → like.inputs input otherInput →
      shortcut.spanClass = like.settings.shortcutsClass →
        like.Changes (Attachable.insertShortcut page input shortcut)
          (Attachable.insertShortcut other otherInput shortcut)
  appendNote : ∀ {page : σ} {other : τ} {input : ι} {otherInput : κ} {note : Note},
    like.pages page other → like.inputs input otherInput →
      note.classes = [like.settings.helpClass, like.settings.noteClass] →
        like.Changes (Attachable.appendNote page input note)
          (Attachable.appendNote other otherInput note)
  hasMarker : ∀ {page : σ} {other : τ} {input : ι} {otherInput : κ},
    like.pages page other → like.inputs input otherInput →
      Attachable.hasMarker other otherInput like.settings.noteClass =
        Attachable.hasMarker page input like.settings.noteClass
  step? : ∀ {page : σ} {other : τ} {input : ι} {otherInput : κ},
    like.pages page other → like.inputs input otherInput →
      Fillable.step? other otherInput = Fillable.step? page input
  write : ∀ {page : σ} {other : τ} {input : ι} {otherInput : κ} (text : String),
    like.pages page other → like.inputs input otherInput →
      like.Changes (Fillable.write page input text) (Fillable.write other otherInput text)
  focus : ∀ {page : σ} {other : τ} {input : ι} {otherInput : κ},
    like.pages page other → like.inputs input otherInput →
      like.Changes (Fillable.focus page input) (Fillable.focus other otherInput)
  hide : ∀ {page : σ} {other : τ} (handle : Nat), like.pages page other →
    like.Changes (Fillable.hide (ι := ι) page (like.settings.boxId handle))
      (Fillable.hide (ι := κ) other (like.settings.boxId handle))

variable {like : Likeness σ τ ι κ} {running : Running σ ι} {another : Running τ κ}
  {input : ι} {other : κ}

theorem Sessions.withPage (same : like.Sessions running another) {page : σ} {otherPage : τ}
    (pages : like.pages page otherPage) :
    like.Sessions (running.withPage page) (another.withPage otherPage) :=
  ⟨same.settings_eq, same.other_settings_eq, same.gap_eq, same.started_eq, same.inputs, pages⟩

/-- Corresponding inputs that are registered keep the registries in step. -/
theorem Sessions.push (same : like.Sessions running another) (kind : LinkKind)
    (inputs : like.inputs input other) :
    like.Sessions (running.push kind input) (another.push kind other) := by
  refine ⟨same.settings_eq, same.other_settings_eq, same.gap_eq, same.started_eq, ?_, same.pages⟩
  intro which
  have pushed := Registry.inputs_push running.session.registry input kind which
  have otherPushed := Registry.inputs_push another.session.registry other kind which
  rw [Running.push, Running.push, pushed, otherPushed]
  by_cases isKind : which = kind
  · rw [if_pos isKind, if_pos isKind]
    exact List.rel_append (same.inputs which) (.cons inputs .nil)
  · rw [if_neg isKind, if_neg isKind]
    exact same.inputs which

theorem Sessions.resolve (same : like.Sessions running another) (kind : LinkKind) (handle : Nat) :
    (∃ input other, like.inputs input other ∧
      running.session.registry.resolve kind handle = .ok input ∧
        another.session.registry.resolve kind handle = .ok other) ∨
    ∃ fault, running.session.registry.resolve kind handle = .error fault ∧
      another.session.registry.resolve kind handle = .error fault := by
  have lengthEq := (same.inputs kind).length_eq
  rw [Registry.resolve, Registry.resolve]
  by_cases inside : handle < (running.session.registry.inputs kind).length
  · have otherInside : handle < (another.session.registry.inputs kind).length := lengthEq ▸ inside
    rw [List.getElem?_eq_getElem inside, List.getElem?_eq_getElem otherInside]
    exact Or.inl ⟨_, _, (same.inputs kind).get inside otherInside, rfl, rfl⟩
  · have otherOutside : (another.session.registry.inputs kind).length ≤ handle := by omega
    rw [List.getElem?_eq_none (Nat.le_of_not_lt inside), List.getElem?_eq_none otherOutside]
    exact Or.inr ⟨_, rfl, rfl⟩

/-! ### Operations in a row -/

theorem Outcomes.same {fault : Fault} (same : like.Sessions running another) :
    like.Outcomes (α := α) (.error fault running) (.error fault another) :=
  .failed (.same fault) same

theorem Actions.bind {action : Action σ ι α} {otherAction : Action τ κ α}
    {next : α → Action σ ι β} {otherNext : α → Action τ κ β}
    (first : like.Actions action otherAction)
    (second : ∀ value, like.Actions (next value) (otherNext value)) :
    like.Actions (action >>= next) (otherAction >>= otherNext) := by
  intro running another same
  have middle := first running another same
  rw [EStateM.run_bind, EStateM.run_bind]
  generalize action.run running = outcome, otherAction.run another = otherOutcome at middle
  cases middle with
  | answered value after => exact second value _ _ after
  | failed faults after => exact .failed faults after

theorem Actions.foldlM {δ ε : Type} {corresponds : δ → ε → Prop} {step : β → δ → Action σ ι β}
    {otherStep : β → ε → Action τ κ β} {items : List δ} {others : List ε}
    (each : ∀ total item otherItem, corresponds item otherItem →
      like.Actions (step total item) (otherStep total otherItem))
    (items_correspond : List.Forall₂ corresponds items others) (start : β) :
    like.Actions (items.foldlM step start) (others.foldlM otherStep start) := by
  induction items_correspond generalizing start with
  | nil => exact fun _ _ same => .answered start same
  | cons head _ ih =>
      rw [List.foldlM_cons, List.foldlM_cons]
      exact Actions.bind (each start _ _ head) ih

/-! ### Attaching links and notes -/

section Bridge

variable [Environment σ] [Attachable σ ι] [Fillable σ ι] [Environment τ] [Attachable τ κ]
  [Fillable τ κ]

theorem Bridge.logged (bridge : like.Bridge) (same : like.Sessions running another)
    (event : LogEvent) : like.Sessions (running.logged event) (another.logged event) :=
  same.withPage (bridge.record event same.pages)

theorem Bridge.log (bridge : like.Bridge) (event : LogEvent) :
    like.Actions (Session.log event) (Session.log event) :=
  fun _ _ same => .answered () (bridge.logged same event)

theorem Bridge.mem_iff (bridge : like.Bridge) {inputs : List ι} {others : List κ}
    (same : List.Forall₂ like.inputs inputs others) (correspond : like.inputs input other) :
    input ∈ inputs ↔ other ∈ others := by
  induction same with
  | nil => simp
  | cons head _ ih => rw [List.mem_cons, List.mem_cons, ih, bridge.inputs_iff correspond head]

theorem Bridge.shortcutOf_eq (bridge : like.Bridge) (same : like.Sessions running another)
    (label : String) (action : QuickLink) :
    Session.shortcutOf another label action = Session.shortcutOf running label action := by
  rw [Session.shortcutOf, Session.shortcutOf, same.settings_eq, same.other_settings_eq,
    bridge.translator_eq same.pages]

theorem Bridge.notify (bridge : like.Bridge) (correspond : like.inputs input other) :
    like.Actions (Session.notify input) (Session.notify other) := by
  intro running another same
  rw [Session.run_notify, Session.run_notify, same.gap_eq, bridge.translator_eq same.pages,
    same.settings_eq, same.other_settings_eq]
  cases running.session.gap.noteText? (Environment.translator running.page) with
  | none => exact .answered false same
  | some text =>
      simp only [bridge.hasMarker same.pages correspond]
      split
      · exact .answered false (bridge.logged same _)
      · let note : Note := ⟨[like.settings.helpClass, like.settings.noteClass], text⟩
        have appended : like.Changes (Attachable.appendNote running.page input note)
            (Attachable.appendNote another.page other note) :=
          bridge.appendNote same.pages correspond rfl
        simp only [note] at appended
        generalize Attachable.appendNote running.page input _ = outcome,
          Attachable.appendNote another.page other _ = otherOutcome at appended
        cases appended with
        | refused causes => exact .failed (.refused causes) same
        | made pages => exact .answered true (bridge.logged (same.withPage pages) _)

variable [DecidableEq ι] [DecidableEq κ]

theorem Bridge.attach (bridge : like.Bridge) (kind : LinkKind) (label : String)
    (action : Nat → QuickLink) (correspond : like.inputs input other) :
    like.Actions (Session.attach kind label action input)
      (Session.attach kind label action other) := by
  intro running another same
  have registered := bridge.mem_iff (same.inputs kind) correspond
  rw [Session.run_attach, Session.run_attach, (same.inputs kind).length_eq]
  by_cases known : input ∈ running.session.registry.inputs kind
  · rw [if_pos known, if_pos (registered.mp known)]
    exact .same same
  · rw [if_neg known, if_neg fun otherKnown => known (registered.mpr otherKnown)]
    simp only [bridge.shortcutOf_eq same]
    let shortcut := Session.shortcutOf running label
      (action (another.session.registry.inputs kind).length)
    have pushed := same.push kind correspond
    have inserted : like.Changes (Attachable.insertShortcut running.page input shortcut)
        (Attachable.insertShortcut another.page other shortcut) :=
      bridge.insertShortcut same.pages correspond
        (congrArg Settings.shortcutsClass same.settings_eq)
    simp only [shortcut] at inserted
    generalize Attachable.insertShortcut running.page input _ = outcome,
      Attachable.insertShortcut another.page other _ = otherOutcome at inserted
    cases inserted with
    | refused causes => exact .failed (.refused causes) pushed
    | made pages => exact .answered _ (bridge.logged (pushed.withPage pages) _)

theorem Bridge.startField (bridge : like.Bridge) (report : StartReport) {found : Field ι}
    {otherFound : Field κ} (correspond : like.inputs found.input otherFound.input)
    (kindEq : otherFound.kind? like.settings = found.kind? like.settings) :
    like.Actions (Session.startField report found) (Session.startField report otherFound) := by
  intro running another same
  rw [Session.run_startField, Session.run_startField, same.settings_eq, same.other_settings_eq,
    kindEq]
  cases found.kind? like.settings with
  | none => exact .answered _ same
  | some kind =>
      have attached := bridge.attach kind.linkKind kind.label (kind.action like.settings)
        correspond running another same
      simp only
      generalize (Session.attach kind.linkKind kind.label (kind.action like.settings)
          found.input).run running = outcome,
        (Session.attach kind.linkKind kind.label (kind.action like.settings)
          otherFound.input).run another = otherOutcome at attached
      cases attached with
      | failed faults after => exact .failed faults after
      | @answered handle attached otherAttached after =>
          have noted := bridge.notify correspond attached otherAttached after
          simp only
          generalize (Session.notify found.input).run attached = outcome,
            (Session.notify otherFound.input).run otherAttached = otherOutcome at noted
          cases noted with
          | failed faults after => exact .failed faults after
          | answered added after => exact .answered _ after

theorem Bridge.start (bridge : like.Bridge) :
    like.Actions (Session.start (σ := σ) (ι := ι)) (Session.start (σ := τ) (ι := κ)) := by
  intro running another same
  rw [Session.run_start, Session.run_start, same.started_eq]
  by_cases started : running.session.started = true
  · rw [if_pos started, if_pos started]
    exact .same (bridge.logged same _)
  · rw [if_neg started, if_neg started]
    have begun : like.Sessions (Session.begun running) (Session.begun another) := by
      apply bridge.logged
      exact ⟨same.settings_eq, same.other_settings_eq, same.gap_eq, rfl, same.inputs, same.pages⟩
    have each (total : StartReport) (found : Field ι) (otherFound : Field κ)
        (correspond : like.inputs found.input otherFound.input ∧
          otherFound.kind? like.settings = found.kind? like.settings) :
        like.Actions (Session.startField total found) (Session.startField total otherFound) :=
      bridge.startField total correspond.1 correspond.2
    have searched := Actions.foldlM each (bridge.fields begun.pages) {} _ _ begun
    generalize ((Attachable.fields (Session.begun running).page).foldlM
        Session.startField {}).run (Session.begun running) = outcome,
      ((Attachable.fields (Session.begun another).page).foldlM
        Session.startField {}).run (Session.begun another) = otherOutcome at searched
    cases searched with
    | failed faults after => exact .failed faults after
    | answered report after => exact .answered report (bridge.logged after _)

end Bridge

/-! ### Filling inputs -/

section Fill

variable [Environment σ] [Attachable σ ι] [Fillable σ ι] [Environment τ] [Attachable τ κ]
  [Fillable τ κ]

theorem Bridge.requestText_eq (bridge : like.Bridge) (same : like.Sessions running another)
    (correspond : like.inputs input other) (request : SessionRequest) :
    Session.requestText another other request = Session.requestText running input request :=
  Session.requestText_congr (same.other_settings_eq.trans same.settings_eq.symm) same.gap_eq
    (bridge.clock_eq same.pages) (bridge.translator_eq same.pages)
    (bridge.step? same.pages correspond) request

/-- What follows the writing of a text corresponds. -/
theorem Bridge.requestEnd (bridge : like.Bridge) (same : like.Sessions running another)
    (correspond : like.inputs input other) (request : SessionRequest) :
    like.Actions (Session.requestEnd running input request)
      (Session.requestEnd another other request) := by
  have stepEq : Session.stepOf another other = Session.stepOf running input := by
    rw [Session.stepOf, Session.stepOf, same.settings_eq, same.other_settings_eq,
      bridge.step? same.pages correspond]
  cases request with
  | clock handle value template =>
      rw [Session.requestEnd, Session.requestEnd, stepEq]
      exact bridge.log _
  | today handle days => exact bridge.log _
  | pick handle year month day =>
      rw [Session.requestEnd, Session.requestEnd, same.settings_eq, same.other_settings_eq]
      refine Actions.bind ?_ fun _ => bridge.log _
      intro before otherBefore sameBefore
      have hidden := bridge.hide handle sameBefore.pages
      rw [Session.run_change, Session.run_change]
      generalize Fillable.hide before.page (like.settings.boxId handle) = outcome,
        Fillable.hide otherBefore.page (like.settings.boxId handle) = otherOutcome at hidden
      cases hidden with
      | refused causes => exact .failed (.refused causes) sameBefore
      | made pages => exact .answered () (sameBefore.withPage pages)
  | boxId handle => exact fun _ _ same => .answered () same
  | follow link =>
      cases link with
      | clockNow handle template =>
          rw [Session.requestEnd, Session.requestEnd, stepEq]
          exact bridge.log _
      | calendarDay handle days => exact bridge.log _

theorem Bridge.serve (bridge : like.Bridge) (request : SessionRequest) :
    like.Actions (Session.serve (σ := σ) (ι := ι) request)
      (Session.serve (σ := τ) (ι := κ) request) := by
  intro running another same
  cases target : request.target? with
  | none =>
      cases request <;> cases target
      rw [Session.run_serve_boxId, Session.run_serve_boxId, same.settings_eq,
        same.other_settings_eq]
      exact .answered _ same
  | some found =>
      obtain ⟨kind, handle⟩ := found
      rw [Session.run_serve target, Session.run_serve target, Session.run_fillInput,
        Session.run_fillInput]
      rcases same.resolve kind handle with
        ⟨input, other, correspond, resolved, otherResolved⟩ | ⟨fault, resolved, otherResolved⟩
      · rw [resolved, otherResolved]
        simp only [bridge.requestText_eq same correspond]
        cases Session.requestText running input request with
        | error fault => exact .same same
        | ok text =>
            have written := bridge.write text same.pages correspond
            simp only
            generalize Fillable.write running.page input text = outcome,
              Fillable.write another.page other text = otherOutcome at written
            cases written with
            | refused causes => exact .failed (.refused causes) same
            | @made page otherPage pages =>
                have focused := bridge.focus pages correspond
                simp only
                generalize Fillable.focus page input = outcome,
                  Fillable.focus otherPage other = otherOutcome at focused
                cases focused with
                | refused causes => exact .failed (.refused causes) (same.withPage pages)
                | @made shown otherShown pages =>
                    have ended := bridge.requestEnd same correspond request _ _
                      (same.withPage pages)
                    simp only
                    generalize (Session.requestEnd running input request).run
                        (running.withPage shown) = outcome,
                      (Session.requestEnd another other request).run
                        (another.withPage otherShown) = otherOutcome at ended
                    cases ended with
                    | failed faults after => exact .failed faults after
                    | answered _ after => exact .answered text after
      · rw [resolved, otherResolved]
        exact .same (bridge.logged same _)

end Fill

end Likeness

end QuickFill
