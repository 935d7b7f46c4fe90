import QuickFill.Page.Workbench
import QuickFill.Proofs.Page.Decorated
import QuickFill.Proofs.Session.Invariant

/-!
# Calls of a session on a page in memory

Scripts call a session on a page in memory in any order and with any arguments, and
the clock of the page is set now and then.  Each call is traced on a decorated page.
-/

namespace QuickFill

/-- Something done to a session on a page in memory. -/
inductive PageCall where
  | start
  | attachClock (input : Nat) (template : String)
  | attachCalendar (input : Nat)
  | notify (input : Nat)
  | serve (request : SessionRequest)
  | setClock (clock : Instant)
  deriving DecidableEq, Repr

namespace Workbench

def setClock (bench : Workbench) (clock : Instant) : Workbench :=
  { bench with clock := clock }

theorem exists_of_changePage_eq_ok {bench changed : Workbench} {outcome : Except PageFault Page}
    (accepted : bench.changePage outcome = .ok changed) :
    ∃ page, outcome = .ok page ∧ { bench with page := page } = changed := by
  cases outcome with
  | error cause => cases accepted
  | ok page => exact ⟨page, rfl, Except.ok.inj accepted⟩

/-- A change that the workbench makes is one of those that pages come about by. -/
theorem reachable_changePage {bench changed : Workbench} {outcome : Except PageFault Page}
    (change : PageChange) (reachable : bench.page.Reachable)
    (same : bench.page.after change = bench.page.orElse outcome)
    (accepted : bench.changePage outcome = .ok changed) : changed.page.Reachable := by
  obtain ⟨page, rfl, rfl⟩ := exists_of_changePage_eq_ok accepted
  have after := reachable.changed change
  rw [same] at after
  exact after

/-! ### Filling a page in memory -/

theorem write_eq (bench : Workbench) (number : Nat) (text : String) :
    Fillable.write bench number text =
      if number < bench.page.inputs.length then
        .ok { bench with
          page := bench.page.modifyInput number fun input => { input with value := text } }
      else .error (.noInput number) := by
  have asked : Fillable.write bench number text =
      bench.changePage (bench.page.write number text) := rfl
  rw [asked, Page.write_eq]
  split <;> rfl

theorem focus_eq (bench : Workbench) (number : Nat) :
    Fillable.focus bench number =
      if number < bench.page.inputs.length then
        .ok { bench with page := { bench.page with focused := some number } }
      else .error (.noInput number) := by
  have asked : Fillable.focus bench number = bench.changePage (bench.page.focus number) := rfl
  rw [asked, Page.focus_eq]
  split <;> rfl

theorem hide_eq (bench : Workbench) (id : String) :
    Fillable.hide (ι := Nat) bench id =
      if bench.page.boxes.contains id then
        .ok { bench with
          page := { bench.page with hidden := insertName id bench.page.hidden } }
      else .error (.noBox id) := by
  have asked : Fillable.hide (ι := Nat) bench id = bench.changePage (bench.page.hide id) := rfl
  rw [asked, Page.hide]
  split <;> rfl

end Workbench

def Running.onPage (running : Running Workbench Nat) (page : Page) : PageSession :=
  running.withPage { running.page with page := page }

namespace PageSession

open Session

/-- A session and its page after a call, be it answered or refused. -/
def after (running : PageSession) : PageCall → PageSession
  | .start => final Session.start running
  | .attachClock input template => final (attachClock input template) running
  | .attachCalendar input => final (attachCalendar input) running
  | .notify input => final (Session.notify input) running
  | .serve request => final (Session.serve request) running
  | .setClock clock => running.withPage (running.page.setClock clock)

/-- What every part of a call keeps, the call keeps. -/
theorem holds_after {holds : PageSession → Prop} {running : PageSession} (before : holds running)
    (logged : ∀ (running : PageSession) (event : LogEvent),
      holds running → holds (running.logged event))
    (started : ∀ running : PageSession, holds running →
      holds { running with session := { running.session with started := true } })
    (attached : ∀ {kind : LinkKind} {action : Nat → QuickLink} (label : String) (input : Nat),
      Names kind action → Keeps holds (attach kind label action input))
    (notified : ∀ input, Keeps holds (Session.notify input))
    (served : ∀ request, Keeps holds (Session.serve request))
    (reset : ∀ (running : PageSession) (clock : Instant), holds running →
      holds (running.withPage (running.page.setClock clock)))
    (call : PageCall) : holds (running.after call) := by
  cases call with
  | start => exact Keeps.start logged started attached notified running before
  | attachClock input template =>
      have names : Names .clock fun handle => .clockNow handle template := fun _ => ⟨rfl, rfl⟩
      exact attached "Now" input names running before
  | attachCalendar input =>
      have names : Names .calendar fun handle => .calendarDay handle 0 := fun _ => ⟨rfl, rfl⟩
      exact attached "Today" input names running before
  | notify input => exact notified input running before
  | serve request => exact served request running before
  | setClock clock => exact reset running clock before

variable {running : PageSession} {base : Page} {links : Nat → List Shortcut}
  {notes : Nat → List Note}

/-- An attachment is refused outright, or gets stuck on an input that is not on the
page, or puts a link before those that stand after its input. -/
theorem final_attach (formed : base.WellFormed)
    (pageEq : running.page.page = base.decorated links notes)
    (kind : LinkKind) (label : String) (action : Nat → QuickLink) (input : Nat) :
    (input ∈ running.session.registry.inputs kind ∧
        final (attach kind label action input) running = running) ∨
      (input ∉ running.session.registry.inputs kind ∧ base.inputs.length ≤ input ∧
        final (attach kind label action input) running = running.push kind input) ∨
      (input ∉ running.session.registry.inputs kind ∧ input < base.inputs.length ∧
        let handle := (running.session.registry.inputs kind).length
        let shortcut := shortcutOf running label (action handle)
        final (attach kind label action input) running =
          ((running.push kind input).onPage (base.decorated
            (Function.update links input (shortcut :: links input)) notes)).logged
              (.linkAttached kind handle)) := by
  rw [final, run_attach]
  by_cases known : input ∈ running.session.registry.inputs kind
  · rw [if_pos known]
    exact Or.inl ⟨known, rfl⟩
  · rw [if_neg known]
    apply Or.inr
    by_cases inPage : input < base.inputs.length
    · apply Or.inr
      refine ⟨known, inPage, ?_⟩
      have inserted : Attachable.insertShortcut running.page input
          (shortcutOf running label (action (running.session.registry.inputs kind).length)) =
            running.page.changePage (running.page.page.insertShortcut input _) := rfl
      rw [pageEq, Page.insertShortcut_decorated formed inPage] at inserted
      simp only [inserted]
      rfl
    · apply Or.inl
      refine ⟨known, Nat.le_of_not_lt inPage, ?_⟩
      have unnamed : (base.decorated links notes).homes[input]? = none := by
        rw [Page.homes_decorated, Page.homes, List.getElem?_map,
          List.getElem?_eq_none (Nat.le_of_not_lt inPage), Option.map_none]
      have refused : Attachable.insertShortcut running.page input
          (shortcutOf running label (action (running.session.registry.inputs kind).length)) =
            running.page.changePage (running.page.page.insertShortcut input _) := rfl
      rw [pageEq, Page.insertShortcut_eq, unnamed] at refused
      simp only [refused]
      rfl

/-- A note is put in one container, or none is. -/
theorem final_notify (pageEq : running.page.page = base.decorated links notes) (input : Nat) :
    ∃ others log, final (Session.notify input) running =
      running.withPage { running.page with page := base.decorated links others, log := log } := by
  have unchanged (log : List LogEvent) : { running.page with log := log } =
      { running.page with page := base.decorated links notes, log := log } := by
    simp only [← pageEq]
  rw [final, run_notify]
  cases running.session.gap.noteText? (Environment.translator running.page) with
  | none => exact ⟨notes, running.page.log, congrArg running.withPage (unchanged _)⟩
  | some text =>
      simp only
      by_cases marked : Attachable.hasMarker running.page input
          running.session.settings.noteClass = true
      · rw [if_pos marked]
        exact ⟨notes, running.page.log ++ [.noteSkipped], congrArg running.withPage (unchanged _)⟩
      · rw [if_neg marked]
        let note : Note :=
          ⟨[running.session.settings.helpClass, running.session.settings.noteClass], text⟩
        have appended : Attachable.appendNote running.page input note =
            running.page.changePage (running.page.page.appendNote input note) := rfl
        cases named : base.homes[input]? with
        | none =>
            rw [pageEq, Page.appendNote_eq, Page.homes_decorated, named] at appended
            simp only [note] at appended
            simp only [appended]
            exact ⟨notes, running.page.log, congrArg running.withPage (unchanged _)⟩
        | some home =>
            rw [pageEq, Page.appendNote_decorated named] at appended
            simp only [note] at appended
            simp only [appended]
            exact ⟨_, running.page.log ++ [.noteAppended running.session.gap.wholeHours], rfl⟩

structure SameNodes (running after : PageSession) : Prop where
  session_eq : after.session = running.session
  containers_eq : after.page.page.containers = running.page.page.containers
  homes_eq : after.page.page.homes = running.page.page.homes

/-- What every change of the page keeps, filling keeps. -/
theorem fillClosed_onPage {holds : PageSession → Prop}
    (logged : ∀ {current : PageSession} (event : LogEvent),
      holds current → holds (current.logged event))
    (written : ∀ {current : PageSession} (number : Nat) (text : String), holds current →
      holds (current.onPage
        (current.page.page.modifyInput number fun input => { input with value := text })))
    (focused : ∀ {current : PageSession} (number : Nat), holds current →
      holds (current.onPage { current.page.page with focused := some number }))
    (hidden : ∀ {current : PageSession} (id : String), holds current →
      holds (current.onPage
        { current.page.page with hidden := insertName id current.page.page.hidden })) :
    FillClosed holds where
  logged := logged
  written {current number text bench} before accepted := by
    rw [Workbench.write_eq] at accepted
    split at accepted
    · obtain rfl := Except.ok.inj accepted
      exact written number text before
    · cases accepted
  focused {current number bench} before accepted := by
    rw [Workbench.focus_eq] at accepted
    split at accepted
    · obtain rfl := Except.ok.inj accepted
      exact focused number before
    · cases accepted
  hidden {current id bench} before accepted := by
    rw [Workbench.hide_eq] at accepted
    split at accepted
    · obtain rfl := Except.ok.inj accepted
      exact hidden id before
    · cases accepted

theorem fillClosed_sameNodes (running : PageSession) : FillClosed (SameNodes running) := by
  refine fillClosed_onPage
    (fun _ same => ⟨same.session_eq, same.containers_eq, same.homes_eq⟩) ?_
    (fun _ same => ⟨same.session_eq, same.containers_eq, same.homes_eq⟩)
    (fun _ same => ⟨same.session_eq, same.containers_eq, same.homes_eq⟩)
  intro current number text same
  refine ⟨same.session_eq, same.containers_eq, ?_⟩
  rw [← same.homes_eq]
  exact Page.homes_modifyInput current.page.page number fun _ => rfl

theorem sameNodes_serve (running : PageSession) (request : SessionRequest) :
    SameNodes running (final (Session.serve request) running) :=
  (fillClosed_sameNodes running).serve request running ⟨rfl, rfl, rfl⟩

theorem exists_base {page : Page} (formed : base.WellFormed)
    (containersEq : page.containers = (base.decorated links notes).containers)
    (homesEq : page.homes = base.homes) :
    ∃ other : Page, page = other.decorated links notes ∧ other.WellFormed ∧
      other.containers = base.containers ∧ other.homes = base.homes := by
  refine ⟨{ page with containers := base.containers }, ?_, formed.congr rfl homesEq, rfl, homesEq⟩
  obtain ⟨inputs, containers, boxes, hidden, focused⟩ := page
  obtain rfl : containers = _ := containersEq
  rfl

/-! ### Sessions that come about -/

/-- The sessions that come about by calls from a new session on a page, whatever stands on
the page by then. -/
inductive Live : PageSession → Prop
  | created (bench : Workbench) (settings : Settings) (serverOffset : Option Int) :
    bench.page.Reachable → Live (Session.create bench settings serverOffset)
  | called {running : PageSession} (call : PageCall) : Live running → Live (running.after call)

theorem attachClosed_reachable :
    AttachClosed fun running : PageSession => running.page.page.Reachable where
  logged _ reachable := reachable
  begun reachable := reachable
  registered _ _ reachable := reachable
  linked reachable inserted :=
    Workbench.reachable_changePage (.insertShortcut _ _) reachable rfl inserted
  noted reachable appended :=
    Workbench.reachable_changePage (.appendNote _ _) reachable rfl appended

theorem fillClosed_reachable :
    FillClosed fun running : PageSession => running.page.page.Reachable where
  logged _ reachable := reachable
  written reachable accepted := Workbench.reachable_changePage (.write _ _) reachable rfl accepted
  focused reachable accepted := Workbench.reachable_changePage (.focus _) reachable rfl accepted
  hidden reachable accepted := Workbench.reachable_changePage (.hide _) reachable rfl accepted

theorem Live.reachable {running : PageSession} (live : Live running) :
    running.page.page.Reachable := by
  induction live with
  | created bench settings serverOffset reachable => exact reachable
  | called call _ ih =>
      exact @holds_after (fun running => running.page.page.Reachable) _ ih
        (fun _ _ before => before) (fun _ before => before)
        (fun label input _ => attachClosed_reachable.attach _ label _ input)
        attachClosed_reachable.notify fillClosed_reachable.serve (fun _ _ before => before) call

/-! ### A page to look at -/

/-- A page with a day and an hour in one place and a name in another. -/
def meetingFixture : PageFixture where
  fields := [
    { id := "day", type := "date", classes := ["vDateField"], container := some "when" },
    { id := "hour", type := "time", classes := ["vTimeField"], container := some "when" },
    { id := "name", type := "text" }]

/-- A session on that page, two hours ahead of its server. -/
def meeting : PageSession :=
  Session.create
    { page := .ofFixture meetingFixture, clock := ⟨0, 0, 7200⟩, translator := .english }
    .standard (some 0)

theorem live_meeting : Live meeting :=
  .created _ .standard (some 0) (.described meetingFixture)

end PageSession

end QuickFill
