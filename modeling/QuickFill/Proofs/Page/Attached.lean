import QuickFill.Proofs.Page.Calls
import QuickFill.Proofs.Page.Consistent

/-!
# Attached inputs

An attachment registers its input and then puts a link right after it.  An input that
is known already is refused before anything is done.  An input that is not on the page is
refused a link, and by then it is registered: it keeps the handle that it got, and the
same attachment is refused for another reason from then on.
-/

namespace QuickFill

namespace Page

theorem insertAfter?_eq_some {number : Nat} {shortcut : Shortcut} {nodes changed : List PageNode}
    (inserted : insertAfter? number shortcut nodes = some changed) :
    ∃ front back, nodes = front ++ .input number :: back ∧
      changed = front ++ .input number :: .shortcut shortcut :: back := by
  induction nodes generalizing changed with
  | nil => cases inserted
  | cons node rest ih =>
      rw [insertAfter?] at inserted
      split at inserted
      · next same =>
        subst same
        obtain rfl := Option.some.inj inserted
        exact ⟨[], rest, rfl, rfl⟩
      · obtain ⟨others, insertedRest, rfl⟩ := Option.map_eq_some_iff.mp inserted
        obtain ⟨front, back, rfl, rfl⟩ := ih insertedRest
        exact ⟨node :: front, back, rfl, rfl⟩

/-- A page before and after one link was put right after an input, and what did not
change. -/
structure LinkedAlone (number : Nat) (shortcut : Shortcut) (before after : Page) : Prop where
  inputs_eq : after.inputs = before.inputs
  boxes_eq : after.boxes = before.boxes
  hidden_eq : after.hidden = before.hidden
  focused_eq : after.focused = before.focused
  /-- The container of the input has one node more, and no other container has. -/
  containers_eq : ∃ (input : Input) (container : Container) (front back : List PageNode),
    before.inputs[number]? = some input ∧ before.containers[input.home]? = some container ∧
      container.nodes = front ++ .input number :: back ∧
        after.containers = before.containers.set input.home
          { container with nodes := front ++ .input number :: .shortcut shortcut :: back }

theorem WellFormed.linkedAlone {page changed : Page} (formed : page.WellFormed) {number : Nat}
    {shortcut : Shortcut} (outcome : page.insertShortcut number shortcut = .ok changed) :
    LinkedAlone number shortcut page changed := by
  rw [insertShortcut_eq] at outcome
  split at outcome
  · cases outcome
  · cases outcome
  · next home nodes named inserted =>
    obtain rfl := Except.ok.inj outcome
    obtain ⟨input, found, rfl⟩ := homes_eq_some named
    obtain ⟨_, container, alsoFound, placed, -⟩ :=
      formed.exists_container (List.getElem?_eq_some_iff.mp found).1
    obtain rfl := Option.some.inj (found.symm.trans alsoFound)
    rw [siblings_eq found placed] at inserted
    obtain ⟨front, back, nodesEq, rfl⟩ := insertAfter?_eq_some inserted
    refine ⟨rfl, rfl, rfl, rfl, input, container, front, back, found, placed, nodesEq, ?_⟩
    simp [List.modify_eq_set_getElem?, placed]

end Page

namespace PageSession

open Session

/-- How an attachment of an input to one kind of links ends; the link that it puts on the
page depends on the handle. -/
structure AttachesAlone (running : PageSession) (kind : LinkKind) (input : Nat)
    (link : Nat → Shortcut) (attaching : Action Workbench Nat Nat) : Prop where
  /-- Nothing is done for an input that is known, and an input that is not on the page is
  known from then on. -/
  refused : ∀ fault after, attaching.run running = .error fault after →
    input ∈ running.session.registry.inputs kind ∧ fault = .alreadyRegistered kind ∧
        after = running ∨
      input ∉ running.session.registry.inputs kind ∧ running.page.page.inputs.length ≤ input ∧
        fault = .page (.noInput input) ∧ after = running.push kind input ∧
          attaching.run after = .error (.alreadyRegistered kind) after
  answered : ∀ handle after, attaching.run running = .ok handle after →
    input ∉ running.session.registry.inputs kind ∧ input < running.page.page.inputs.length ∧
      handle = (running.session.registry.inputs kind).length ∧
        after.session = (running.push kind input).session ∧
          Page.LinkedAlone input (link handle) running.page.page after.page.page

variable {running : PageSession} {kind : LinkKind} {input : Nat}

theorem attachesAlone_attach (formed : running.page.page.WellFormed) (kind : LinkKind)
    (label : String) (action : Nat → QuickLink) (input : Nat) :
    AttachesAlone running kind input (fun handle => shortcutOf running label (action handle))
      (attach kind label action input) := by
  have inserts (shortcut : Shortcut) : Attachable.insertShortcut running.page input shortcut =
      running.page.changePage (running.page.page.insertShortcut input shortcut) := rfl
  constructor
  · intro fault after failed
    rw [run_attach] at failed
    by_cases known : input ∈ running.session.registry.inputs kind
    · rw [if_pos known] at failed
      obtain ⟨rfl, rfl⟩ := EStateM.Result.error.inj failed
      exact Or.inl ⟨known, rfl, rfl⟩
    · rw [if_neg known] at failed
      let shortcut :=
        shortcutOf running label (action (running.session.registry.inputs kind).length)
      obtain ⟨linked, refused⟩ := formed.insertShortcut_granted input shortcut
      by_cases onPage : input < running.page.page.inputs.length
      · obtain ⟨changed, outcome⟩ := linked onPage
        simp only [inserts, shortcut] at failed outcome
        simp only [outcome] at failed
        cases failed
      · have outcome := refused onPage
        simp only [inserts, shortcut] at failed outcome
        simp only [outcome] at failed
        obtain ⟨rfl, rfl⟩ := EStateM.Result.error.inj failed
        have registered : input ∈ (running.push kind input).session.registry.inputs kind := by
          simp [Running.push]
        refine Or.inr ⟨known, Nat.le_of_not_lt onPage, rfl, rfl, ?_⟩
        rw [run_attach, if_pos registered]
  · intro handle after attached
    obtain ⟨unknown, handleEq, bench, inserted, rfl⟩ := attach_eq_ok attached
    rw [inserts] at inserted
    obtain ⟨changed, outcome, rfl⟩ := Workbench.exists_of_changePage_eq_ok inserted
    have linked := formed.linkedAlone outcome
    obtain ⟨_, _, _, _, found, -⟩ := linked.containers_eq
    exact ⟨unknown, (List.getElem?_eq_some_iff.mp found).1, handleEq, rfl, linked⟩

/-- In every state that calls lead to, an attachment that is answered takes the next
handle of its kind and puts one link on the page; one that is refused leaves the page as
it was, and registers its input only when that input is not on the page. -/
theorem attaches_alone (live : Live running) (input : Nat) :
    (∀ template, AttachesAlone running .clock input
        (fun handle => shortcutOf running "Now" (.clockNow handle template))
        (attachClock input template)) ∧
      AttachesAlone running .calendar input
        (fun handle => shortcutOf running "Today" (.calendarDay handle 0))
        (attachCalendar input) :=
  have formed := live.reachable.wellFormed
  ⟨fun _ => attachesAlone_attach formed .clock "Now" _ input,
    attachesAlone_attach formed .calendar "Today" _ input⟩

/-- The name on the page of the meeting, which a start does not register. -/
theorem attaches_alone_meeting :
    (meeting.after .start).session.registry = ⟨[1], [0]⟩ ∧
      AttachesAlone (meeting.after .start) .clock 2
        (fun handle => shortcutOf (meeting.after .start) "Now" (.clockNow handle "%H"))
        (attachClock 2 "%H") :=
  ⟨by decide +kernel, (attaches_alone (live_meeting.called .start) 2).1 "%H"⟩

/-- An input that is not on the page of the meeting is registered with the refusal of its
link, and then refused for being registered. -/
theorem absent_meeting :
    Live meeting ∧ meeting.session.registry = ⟨[], []⟩ ∧
      ∃ after, (attachClock 9 "%H").run meeting = .error (.page (.noInput 9)) after ∧
        after.session.registry = ⟨[9], []⟩ ∧
          (attachClock 9 "%H").run after = .error (.alreadyRegistered .clock) after := by
  refine ⟨live_meeting, rfl, final (attachClock 9 "%H") meeting, ?_, ?_, ?_⟩
  · rfl
  · decide +kernel
  · rfl

end PageSession

end QuickFill
