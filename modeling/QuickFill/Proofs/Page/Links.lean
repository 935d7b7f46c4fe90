import QuickFill.Proofs.Page.Calls
import Mathlib.Data.List.Nodup

/-!
# Links and registries

The links on a page and the registered inputs match: the handle of a link resolves
to the input that the link stands after, and every registered input of the page has
one link for its handle.  No call breaks this, whatever its arguments are and however
it ends.
-/

namespace QuickFill

def PageNode.shortcut? : PageNode → Option Shortcut
  | .shortcut span => some span
  | _ => none

def Shortcut.carries (kind : LinkKind) (handle : Nat) (shortcut : Shortcut) : Bool :=
  shortcut.action.kind == kind && shortcut.action.handle == handle

namespace Page

def shortcuts (page : Page) : List Shortcut :=
  page.containers.flatMap fun container => container.nodes.filterMap PageNode.shortcut?

def lastInput? (nodes : List PageNode) : Option Nat :=
  (nodes.filterMap PageNode.number?).getLast?

variable {links : Nat → List Shortcut} {notes : Nat → List Note}

/-! ### Links of a decorated page -/

theorem filterMap_shortcut?_notes (notes : List Note) :
    (notes.map PageNode.note).filterMap PageNode.shortcut? = [] := by
  induction notes with
  | nil => rfl
  | cons note rest ih => rwa [List.map_cons, List.filterMap_cons_none rfl]

theorem filterMap_shortcut?_links (shortcuts : List Shortcut) :
    (shortcuts.map PageNode.shortcut).filterMap PageNode.shortcut? = shortcuts := by
  have kept : PageNode.shortcut? ∘ PageNode.shortcut = some := rfl
  rw [List.filterMap_map, kept, List.filterMap_some]

theorem shortcuts_decorated_container {container : Container} (home : List Note)
    (plain : container.nodes.filterMap PageNode.shortcut? = []) :
    (container.decorated links home).nodes.filterMap PageNode.shortcut? =
      container.numbers.flatMap links := by
  rw [Container.decorated, List.filterMap_append, filterMap_shortcut?_notes, List.append_nil,
    Container.numbers]
  revert plain
  induction container.nodes with
  | nil => exact fun _ => rfl
  | cons node rest ih =>
      intro plain
      cases node with
      | input number =>
          rw [List.filterMap_cons_none rfl] at plain
          have isInput : (PageNode.input number).number? = some number := rfl
          rw [List.flatMap_cons, PageNode.withLinks, List.filterMap_append, ih plain,
            List.filterMap_cons_none rfl, filterMap_shortcut?_links,
            List.filterMap_cons_some isInput, List.flatMap_cons]
      | shortcut shortcut => cases plain
      | note note =>
          rw [List.filterMap_cons_none rfl] at plain
          have alone : (PageNode.note note).withLinks links = [.note note] := rfl
          rw [List.flatMap_cons, alone, List.filterMap_append, ih plain,
            List.filterMap_cons_none rfl]
          rfl

theorem plain_of_mem {page : Page} (plain : page.shortcuts = []) {container : Container}
    (member : container ∈ page.containers) :
    container.nodes.filterMap PageNode.shortcut? = [] :=
  List.flatMap_eq_nil_iff.mp plain container member

theorem shortcuts_decorated {page : Page} (plain : page.shortcuts = []) :
    (page.decorated links notes).shortcuts = page.inputOrder.flatMap links := by
  have containersEq : (page.decorated links notes).containers.map
      (fun container => container.nodes.filterMap PageNode.shortcut?) =
        page.containers.map fun container => container.numbers.flatMap links := by
    apply List.ext_getElem?
    intro home
    rw [decorated, List.getElem?_map, List.getElem?_map, List.getElem?_mapIdx]
    cases placed : page.containers[home]? with
    | none => rfl
    | some container =>
        have kept := plain_of_mem plain (List.mem_of_getElem? placed)
        simp [shortcuts_decorated_container _ kept]
  rw [shortcuts, List.flatMap_def, containersEq, ← List.flatMap_def, inputOrder_eq_flatten, rows,
    ← List.flatMap_def, List.flatMap_assoc]

theorem lastInput?_append (front back : List PageNode) :
    lastInput? (front ++ back) = (lastInput? back).or (lastInput? front) := by
  rw [lastInput?, List.filterMap_append, List.getLast?_append]
  rfl

theorem lastInput?_of_append {shortcuts : List Shortcut} {front back : List PageNode}
    (split : shortcuts.map PageNode.shortcut = front ++ back) : lastInput? front = none := by
  have noInput : (shortcuts.map PageNode.shortcut).filterMap PageNode.number? = [] :=
    filterMap_map_eq_nil shortcuts fun _ => rfl
  rw [split, List.filterMap_append] at noInput
  rw [lastInput?, (List.append_eq_nil_iff.mp noInput).1]
  rfl

/-- A link among decorated nodes decorates the last input before it. -/
theorem mem_links_of_split {nodes tail front back : List PageNode} {shortcut : Shortcut}
    (plain : nodes.filterMap PageNode.shortcut? = [])
    (tailPlain : tail.filterMap PageNode.shortcut? = [])
    (split : nodes.flatMap (PageNode.withLinks links) ++ tail =
      front ++ .shortcut shortcut :: back) :
    ∃ number, lastInput? front = some number ∧ shortcut ∈ links number := by
  induction nodes generalizing front with
  | nil =>
      have inTail : PageNode.shortcut shortcut ∈ tail := by
        rw [List.flatMap_nil, List.nil_append] at split
        simp [split]
      have absent := List.filterMap_eq_nil_iff.mp tailPlain _ inTail
      cases absent
  | cons node rest ih =>
      cases node with
      | shortcut other =>
          have isLink : (PageNode.shortcut other).shortcut? = some other := rfl
          rw [List.filterMap_cons_some isLink] at plain
          cases plain
      | note note =>
          rw [List.filterMap_cons_none rfl] at plain
          have alone : (PageNode.note note).withLinks links = [.note note] := rfl
          rw [List.flatMap_cons, alone, List.append_assoc, List.singleton_append] at split
          cases front with
          | nil => cases split
          | cons first others =>
              obtain ⟨rfl, splitRest⟩ := List.cons.inj split
              obtain ⟨number, last, linked⟩ := ih plain splitRest
              refine ⟨number, ?_, linked⟩
              rw [← List.singleton_append, lastInput?_append, last]
              rfl
      | input other =>
          rw [List.filterMap_cons_none rfl] at plain
          rw [List.flatMap_cons, PageNode.withLinks, List.append_assoc, List.cons_append] at split
          cases front with
          | nil => cases split
          | cons first others =>
              obtain ⟨rfl, splitRest⟩ := List.cons.inj split
              have lastEq : lastInput? (.input other :: others) =
                  (lastInput? others).or (some other) := by
                rw [← List.singleton_append, lastInput?_append]
                rfl
              -- The link stands among those of this input, or further on.
              rcases List.append_eq_append_iff.mp splitRest with
                ⟨more, othersEq, restEq⟩ | ⟨more, linksEq, restEq⟩
              · obtain ⟨number, last, linked⟩ := ih plain restEq
                refine ⟨number, ?_, linked⟩
                rw [lastEq, othersEq, lastInput?_append, last]
                rfl
              · cases more with
                | nil =>
                    obtain ⟨number, last, _⟩ := @ih [] plain restEq.symm
                    cases last
                | cons next later =>
                    obtain ⟨rfl, _⟩ := List.cons.inj restEq
                    have noInput := lastInput?_of_append linksEq
                    have linked : PageNode.shortcut shortcut ∈
                        (links other).map PageNode.shortcut := by
                      simp [linksEq]
                    obtain ⟨_, member, same⟩ := List.mem_map.mp linked
                    obtain rfl := PageNode.shortcut.inj same
                    exact ⟨other, by rw [lastEq, noInput]; rfl, member⟩

/-! ### The link right after an input -/

theorem exists_of_shortcutAfter? {number : Nat} {nodes : List PageNode} {shortcut : Shortcut}
    (found : shortcutAfter? number nodes = some shortcut) :
    ∃ front back, nodes = front ++ .input number :: .shortcut shortcut :: back := by
  fun_induction shortcutAfter? number nodes with
  | case1 next rest =>
      obtain rfl := Option.some.inj found
      exact ⟨[], _, rfl⟩
  | case2 => cases found
  | case3 other rest differs ih =>
      obtain ⟨front, back, restEq⟩ := ih found
      exact ⟨.input other :: front, back, by rw [restEq]; rfl⟩
  | case4 node rest _ ih =>
      obtain ⟨front, back, restEq⟩ := ih found
      exact ⟨node :: front, back, by rw [restEq]; rfl⟩
  | case5 => cases found

theorem value?_modifyInput_self {page : Page} {number : Nat} (onPage : number < page.inputs.length)
    (text : String) :
    (page.modifyInput number fun input => { input with value := text }).value? number =
      some text := by
  simp [value?, modifyInput, onPage]

theorem value?_modifyInput_of_ne {page : Page} {number other : Nat} (differs : other ≠ number)
    (text : String) :
    (page.modifyInput number fun input => { input with value := text }).value? other =
      page.value? other := by
  simp [value?, modifyInput, Ne.symm differs]

end Page

namespace PageSession

open Session

structure Matched (running : PageSession) (links : Nat → List Shortcut) : Prop where
  resolves : ∀ {number : Nat} {shortcut : Shortcut}, shortcut ∈ links number →
    (running.session.registry.inputs shortcut.action.kind)[shortcut.action.handle]? = some number
  carried : ∀ {kind : LinkKind} {handle number : Nat},
    (running.session.registry.inputs kind)[handle]? = some number →
      number < running.page.page.homes.length →
        (links number).countP (Shortcut.carries kind handle) = 1

/-- The page is a page without links, decorated with links that match the registries. -/
def Decorated (running : PageSession) : Prop :=
  ∃ (base : Page) (links : Nat → List Shortcut) (notes : Nat → List Note),
    running.page.page = base.decorated links notes ∧ base.WellFormed ∧ base.shortcuts = [] ∧
      Matched running links

theorem Matched.congr {running other : PageSession} {links : Nat → List Shortcut}
    (matched : Matched running links)
    (registryEq : other.session.registry = running.session.registry)
    (homesEq : other.page.page.homes = running.page.page.homes) : Matched other links := by
  constructor
  · rw [registryEq]
    exact matched.resolves
  · rw [registryEq, homesEq]
    exact matched.carried

theorem Matched.push {running : PageSession} {links : Nat → List Shortcut}
    (matched : Matched running links) (kind : LinkKind) {input : Nat}
    (notOnPage : running.page.page.homes.length ≤ input) :
    Matched (running.push kind input) links := by
  constructor
  · intro number shortcut linked
    exact Registry.getElem?_push_of_some (matched.resolves linked) input kind
  · intro other handle number registered onPage
    rcases Registry.getElem?_push registered with old | ⟨-, -, isInput⟩
    · exact matched.carried old onPage
    · have absent : (running.push kind input).page.page.homes.length ≤ number := by
        rw [isInput]
        exact notOnPage
      exact (Nat.not_le_of_lt onPage absent).elim

/-- The link of a new handle is the only one that carries it. -/
theorem Matched.attach {running after : PageSession} {links : Nat → List Shortcut}
    (matched : Matched running links) {kind : LinkKind} {input : Nat} {shortcut : Shortcut}
    (registryEq : after.session.registry = (running.push kind input).session.registry)
    (homesEq : after.page.page.homes = running.page.page.homes)
    (kindEq : shortcut.action.kind = kind)
    (handleEq : shortcut.action.handle = (running.session.registry.inputs kind).length) :
    Matched after (Function.update links input (shortcut :: links input)) := by
  constructor
  · intro number other linked
    rw [registryEq]
    by_cases same : number = input
    · subst same
      rw [Function.update_self] at linked
      rcases List.mem_cons.mp linked with rfl | old
      · rw [kindEq, handleEq]
        exact Registry.getElem?_push_self running.session.registry number kind
      · exact Registry.getElem?_push_of_some (matched.resolves old) number kind
    · rw [Function.update_of_ne same] at linked
      exact Registry.getElem?_push_of_some (matched.resolves linked) input kind
  · intro other handle number registered onPage
    rw [registryEq] at registered
    rw [homesEq] at onPage
    have newHandle : shortcut.carries other handle ↔
        other = kind ∧ handle = (running.session.registry.inputs kind).length := by
      rw [Shortcut.carries, kindEq, handleEq, Bool.and_eq_true, beq_iff_eq, beq_iff_eq]
      exact and_congr eq_comm eq_comm
    rcases Registry.getElem?_push registered with old | ⟨rfl, rfl, rfl⟩
    · have once := matched.carried old onPage
      by_cases same : number = input
      · subst same
        have notNew : ¬ shortcut.carries other handle := by
          rw [newHandle]
          rintro ⟨rfl, rfl⟩
          simp at old
        rw [Function.update_self, List.countP_cons_of_neg notNew, once]
      · rw [Function.update_of_ne same, once]
    · have isNew : shortcut.carries other (running.session.registry.inputs other).length :=
        newHandle.mpr ⟨rfl, rfl⟩
      have noOther : (links number).countP
          (Shortcut.carries other (running.session.registry.inputs other).length) = 0 := by
        rw [List.countP_eq_zero]
        intro old linked carries
        rw [Shortcut.carries, Bool.and_eq_true, beq_iff_eq, beq_iff_eq] at carries
        have resolved := matched.resolves linked
        rw [carries.1, carries.2] at resolved
        simp at resolved
      rw [Function.update_self, List.countP_cons_of_pos isNew, noOther]

theorem Decorated.attach {running : PageSession} (decorated : Decorated running)
    {kind : LinkKind} {action : Nat → QuickLink} (label : String) (input : Nat)
    (names : Names kind action) :
    Decorated (final (attach kind label action input) running) := by
  obtain ⟨base, links, notes, pageEq, formed, plain, matched⟩ := decorated
  have lengthEq : running.page.page.homes.length = base.inputs.length := by
    rw [pageEq, Page.homes_decorated, Page.homes, List.length_map]
  rcases final_attach formed pageEq kind label action input with
    ⟨_, outcome⟩ | ⟨_, notOnPage, outcome⟩ | ⟨_, _, outcome⟩
  · rw [outcome]
    exact ⟨base, links, notes, pageEq, formed, plain, matched⟩
  · rw [outcome]
    exact ⟨base, links, notes, pageEq, formed, plain,
      matched.push kind (lengthEq ▸ notOnPage)⟩
  · rw [outcome]
    have named := names (running.session.registry.inputs kind).length
    refine ⟨base, _, notes, rfl, formed, plain, matched.attach rfl ?_ named.1 named.2⟩
    rw [pageEq]
    rfl

theorem Decorated.notify {running : PageSession} (decorated : Decorated running) (input : Nat) :
    Decorated (final (Session.notify input) running) := by
  obtain ⟨base, links, notes, pageEq, formed, plain, matched⟩ := decorated
  obtain ⟨others, log, outcome⟩ := final_notify pageEq input
  rw [outcome]
  refine ⟨base, links, others, rfl, formed, plain, matched.congr rfl ?_⟩
  rw [pageEq]
  rfl

theorem Decorated.serve {running : PageSession} (decorated : Decorated running)
    (request : SessionRequest) : Decorated (final (Session.serve request) running) := by
  obtain ⟨base, links, notes, pageEq, formed, plain, matched⟩ := decorated
  have same := sameNodes_serve running request
  obtain ⟨other, otherEq, otherFormed, containersEq, -⟩ :=
    exists_base formed (same.containers_eq.trans (congrArg Page.containers pageEq))
      (same.homes_eq.trans (by rw [pageEq, Page.homes_decorated]))
  refine ⟨other, links, notes, otherEq, otherFormed, ?_,
    matched.congr (congrArg Session.registry same.session_eq) same.homes_eq⟩
  rw [Page.shortcuts, containersEq]
  exact plain

theorem Decorated.congr {running other : PageSession} (decorated : Decorated running)
    (registryEq : other.session.registry = running.session.registry)
    (pageEq : other.page.page = running.page.page) : Decorated other := by
  obtain ⟨base, links, notes, decoratedEq, formed, plain, matched⟩ := decorated
  exact ⟨base, links, notes, pageEq.trans decoratedEq, formed, plain,
    matched.congr registryEq (congrArg Page.homes pageEq)⟩

theorem Decorated.after {running : PageSession} (decorated : Decorated running)
    (call : PageCall) : Decorated (running.after call) :=
  holds_after decorated (fun _ _ before => before.congr rfl rfl)
    (fun _ before => before.congr rfl rfl)
    (fun label input names _ before => Decorated.attach before label input names)
    (fun input _ before => Decorated.notify before input)
    (fun request _ before => Decorated.serve before request)
    (fun _ _ before => before.congr rfl rfl) call

/-- The sessions that come about by calls from a new session on a page without links. -/
inductive Reached : PageSession → Prop
  | created (bench : Workbench) (settings : Settings) (serverOffset : Option Int) :
    bench.page.Reachable → bench.page.shortcuts = [] →
      Reached (Session.create bench settings serverOffset)
  | called {running : PageSession} (call : PageCall) : Reached running →
    Reached (running.after call)

theorem Reached.decorated {running : PageSession} (reached : Reached running) :
    Decorated running := by
  induction reached with
  | created bench settings serverOffset reachable plain =>
      refine ⟨bench.page, fun _ => [], fun _ => [], ?_, reachable.wellFormed, plain, ?_, ?_⟩
      · rw [Page.decorated_nothing]
        rfl
      · intro number shortcut linked
        cases linked
      · intro kind handle number registered
        cases kind <;> cases registered
  | called call _ ih => exact ih.after call

/-! ### What matches -/

theorem countP_flatMap_eq_one {links : Nat → List Shortcut} {order : List Nat} {number : Nat}
    {carries : Shortcut → Bool} (nodup : order.Nodup) (member : number ∈ order)
    (once : (links number).countP carries = 1)
    (elsewhere : ∀ other, other ≠ number → (links other).countP carries = 0) :
    (order.flatMap links).countP carries = 1 := by
  obtain ⟨front, back, rfl⟩ := List.append_of_mem member
  have none (others : List Nat) (absent : number ∉ others) :
      (others.flatMap links).countP carries = 0 := by
    rw [List.countP_eq_zero]
    intro shortcut inOthers
    obtain ⟨other, otherMember, linked⟩ := List.mem_flatMap.mp inOthers
    have differs : other ≠ number := by
      rintro rfl
      exact absent otherMember
    exact List.countP_eq_zero.mp (elsewhere other differs) shortcut linked
  have apart := List.nodup_middle.mp nodup
  have absent := (List.nodup_cons.mp apart).1
  rw [List.mem_append, not_or] at absent
  rw [List.flatMap_append, List.flatMap_cons, List.countP_append, List.countP_append, once,
    none front absent.1, none back absent.2]

/-- What the links on a page and the registries say of each other. -/
structure LinksMatch (running : PageSession) : Prop where
  /-- The handle of a link resolves to the nearest input before the link. -/
  resolves : ∀ container ∈ running.page.page.containers, ∀ front shortcut back,
    container.nodes = front ++ .shortcut shortcut :: back →
      ∃ number, Page.lastInput? front = some number ∧
        running.session.registry.resolve shortcut.action.kind shortcut.action.handle = .ok number
  /-- A registered input of the page has one link for its handle. -/
  carried : ∀ kind handle number,
    running.session.registry.resolve kind handle = .ok number →
      number < running.page.page.inputs.length →
        running.page.page.shortcuts.countP (Shortcut.carries kind handle) = 1
  /-- The link right after an input fills that input, or nothing. -/
  fills : ∀ number shortcut, running.page.page.shortcut? number = some shortcut →
    match (Session.follow shortcut.action).run running with
    | .error _ after => after.page.page = running.page.page
    | .ok text after =>
      after.page.page.value? number = some text ∧ after.page.page.focused = some number ∧
        ∀ other, other ≠ number →
          after.page.page.value? other = running.page.page.value? other

/-- A request fills the input of its handle before it ends in its own way; what it is
refused before that leaves the page as it was. -/
theorem run_fillInput_page (kind : LinkKind) (handle : Nat) (request : SessionRequest)
    (running : PageSession) :
    (fillInput kind handle request).run running =
      match running.session.registry.resolve kind handle with
      | .error fault => .error fault (running.logged (.handleUnknown kind handle))
      | .ok input =>
        match requestText running input request with
        | .error fault => .error fault running
        | .ok text =>
          if input < running.page.page.inputs.length then
            match (requestEnd running input request).run
                (running.onPage { running.page.page.modifyInput input
                  (fun old => { old with value := text }) with focused := some input }) with
            | .error fault ended => .error fault ended
            | .ok () ended => .ok text ended
          else .error (.page (.noInput input)) running := by
  rw [run_fillInput]
  cases running.session.registry.resolve kind handle with
  | error fault => rfl
  | ok input =>
      simp only
      cases requestText running input request with
      | error fault => rfl
      | ok text =>
          simp only [Workbench.write_eq]
          by_cases onPage : input < running.page.page.inputs.length
          · have onChanged : input < (running.page.page.modifyInput input
                fun old => { old with value := text }).inputs.length := by
              simpa [Page.modifyInput] using onPage
            simp only [if_pos onPage, Workbench.focus_eq, if_pos onChanged, Running.onPage]
            cases (requestEnd running input request).run _ <;> rfl
          · simp only [if_neg onPage]

/-- A request whose end is only logged fills the input of its handle, or changes nothing
on the page. -/
theorem run_fillInput_logged {kind : LinkKind} {handle : Nat} {request : SessionRequest}
    {running : PageSession} {event : Nat → LogEvent}
    (ends : ∀ input, requestEnd running input request = log (event input)) :
    (fillInput kind handle request).run running =
      match running.session.registry.resolve kind handle with
      | .error fault => .error fault (running.logged (.handleUnknown kind handle))
      | .ok input =>
        match requestText running input request with
        | .error fault => .error fault running
        | .ok text =>
          if input < running.page.page.inputs.length then
            .ok text ((running.onPage { running.page.page.modifyInput input
              (fun old => { old with value := text }) with focused := some input }).logged
                (event input))
          else .error (.page (.noInput input)) running := by
  simp only [run_fillInput_page, ends, run_log]

/-- A link that is followed fills the input of its handle, or changes nothing on the
page. -/
theorem run_follow_eq (link : QuickLink) (running : PageSession) :
    (Session.follow link).run running =
      match running.session.registry.resolve link.kind link.handle with
      | .error fault => .error fault (running.logged (.handleUnknown link.kind link.handle))
      | .ok input =>
        match requestText running input (.follow link) with
        | .error fault => .error fault running
        | .ok text =>
          if input < running.page.page.inputs.length then
            .ok text ((running.onPage { running.page.page.modifyInput input
              (fun old => { old with value := text }) with focused := some input }).logged
                (link.filled (stepOf running input)))
          else .error (.page (.noInput input)) running := by
  have served : (Session.follow link).run running = (Session.serve (.follow link)).run running :=
    rfl
  have target : (SessionRequest.follow link).target? = some (link.kind, link.handle) := rfl
  rw [served, run_serve target]
  exact run_fillInput_logged fun input => requestEnd_follow running input link

theorem run_follow {running : PageSession} {link : QuickLink} {number : Nat}
    (resolved : running.session.registry.resolve link.kind link.handle = .ok number)
    (onPage : number < running.page.page.inputs.length) :
    match (Session.follow link).run running with
    | .error _ after => after.page.page = running.page.page
    | .ok text after =>
      after.page.page = { running.page.page.modifyInput number
        (fun input => { input with value := text }) with focused := some number } := by
  rw [run_follow_eq, resolved]
  simp only [if_pos onPage]
  cases requestText running number (.follow link) <;> rfl

/-- A link writes the text that is computed for it. -/
theorem exists_followed {running : PageSession} {link : QuickLink} {number : Nat} {text : String}
    (resolved : running.session.registry.resolve link.kind link.handle = .ok number)
    (onPage : number < running.page.page.inputs.length)
    (texted : requestText running number (.follow link) = .ok text) :
    ∃ ended, (Session.follow link).run running = .ok text ended ∧
      ended.page.page.value? number = some text := by
  have outcome := run_follow_eq link running
  rw [resolved] at outcome
  simp only [texted, if_pos onPage] at outcome
  exact ⟨_, outcome, Page.value?_modifyInput_self onPage text⟩

/-- The handle of a link resolves to the last input before it. -/
theorem Decorated.resolves {running : PageSession} (decorated : Decorated running)
    {container : Container} (member : container ∈ running.page.page.containers)
    {front back : List PageNode} {shortcut : Shortcut}
    (split : container.nodes = front ++ .shortcut shortcut :: back) :
    ∃ number, Page.lastInput? front = some number ∧
      running.session.registry.resolve shortcut.action.kind shortcut.action.handle =
        .ok number := by
  obtain ⟨base, links, notes, pageEq, formed, plain, matched⟩ := decorated
  rw [pageEq] at member
  obtain ⟨home, placed⟩ := List.getElem?_of_mem member
  rw [Page.decorated, List.getElem?_mapIdx] at placed
  obtain ⟨original, found, rfl⟩ := Option.map_eq_some_iff.mp placed
  obtain ⟨number, last, linked⟩ := Page.mem_links_of_split
    (Page.plain_of_mem plain (List.mem_of_getElem? found))
    (Page.filterMap_shortcut?_notes (notes home)) split
  exact ⟨number, last, Registry.resolve_eq_ok.mpr (matched.resolves linked)⟩

/-- A handle of an input that is on the page is carried by one link. -/
theorem Decorated.carried_once {running : PageSession} (decorated : Decorated running)
    {kind : LinkKind} {handle number : Nat}
    (resolved : running.session.registry.resolve kind handle = .ok number)
    (onPage : number < running.page.page.inputs.length) :
    running.page.page.shortcuts.countP (Shortcut.carries kind handle) = 1 := by
  obtain ⟨base, links, notes, pageEq, formed, plain, matched⟩ := decorated
  rw [Registry.resolve_eq_ok] at resolved
  have inHomes : number < running.page.page.homes.length := by
    rw [Page.homes, List.length_map]
    exact onPage
  rw [pageEq] at onPage
  rw [pageEq, Page.shortcuts_decorated plain]
  apply countP_flatMap_eq_one formed.inputOrder_nodup
  · exact formed.mem_inputOrder.mpr onPage
  · exact matched.carried resolved inHomes
  · intro other differs
    rw [List.countP_eq_zero]
    intro shortcut linked carries
    rw [Shortcut.carries, Bool.and_eq_true, beq_iff_eq, beq_iff_eq] at carries
    have elsewhere := matched.resolves linked
    rw [carries.1, carries.2, resolved] at elsewhere
    exact differs (Option.some.inj elsewhere).symm

/-- The handle of the link right after an input resolves to that input. -/
theorem Decorated.resolve_shortcut? {running : PageSession} (decorated : Decorated running)
    {number : Nat} {shortcut : Shortcut}
    (found : running.page.page.shortcut? number = some shortcut) :
    number < running.page.page.inputs.length ∧
      running.session.registry.resolve shortcut.action.kind shortcut.action.handle =
        .ok number := by
  rw [Page.shortcut?] at found
  obtain ⟨front, back, nodesEq⟩ := Page.exists_of_shortcutAfter? found
  rw [Page.siblings] at nodesEq
  cases input? : running.page.page.inputs[number]? with
  | none => simp [input?] at nodesEq
  | some input =>
      cases placed : running.page.page.containers[input.home]? with
      | none => simp [input?, placed] at nodesEq
      | some container =>
          simp only [input?, placed] at nodesEq
          have split : container.nodes =
              (front ++ [.input number]) ++ .shortcut shortcut :: back := by
            rw [nodesEq, List.append_assoc]
            rfl
          obtain ⟨target, last, resolved⟩ :=
            decorated.resolves (List.mem_of_getElem? placed) split
          rw [Page.lastInput?_append] at last
          obtain rfl : number = target := Option.some.inj last
          exact ⟨(List.getElem?_eq_some_iff.mp input?).1, resolved⟩

/-- In every state that calls lead to, the links on the page and the registries match. -/
theorem links_match {running : PageSession} (reached : Reached running) : LinksMatch running := by
  have decorated := reached.decorated
  refine ⟨?_, ?_, ?_⟩
  · intro container member front shortcut back split
    exact decorated.resolves member split
  · intro kind handle number resolved onPage
    exact decorated.carried_once resolved onPage
  · intro number shortcut found
    obtain ⟨onPage, resolved⟩ := decorated.resolve_shortcut? found
    have outcome := run_follow resolved onPage
    cases followed : (Session.follow shortcut.action).run running with
    | error fault after => simpa only [followed] using outcome
    | ok text after =>
        rw [followed] at outcome
        simp only at outcome ⊢
        rw [outcome]
        exact ⟨Page.value?_modifyInput_self onPage text, rfl,
          fun other differs => Page.value?_modifyInput_of_ne differs text⟩

/-- The meeting after a start, an attachment to the name, one to an input that is not
there, and a click on the first link. -/
def busyMeeting : PageSession :=
  (((meeting.after .start).after (.attachClock 2 "%H")).after (.attachClock 9 "%H")).after
    (.serve (.follow (.calendarDay 0 0)))

theorem links_match_busyMeeting :
    busyMeeting.page.page.shortcuts.map (fun shortcut => shortcut.action) =
        [.calendarDay 0 0, .clockNow 0 "%H:%M", .clockNow 1 "%H"] ∧
      busyMeeting.session.registry = ⟨[1, 2, 9], [0]⟩ ∧ LinksMatch busyMeeting := by
  have created : Reached meeting :=
    .created _ .standard (some 0) (.described meetingFixture) (by decide +kernel)
  refine ⟨by decide +kernel, by decide +kernel, links_match ?_⟩
  exact .called _ (.called _ (.called _ (.called _ created)))

end PageSession

end QuickFill
