import QuickFill.Browser.Boot
import QuickFill.Proofs.Browser.Decorated
import QuickFill.Proofs.Session.Invariant

/-!
# Starting a session on a page in a browser

A start that succeeds decorates the document: one span after each input of a known
kind, and notes at the ends of elements.  The search runs over the inputs that were
there when it began, while it changes the document that they stand in.
-/

namespace QuickFill

namespace Element

def field (element : Element) : Field Nat :=
  ⟨element.key, element.inputType, element.classes⟩

def fieldKind? (element : Element) (settings : Settings) : Option FieldKind :=
  element.field.kind? settings

end Element

namespace Browser

def linked (settings : Settings) (inputs : List Element) (kind : LinkKind) : List Element :=
  inputs.filter fun element =>
    (element.fieldKind? settings).any fun found => found.linkKind == kind

def withConsole (page : Browser) (console : List ConsoleLine) : Browser :=
  { page with console := console }

/-- A session whose search of a page has dealt with some inputs. -/
structure Searched (page : Browser) (settings : Settings) (dealt : List Element)
    (links : Nat → List (Nat × Shortcut)) (notes : Nat → List (Nat × String × String))
    (running : Running Browser Nat) : Prop where
  page_eq : ∃ next console, page.nextKey ≤ next ∧
    running.page = (page.withConsole console).decorated links notes next
  fresh : Fresh page.nextKey links notes
  settings_eq : running.session.settings = settings
  inputs_eq : ∀ kind, running.session.registry.inputs kind =
    (linked settings dealt kind).map Element.key
  length_eq : ∀ key, (links key).length =
    if ∃ element ∈ dealt, element.key = key ∧ (element.fieldKind? settings).isSome then 1 else 0
  resolves : ∀ {key : Nat} {link : Nat × Shortcut}, link ∈ links key →
    (running.session.registry.inputs link.2.action.kind)[link.2.action.handle]? = some key

variable {page : Browser} {settings : Settings} {dealt : List Element} {element : Element}
  {links : Nat → List (Nat × Shortcut)} {notes : Nat → List (Nat × String × String)}
  {running after : Running Browser Nat}

theorem log_eq_withConsole (browser : Browser) (event : LogEvent) :
    browser.log event = browser.withConsole
      (browser.console ++
        if browser.verbosity.admits event.level then [.logged event] else []) := by
  rw [log]
  split
  · rfl
  · rw [List.append_nil]
    rfl

theorem log_eq (browser : Browser) (event : LogEvent) :
    ∃ console, browser.log event = browser.withConsole console :=
  ⟨_, log_eq_withConsole browser event⟩

theorem Searched.logged (searched : Searched page settings dealt links notes running)
    (event : LogEvent) : Searched page settings dealt links notes (running.logged event) := by
  obtain ⟨next, console, nextLe, pageEq⟩ := searched.page_eq
  obtain ⟨lines, loggedEq⟩ := log_eq running.page event
  refine ⟨⟨next, lines, nextLe, ?_⟩, searched.fresh, searched.settings_eq, searched.inputs_eq,
    searched.length_eq, searched.resolves⟩
  have recorded : (running.logged event).page = running.page.log event := rfl
  rw [recorded, loggedEq, pageEq]
  rfl

/-! ### One more input -/

theorem linked_append_of_none (unknown : element.fieldKind? settings = none) (kind : LinkKind) :
    linked settings (dealt ++ [element]) kind = linked settings dealt kind := by
  rw [linked, List.filter_append]
  simp [linked, unknown]

theorem linked_append_of_some {kind : FieldKind}
    (known : element.fieldKind? settings = some kind) (other : LinkKind) :
    linked settings (dealt ++ [element]) other =
      if other = kind.linkKind then linked settings dealt other ++ [element]
      else linked settings dealt other := by
  rw [linked, List.filter_append]
  by_cases same : other = kind.linkKind
  · simp [linked, known, same]
  · simp [linked, known, same, Ne.symm same]

theorem Searched.skip (searched : Searched page settings dealt links notes running)
    (unknown : element.fieldKind? settings = none) :
    Searched page settings (dealt ++ [element]) links notes running := by
  refine ⟨searched.page_eq, searched.fresh, searched.settings_eq, ?_, ?_, searched.resolves⟩
  · intro kind
    rw [linked_append_of_none unknown, searched.inputs_eq]
  · intro key
    have same : (∃ other ∈ dealt ++ [element],
        other.key = key ∧ (other.fieldKind? settings).isSome) ↔
          ∃ other ∈ dealt, other.key = key ∧ (other.fieldKind? settings).isSome := by
      simp [or_and_right, exists_or, unknown]
    rw [searched.length_eq, if_congr same rfl rfl]

theorem Searched.attach (searched : Searched page settings dealt links notes running)
    (keyed : page.Keyed) (member : element.key ∈ page.document.keys)
    (apart : ∀ other ∈ dealt, other.key ≠ element.key)
    {kind : FieldKind} (known : element.fieldKind? settings = some kind) {handle : Nat}
    (attached : (Session.attach kind.linkKind kind.label
      (kind.action settings) element.key).run running = .ok handle after) :
    ∃ link : Nat × Shortcut, Searched page settings (dealt ++ [element])
      (Function.update links element.key (link :: links element.key)) notes after := by
  obtain ⟨next, console, nextLe, pageEq⟩ := searched.page_eq
  obtain ⟨-, handleEq, changed, inserted, rfl⟩ := Session.attach_eq_ok attached
  obtain ⟨kindNamed, handleNamed⟩ := Session.names_action kind settings handle
  have shown : (page.withConsole console).Keyed := ⟨keyed.nodup, keyed.lt⟩
  let shortcut := Session.shortcutOf running kind.label (kind.action settings handle)
  have changedEq : changed = (page.withConsole console).decorated
      (Function.update links element.key ((next, shortcut) :: links element.key)) notes
        (next + 2) := by
    rw [pageEq] at inserted
    exact insertShortcut_eq_ok shown searched.fresh member inserted
  refine ⟨(next, shortcut), Searched.logged ?_ _⟩
  refine ⟨⟨next + 2, console, Nat.le_add_right_of_le nextLe, changedEq⟩,
    searched.fresh.link _ nextLe, searched.settings_eq, ?_, ?_, ?_⟩
  · intro other
    rw [linked_append_of_some known]
    have pushed := Registry.inputs_push running.session.registry element.key kind.linkKind other
    refine Eq.trans pushed ?_
    split
    · next same => rw [searched.inputs_eq, List.map_append]; rfl
    · rw [searched.inputs_eq]
  · intro key
    by_cases same : key = element.key
    · subst same
      have noLinks : links element.key = [] := by
        rw [← List.length_eq_zero_iff, searched.length_eq, if_neg]
        rintro ⟨other, otherMember, equal, -⟩
        exact apart other otherMember equal
      rw [Function.update_self, noLinks, if_pos ⟨element, by simp, rfl, by simp [known]⟩]
      rfl
    · have others : (∃ other ∈ dealt ++ [element],
          other.key = key ∧ (other.fieldKind? settings).isSome) ↔
            ∃ other ∈ dealt, other.key = key ∧ (other.fieldKind? settings).isSome := by
        simp [or_and_right, exists_or, Ne.symm same]
      rw [Function.update_of_ne same, searched.length_eq, if_congr others rfl rfl]
  · intro key link linkMember
    by_cases same : key = element.key
    · subst same
      rw [Function.update_self] at linkMember
      rcases List.mem_cons.mp linkMember with rfl | old
      · have actionEq : shortcut.action = kind.action settings handle := rfl
        rw [actionEq, kindNamed, handleNamed, handleEq]
        exact Registry.getElem?_push_self running.session.registry element.key kind.linkKind
      · exact Registry.getElem?_push_of_some (searched.resolves old) element.key kind.linkKind
    · rw [Function.update_of_ne same] at linkMember
      exact Registry.getElem?_push_of_some (searched.resolves linkMember) element.key kind.linkKind

/-- A note is put in the home of an input, and nothing else is changed. -/
theorem Searched.append (searched : Searched page settings dealt links notes running)
    (keyed : page.Keyed) (member : element.key ∈ page.document.keys) {note : Note}
    {changed : Browser} (appended : running.page.appendNote element.key note = .ok changed) :
    ∃ parent next classAttribute, page.document.homeOf? element.key none = some (some parent) ∧
      ClassName.joined note.classes = .ok classAttribute ∧
        Searched page settings dealt links
          (Function.update notes parent (notes parent ++ [(next, classAttribute, note.text)]))
          (running.withPage changed) := by
  obtain ⟨next, console, nextLe, pageEq⟩ := searched.page_eq
  have shown : (page.withConsole console).Keyed := ⟨keyed.nodup, keyed.lt⟩
  rw [pageEq] at appended
  obtain ⟨parent, classAttribute, home, joined, changedEq⟩ :=
    appendNote_eq_ok shown searched.fresh member appended
  exact ⟨parent, next, classAttribute, home, joined,
    ⟨next + 1, console, Nat.le_add_right_of_le nextLe, changedEq⟩, searched.fresh.note _ nextLe,
    searched.settings_eq, searched.inputs_eq, searched.length_eq, searched.resolves⟩

theorem Searched.notify (searched : Searched page settings dealt links notes running)
    (keyed : page.Keyed) (member : element.key ∈ page.document.keys) {added : Bool}
    (notified : (Session.notify element.key).run running = .ok added after) :
    ∃ others, Searched page settings dealt links others after := by
  rcases Session.notify_eq_ok notified with ⟨-, rfl | rfl⟩ | ⟨-, note, changed, appended, rfl⟩
  · exact ⟨notes, searched⟩
  · exact ⟨notes, searched.logged _⟩
  · obtain ⟨parent, next, classAttribute, -, -, noted⟩ :=
      searched.append keyed member appended
    exact ⟨_, noted.logged _⟩

theorem Searched.field (searched : Searched page settings dealt links notes running)
    (keyed : page.Keyed) (member : element.key ∈ page.document.keys)
    (apart : ∀ other ∈ dealt, other.key ≠ element.key) {report counted : StartReport}
    (dealtWith : (Session.startField report element.field).run running = .ok counted after) :
    ∃ links notes, Searched page settings (dealt ++ [element]) links notes after := by
  rw [Session.run_startField] at dealtWith
  have kindEq : element.field.kind? running.session.settings = element.fieldKind? settings := by
    rw [searched.settings_eq, Element.fieldKind?]
  rw [kindEq, searched.settings_eq] at dealtWith
  cases known : element.fieldKind? settings with
  | none =>
      rw [known] at dealtWith
      obtain ⟨-, rfl⟩ := EStateM.Result.ok.inj dealtWith
      exact ⟨links, notes, searched.skip known⟩
  | some kind =>
      rw [known] at dealtWith
      simp only at dealtWith
      split at dealtWith
      · cases dealtWith
      · next handle attachedTo attached =>
        split at dealtWith
        · cases dealtWith
        · next added noted notified =>
          obtain ⟨-, rfl⟩ := EStateM.Result.ok.inj dealtWith
          obtain ⟨link, attachedSearched⟩ := searched.attach keyed member apart known attached
          obtain ⟨others, notedSearched⟩ := attachedSearched.notify keyed member notified
          exact ⟨_, others, notedSearched⟩

/-- What each input of a search adds to, the search has added to for all of them. -/
theorem holds_fields (holds : List Element → Running Browser Nat → Prop)
    (field : ∀ {dealt : List Element} {element : Element} {running after : Running Browser Nat}
      {report counted : StartReport}, holds dealt running →
        element.key ∈ page.document.keys → (∀ other ∈ dealt, other.key ≠ element.key) →
          (Session.startField report element.field).run running = .ok counted after →
            holds (dealt ++ [element]) after)
    (before : holds dealt running) {rest : List Element}
    (members : ∀ element ∈ rest, element.key ∈ page.document.keys)
    (nodup : ((dealt ++ rest).map Element.key).Nodup) {report counted : StartReport}
    (dealtWith : ((rest.map Element.field).foldlM Session.startField report).run running =
      .ok counted after) : holds (dealt ++ rest) after := by
  induction rest generalizing dealt running report with
  | nil =>
      obtain ⟨-, rfl⟩ := EStateM.Result.ok.inj dealtWith
      rw [List.append_nil]
      exact before
  | cons element rest ih =>
      rw [List.map_cons, List.foldlM_cons, EStateM.run_bind] at dealtWith
      split at dealtWith
      · next next between first =>
        have apart : ∀ other ∈ dealt, other.key ≠ element.key := by
          intro other otherMember
          rw [List.map_append, List.nodup_append] at nodup
          exact nodup.2.2 other.key (List.mem_map_of_mem otherMember) element.key (by simp)
        have more := field before (members element (by simp)) apart first
        have appendEq : dealt ++ element :: rest = dealt ++ [element] ++ rest := by simp
        rw [appendEq] at nodup ⊢
        exact ih more (fun other member => members other (by simp [member])) nodup dealtWith
      · cases dealtWith

theorem Searched.fields (searched : Searched page settings dealt links notes running)
    (keyed : page.Keyed) {rest : List Element}
    (members : ∀ element ∈ rest, element.key ∈ page.document.keys)
    (nodup : ((dealt ++ rest).map Element.key).Nodup) {report counted : StartReport}
    (dealtWith : ((rest.map Element.field).foldlM Session.startField report).run running =
      .ok counted after) :
    ∃ links notes, Searched page settings (dealt ++ rest) links notes after := by
  refine holds_fields
    (fun dealt running => ∃ links notes, Searched page settings dealt links notes running)
    ?_ ⟨links, notes, searched⟩ members nodup dealtWith
  rintro dealt element running after report counted ⟨links, notes, searched⟩ member apart dealtWith
  exact searched.field keyed member apart dealtWith

/-! ### The whole search -/

theorem inputs_keys_nodup (keyed : page.Keyed) : (page.inputs.map Element.key).Nodup :=
  keyed.nodup.sublist (List.filter_sublist.map Element.key)

theorem inputs_mem_keys (member : element ∈ page.inputs) : element.key ∈ page.document.keys :=
  Forest.mem_keys (List.mem_of_mem_filter member)

theorem searched_nothing (page : Browser) (session : Session Nat)
    (fresh : session.registry = {}) :
    Searched page session.settings [] (fun _ => []) (fun _ => []) ⟨session, page⟩ where
  page_eq := by
    refine ⟨page.nextKey, page.console, Nat.le_refl _, ?_⟩
    exact (decorated_nothing page).symm
  fresh := Fresh.nothing page.nextKey
  settings_eq := rfl
  inputs_eq kind := by
    rw [fresh]
    cases kind <;> rfl
  length_eq key := by simp
  resolves member := by cases member

structure Booted (page booted : Browser) (settings : Settings)
    (links : Nat → List (Nat × Shortcut)) (notes : Nat → List (Nat × String × String))
    (session : Session Nat) : Prop where
  document_eq : booted.document = page.document.decorate (fun key => linkRow (links key))
    fun key => noteRow (notes key)
  fresh : Fresh page.nextKey links notes
  slot_eq : booted.slot = .resting session
  object_isSome : booted.object.isSome
  listeners_eq : booted.listeners = page.listeners
  clicked_eq : booted.clicked = page.clicked
  settings_eq : session.settings = settings
  inputs_eq : ∀ kind, session.registry.inputs kind =
    (linked settings page.inputs kind).map Element.key
  length_eq : ∀ key, (links key).length =
    if ∃ element ∈ page.inputs, element.key = key ∧ (element.fieldKind? settings).isSome then 1
    else 0
  resolves : ∀ {key : Nat} {link : Nat × Shortcut}, link ∈ links key →
    (session.registry.inputs link.2.action.kind)[link.2.action.handle]? = some key

/-- The session of a boot when its search begins. -/
def opened (page : Browser) (settings : Settings) : Running Browser Nat :=
  Session.begun (Session.create page.bindLinks settings page.serverOffset?)

theorem searched_opened (page : Browser) (settings : Settings) :
    Searched page.bindLinks settings [] (fun _ => []) (fun _ => []) (page.opened settings) := by
  have nothing := searched_nothing page.bindLinks
    { settings := settings
      gap := ZoneGap.between page.reading.instant.offset page.serverOffset?
      started := true } rfl
  exact (nothing.logged _).logged _

/-- A boot searches the inputs that are in the document when it begins. -/
theorem run_start_opened (page : Browser) (settings : Settings) :
    Session.start.run (Session.create page.bindLinks settings page.serverOffset?) =
      match ((page.inputs.map Element.field).foldlM Session.startField {}).run
          (page.opened settings) with
      | .error fault searched => .error fault searched
      | .ok report searched => .ok report (searched.logged (.startDone report)) := by
  have fieldsEq : Attachable.fields (page.opened settings).page =
      page.inputs.map Element.field := by
    obtain ⟨next, console, -, pageEq⟩ := (searched_opened page settings).page_eq
    rw [pageEq]
    have inputsEq : ((page.bindLinks.withConsole console).decorated (fun _ => []) (fun _ => [])
        next).inputs = page.inputs := by
      have documentEq : page.document.decorate (fun _ => linkRow []) (fun _ => noteRow []) =
          page.document := page.document.decorate_nil
      rw [inputs, decorated]
      simp only [withConsole, bindLinks, documentEq]
      rfl
    rw [← inputsEq]
    rfl
  have unstarted : (Session.create page.bindLinks settings page.serverOffset? :
      Running Browser Nat).session.started = false := rfl
  rw [Session.run_start, unstarted, if_neg Bool.false_ne_true, ← opened, fieldsEq]
  cases ((page.inputs.map Element.field).foldlM Session.startField {}).run
      (page.opened settings) <;> rfl

/-- Why a page cannot be claimed. -/
def refusal? (page : Browser) : Option ScriptFault :=
  if page.hasWindow = false then some .noWindow
  else if page.hasDocument = false then some .noDocument
  else if page.guard.claimed = true then some (.failed .alreadyStarted)
  else none

theorem refusal?_eq_none :
    page.refusal? = none ↔
      page.hasWindow = true ∧ page.hasDocument = true ∧ page.guard.claimed = false := by
  rw [refusal?]
  cases page.hasWindow <;> cases page.hasDocument <;> cases page.guard.claimed <;> simp

theorem claim_eq (page : Browser) (verbosity : Verbosity) :
    page.claim verbosity =
      match page.refusal? with
      | some fault => (.error fault, { page with verbosity := verbosity })
      | none => (.ok (), { page with verbosity := verbosity, guard := ⟨true⟩ }) := by
  simp only [claim, refusal?, BootGuard.claim]
  cases page.hasWindow <;> cases page.hasDocument <;> cases page.guard.claimed <;> rfl

/-- A boot that is refused sets the verbosity only; any other one starts a session on the
page, which is claimed from then on. -/
theorem boot_eq (page : Browser) (start : StartSettings) (holder : Holder) :
    page.boot start holder =
      match page.refusal? with
      | some fault => (.error fault, { page with verbosity := start.verbosity })
      | none => { page with verbosity := start.verbosity, guard := ⟨true⟩ }.startSession
          start.settings holder := by
  rw [boot, claim_eq]
  cases page.refusal? <;> rfl

/-- A page that a boot has claimed. -/
def claimed (page : Browser) (verbosity : Verbosity) : Browser :=
  { page with verbosity := verbosity, guard := ⟨true⟩ }

/-- A boot that succeeds has searched all inputs of the page. -/
theorem exists_search (page : Browser) {start : StartSettings} {holder : Holder}
    {found : BootReport} {booted : Browser}
    (boots : page.boot start holder = (.ok found, booted)) :
    ∃ total after, ((page.inputs.map Element.field).foldlM Session.startField {}).run
        ((page.claimed start.verbosity).opened start.settings) = .ok total after ∧
      found = ⟨after.session.gap.seconds, total⟩ ∧
        booted = { (after.logged (.startDone total)).page with
          slot := .resting after.session, object := some (holder, found) } := by
  rw [boot_eq] at boots
  split at boots
  · cases boots
  · have searchedEq : (page.claimed start.verbosity).inputs = page.inputs := rfl
    rw [← claimed, startSession, run_start_opened, searchedEq] at boots
    cases outcome : ((page.inputs.map Element.field).foldlM Session.startField {}).run
        ((page.claimed start.verbosity).opened start.settings) with
    | error fault after =>
        rw [outcome] at boots
        cases boots
    | ok total after =>
        rw [outcome] at boots
        obtain ⟨foundEq, bootedEq⟩ := Prod.mk.inj boots
        have foundEq := (Except.ok.inj foundEq).symm
        subst foundEq
        exact ⟨total, after, rfl, rfl, bootedEq.symm⟩

/-- A boot that succeeds decorates the document. -/
theorem boot_eq_ok (keyed : page.Keyed) {start : StartSettings} {holder : Holder}
    {found : BootReport} {booted : Browser}
    (boots : page.boot start holder = (.ok found, booted)) :
    ∃ links notes session, Booted page booted start.settings links notes session := by
  obtain ⟨total, after, outcome, -, rfl⟩ := exists_search page boots
  have bound : (page.claimed start.verbosity).bindLinks.Keyed := ⟨keyed.nodup, keyed.lt⟩
  obtain ⟨links, notes, searched⟩ := (searched_opened (page.claimed start.verbosity)
    start.settings).fields bound (fun _ member => inputs_mem_keys member)
      (inputs_keys_nodup bound) outcome
  obtain ⟨next, console, -, pageEq⟩ := (searched.logged (.startDone total)).page_eq
  have listenersEq : (after.logged (.startDone total)).page.listeners = page.listeners := by
    rw [pageEq]
    rfl
  have clickedEq : (after.logged (.startDone total)).page.clicked = page.clicked := by
    rw [pageEq]
    rfl
  exact ⟨links, notes, after.session, congrArg Browser.document pageEq, searched.fresh, rfl, rfl,
    listenersEq, clickedEq, searched.settings_eq, searched.inputs_eq, searched.length_eq,
    searched.resolves⟩

end Browser

end QuickFill
