import QuickFill.Proofs.Browser.Bridge
import QuickFill.Proofs.Browser.View
import QuickFill.Proofs.Page.Calls

/-!
# Calls to two pages

Readers follow links, scripts call the session, and the clock is set, on a page in memory
as on a page in a browser.  Two pages that mirror each other answer such calls alike, in
any order, and go on mirroring each other.
-/

namespace QuickFill

/-- What can be asked of a page in memory and of a page in a browser alike. -/
inductive SharedCall where
  /-- A link is followed, counted in the order of the page. -/
  | follow (place : Nat)
  | call (call : ScriptCall)
  | setReading (reading : BrowserReading)
  deriving DecidableEq, Repr

/-- Ask a page one call after another, until it breaks; its answers, and the page at the
end. -/
def attendAll {σ α : Type} (attend : σ → SharedCall → Option α × σ) (breaks : α → Bool) :
    List SharedCall → σ → List (Option α) × σ
  | [], page => ([], page)
  | call :: rest, page =>
    let (answer, page) := attend page call
    if answer.any breaks then ([answer], page)
    else
      let (answers, page) := attendAll attend breaks rest page
      (answer :: answers, page)

theorem attendAll_singleton {σ α : Type} (attend : σ → SharedCall → Option α × σ)
    (breaks : α → Bool) (call : SharedCall) (page : σ) :
    attendAll attend breaks [call] page = ([(attend page call).1], (attend page call).2) := by
  simp only [attendAll, ite_self]

namespace PageSession

/-- What a session on a page in memory answers to a request, and the session after it. -/
def answer (running : PageSession) (request : SessionRequest) :
    Except Fault String × PageSession :=
  match (Session.serve request).run running with
  | .ok text after => (.ok text, after)
  | .error fault after => (.error fault, after)

/-- Ask a session on a page in memory; there is no answer to a link that is not there, nor
when the clock is set. -/
def attend (running : PageSession) : SharedCall → Option (Except Fault String) × PageSession
  | .follow place =>
    match running.page.page.shortcuts[place]? with
    | none => (none, running)
    | some shortcut =>
      let (answer, after) := running.answer (.follow shortcut.action)
      (some answer, after)
  | .call call =>
    match call.request with
    | .error fault => (some (.error fault), running)
    | .ok request =>
      let (answer, after) := running.answer request
      (some answer, after)
  | .setReading reading => (none, running.withPage (running.page.setClock reading.instant))

/-- Whether an answer is that the clock has left its range. -/
def breaks : Except Fault String → Bool
  | .error fault => fault == .clockOutOfRange
  | .ok _ => false

def attendAll (running : PageSession) (calls : List SharedCall) :
    List (Option (Except Fault String)) × PageSession :=
  QuickFill.attendAll attend breaks calls running

end PageSession

namespace Browser

/-- Ask a page in a browser.  The answer to a click is what the session answers to the
link, which the page itself only logs. -/
def attend (browser : Browser) : SharedCall → Option (Except ScriptFault String) × Browser
  | .follow place =>
    let link := browser.links[place]?.bind Element.action
    (link.map fun link => (browser.serve (.follow link)).1, (browser.perform (.click place)).2)
  | .call call =>
    match browser.perform (.call .script call) with
    | (.text text, after) => (some (.ok text), after)
    | (.exception fault, after) => (some (.error fault), after)
    | (_, after) => (none, after)
  | .setReading reading => (none, (browser.perform (.setReading reading)).2)

/-- Whether an answer is that the clock has left its range, with which the page is broken. -/
def breaks : Except ScriptFault String → Bool
  | .error fault => fault == .failed .clockOutOfRange
  | .ok _ => false

def attendAll (browser : Browser) (calls : List SharedCall) :
    List (Option (Except ScriptFault String)) × Browser :=
  QuickFill.attendAll attend breaks calls browser

end Browser

/-- Answers that are the same: one text, or faults that correspond. -/
inductive SameAnswer (faults : Fault → Fault → Prop) :
    Except Fault String → Except ScriptFault String → Prop
  | answered (text : String) : SameAnswer faults (.ok text) (.ok text)
  | failed {fault other : Fault} : faults fault other →
    SameAnswer faults (.error fault) (.error (.failed other))

/-- Faults of a page in memory and of a page in a browser that are alike: one fault, or a
calendar box that is missing, which each page says in its own words. -/
def AlikeFaults (fault other : Fault) : Prop :=
  other = fault ∨ ∃ id, fault = .page (.noBox id) ∧ other = .page (.noElement id)

/-- Only answers that are the same break both pages. -/
theorem SameAnswer.breaks_eq {answer : Except Fault String} {other : Except ScriptFault String}
    (same : SameAnswer AlikeFaults answer other) :
    Browser.breaks other = PageSession.breaks answer := by
  cases same with
  | answered text => rfl
  | failed faults =>
      rcases faults with rfl | ⟨id, rfl, rfl⟩
      · simp [Browser.breaks, PageSession.breaks]
      · rfl

theorem any_breaks_eq {answer : Option (Except Fault String)}
    {other : Option (Except ScriptFault String)}
    (same : Option.Rel (SameAnswer AlikeFaults) answer other) :
    other.any Browser.breaks = answer.any PageSession.breaks := by
  cases same with
  | none => rfl
  | some same => exact same.breaks_eq

/-- A session on a page in memory and a page in a browser whose session is at rest, which
mirror each other. -/
def Scene.Paired (scene : Scene) (running : PageSession) (browser : Browser) : Prop :=
  ∃ session, browser.slot = .resting session ∧
    scene.likeness.Sessions running ⟨session, browser⟩

/-- What a call makes of a session on a page in memory and of a page in a browser: they
mirror each other again, and the session is at rest again, unless the call breaks the page. -/
structure Scene.Attended (scene : Scene) (breaks : Bool) (running : PageSession)
    (browser : Browser) : Prop where
  mirrors : scene.Mirrors running.page browser
  paired : breaks = false → scene.Paired running browser

variable {scene : Scene} {bench : Workbench} {browser : Browser} {running : PageSession}
  {found : BootReport} {breaks : Bool}

/-! ### What the session does not see -/

theorem Scene.Mirrors.withSlot (mirrors : scene.Mirrors bench browser) (slot : SessionSlot)
    (broken : Bool) :
    scene.Mirrors bench { browser with slot := slot, broken := broken } := by
  obtain ⟨base, boxes, spans, blocks, mirrored⟩ := mirrors
  exact ⟨base, boxes, spans, blocks, { mirrored with }⟩

theorem Scene.Mirrors.withConsole (mirrors : scene.Mirrors bench browser)
    (console : List ConsoleLine) : scene.Mirrors bench (browser.withConsole console) := by
  obtain ⟨base, boxes, spans, blocks, mirrored⟩ := mirrors
  exact ⟨base, boxes, spans, blocks, { mirrored with }⟩

theorem Scene.Mirrors.withClicked (mirrors : scene.Mirrors bench browser)
    (clicked : Option Nat) :
    { scene with clicked := clicked }.Mirrors bench { browser with clicked := clicked } := by
  obtain ⟨base, boxes, spans, blocks, mirrored⟩ := mirrors
  exact ⟨base, boxes, spans, blocks, { mirrored with clicked_eq := rfl }⟩

theorem Scene.Paired.mirrors (paired : scene.Paired running browser) :
    scene.Mirrors running.page browser := by
  obtain ⟨session, -, same⟩ := paired
  exact same.pages

theorem Scene.Paired.attended (paired : scene.Paired running browser) :
    scene.Attended breaks running browser :=
  ⟨paired.mirrors, fun _ => paired⟩

theorem Scene.Paired.withClicked (paired : scene.Paired running browser)
    (clicked : Option Nat) :
    { scene with clicked := clicked }.Paired running { browser with clicked := clicked } := by
  obtain ⟨session, resting, same⟩ := paired
  exact ⟨session, resting, { same with pages := same.pages.withClicked clicked }⟩

theorem Scene.Attended.withConsole (attended : scene.Attended breaks running browser)
    (console : List ConsoleLine) :
    scene.Attended breaks running (browser.withConsole console) where
  mirrors := attended.mirrors.withConsole console
  paired unbroken := by
    obtain ⟨session, resting, same⟩ := attended.paired unbroken
    exact ⟨session, resting, { same with pages := same.pages.withConsole console }⟩

theorem Scene.Attended.withClicked (attended : scene.Attended breaks running browser)
    (clicked : Option Nat) :
    { scene with clicked := clicked }.Attended breaks running
      { browser with clicked := clicked } where
  mirrors := attended.mirrors.withClicked clicked
  paired unbroken := (attended.paired unbroken).withClicked clicked

/-! ### One call -/

theorem Scene.Paired.serve (paired : scene.Paired running browser) (plain : scene.settings.Plain)
    (shared : scene.object = some (.script, found)) (request : SessionRequest) :
    SameAnswer AlikeFaults (running.answer request).1 (browser.serve request).1 ∧
      scene.Attended (PageSession.breaks (running.answer request).1)
        (running.answer request).2 (browser.serve request).2 := by
  obtain ⟨session, resting, same⟩ := paired
  have working : scene.likeness.Sessions running ⟨session, { browser with slot := .working }⟩ :=
    { same with pages := same.pages.withSlot .working browser.broken }
  have served := (scene.bridge plain).serve request running _ working
  -- The session goes back to its place: the object through which scripts reach it is held.
  have rested {after : PageSession} {other : Running Browser Nat}
      (same : scene.likeness.Sessions after other) :
      scene.Paired after (other.page.rest other.session) := by
    have held : other.page.object.isSome := by
      obtain ⟨base, boxes, spans, blocks, mirrored⟩ := same.pages
      rw [mirrored.object_eq, shared]
      rfl
    have restEq : other.page.rest other.session =
        { other.page with slot := .resting other.session } := by
      rw [Browser.rest, if_pos held]
    rw [restEq]
    exact ⟨other.session, rfl, { same with pages := same.pages.withSlot _ other.page.broken }⟩
  rw [PageSession.answer, Browser.serve, resting]
  simp only
  generalize (Session.serve request).run running = outcome,
    (Session.serve request).run
      (⟨session, { browser with slot := .working }⟩ : Running Browser Nat) = other at served
  cases served with
  | answered text after => exact ⟨.answered text, (rested after).attended⟩
  | @failed fault otherFault afterwards otherwards faults after =>
      have alike : AlikeFaults fault otherFault := by
        cases faults with
        | same fault => exact Or.inl rfl
        | refused causes =>
            obtain ⟨id, rfl, rfl⟩ := causes
            exact Or.inr ⟨id, rfl, rfl⟩
      have answers : SameAnswer AlikeFaults (.error fault) (.error (.failed otherFault)) :=
        .failed alike
      refine ⟨answers, ?_⟩
      simp only [Browser.restAfter]
      split
      · next breaks =>
        refine ⟨after.pages.withSlot _ true, fun unbroken => ?_⟩
        rw [← answers.breaks_eq, breaks] at unbroken
        cases unbroken
      · exact (rested after).attended

theorem Scene.Paired.click (paired : scene.Paired running browser) (plain : scene.settings.Plain)
    (shared : scene.object = some (.script, found)) (idle : scene.clicked = none)
    {place : Nat} {element : Element} {link : QuickLink}
    (placed : browser.links[place]? = some element) (acts : element.action = some link) :
    scene.Attended (PageSession.breaks (running.answer (.follow link)).1)
      (running.answer (.follow link)).2 (browser.perform (.click place)).2 := by
  obtain ⟨session, resting, same⟩ := paired
  obtain ⟨base, boxes, spans, blocks, mirrored⟩ := same.pages
  have browserIdle : browser.clicked = none := mirrored.clicked_eq.trans idle
  have during := Scene.Paired.withClicked ⟨session, resting, same⟩ (some element.key)
  let clicked : Browser := { browser with clicked := some element.key }
  have clickedResting : clicked.slot = .resting session := resting
  obtain ⟨console, followedEq⟩ := Browser.followLink_eq clickedResting link
  have followed := ((during.serve plain shared (.follow link)).2.withConsole console).withClicked
    none
  have performedEq := Browser.respond_click placed acts browserIdle
  rw [followedEq] at performedEq
  rw [Browser.perform, performedEq]
  have sceneEq : { scene with clicked := none } = scene := by
    rw [← idle]
  rw [← sceneEq]
  exact followed

/-- Whatever is asked, the answers are the same and the pages mirror each other again. -/
theorem Scene.Paired.attend (paired : scene.Paired running browser)
    (plain : scene.settings.Plain) (shared : scene.object = some (.script, found))
    (idle : scene.clicked = none) (call : SharedCall) :
    Option.Rel (SameAnswer AlikeFaults) (running.attend call).1 (browser.attend call).1 ∧
      scene.Attended ((running.attend call).1.any PageSession.breaks) (running.attend call).2
        (browser.attend call).2 := by
  obtain ⟨session, resting, same⟩ := id paired
  obtain ⟨base, boxes, spans, blocks, mirrored⟩ := same.pages
  cases call with
  | follow place =>
      have linksEq := congrArg (fun links => links[place]?) mirrored.links_eq
      simp only [List.getElem?_map] at linksEq
      cases placed : running.page.page.shortcuts[place]? with
      | none =>
          rw [placed, Option.map_none, Option.map_eq_none_iff] at linksEq
          have performedEq : (browser.perform (.click place)).2 = browser := by
            rw [Browser.perform, Browser.respond, linksEq]
          rw [PageSession.attend, placed, Browser.attend, performedEq, linksEq]
          exact ⟨.none, paired.attended⟩
      | some shortcut =>
          rw [placed, Option.map_some, Option.map_eq_some_iff] at linksEq
          obtain ⟨element, found, acts⟩ := linksEq
          have clicked := paired.click plain shared idle found acts
          have answered := (paired.serve plain shared (.follow shortcut.action)).1
          rw [PageSession.attend, placed, Browser.attend, found, Option.bind_some, acts]
          exact ⟨.some answered, clicked⟩
  | call call =>
      have objectEq : browser.objectOf? .script = some found := by
        rw [Browser.objectOf?, mirrored.object_eq, shared]
        rfl
      rw [PageSession.attend, Browser.attend, Browser.perform, Browser.respond,
        Browser.callSession, objectEq]
      cases call.request with
      | error fault => exact ⟨.some (.failed (Or.inl rfl)), paired.attended⟩
      | ok request =>
          have served := paired.serve plain shared request
          simp only
          generalize running.answer request = outcome, browser.serve request = other at served ⊢
          obtain ⟨answer, after⟩ := outcome
          obtain ⟨otherAnswer, otherAfter⟩ := other
          obtain ⟨answers, attended⟩ := served
          cases answers with
          | answered text => exact ⟨.some (.answered text), attended⟩
          | failed faults => exact ⟨.some (.failed faults), attended⟩
  | setReading reading =>
      have setAlike : scene.Paired (running.attend (.setReading reading)).2
          (browser.attend (.setReading reading)).2 :=
        ⟨session, resting, { same with
          pages := ⟨base, boxes, spans, blocks, { mirrored with clock_eq := rfl }⟩ }⟩
      exact ⟨.none, setAlike.attended⟩

/-- Calls in a row are answered alike. -/
theorem Scene.Paired.attendAll (paired : scene.Paired running browser)
    (plain : scene.settings.Plain) (shared : scene.object = some (.script, found))
    (idle : scene.clicked = none) (calls : List SharedCall) :
    List.Forall₂ (Option.Rel (SameAnswer AlikeFaults)) (running.attendAll calls).1
        (browser.attendAll calls).1 ∧
      scene.Mirrors (running.attendAll calls).2.page (browser.attendAll calls).2 := by
  induction calls generalizing running browser with
  | nil => exact ⟨.nil, paired.mirrors⟩
  | cons call rest ih =>
      obtain ⟨answered, after⟩ := paired.attend plain shared idle call
      have breaksEq := any_breaks_eq answered
      rw [PageSession.attendAll, Browser.attendAll, QuickFill.attendAll, QuickFill.attendAll]
      simp only [breaksEq]
      split
      · exact ⟨.cons answered .nil, after.mirrors⟩
      · next unbroken =>
        obtain ⟨others, atEnd⟩ := ih (after.paired (eq_false_of_ne_true unbroken))
        exact ⟨.cons answered others, atEnd⟩

end QuickFill
