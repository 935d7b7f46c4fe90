import QuickFill.Browser.Boot

/-!
# Events of a page

Every event is dealt with in one way, whether the session rests or works; they
differ only in how a request to the session is served.  While a session works, the
focus listeners of the page may run any events, and every request among them finds
the session busy.
-/

namespace QuickFill

abbrev Service := SessionRequest → Browser → Except ScriptFault String × Browser

/-- No request is served while the session works. -/
def Service.busy : Service := fun _ browser => (.error .busy, browser)

namespace Browser

def answerOf {α : Type} (found : α → PageAnswer) : Except ScriptFault α → PageAnswer
  | .ok value => found value
  | .error fault => .exception fault

/-- The object through which scripts reach the session, if the holder has it. -/
def objectOf? (browser : Browser) (holder : Holder) : Option BootReport :=
  match browser.object with
  | some (owner, report) => if owner = holder then some report else none
  | none => none

/-- Take the object from its holder.  A session at rest goes with it; one at work
goes when its work is done. -/
def dropObject (browser : Browser) : Browser :=
  { browser with
    object := none
    slot :=
      match browser.slot with
      | .resting _ => .missing
      | slot => slot }

/-- Log why a link has failed.  A clock out of its range leaves nobody to log anything. -/
def logFailure (browser : Browser) (fault : Fault) : Browser :=
  if fault = .clockOutOfRange then browser else browser.log (.linkFailed fault)

/-- Do what a link of the page does; its failure is only logged. -/
def followLink (service : Service) (browser : Browser) (link : QuickLink) : Browser :=
  match browser.slot with
  | .unbound => browser.log (.linkUnbound link.handle)
  | .missing => browser
  | _ =>
    match service (.follow link) browser with
    | (.ok _, browser) => browser
    | (.error .busy, browser) => browser.log .linkBusy
    | (.error (.failed fault), browser) => browser.logFailure fault
    | (.error _, browser) => browser

/-- Click an element; whether its default action was prevented.  The click on a
link is not dealt with again while it is dealt with. -/
def click (service : Service) (browser : Browser) (element : Element) : Bool × Browser :=
  match element.action with
  | none => (false, browser)
  | some link =>
    if browser.clicked = some element.key then (false, browser)
    else
      let before := browser.clicked
      let browser := followLink service { browser with clicked := some element.key } link
      (true, { browser with clicked := before })

def callSession (service : Service) (browser : Browser) (holder : Holder) (call : ScriptCall) :
    PageAnswer × Browser :=
  match browser.objectOf? holder with
  | none => (.noObject, browser)
  | some _ =>
    match call.request with
    | .error fault => (.exception (.failed fault), browser)
    | .ok request =>
      let (outcome, browser) := service request browser
      (answerOf .text outcome, browser)

def bootScript (browser : Browser) (choices : Option Json) : PageAnswer × Browser :=
  match StartSettings.ofChoices choices with
  | .error fault => (.exception fault, browser)
  | .ok start =>
    let (outcome, browser) := browser.boot start .script
    (answerOf .report outcome, browser)

def setGlobal (browser : Browser) (name : String) (function : Option PageFunction) : Browser :=
  if name = "DateTimeShortcuts" then
    if browser.isPublished then browser.dropObject else browser
  else { browser with functions := browser.functions.define name function }

def setAttribute (browser : Browser) (id name : String) (value : Option String) :
    PageAnswer × Browser :=
  match browser.document.withId? id with
  | none => (.truth false, browser)
  | some element =>
    let alter (element : Element) : Element :=
      match value with
      | some value => element.setAttribute name value
      | none => element.dropAttribute name
    (.truth true, { browser with document := browser.document.modify element.key alter })

/-- Put new nodes at the end of the element with an id. -/
def appendTo (browser : Browser) (id : String) (nodes : Forest) : PageAnswer × Browser :=
  match browser.document.withId? id with
  | none => (.truth false, browser)
  | some element =>
    let (nodes, nextKey) := nodes.number browser.nextKey
    (.truth true, { browser with
      document := browser.document.modifyContent element.key fun content => content ++ nodes
      nextKey := nextKey })

/-- Remove the element with an id; it does not keep the focus. -/
def removeElement (browser : Browser) (id : String) : PageAnswer × Browser :=
  match browser.document.withId? id with
  | none => (.truth false, browser)
  | some element =>
    let content := (browser.document.contentOf? element.key).getD .nil
    (.truth true, { browser with
      document := browser.document.remove fun key => key == element.key
      removed := browser.removed ++ element :: content.elements
      active := if browser.active = some element.key then none else browser.active })

def listen (browser : Browser) (id : String) (events : List PageEvent) : PageAnswer × Browser :=
  match browser.document.withId? id with
  | none => (.truth false, browser)
  | some element =>
    (.truth true, { browser with listeners := browser.listeners ++ [(element.key, events)] })

/-- Respond to an event, with a way to serve requests to the session. -/
def respond (service : Service) (browser : Browser) : PageEvent → PageAnswer × Browser
  | .boot choices => browser.bootScript choices
  | .install choices =>
    let (outcome, browser) := browser.install choices
    (answerOf (fun _ => .done) outcome, browser)
  | .load => (.done, browser.load)
  | .release =>
    if (browser.objectOf? .script).isSome then (.truth true, browser.dropObject)
    else (.truth false, browser)
  | .describe holder =>
    match browser.objectOf? holder with
    | some report => (.report report, browser)
    | none => (.noObject, browser)
  | .call holder call => browser.callSession service holder call
  | .click place =>
    match browser.links[place]? with
    | none => (.nothing, browser)
    | some element =>
      let (prevented, browser) := browser.click service element
      (.truth prevented, browser)
  | .listen id events => browser.listen id events
  | .blur => (.done, { browser with active := none })
  | .setReading reading => (.done, { browser with reading := reading })
  | .setReadyState state => (.done, { browser with readyState := state })
  | .setGlobal name function => (.done, browser.setGlobal name function)
  | .setAttribute id name value => browser.setAttribute id name value
  | .append id nodes => browser.appendTo id nodes
  | .remove id => browser.removeElement id

/-- Respond to an event of a focus listener, while the session works. -/
def respondBusy (browser : Browser) (event : PageEvent) : Browser :=
  let (answer, browser) := browser.respond .busy event
  { browser with nested := browser.nested ++ [answer] }

/-- Move the focus to an element of the document that does not have it, and run
what listens to that.  Every element of the document is taken to be one that can have the
focus; a browser passes over inputs that are disabled or not shown. -/
def moveFocus (browser : Browser) (key : Nat) : Browser :=
  if browser.document.contains key ∧ browser.active ≠ some key then
    let listening := browser.listeners.filter fun listener => listener.1 == key
    (listening.flatMap Prod.snd).foldl respondBusy { browser with active := some key }
  else browser

def hide (browser : Browser) (id : String) : Except PageFault Browser :=
  match browser.document.withId? id with
  | none => .error (.noElement id)
  | some element =>
    if element.native then
      .ok { browser with
        document := browser.document.modify element.key fun element => { element with hidden := true } }
    else .error (.foreignElement id)

def write (browser : Browser) (key : Nat) (value : String) : Browser :=
  { browser with
    document := browser.document.modify key fun element => { element with value := value } }

instance : Fillable Browser Nat where
  step? browser key := (browser.element? key).bind fun element => element.attribute? "step"
  write browser key value := .ok (browser.write key value)
  focus browser key := .ok (browser.moveFocus key)
  hide := hide

/-- Put the session back after its work, if anything still holds it. -/
def rest (browser : Browser) (session : Session Nat) : Browser :=
  { browser with slot := if browser.object.isSome then .resting session else .missing }

/-- Put the session back after its work has failed.  A clock out of its range is not dealt
with: the session is never put back, and the page is broken. -/
def restAfter (browser : Browser) (session : Session Nat) (fault : Fault) : Browser :=
  if fault = .clockOutOfRange then { browser with broken := true } else browser.rest session

def serve : Service := fun request browser =>
  match browser.slot with
  | .resting session =>
    match (Session.serve request).run ⟨session, { browser with slot := .working }⟩ with
    | .ok text running => (.ok text, running.page.rest running.session)
    | .error fault running =>
      (.error (.failed fault), running.page.restAfter running.session fault)
  | _ => (.error .busy, browser)

def perform (browser : Browser) (event : PageEvent) : PageAnswer × Browser :=
  browser.respond serve event

end Browser

end QuickFill
