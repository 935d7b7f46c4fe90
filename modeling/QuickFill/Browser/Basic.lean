import QuickFill.Browser.BootGuard
import QuickFill.Browser.Console
import QuickFill.Browser.PageFunction
import QuickFill.Browser.Reading
import QuickFill.Document.ClassName
import QuickFill.Session.Request
import QuickFill.Settings.Overrides

/-!
# Pages in a browser

A page in a browser is a document with a clock, a console and the functions of its
scripts, together with what has become of its quick-fill links.  Events come from
scripts and from the reader of the page.
-/

namespace QuickFill

/-- Who has the object through which scripts reach the session. -/
inductive Holder where
  | script
  /-- The window, where every script finds it. -/
  | window
  deriving DecidableEq, Repr

inductive PageEvent where
  /-- A script boots the page and keeps the object it gets. -/
  | boot (choices : Option Json)
  /-- A script has the page booted as soon as it is loaded. -/
  | install (choices : Option Json)
  | load
  /-- The script lets go of the object it kept. -/
  | release
  /-- A script reads the numbers that the object holds. -/
  | describe (holder : Holder)
  | call (holder : Holder) (call : ScriptCall)
  /-- The reader clicks a link, counted in document order. -/
  | click (link : Nat)
  | listen (id : String) (events : List PageEvent)
  | blur
  | setReading (reading : BrowserReading)
  | setReadyState (state : Option String)
  /-- A script sets a property of the window to a function, or to something else. -/
  | setGlobal (name : String) (function : Option PageFunction)
  | setAttribute (id name : String) (value : Option String)
  | append (id : String) (nodes : Forest)
  | remove (id : String)

/-- The numbers that scripts can read off a booted page. -/
structure BootReport where
  gapSeconds : Int
  report : StartReport
  deriving DecidableEq, Repr

inductive PageAnswer where
  | done
  | truth (value : Bool)
  | text (text : String)
  | report (report : BootReport)
  /-- There is nothing to do the event to. -/
  | nothing
  /-- There is no object to reach the session through. -/
  | noObject
  | exception (fault : ScriptFault)
  deriving DecidableEq, Repr

/-- What the links of a page are bound to. -/
inductive SessionSlot where
  /-- No session was ever bound to them. -/
  | unbound
  /-- The session that was bound to them is gone. -/
  | missing
  | resting (session : Session Nat)
  /-- The session is busy with an operation. -/
  | working
  deriving DecidableEq, Repr

structure Browser where
  document : Forest
  nextKey : Nat
  removed : List Element := []
  active : Option Nat := none
  hasWindow : Bool := true
  /-- Whether the window gives its document away. -/
  hasDocument : Bool := true
  readyState : Option String := none
  reading : BrowserReading
  functions : PageFunctions := {}
  selectors : SelectorReader := .plain
  /-- What listens to the focus of elements, by their keys. -/
  listeners : List (Nat × List PageEvent) := []
  guard : BootGuard := {}
  /-- The boots that wait until the page is loaded. -/
  pending : List StartSettings := []
  verbosity : Verbosity := .off
  slot : SessionSlot := .unbound
  object : Option (Holder × BootReport) := none
  /-- The link whose click is being dealt with. -/
  clicked : Option Nat := none
  console : List ConsoleLine := []
  /-- What the events of focus listeners answered. -/
  nested : List PageAnswer := []
  /-- Whether the clock has left its range in the middle of an operation, which is never
  ended: its session works for ever. -/
  broken : Bool := false

namespace Browser

/-- A page that was just opened, in a browser with a clock and a reader of selectors. -/
def ofDocument (document : Forest) (reading : BrowserReading)
    (selectors : SelectorReader := .plain) : Browser :=
  let (document, nextKey) := document.number 0
  { document := document, nextKey := nextKey, reading := reading, selectors := selectors }

/-- An element of the document, or one that was removed from it. -/
def element? (browser : Browser) (key : Nat) : Option Element :=
  (browser.document.find? key).or
    (browser.removed.find? fun element => element.key == key)

def inputs (browser : Browser) : List Element :=
  browser.document.elements.filter Element.isInput

def links (browser : Browser) : List Element :=
  browser.document.elements.filter fun element => element.tag == "a"

def activeId? (browser : Browser) : Option String := do
  (← browser.element? (← browser.active)).id?

def body? (browser : Browser) : Option Element := do
  let root ← browser.document.siblings.head?
  let content ← browser.document.contentOf? root.key
  content.siblings.find? fun element => element.tag == "body"

/-- The offset that the page gives for its server. -/
def serverOffset? (browser : Browser) : Option Int :=
  ZoneGap.readServerOffset? do (← browser.body?).attribute? "data-admin-utc-offset"

def print (browser : Browser) (line : ConsoleLine) : Browser :=
  { browser with console := browser.console ++ [line] }

/-- Log an event, if the verbosity admits it. -/
def log (browser : Browser) (event : LogEvent) : Browser :=
  if browser.verbosity.admits event.level then browser.print (.logged event) else browser

def isPublished (browser : Browser) : Bool :=
  browser.object.any fun object => object.1 == .window

end Browser

end QuickFill
