import QuickFill.Browser.Surface
import QuickFill.Session.Start

/-!
# Booting a page in a browser

A boot sets the verbosity, claims the page and starts a session on it.  A boot that
is refused before it has claimed the page leaves everything but the verbosity as it
was; one that fails later leaves the page claimed and without a session.
-/

namespace QuickFill

/-- The settings in the choices of a script; none and null choose nothing. -/
def StartSettings.ofChoices : Option Json → Except ScriptFault StartSettings
  | none => .ok {}
  | some .null => .ok {}
  | some choices =>
    match Overrides.ofScript? choices with
    | some overrides => .ok overrides.start
    | none => .error .unreadableSettings

namespace Browser

/-- Claim the page; a page without a window or a document is not claimed. -/
def claim (browser : Browser) (verbosity : Verbosity) : Except ScriptFault Unit × Browser :=
  let browser := { browser with verbosity := verbosity }
  if browser.hasWindow then
    if browser.hasDocument then
      match browser.guard.claim with
      | .ok guard => (.ok (), { browser with guard := guard })
      | .error fault => (.error (.failed fault), browser)
    else (.error .noDocument, browser)
  else (.error .noWindow, browser)

/-- Bind the links of the page to a session that is at work. -/
def bindLinks (browser : Browser) : Browser :=
  { browser with slot := .working }

/-- Start a session, to which the links of the page are bound first.  One that fails is
gone, and the links that it made are left behind. -/
def startSession (browser : Browser) (settings : Settings) (holder : Holder) :
    Except ScriptFault BootReport × Browser :=
  match Session.start.run (Session.create browser.bindLinks settings browser.serverOffset?) with
  | .ok report running =>
    let found : BootReport := ⟨running.session.gap.seconds, report⟩
    (.ok found,
      { running.page with slot := .resting running.session, object := some (holder, found) })
  | .error fault running => (.error (.failed fault), { running.page with slot := .missing })

def boot (browser : Browser) (start : StartSettings) (holder : Holder) :
    Except ScriptFault BootReport × Browser :=
  match browser.claim start.verbosity with
  | (.ok (), browser) => browser.startSession start.settings holder
  | (.error fault, browser) => (.error fault, browser)

/-- What the document says of its own loading; a missing document says nothing. -/
def readyState? (browser : Browser) : Option String :=
  if browser.hasDocument then browser.readyState else none

/-- Have the page booted as soon as it is loaded. -/
def install (browser : Browser) (choices : Option Json) : Except ScriptFault Unit × Browser :=
  if browser.guard.claimed then (.error (.failed .alreadyStarted), browser)
  else
    match StartSettings.ofChoices choices with
    | .error fault => (.error fault, browser)
    | .ok start =>
      if browser.hasWindow then
        match BootTiming.ofReadyState browser.readyState? with
        | .immediate =>
          let (outcome, browser) := browser.boot start .window
          (outcome.map fun _ => (), browser)
        | .onLoad => (.ok (), { browser with pending := browser.pending ++ [start] })
      else (.error .noWindow, browser)

/-- A boot that waited until now; its failure is shown on the console. -/
def bootPending (browser : Browser) (start : StartSettings) : Browser :=
  match browser.boot start .window with
  | (.ok _, browser) => browser
  | (.error fault, browser) => browser.print (.uncaught fault)

/-- Boot all that waited for the page to be loaded, each once. -/
def load (browser : Browser) : Browser :=
  browser.pending.foldl bootPending { browser with pending := [] }

end Browser

end QuickFill
