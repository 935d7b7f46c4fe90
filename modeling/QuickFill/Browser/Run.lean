import QuickFill.Browser.Perform

/-!
# Runs of a page

A run responds to events one after another and looks at the page after each.
-/

namespace QuickFill

/-- What is seen of a page after an event. -/
structure PageStep where
  answer : PageAnswer
  /-- The id of the element that has the focus. -/
  active : Option String
  /-- What is filled in, in document order. -/
  values : List String
  console : List ConsoleLine
  /-- What the events of focus listeners answered. -/
  nested : List PageAnswer
  deriving DecidableEq, Repr

namespace Browser

def step (browser : Browser) (event : PageEvent) : PageStep × Browser :=
  let (answer, browser) := { browser with console := [], nested := [] }.perform event
  let seen : PageStep :=
    { answer := answer, active := browser.activeId?, values := browser.inputs.map Element.value,
      console := browser.console, nested := browser.nested }
  (seen, browser)

/-- Respond to events in order, until the page breaks. -/
def run : Browser → List PageEvent → List PageStep × Browser
  | browser, [] => ([], browser)
  | browser, event :: rest =>
    let (seen, browser) := browser.step event
    if browser.broken then ([seen], browser)
    else
      let (others, browser) := browser.run rest
      (seen :: others, browser)

end Browser

end QuickFill
