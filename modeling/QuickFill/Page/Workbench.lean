import QuickFill.Page.Basic
import QuickFill.Session.Fill
import QuickFill.Session.Start

/-!
# Sessions on pages in memory

A workbench is a page in memory with a clock that stands still until it is set, a
translator, and the log of all that happened.
-/

namespace QuickFill

/-- A page in memory with its surroundings. -/
structure Workbench where
  page : Page
  clock : Instant
  translator : Translator
  log : List LogEvent := []

namespace Workbench

/-- Change the page of a workbench, which may refuse. -/
def changePage (bench : Workbench) (outcome : Except PageFault Page) :
    Except PageFault Workbench :=
  outcome.map fun page => { bench with page := page }

def field? (page : Page) (number : Nat) : Option (Field Nat) :=
  page.inputs[number]?.map fun input => ⟨number, input.type, input.classes⟩

def fields (page : Page) : List (Field Nat) :=
  page.inputOrder.filterMap (field? page)

instance : Environment Workbench where
  clock bench := bench.clock
  translator bench := bench.translator
  record event bench := { bench with log := bench.log ++ [event] }

instance : Attachable Workbench Nat where
  fields bench := fields bench.page
  insertShortcut bench number shortcut :=
    bench.changePage (bench.page.insertShortcut number shortcut)
  appendNote bench number note := bench.changePage (bench.page.appendNote number note)
  hasMarker bench number name := bench.page.hasMarker number name

instance : Fillable Workbench Nat where
  step? bench number := bench.page.step? number
  write bench number value := bench.changePage (bench.page.write number value)
  focus bench number := bench.changePage (bench.page.focus number)
  hide bench id := bench.changePage (bench.page.hide id)

end Workbench

abbrev PageSession := Running Workbench Nat

end QuickFill
