import QuickFill.Page.Basic
import QuickFill.Text.Escape

/-!
# Rendered pages

A page is shown as a short form of its markup, one line for each container end
and each node, with all texts of the page escaped.
-/

namespace QuickFill

namespace Page

open Text

/-- The line of an input. -/
def renderInput (input : Input) (focused : Bool) : String :=
  "  <input id=\"" ++ escape input.id ++ "\" type=\"" ++ escape input.type ++ "\" class=\"" ++
    escape (" ".intercalate input.classes) ++ "\" value=\"" ++ escape input.value ++ "\"" ++
    (if focused then " autofocus" else "") ++ ">\n"

def renderShortcut (shortcut : Shortcut) : String :=
  "  <span class=\"" ++ escape shortcut.spanClass ++ "\">&nbsp;<a href=\"#\">" ++
    escape shortcut.label ++ "</a></span>\n"

def renderNote (note : Note) : String :=
  "  <div class=\"" ++ escape (" ".intercalate note.classes) ++ "\">" ++ escape note.text ++
    "</div>\n"

def renderNode (page : Page) : PageNode → String
  | .input number =>
    match page.inputs[number]? with
    | some input => renderInput input (page.focused == some number)
    | none => ""
  | .shortcut shortcut => renderShortcut shortcut
  | .note note => renderNote note

def renderContainer (page : Page) (container : Container) : String :=
  "<div data-container=\"" ++ escape container.name ++ "\">\n" ++
    String.join (container.nodes.map page.renderNode) ++ "</div>\n"

def renderBox (page : Page) (id : String) : String :=
  "<div id=\"" ++ escape id ++ "\" style=\"display: " ++
    (if page.isHidden id then "none" else "block") ++ "\"></div>\n"

/-- The whole page, containers first and calendar boxes in the order of their
ids after them. -/
def render (page : Page) : String :=
  String.join (page.containers.map page.renderContainer) ++
    String.join (page.boxes.map page.renderBox)

end Page

end QuickFill
