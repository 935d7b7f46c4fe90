import QuickFill.Log.Event

/-!
# What a page shows of itself

Scripts of a page get exceptions with a text.  The console shows the lines of the
log that its verbosity admits, and the exceptions of boots that no script waits
for.
-/

namespace QuickFill

inductive ScriptFault where
  /-- The settings that a script hands over cannot be read. -/
  | unreadableSettings
  | noWindow
  | noDocument
  /-- Another operation on the page is going on. -/
  | busy
  | failed (cause : Fault)
  deriving DecidableEq, Repr

def ScriptFault.message : ScriptFault → String
  | .unreadableSettings => "Không đọc được config: invalid"
  | .noWindow => "Không có window"
  | .noDocument => "Không truy cập được document"
  | .busy => "Bộ lối tắt đang xử lý một thao tác khác"
  | .failed cause => "DateTimeShortcuts error: " ++ cause.message

inductive ConsoleLine where
  | logged (event : LogEvent)
  /-- An exception that no script waits for. -/
  | uncaught (fault : ScriptFault)
  deriving DecidableEq, Repr

namespace ConsoleLine

def level : ConsoleLine → LogLevel
  | .logged event => event.level
  | .uncaught _ => .error

def text : ConsoleLine → String
  | .logged event => "[" ++ event.origin ++ "] " ++ event.line
  | .uncaught fault => fault.message

end ConsoleLine

end QuickFill
