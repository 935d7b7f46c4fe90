import QuickFill.Clock.Stamp
import QuickFill.CommandLine.Options
import QuickFill.Page.Render
import QuickFill.Page.Workbench
import QuickFill.Text.Hidden

/-!
# Runs of the program

A run reads a described page, starts a session on it, performs the clicks in
order and shows the counts and the page.  Nothing is shown when a step fails.
-/

namespace QuickFill

namespace CommandLine

/-- Whether a part of a log level text is one: a level, a name, or a name with a
level. -/
def isLevelPart (part : List Char) : Bool :=
  match (part.splitOn '=').map Text.trim with
  | [name] => !name.any Text.isBlank
  | [name, level] =>
    !name.any Text.isBlank && (level.isEmpty || (Verbosity.ofName? level).isSome)
  | _ => false

/-- Whether a text says how much to log: parts between commas, and at most one
filter after a slash. -/
def isLevelText (text : String) : Bool :=
  match text.toList.splitOn '/' with
  | [] => true
  | parts :: filters =>
    decide (filters.length ≤ 1) &&
      ((parts.splitOn ',').map Text.trim).all fun part => part.isEmpty || isLevelPart part

/-- Why a run ends without showing a page. -/
inductive RunFault where
  | badLogLevel (text : String)
  | unreadableFile (path : String)
  | badPage
  | badTime (text : String)
  | failed (fault : Fault)
  deriving DecidableEq, Repr

def hexadecimal (number : Nat) : List Char :=
  Nat.toDigits 16 number

/-- A character as it stands in a quoted path: a hidden one by its code. -/
def quoteChar (character : Char) : List Char :=
  if character = '"' ∨ character = '\\' then ['\\', character]
  else if character = '\n' then ['\\', 'n']
  else if character = '\r' then ['\\', 'r']
  else if character = '\t' then ['\\', 't']
  else if character = '\x00' then ['\\', '0']
  else if Text.isHidden character then
    ['\\', 'u', '\x7b'] ++ hexadecimal character.toNat ++ ['\x7d']
  else [character]

def quotePath (path : String) : String :=
  String.ofList ('"' :: path.toList.flatMap quoteChar ++ ['"'])

def RunFault.message : RunFault → String
  | .badLogLevel text => "Mức log không hợp lệ: " ++ text
  | .unreadableFile path => "Không đọc được file " ++ quotePath path
  | .badPage => "JSON trang không hợp lệ"
  | .badTime text => "Thời điểm không hợp lệ: " ++ text
  | .failed fault => fault.message

def simulate (clicks : List Click) : Action Workbench Nat StartReport := do
  let report ← Session.start
  for click in clicks do
    let _ ← click.perform
  return report

/-- The session of a run before anything is done with it. -/
def openSession (fixture : PageFixture) (now : Instant) : PageSession :=
  Session.create { page := Page.ofFixture fixture, clock := now, translator := .english }
    Settings.standard (ZoneGap.readServerOffset? fixture.serverOffset)

/-- What a run shows in the end. -/
def summary (session : PageSession) (report : StartReport) : String :=
  "Timezone offset: " ++ toString session.session.gap.seconds ++ "s\nClock inputs: " ++
    toString report.clockInputs ++ "\nCalendar inputs: " ++ toString report.calendarInputs ++
    "\nWarnings: " ++ toString report.notes ++ "\n\n" ++ session.page.page.render

def runOn (fixture : PageFixture) (now : Instant) (clicks : List Click) :
    Except RunFault String :=
  match (simulate clicks).run (openSession fixture now) with
  | .ok report session => .ok (summary session report)
  | .error fault _ => .error (.failed fault)

/-- The time that a run takes for now. -/
def runTime (invocation : Invocation) (systemTime : Instant) : Except RunFault Instant :=
  match invocation.time with
  | none => .ok systemTime
  | some text =>
    match Instant.read? text.toList with
    | some instant => .ok instant
    | none => .error (.badTime text)

/-- A run: the text it shows, given what its page file holds, if it can be read,
and the time of the system clock. -/
def Invocation.run (invocation : Invocation) (source : Option String) (systemTime : Instant) :
    Except RunFault String := do
  if !isLevelText invocation.logLevel then .error (.badLogLevel invocation.logLevel)
  let some text := source | .error (.unreadableFile invocation.page)
  match Json.decodeText PageFixture.ofJson text with
  | .error _ => .error .badPage
  | .ok fixture => runOn fixture (← runTime invocation systemTime) invocation.clicks

def helpText : String :=
  "Chạy lối tắt ngày giờ trên một trang mô tả bằng JSON.\n\n" ++
  "Usage: shortcuts-cli [OPTIONS] --page <PAGE>\n\nOptions:\n" ++
  "  -p, --page <PAGE>            Đường dẫn tới file JSON mô tả trang\n" ++
  "      --at <AT>                Thời điểm cục bộ cố định (RFC 3339); mặc định là giờ máy\n" ++
  "      --click <CLICKS>         Thao tác mô phỏng: `now:N`, `hour:N:H`, " ++
  "`today:N[:OFFSET]`, `pick:N:YYYY-MM-DD`\n" ++
  "      --log-level <LOG_LEVEL>  Mức log ghi ra stderr [default: warn]\n" ++
  "  -h, --help                   Print help\n"

end CommandLine

end QuickFill
