import QuickFill.CommandLine.Click

/-!
# Command line options

The options of a program run: the page to read, perhaps the time to take for now,
the clicks in order, and how much to log.  Arguments are dealt with from left to
right; the first that does not fit ends the reading.
-/

namespace QuickFill

namespace CommandLine

/-- The options as far as they were read. -/
structure Options where
  page : Option String := none
  time : Option String := none
  clicks : List Click := []
  logLevel : Option String := none
  deriving DecidableEq

inductive Refusal where
  | help
  | usage
  deriving DecidableEq, Repr

/-- The options that take a value. -/
inductive OptionName where
  | page
  | time
  | click
  | logLevel
  deriving DecidableEq, Repr

def optionNamed? (name : List Char) : Option OptionName :=
  match String.ofList name with
  | "page" => some .page
  | "at" => some .time
  | "click" => some .click
  | "log-level" => some .logLevel
  | _ => none

/-- Take the value of an option.  Only clicks may be given more than once, and a
page has a name. -/
def Options.take (options : Options) (name : OptionName) (value : String) :
    Except Refusal Options :=
  match name with
  | .page =>
    if options.page.isSome || value.isEmpty then .error .usage
    else .ok { options with page := some value }
  | .time =>
    if options.time.isSome then .error .usage else .ok { options with time := some value }
  | .logLevel =>
    if options.logLevel.isSome then .error .usage
    else .ok { options with logLevel := some value }
  | .click =>
    match Click.read value with
    | .ok click => .ok { options with clicks := options.clicks ++ [click] }
    | .error _ => .error .usage

inductive Argument where
  /-- An option whose value is the next argument. -/
  | option (name : OptionName)
  | optionValue (name : OptionName) (value : String)
  | help
  /-- The mark after which no options follow. -/
  | ending
  | unknown
  | value
  deriving DecidableEq, Repr

def splitEquals (text : List Char) : List Char × Option (List Char) :=
  match text.dropWhile (· != '=') with
  | '=' :: value => (text.takeWhile (· != '='), some value)
  | _ => (text, none)

/-- What an argument after two dashes is. -/
def longArgument (text : List Char) : Argument :=
  let (name, value) := splitEquals text
  match optionNamed? name, value with
  | some name, some value => .optionValue name (String.ofList value)
  | some name, none => .option name
  | none, none => if name = "help".toList then .help else .unknown
  | none, some _ => .unknown

/-- What an argument is by its own form. -/
def classify : List Char → Argument
  | ['-', '-'] => .ending
  | '-' :: '-' :: text => longArgument text
  | ['-'] => .value
  | ['-', 'p'] => .option .page
  | '-' :: 'p' :: '=' :: text => .optionValue .page (String.ofList text)
  | '-' :: 'p' :: text => .optionValue .page (String.ofList text)
  | '-' :: 'h' :: _ => .help
  | '-' :: _ => .unknown
  | _ => .value

/-- Read the arguments.  The value of a click may start with a dash, any other
value may not. -/
def readArguments : Options → List String → Except Refusal Options
  | options, [] => .ok options
  | options, argument :: rest =>
    match classify argument.toList with
    | .optionValue name value =>
      match options.take name value with
      | .ok options => readArguments options rest
      | .error refusal => .error refusal
    | .option name =>
      match rest with
      | [] => .error .usage
      | value :: more =>
        if name = .click ∨ classify value.toList = .value then
          match options.take name value with
          | .ok options => readArguments options more
          | .error refusal => .error refusal
        else .error .usage
    | .ending => if rest.isEmpty then .ok options else .error .usage
    | .help => .error .help
    | .unknown => .error .usage
    | .value => .error .usage

/-- The options of a run that names its page. -/
structure Invocation where
  page : String
  time : Option String
  clicks : List Click
  logLevel : String
  deriving DecidableEq

def Invocation.read (arguments : List String) : Except Refusal Invocation :=
  match readArguments {} arguments with
  | .error refusal => .error refusal
  | .ok options =>
    match options.page with
    | some page => .ok ⟨page, options.time, options.clicks, options.logLevel.getD "warn"⟩
    | none => .error .usage

end CommandLine

end QuickFill
