import QuickFill.Clock.ZoneGap
import QuickFill.Registry
import QuickFill.Surface

/-!
# Sessions

A session keeps what the links of one page share: the settings, the gap to the
clock of the server, the registered inputs, and whether the page was searched
already.  Its operations act on the session and its page together; an operation
that fails keeps what it did before it failed.
-/

namespace QuickFill

/-- What the links of one page share. -/
structure Session (ι : Type) where
  settings : Settings
  gap : ZoneGap
  registry : Registry ι := {}
  started : Bool := false
  deriving DecidableEq, Repr

/-- A session together with its page. -/
structure Running (σ ι : Type) where
  session : Session ι
  page : σ

/-- An operation of a session on its page. -/
abbrev Action (σ ι α : Type) := EStateM Fault (Running σ ι) α

namespace Session

variable {σ ι : Type}

def log [Environment σ] (event : LogEvent) : Action σ ι Unit :=
  modify fun running => { running with page := Environment.record event running.page }

/-- Change the page, which may refuse. -/
def change (alter : σ → Except PageFault σ) : Action σ ι Unit := fun running =>
  match alter running.page with
  | .ok page => .ok () { running with page := page }
  | .error cause => .error (.page cause) running

def register [DecidableEq ι] (kind : LinkKind) (input : ι) : Action σ ι Nat := fun running =>
  match running.session.registry.register kind input with
  | .ok (handle, registry) =>
    .ok handle { running with session := { running.session with registry := registry } }
  | .error fault => .error fault running

/-- A new session on a page: the gap is taken now and kept. -/
def create [Environment σ] (page : σ) (settings : Settings) (serverOffset : Option Int) :
    Running σ ι :=
  let gap := ZoneGap.between (Environment.clock page).offset serverOffset
  { session := { settings := settings, gap := gap }
    page := Environment.record (.gapTaken gap.reconciled gap.seconds) page }

end Session

end QuickFill
