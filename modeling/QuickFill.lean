import QuickFill.Browser.Basic
import QuickFill.Browser.Boot
import QuickFill.Browser.BootGuard
import QuickFill.Browser.Console
import QuickFill.Browser.PageFunction
import QuickFill.Browser.Perform
import QuickFill.Browser.Reading
import QuickFill.Browser.Run
import QuickFill.Browser.Surface
import QuickFill.Calendar.Date
import QuickFill.Calendar.DateText
import QuickFill.Calendar.Week
import QuickFill.Clock.Instant
import QuickFill.Clock.Moment
import QuickFill.Clock.Stamp
import QuickFill.Clock.Written
import QuickFill.Clock.ZoneGap
import QuickFill.CommandLine.Click
import QuickFill.CommandLine.Options
import QuickFill.CommandLine.Run
import QuickFill.Document.ClassName
import QuickFill.Document.Element
import QuickFill.Document.Forest
import QuickFill.Fault
import QuickFill.Json.Decode
import QuickFill.Json.Reader
import QuickFill.Json.Value
import QuickFill.Link.Basic
import QuickFill.Link.Json
import QuickFill.Log.Event
import QuickFill.Log.Level
import QuickFill.Main
import QuickFill.Number.Decimal
import QuickFill.Number.Double
import QuickFill.Number.Overflow
import QuickFill.Number.Width
import QuickFill.Page.Basic
import QuickFill.Page.Fixture
import QuickFill.Page.NameSet
import QuickFill.Page.Render
import QuickFill.Page.Workbench
import QuickFill.Registry
import QuickFill.Session.Attach
import QuickFill.Session.Basic
import QuickFill.Session.Fill
import QuickFill.Session.Notice
import QuickFill.Session.Request
import QuickFill.Session.Start
import QuickFill.Settings.Basic
import QuickFill.Settings.Json
import QuickFill.Settings.Overrides
import QuickFill.Surface
import QuickFill.Template.Item
import QuickFill.Template.Render
import QuickFill.Text.Blank
import QuickFill.Text.Digits
import QuickFill.Text.Escape
import QuickFill.Text.Hidden
import QuickFill.Text.Interpolation
import QuickFill.Translator
import QuickFill.Proofs.Page.Decorated
import QuickFill.Proofs.Session.Action
import QuickFill.Proofs.Page.Start
import QuickFill.Proofs.Session.Filling
import QuickFill.Proofs.Session.Invariant
import QuickFill.Proofs.Page.Calls
import QuickFill.Proofs.Page.Links
import QuickFill.Proofs.Page.Filled
import QuickFill.Proofs.CommandLine.NowClick
import QuickFill.Proofs.Document.Decorated
import QuickFill.Proofs.Browser.Decorated
import QuickFill.Proofs.Browser.Start
import QuickFill.Proofs.Browser.Later
import QuickFill.Proofs.Browser.Links
import QuickFill.Proofs.Document.ClassName
import QuickFill.Proofs.Document.Layout
import QuickFill.Proofs.Session.Simulation
import QuickFill.Proofs.Browser.Form
import QuickFill.Proofs.Browser.Mirror
import QuickFill.Proofs.Browser.Bridge
import QuickFill.Proofs.Browser.View
import QuickFill.Proofs.Browser.Agreement
import QuickFill.Proofs.Text.Escape
import QuickFill.Proofs.Page.Visible
import QuickFill.Proofs.Page.Notes
import QuickFill.Proofs.Template.Plain
import QuickFill.Proofs.Page.Registered
import QuickFill.Proofs.Page.Zones
import QuickFill.Proofs.Browser.Attempt
import QuickFill.Proofs.Browser.BootOnce
import QuickFill.Proofs.Browser.FailedBoot
import QuickFill.Proofs.Browser.AtRest
import QuickFill.Proofs.Browser.Reentry
import QuickFill.Proofs.Registry.History
import QuickFill.Proofs.Page.Consistent
import QuickFill.Proofs.Page.FocusMark
import QuickFill.Proofs.CommandLine.LastClick
import QuickFill.Proofs.Browser.Descent
import QuickFill.Proofs.Browser.Lifetime
import QuickFill.Proofs.Page.Tags
import QuickFill.Proofs.Page.Counts
import QuickFill.Proofs.Page.Places
import QuickFill.Proofs.CommandLine.Counts
import QuickFill.Proofs.CommandLine.FixedClicks
import QuickFill.Proofs.Browser.Staying
import QuickFill.Proofs.Browser.Numbers
import QuickFill.Proofs.Browser.Tuning
import QuickFill.Proofs.Browser.Kindred
import QuickFill.Proofs.Browser.Lockstep
import QuickFill.Proofs.Browser.LogLevel
import QuickFill.Proofs.Page.Picked
import QuickFill.Proofs.Page.Attached
import QuickFill.Proofs.Page.Stopped
import QuickFill.Proofs.Number.Overflow
import QuickFill.Proofs.Json.Written
import QuickFill.Proofs.Json.Presented
import QuickFill.Proofs.Json.RoundTrip
import QuickFill.Proofs.Clock.NotedShift
import QuickFill.Proofs.Page.Seconds
import QuickFill.Proofs.Page.DayFromToday
import QuickFill.Proofs.Browser.Notes
import QuickFill.Proofs.Text.Integer
import QuickFill.Proofs.Number.Numeral
import QuickFill.Proofs.Number.Whole
import QuickFill.Proofs.Clock.ServerOffset
import QuickFill.Proofs.CommandLine.ClickText
import QuickFill.Proofs.CommandLine.PickedDate
import QuickFill.Proofs.Json.Fields
import QuickFill.Proofs.Settings.Overrides
import QuickFill.Proofs.Browser.Mended
import QuickFill.Proofs.Browser.English
import QuickFill.Proofs.Page.Grouped
import QuickFill.Proofs.Page.History
import QuickFill.Proofs.Session.Step
import QuickFill.Proofs.Text.Interpolation
