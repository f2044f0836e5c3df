import RuleIntake.Rule.Event

/-!
# Telling

Events are told while work goes on, as far as somebody listens to them. An event that cannot be told
breaks the work off, and what it would have come to is lost.
-/

namespace RuleIntake

/-- Which events are listened to. -/
inductive LogLevel
  | debug
  | warn
deriving DecidableEq, Repr

/-- Whether an event is told at a level. -/
def LogLevel.shows (level : LogLevel) (e : Event) : Bool :=
  match level with
  | .debug => true
  | .warn => e.isWarning

/-- What is told of events; or, if one of them cannot be told, what is told before it. -/
def Event.tell (level : LogLevel) (events : List Event) : Except (List Event) (List Event) :=
  let due := events.filter level.shows
  if due.all isTellable then .ok due else .error (due.takeWhile isTellable)

/-- Why work has no result. -/
inductive Failure
  | refused (error : RuleError)
  /-- Work was broken off behind these events. -/
  | brokenOff (told : List Event)

/-- Tells what happens in the course of work. -/
def telling {α : Type} (level : LogLevel) (work : Except RuleError (α × List Event)) :
    Except Failure (α × List Event) :=
  match work with
  | .error e => .error (.refused e)
  | .ok (result, events) =>
    match Event.tell level events with
    | .error told => .error (.brokenOff told)
    | .ok told => .ok (result, told)

end RuleIntake
