/-!
# Event/Basic — what happens to an action

Every run of an action has an id.  An action that is skipped has no run.
-/

namespace RemoteScreen

/-- Why an action is not run. -/
inductive SkipReason where
  | alreadyPending
  | throttled
  | conditionFalse
  deriving DecidableEq, Repr

/-- The name of a reason. -/
def SkipReason.name : SkipReason → String
  | alreadyPending => "AlreadyPending"
  | throttled => "Throttled"
  | conditionFalse => "ConditionFalse"

/-- What happens to an action.  Times are whole milliseconds. -/
inductive Event where
  | started (id type : String)
  | skipped (type : String) (reason : SkipReason)
  | retrying (id type : String) (attempt delay : Nat)
  | succeeded (id type : String) (duration : Nat)
  | failed (id type message : String)
  deriving DecidableEq, Repr

namespace Event

/-- The type of the action. -/
def type : Event → String
  | started _ t | skipped t _ | retrying _ t _ _ | succeeded _ t _ | failed _ t _ => t

/-- The run the event belongs to. -/
def id? : Event → Option String
  | started i _ | retrying i _ _ _ | succeeded i _ _ | failed i _ _ => some i
  | skipped _ _ => none

end Event

end RemoteScreen
