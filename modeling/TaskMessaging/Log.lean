import TaskMessaging.Decimal

/-!
# Log entries

What an operation reports about itself is data: a level, a fixed message, the module that speaks
and named fields. Operations append entries to a journal; writing them anywhere is left to the
program that runs the operation.
-/

namespace TaskMessaging.Log

/-- Severities, most severe first. -/
inductive Level where
  | error
  | warn
  | info
  | debug
deriving DecidableEq

def Level.text : Level → String
  | .error => "ERROR"
  | .warn => "WARN"
  | .info => "INFO"
  | .debug => "DEBUG"

/-- How many levels are more severe. -/
def Level.rank : Level → Nat
  | .error => 0
  | .warn => 1
  | .info => 2
  | .debug => 3

/-- A field of an entry. -/
inductive Field where
  | int (n : Int)
  | bool (b : Bool)
  | text (s : String)
deriving DecidableEq

def Field.nat (n : Nat) : Field := .int n

/-- One report of one operation. -/
structure Entry where
  level : Level
  /-- The part of the system that speaks. -/
  target : String
  message : String
  fields : List (String × Field)
deriving DecidableEq

end TaskMessaging.Log

namespace TaskMessaging

/-- Entries in the order in which they were made. -/
abbrev Journal := List Log.Entry

end TaskMessaging
