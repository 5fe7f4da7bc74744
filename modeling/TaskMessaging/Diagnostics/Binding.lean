import TaskMessaging.Diagnostics.Listener
import TaskMessaging.Text.Split

/-!
# Binding the listener

The listener is bound to a host and a port. Hosts that are written as numbers need no resolution,
and neither does the name of the host itself; other names are not known.
-/

namespace TaskMessaging

/-- What went wrong with the listener. -/
inductive DiagnosticError where
  | bind (address cause : String)
  | io (cause : String)
deriving DecidableEq

namespace DiagnosticError

/-- The operating system is the cause. -/
def isIo : DiagnosticError → Bool
  | .bind .. | .io _ => true

def message : DiagnosticError → String
  | .bind address cause => "Failed to bind diagnostic listener to " ++ address ++ ": " ++ cause
  | .io cause => "IO error: " ++ cause

end DiagnosticError

namespace DiagnosticListener

/-- What is said where the listener could not be started. -/
def startFailure : String := "Failed to start diagnostic listener"

/-- Four numbers of eight bits with points between them. -/
def isFourPart (cs : List Char) : Bool :=
  let parts := Text.splitAt '.' cs
  parts.length = 4 && parts.all fun p ↦ (Decimal.read? p).any fun n ↦ n < 256

/-- At least three groups of hexadecimal digits with colons between them, some of them empty. -/
def isGrouped (cs : List Char) : Bool :=
  let parts := Text.splitAt ':' cs
  3 ≤ parts.length && parts.length ≤ 8 &&
    parts.all fun p ↦ p.length ≤ 4 && p.all fun c ↦ (Text.Hex.value? c).isSome

/-- A host that can be bound to. -/
def isHost (host : String) : Bool :=
  let cs := host.toList
  host = "localhost" || isFourPart cs || isGrouped cs ||
    (cs.head? = some '[' && cs.getLast? = some ']' && isGrouped (cs.drop 1).dropLast)

/-- The cause where a host is not known. -/
def unknownHost : String :=
  "failed to lookup address information: Name or service not known"

/-- Binds the listener of a configuration. -/
def bind (config : Config.DiagnosticsSection) : Except DiagnosticError DiagnosticListener :=
  let l := create config
  if isHost config.bindAddress then .ok l else .error (.bind l.address unknownHost)

end DiagnosticListener

end TaskMessaging
