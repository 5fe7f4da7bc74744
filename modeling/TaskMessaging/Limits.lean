/-!
# Limits and defaults

The numbers that all parts of the system agree on.
-/

namespace TaskMessaging.Limits

/-- Envelopes that a mailbox holds unless configured otherwise. -/
def mailboxCapacity : Nat := 65536

/-- The well-known port of the diagnostic listener. -/
def diagnosticPort : UInt16 := 10007

/-- Diagnostic clients served at a time unless configured otherwise. -/
def diagnosticConnections : Nat := 5

/-- Bytes that an envelope carries without a pool slot. -/
def inlineBytes : Nat := 32

/-- Item count and item size of the pools that are declared unless configured otherwise. -/
def pools : List (Nat × Nat) := [(4096, 64), (2048, 256), (1024, 1024), (256, 4096)]

end TaskMessaging.Limits
