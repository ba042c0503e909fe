/-!
# Log records

What the parts of the bus report while they work.
-/

set_option autoImplicit false

namespace MessageBus

/-- How much a record matters. -/
inductive LogLevel where
  | debug
  | info
  | warn
  | error
deriving DecidableEq, Inhabited, Repr

/-- The value of a field of a record. -/
inductive LogValue where
  | text (s : String)
  | number (n : Int)
  /-- A time measured while running. -/
  | elapsed (millis : Nat)
deriving DecidableEq, Inhabited, Repr

/-- One report: its level, the part of the bus that makes it, its text and its fields. -/
structure LogRecord where
  level : LogLevel
  source : String
  message : String
  fields : List (String × LogValue) := []
deriving DecidableEq, Inhabited, Repr

namespace LogRecord

def debug (source message : String) (fields : List (String × LogValue) := []) : LogRecord :=
  ⟨.debug, source, message, fields⟩

def info (source message : String) (fields : List (String × LogValue) := []) : LogRecord :=
  ⟨.info, source, message, fields⟩

def warn (source message : String) (fields : List (String × LogValue) := []) : LogRecord :=
  ⟨.warn, source, message, fields⟩

def error (source message : String) (fields : List (String × LogValue) := []) : LogRecord :=
  ⟨.error, source, message, fields⟩

end LogRecord

end MessageBus
