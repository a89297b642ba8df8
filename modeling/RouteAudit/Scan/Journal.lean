/-! # The journal of a scan

Messages about the course of a scan, each with its level and the part of the program it comes
from. -/

namespace RouteAudit

/-- How much a message matters. -/
inductive LogLevel where
  | debug
  | info
  | warning
  | error
deriving DecidableEq, Repr

namespace LogLevel

def name : LogLevel → String
  | debug => "DEBUG"
  | info => "INFO"
  | warning => "WARNING"
  | error => "ERROR"

def rank : LogLevel → Nat
  | debug => 10
  | info => 20
  | warning => 30
  | error => 40

end LogLevel

/-- One message. -/
structure LogEntry where
  level : LogLevel
  /-- The part of the program that the message comes from. -/
  origin : String
  message : String
deriving DecidableEq, Repr

namespace LogEntry

def ofAnalyzer (level : LogLevel) (message : String) : LogEntry :=
  ⟨level, "apiposture.analyzer", message⟩

def ofSource (message : String) : LogEntry := ⟨.debug, "apiposture.source", message⟩

def ofDetectors (message : String) : LogEntry := ⟨.debug, "apiposture.detectors", message⟩

def ofRules (message : String) : LogEntry := ⟨.debug, "apiposture.rules", message⟩

def ofConfig (message : String) : LogEntry := ⟨.info, "apiposture.config", message⟩

def ofCommand (message : String) : LogEntry := ⟨.error, "apiposture.cli", message⟩

/-- The messages that are at least at a level. -/
def atLeast (level : LogLevel) (log : List LogEntry) : List LogEntry :=
  log.filter fun e => decide (level.rank ≤ e.level.rank)

end LogEntry

end RouteAudit
