/-!
# The log of a run

Beside its result, each step tells what it did in records that no one has to read. They are data: a
caller shows them, filters them or drops them.
-/

namespace WidgetBuilders

/-- How much a record matters; the most important first. -/
inductive LogLevel
  | warn | debug | trace
  deriving DecidableEq

/-- A message to whoever follows the work, with its level. -/
structure LogRecord where
  level : LogLevel
  text : String
  deriving DecidableEq

/-- A record of something that may be amiss. -/
def LogRecord.warn (text : String) : LogRecord := ⟨.warn, text⟩

/-- A record of a step of the work. -/
def LogRecord.debug (text : String) : LogRecord := ⟨.debug, text⟩

/-- A record of a detail. -/
def LogRecord.trace (text : String) : LogRecord := ⟨.trace, text⟩

end WidgetBuilders
