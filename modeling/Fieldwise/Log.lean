import Fieldwise.Scope

/-! # Log records

What a pass reports about its own work, with the part of the library that reports it. -/

namespace Fieldwise

inductive LogLevel where
  | debug
  | warning
  deriving DecidableEq, Repr

structure LogRecord where
  level : LogLevel
  origin : String
  message : String
  deriving DecidableEq, Repr

def LogLevel.text : LogLevel → String
  | debug => "DEBUG"
  | warning => "WARNING"

def LogRecord.line (record : LogRecord) : String :=
  record.level.text ++ " " ++ record.origin ++ ": " ++ record.message

namespace Scope

def logOrigin : String :=
  "corresponding.core.engine"

/-- A record for each schema that is set aside. -/
def isolationLog (schemas : List Schema) : List LogRecord :=
  if (repeatedName? schemas).isSome then []
  else (isolated schemas).map fun error =>
    ⟨.warning, logOrigin, "skipping schema " ++ error.schema ++ ": " ++ error.message⟩

/-- All records of a pass: the schemas set aside and, if it succeeds, what it made. -/
def log (options : GenerationOptions) (schemas : List Schema) : List LogRecord :=
  isolationLog schemas ++
    match generate options schemas with
    | .error _ => []
    | .ok generation =>
      [⟨.debug, logOrigin, "generated " ++ toString generation.operations.length ++
        " operations for " ++ toString generation.schemas.length ++ " schemas (" ++
        toString generation.errors.length ++ " isolated)"⟩]

end Scope

end Fieldwise
