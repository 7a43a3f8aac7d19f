import Fieldwise.Calendar
import Fieldwise.Yaml.Cursor

/-! # YAML tokens

The tokens of a text: marks of documents and directives, the starts and ends of collections as far
as brackets or indentation show them, the marks of keys, values and entries, and what stands for or
describes a single node. -/

namespace Fieldwise.Yaml

/-- Why a text has no value, or no name that messages can show (`unwritable`). Besides malformed texts
there are escapes of no character, numbers that are too long, scalars that are tagged by hand or
denote nothing that exists, and nesting so deep that the call stack is exhausted. -/
inductive Error where
  | malformed
  | codePoint
  | hugeCodePoint
  | hugeWeight
  | unknownFlag (word : String)
  | emptyNumber
  | notWhole (base : Nat) (text : String)
  | longNumber (digits : Nat)
  | notReal (text : String)
  | notTime
  | calendar (fault : CalendarFault)
  | unwritable
  | exhausted (message : String)
  deriving DecidableEq, Repr

/-- A token. `broken` stands for the place from which on the text has no tokens. -/
inductive Token where
  | version (major : Nat)
  | tagHandle (handle start : String)
  | otherDirective
  | documentStart
  | documentEnd
  | blockSequence
  | blockMapping
  | blockEnd
  | flowSequence
  | flowSequenceEnd
  | flowMapping
  | flowMappingEnd
  | flowEntry
  | blockEntry
  | key
  | value
  | alias (name : String)
  | anchor (name : String)
  | tag (handle : Option String) (suffix : String)
  | scalar (plain : Bool) (text : String)
  | broken (error : Error)
  deriving DecidableEq, Repr

end Fieldwise.Yaml
