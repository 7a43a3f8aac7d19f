import Fieldwise.CommandLine.Argument
import Fieldwise.MatchKind
import Fieldwise.Number.Whole

/-! # Requests

What a command line asks for: help, or a run on one source with the values of its options.
Arguments are read in order; a later value of an option replaces an earlier one. A pair of dashes
attached to an option as its value counts as no value. -/

namespace Fieldwise.CommandLine

/-- The values of the options. Where it matters that an option was given without a value, `none`
stands for the missing value. -/
structure Options where
  config : Option (Option String) := none
  marker : String := ""
  strict : Bool := false
  verbose : Bool := false
  out : String := ""
  importFrom : String := ""
  rowCount : Option Int := some 20
  summary : Bool := false
  kind : Option (Option OperationKind) := none
  deriving DecidableEq, Repr

inductive Request where
  | help
  | run (source : String) (options : Options)
  deriving DecidableEq, Repr

namespace Options

/-- Switches an option on that needs no value. -/
def switchOn (option : CommandOption) (options : Options) : Options :=
  match option with
  | .strict => { options with strict := true }
  | .verbose => { options with verbose := true }
  | .summary => { options with summary := true }
  | _ => options

def setRowCount (value : Option String) (options : Options) : Except UsageError Options :=
  match value with
  | none => .ok { options with rowCount := none }
  | some text =>
    match readWhole? text with
    | some count => .ok { options with rowCount := some count }
    | none => .error (.invalidValue .rowCount "int" text)

def setKind (value : Option String) (options : Options) : Except UsageError Options :=
  match value with
  | none => .ok { options with kind := some none }
  | some text =>
    match OperationKind.read text with
    | .ok kind => .ok { options with kind := some (some kind) }
    | .error _ => .error (.invalidValue .kind "operation_kind_from_value" text)

/-- Sets an option that needs a value. -/
def set (option : CommandOption) (value : Option String) (options : Options) :
    Except UsageError Options :=
  match option with
  | .config => .ok { options with config := some value }
  | .marker => .ok { options with marker := value.getD "" }
  | .out => .ok { options with out := value.getD "" }
  | .importFrom => .ok { options with importFrom := value.getD "" }
  | .rowCount => options.setRowCount value
  | .kind => options.setKind value
  | _ => .ok options

end Options

/-- How far the arguments have been read: the source, the values so far, and what has no place. -/
structure Progress where
  source : Option String := none
  options : Options := {}
  leftover : List String := []
  deriving DecidableEq, Repr

namespace Progress

/-- Sets aside an argument that has no place. -/
def setAside (text : String) (progress : Progress) : Progress :=
  { progress with leftover := progress.leftover ++ [text] }

/-- The request after all arguments; a missing source counts before arguments without a place. -/
def finish (progress : Progress) : Except UsageError Request :=
  match progress.source, progress.leftover with
  | none, _ => .error .missingSource
  | some source, [] => .ok (.run source progress.options)
  | some _, leftover => .error (.unrecognized leftover)

end Progress

namespace Request

/-- The value that is attached to an option, if it is one. -/
def attachedValue (text : String) : Option String :=
  if text = Argument.separatorText then none else some text

/-- The value that the letters after the short option for help would be ignored as. Further letters
of that option are the same option again; other letters have no place and are passed over. -/
def ignoredLetters? : List Char → Option String
  | 'h' :: '=' :: value => some (String.ofList value)
  | 'h' :: letters => ignoredLetters? letters
  | '-' :: letters => some (String.ofList ('-' :: letters))
  | _ => none

/-- Reads arguments in order. The first word is the source; the pair of dashes beside it goes with
it. -/
def ofArguments (progress : Progress) (arguments : List Argument) : Except UsageError Request :=
  match arguments with
  | [] => progress.finish
  | .word text :: .separator :: rest =>
    if progress.source.isNone then ofArguments { progress with source := some text } rest
    else ofArguments (progress.setAside text) (.separator :: rest)
  | .word text :: rest =>
    if progress.source.isNone then ofArguments { progress with source := some text } rest
    else ofArguments (progress.setAside text) rest
  | .separator :: .word text :: rest =>
    if progress.source.isNone then ofArguments { progress with source := some text } rest
    else ofArguments (progress.setAside Argument.separatorText) (.word text :: rest)
  | .separator :: rest => ofArguments (progress.setAside Argument.separatorText) rest
  | .unknown text :: rest => ofArguments (progress.setAside text) rest
  | .helpLetters letters :: _ =>
    match ignoredLetters? letters.toList with
    | some value => .error (.ignoredValue .help value)
    | none => .ok .help
  | .option option (some text) :: rest =>
    if option.takesValue then do
      let options ← progress.options.set option (attachedValue text)
      ofArguments { progress with options } rest
    else .error (.ignoredValue option text)
  | .option .help none :: _ => .ok .help
  | .option option none :: rest =>
    if option.takesValue then
      match rest with
      | .word text :: after => do
        let options ← progress.options.set option (some text)
        ofArguments { progress with options } after
      | _ => .error (.missingValue option)
    else ofArguments { progress with options := progress.options.switchOn option } rest

def ofTexts (command : Command) (texts : List String) : Except UsageError Request := do
  ofArguments {} (← Argument.ofTexts command texts)

end Request

end Fieldwise.CommandLine
