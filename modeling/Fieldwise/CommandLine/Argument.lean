import Fieldwise.Text.Digit
import Fieldwise.Text.Quoted

/-! # Arguments

What each argument of a command is taken for by itself. An option may be abbreviated as long as no
other option of the command begins the same way; a value may follow an option after an equals sign;
negative numbers and texts with blanks are words although they begin like options; after a pair of
dashes everything is a word. -/

namespace Fieldwise.CommandLine

inductive Command where
  | generate
  | report
  deriving DecidableEq, Repr

inductive CommandOption where
  | help
  | config
  | marker
  | strict
  | verbose
  | out
  | importFrom
  | rowCount
  | summary
  | kind
  deriving DecidableEq, Repr

namespace CommandOption

def spellings : CommandOption → List String
  | help => ["-h", "--help"]
  | config => ["--config"]
  | marker => ["--marker"]
  | strict => ["--strict"]
  | verbose => ["--verbose"]
  | out => ["--out"]
  | importFrom => ["--import-from"]
  | rowCount => ["--n"]
  | summary => ["--summary"]
  | kind => ["--kind"]

/-- All spellings of an option as messages show them. -/
def shown (option : CommandOption) : String :=
  "/".intercalate option.spellings

def takesValue : CommandOption → Bool
  | help | strict | verbose | summary => false
  | config | marker | out | importFrom | rowCount | kind => true

end CommandOption

namespace Command

def all : List Command :=
  [generate, report]

def name : Command → String
  | generate => "generate"
  | report => "report"

def ofName? (text : String) : Option Command :=
  all.find? (·.name == text)

def options : Command → List CommandOption
  | generate => [.help, .config, .marker, .strict, .verbose, .out, .importFrom]
  | report => [.help, .config, .marker, .strict, .verbose, .rowCount, .summary, .kind]

/-- The spellings of all options of a command with the options they stand for. -/
def spellings (command : Command) : List (String × CommandOption) :=
  command.options.flatMap fun option => option.spellings.map fun spelling => (spelling, option)

def option? (command : Command) (spelling : List Char) : Option CommandOption :=
  (command.spellings.find? fun entry => entry.1.toList == spelling).map (·.2)

/-- The spellings that begin with a text, with the options they stand for. -/
def abbreviated (command : Command) (text : List Char) : List (String × CommandOption) :=
  command.spellings.filter fun entry => text.isPrefixOf entry.1.toList

end Command

/-- Why a command line cannot be understood. -/
inductive UsageError where
  | ambiguous (argument : String) (spellings : List String)
  | missingValue (option : CommandOption)
  | ignoredValue (option : CommandOption) (value : String)
  | invalidValue (option : CommandOption) (expected value : String)
  | missingSource
  | unrecognized (arguments : List String)
  deriving DecidableEq, Repr

def UsageError.message : UsageError → String
  | ambiguous argument spellings =>
    "ambiguous option: " ++ argument ++ " could match " ++ ", ".intercalate spellings
  | missingValue option => "argument " ++ option.shown ++ ": expected one argument"
  | ignoredValue option value =>
    "argument " ++ option.shown ++ ": ignored explicit argument " ++ Text.quoted value
  | invalidValue option expected value =>
    "argument " ++ option.shown ++ ": invalid " ++ expected ++ " value: " ++ Text.quoted value
  | missingSource => "the following arguments are required: source"
  | unrecognized arguments => "unrecognized arguments: " ++ " ".intercalate arguments

/-- What an argument is taken for: a word, the pair of dashes after which there are only words, an
option that may have a value attached, the short option for help with letters after it, or an option
of no command. -/
inductive Argument where
  | word (text : String)
  | separator
  | option (option : CommandOption) (attached : Option String)
  | helpLetters (letters : String)
  | unknown (text : String)
  deriving DecidableEq, Repr

namespace Argument

def separatorText : String :=
  "--"

/-- Whether a text is a minus sign and a number, with or without a decimal point. One line end may
follow. -/
def isNegativeNumber (chars : List Char) : Bool :=
  match chars with
  | '-' :: rest =>
    let number := if rest.getLast? = some '\n' then rest.dropLast else rest
    let fraction := number.dropWhile Text.isDigit
    match fraction with
    | [] => !number.isEmpty
    | '.' :: digits => !digits.isEmpty && digits.all Text.isDigit
    | _ => false
  | _ => false

/-- The text before the first equals sign, and the text after it. -/
def splitValue (chars : List Char) : List Char × Option String :=
  match chars.dropWhile (· != '=') with
  | [] => (chars, none)
  | _ :: value => (chars.takeWhile (· != '='), some (String.ofList value))

/-- Takes an argument that begins with a dash and spells no option as a word if it can be one. -/
def ofUnknown (text : String) : Argument :=
  if text = "-" ∨ isNegativeNumber text.toList ∨ ' ' ∈ text.toList then word text else unknown text

/-- Takes an argument that begins with two dashes for the option that it abbreviates. -/
def ofAbbreviation (command : Command) (text : String) : Except UsageError Argument :=
  let (spelling, attached) := splitValue text.toList
  match command.abbreviated spelling with
  | [] => .ok (ofUnknown text)
  | [(_, found)] => .ok (option found attached)
  | several => .error (.ambiguous text (several.map (·.1)))

/-- What an argument is taken for as long as no pair of dashes has come. -/
def ofText (command : Command) (text : String) : Except UsageError Argument :=
  let (spelling, attached) := splitValue text.toList
  match command.option? spelling with
  | some found => .ok (option found attached)
  | none =>
    match text.toList with
    | '-' :: '-' :: _ => ofAbbreviation command text
    | '-' :: 'h' :: letters => .ok (helpLetters (String.ofList letters))
    | '-' :: _ => .ok (ofUnknown text)
    | _ => .ok (word text)

/-- What the arguments of a command are taken for. The first ambiguous one is refused. -/
def ofTexts (command : Command) : List String → Except UsageError (List Argument)
  | [] => .ok []
  | text :: rest =>
    if text = separatorText then .ok (separator :: rest.map word)
    else do
      let first ← ofText command text
      return first :: (← ofTexts command rest)

end Argument

end Fieldwise.CommandLine
