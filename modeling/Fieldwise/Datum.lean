import Fieldwise.Number.Shortest
import Fieldwise.Number.Whole
import Fieldwise.Text.Quoted

/-! # Data

The values that a document can hold: JSON, YAML and TOML documents are read into one type. Mappings
keep the order in which their keys were first given, and a key that is given again takes the later
value. `Datum.show` is the text by which messages refer to a value. -/

namespace Fieldwise

structure Day where
  year : Nat
  month : Nat
  day : Nat
  deriving DecidableEq, Repr

structure Clock where
  hour : Nat
  minute : Nat
  second : Nat
  microsecond : Nat
  deriving DecidableEq, Repr

/-- How a time is placed on the earth: nowhere, in UTC, or at a distance of seconds from it. -/
inductive Zone where
  | none
  | utc
  | offset (seconds : Int)
  deriving DecidableEq, Repr

structure Moment where
  date : Day
  time : Clock
  zone : Zone
  deriving DecidableEq, Repr

inductive Datum where
  | null
  | flag (value : Bool)
  | whole (value : Int)
  | real (value : Binary64)
  | text (value : String)
  | bytes (value : List UInt8)
  | day (value : Day)
  | clock (value : Clock)
  | moment (value : Moment)
  | list (items : List Datum)
  | tuple (items : List Datum)
  | set (items : List Datum)
  | mapping (entries : List (Datum × Datum))
  deriving Repr, Inhabited

namespace Datum

mutual

/-- Whether two values are built alike. Other than keys, `1` and `1.0` are not. -/
def isEqual : Datum → Datum → Bool
  | null, null => true
  | flag first, flag second => first == second
  | whole first, whole second => first == second
  | real first, real second => first == second
  | text first, text second => first == second
  | bytes first, bytes second => first == second
  | day first, day second => first == second
  | clock first, clock second => first == second
  | moment first, moment second => first == second
  | list first, list second => allEqual first second
  | tuple first, tuple second => allEqual first second
  | set first, set second => allEqual first second
  | mapping first, mapping second => entriesEqual first second
  | _, _ => false

def allEqual : List Datum → List Datum → Bool
  | [], [] => true
  | first :: firsts, second :: seconds => isEqual first second && allEqual firsts seconds
  | _, _ => false

def entriesEqual : List (Datum × Datum) → List (Datum × Datum) → Bool
  | [], [] => true
  | (key, value) :: entries, (key', value') :: others =>
    isEqual key key' && isEqual value value' && entriesEqual entries others
  | _, _ => false

end

mutual

theorem isEqual_iff : (first second : Datum) → (isEqual first second = true ↔ first = second)
  | null, second => by cases second <;> simp [isEqual]
  | flag _, second => by cases second <;> simp [isEqual]
  | whole _, second => by cases second <;> simp [isEqual]
  | real _, second => by cases second <;> simp [isEqual]
  | text _, second => by cases second <;> simp [isEqual]
  | bytes _, second => by cases second <;> simp [isEqual]
  | day _, second => by cases second <;> simp [isEqual]
  | clock _, second => by cases second <;> simp [isEqual]
  | moment _, second => by cases second <;> simp [isEqual]
  | list items, second => by cases second <;> simp [isEqual, allEqual_iff items]
  | tuple items, second => by cases second <;> simp [isEqual, allEqual_iff items]
  | set items, second => by cases second <;> simp [isEqual, allEqual_iff items]
  | mapping entries, second => by cases second <;> simp [isEqual, entriesEqual_iff entries]

theorem allEqual_iff : (firsts seconds : List Datum) →
    (allEqual firsts seconds = true ↔ firsts = seconds)
  | [], seconds => by cases seconds <;> simp [allEqual]
  | first :: firsts, seconds => by
    cases seconds <;> simp [allEqual, isEqual_iff first, allEqual_iff firsts]

theorem entriesEqual_iff : (entries others : List (Datum × Datum)) →
    (entriesEqual entries others = true ↔ entries = others)
  | [], others => by cases others <;> simp [entriesEqual]
  | (key, value) :: entries, others => by
    cases others <;>
      simp [entriesEqual, isEqual_iff key, isEqual_iff value, entriesEqual_iff entries,
        Prod.ext_iff]

end

instance : DecidableEq Datum := fun first second =>
  decidable_of_iff (isEqual first second = true) (isEqual_iff first second)

/-- The number that a key stands for, if it is a finite one: `1`, `1.0` and `true` are one key. -/
def keyNumber? : Datum → Option Int
  | flag value => some (if value then 1 else 0)
  | whole value => some value
  | real value => value.whole?
  | _ => none

mutual

/-- Whether two values are the same key of a mapping. -/
def sameKey : Datum → Datum → Bool
  | null, null => true
  | text first, text second => first == second
  | bytes first, bytes second => first == second
  | day first, day second => first == second
  | clock first, clock second => first == second
  | moment first, moment second => first == second
  | tuple first, tuple second => sameKeys first second
  | real first, real second =>
    (first == second && first != .nan) || (first.isZero && second.isZero)
  | first, second =>
    match keyNumber? first, keyNumber? second with
    | some number, some number' => number == number'
    | _, _ => false

/-- Whether two lists hold the same keys one by one. -/
def sameKeys : List Datum → List Datum → Bool
  | [], [] => true
  | first :: firsts, second :: seconds => sameKey first second && sameKeys firsts seconds
  | _, _ => false

end

/-- Sets the value of a key; a key that is present keeps its place and its first spelling. -/
def put (key value : Datum) : List (Datum × Datum) → List (Datum × Datum)
  | [] => [(key, value)]
  | entry :: rest =>
    if sameKey entry.1 key then (entry.1, value) :: rest else entry :: put key value rest

/-- A mapping from entries in the order in which they are given. -/
def ofEntries (entries : List (Datum × Datum)) : List (Datum × Datum) :=
  entries.foldl (fun done entry => put entry.1 entry.2 done) []

/-- The value of a text key among entries. -/
def lookup? (key : String) : List (Datum × Datum) → Option Datum
  | [] => none
  | (text name, value) :: rest => if name = key then some value else lookup? key rest
  | _ :: rest => lookup? key rest

/-- The value under a text key; nothing but a mapping has any. -/
def get? (datum : Datum) (key : String) : Option Datum :=
  match datum with
  | mapping entries => lookup? key entries
  | _ => none

def text? : Datum → Option String
  | text value => some value
  | _ => none

def list? : Datum → Option (List Datum)
  | list items => some items
  | _ => none

/-- A microsecond is shown after the second only where it is not zero, the second only where one of
the two is not. -/
def showClock (clock : Clock) : List String :=
  [toString clock.hour, toString clock.minute] ++
    (if clock.second = 0 ∧ clock.microsecond = 0 then [] else [toString clock.second]) ++
    (if clock.microsecond = 0 then [] else [toString clock.microsecond])

/-- A distance in seconds as whole days and the seconds beyond them. -/
def showDistance (seconds : Int) : String :=
  let days := seconds / 86400
  let rest := seconds % 86400
  let parts := (if days = 0 then [] else ["days=" ++ toString days]) ++
    (if rest = 0 then [] else ["seconds=" ++ toString rest])
  "datetime.timedelta(" ++ (if parts.isEmpty then "0" else ", ".intercalate parts) ++ ")"

/-- The last argument of a moment that is placed in a zone. -/
def showZone : Zone → List String
  | .none => []
  | .utc => ["tzinfo=datetime.timezone.utc"]
  | .offset seconds =>
    [if seconds = 0 then "tzinfo=datetime.timezone.utc"
      else "tzinfo=datetime.timezone(" ++ showDistance seconds ++ ")"]

/-- A day as three arguments. -/
def showDay (day : Day) : List String :=
  [toString day.year, toString day.month, toString day.day]

mutual

/-- The text by which messages refer to a value. -/
def «show» : Datum → String
  | null => "None"
  | flag value => if value then "True" else "False"
  | whole value => toString value
  | real value => value.text true
  | text value => Text.quoted value
  | bytes value => Text.quotedBytes value
  | day value => "datetime.date(" ++ ", ".intercalate (showDay value) ++ ")"
  | clock value => "datetime.time(" ++ ", ".intercalate (showClock value) ++ ")"
  | moment value =>
    "datetime.datetime(" ++
      ", ".intercalate (showDay value.date ++ showClock value.time ++ showZone value.zone) ++ ")"
  | list items => "[" ++ ", ".intercalate (showAll items) ++ "]"
  | tuple [item] => "(" ++ «show» item ++ ",)"
  | tuple items => "(" ++ ", ".intercalate (showAll items) ++ ")"
  | set [] => "set()"
  | set items => "\x7b" ++ ", ".intercalate (showAll items) ++ "\x7d"
  | mapping entries => "\x7b" ++ ", ".intercalate (showEntries entries) ++ "\x7d"

def showAll : List Datum → List String
  | [] => []
  | item :: rest => «show» item :: showAll rest

def showEntries : List (Datum × Datum) → List String
  | [] => []
  | (key, value) :: rest => («show» key ++ ": " ++ «show» value) :: showEntries rest

end

mutual

/-- Whether messages can refer to a value: no whole number in it is too long to be written. -/
def isShowable : Datum → Bool
  | whole value => decide (value.natAbs < powerOfTen mostDigits)
  | list items => allShowable items
  | tuple items => allShowable items
  | set items => allShowable items
  | mapping entries => entriesShowable entries
  | _ => true

def allShowable : List Datum → Bool
  | [] => true
  | item :: rest => isShowable item && allShowable rest

def entriesShowable : List (Datum × Datum) → Bool
  | [] => true
  | (key, value) :: rest => isShowable key && isShowable value && entriesShowable rest

end

end Datum

end Fieldwise
