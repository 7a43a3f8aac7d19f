import Fieldwise.Text.Quoted

/-! # Lower-snake names

Lower-snake names are words of lower-case ASCII letters and digits, joined by single underscores.
`lowerSnake` turns any name into that form: a word ends where a capital begins a new one and at
every character that is no ASCII letter or digit. -/

namespace Fieldwise.Naming

/-- A lower-case ASCII letter. -/
def isLower (char : Char) : Bool :=
  'a' ≤ char && char ≤ 'z'

def isUpper (char : Char) : Bool :=
  'A' ≤ char && char ≤ 'Z'

def isDigit (char : Char) : Bool :=
  '0' ≤ char && char ≤ '9'

/-- The characters of lower-snake words. -/
def isWordChar (char : Char) : Bool :=
  isLower char || isDigit char

/-- The characters that a name keeps. -/
def isKept (char : Char) : Bool :=
  isWordChar char || isUpper char

/-- Words joined by single underscores; `inWord` tells whether a word character stands just
before. -/
def isWords (inWord : Bool) : List Char → Bool
  | [] => inWord
  | '_' :: rest => inWord && isWords false rest
  | char :: rest => isWordChar char && isWords true rest

/-- Whether a text is lower-snake. One line feed at its end is not looked at. -/
def isLowerSnake (text : String) : Bool :=
  let chars := text.toList
  isWords false (if chars.getLast? = some '\n' then chars.dropLast else chars)

/-- Whether a new word begins between two adjacent characters: at a capital after a lower-case
letter or a digit, and at a capital after a capital if a lower-case letter follows. -/
def isBoundary (left right : Char) (next : Option Char) : Bool :=
  isUpper right && (isWordChar left || (isUpper left && (next.map isLower).getD false))

/-- Sets an underscore at every boundary. -/
def spaced : List Char → List Char
  | left :: right :: rest =>
    if isBoundary left right rest.head? then left :: '_' :: spaced (right :: rest)
    else left :: spaced (right :: rest)
  | chars => chars

/-- Replaces every run of characters that are not kept by one underscore; `inGap` tells whether such
a run is being passed. -/
def joined (inGap : Bool) : List Char → List Char
  | [] => []
  | char :: rest =>
    if isKept char then char :: joined false rest
    else if inGap then joined true rest
    else '_' :: joined true rest

def trimmed (chars : List Char) : List Char :=
  ((chars.dropWhile (· == '_')).reverse.dropWhile (· == '_')).reverse

/-- The lower-snake form of a name. -/
def lowerSnake (name : String) : String :=
  String.ofList ((trimmed (joined false (spaced name.toList))).map Char.toLower)

end Fieldwise.Naming
