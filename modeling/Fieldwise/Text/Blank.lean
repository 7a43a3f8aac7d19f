/-! # Blank characters

Space, the line and paragraph separators and the information separators of Unicode count as blank.
`strip` removes them from both ends of a text; a text that is empty afterwards is blank. -/

namespace Fieldwise.Text

/-- The blank characters beyond the ASCII ones. -/
def wideBlanks : List Char :=
  ['\x85', '\xa0', '\u1680', '\u2000', '\u2001', '\u2002', '\u2003', '\u2004', '\u2005', '\u2006',
    '\u2007', '\u2008', '\u2009', '\u200a', '\u2028', '\u2029', '\u202f', '\u205f', '\u3000']

/-- The information separators U+001C to U+001F. -/
def isSeparator (char : Char) : Bool :=
  '\x1c' ≤ char && char ≤ '\x1f'

/-- Horizontal and vertical space, line ends and information separators. -/
def isBlank (char : Char) : Bool :=
  char == ' ' || ('\t' ≤ char && char ≤ '\r') || isSeparator char || wideBlanks.contains char

def trimStart (chars : List Char) : List Char :=
  chars.dropWhile isBlank

def trimEnd (chars : List Char) : List Char :=
  (chars.reverse.dropWhile isBlank).reverse

/-- Drops blanks at both ends of a list of characters. -/
def stripChars (chars : List Char) : List Char :=
  trimEnd (trimStart chars)

def strip (text : String) : String :=
  String.ofList (stripChars text.toList)

def isBlankText (text : String) : Bool :=
  text.toList.all isBlank

end Fieldwise.Text
