/-
Blanks, comments and line ends of a TOML text.

A line ends with a line feed, which may have a carriage return before it.  A
carriage return has no other place.  Comments hold no control characters but
tabs.
-/
namespace FieldbusNode.Toml

/-- A blank within a line. -/
def isBlank (c : Char) : Bool :=
  c == ' ' || c == '\t'

/-- A control character other than the tab. -/
def isControl (c : Char) : Bool :=
  (c.toNat < 32 && c != '\t') || c.toNat == 127

/-- The text without the blanks in front. -/
def skipBlanks (cs : List Char) : List Char :=
  cs.dropWhile isBlank

/-- The text behind a line end. -/
def newline? : List Char → Option (List Char)
  | '\n' :: cs => some cs
  | '\r' :: '\n' :: cs => some cs
  | _ => none

/-- Skips blanks, line ends and comments.  Within a comment everything is skipped to the end of the
line. -/
def skipGap (inComment : Bool) : List Char → Option (List Char)
  | [] => some []
  | '\n' :: cs => skipGap false cs
  | '\r' :: '\n' :: cs => skipGap false cs
  | c :: cs =>
    if inComment then if isControl c then none else skipGap true cs
    else if isBlank c then skipGap false cs
    else if c = '#' then skipGap true cs
    else some (c :: cs)

/-- Whether nothing but blanks and a comment stands before the end of the line. -/
def restOfLineIsEmpty (cs : List Char) : Bool :=
  match skipBlanks cs with
  | [] => true
  | '#' :: _ => true
  | rest => (newline? rest).isSome

/-- The text behind the line end, with nothing but blanks and a comment before it.  Blank lines
that follow are skipped too. -/
def endLine? (cs : List Char) : Option (List Char) :=
  if restOfLineIsEmpty cs then skipGap false cs else none

end FieldbusNode.Toml
