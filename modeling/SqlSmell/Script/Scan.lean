import SqlSmell.Statement

/- Reading a script character by character. The reader knows whether it stands in code, in a quoted
   segment or in a comment; each character yields the events that build statements: a character
   that is kept, or a cut between two statements. A `-` or `/` in code and a `*` in a block comment
   are held back until the next character decides what they are. -/
namespace SqlSmell.Script

/-- Where the reader of a script stands. -/
inductive Mode
  | code
  /-- In code, behind a `-` that a second one would turn into a line comment. -/
  | dash
  /-- In code, behind a `/` that a `*` would turn into a block comment. -/
  | slash
  /-- In a quoted segment that the given mark closes. -/
  | quoted (mark : Char)
  | lineComment
  | blockComment
  /-- In a block comment, behind a `*` that a `/` would turn into its end. -/
  | blockStar
deriving DecidableEq, Inhabited

/-- What reading a character does to the statement in progress. -/
inductive Event
  | keep (c : Char)
  | cut
deriving DecidableEq

/-- Reads a character in code. The delimiter comes first, whatever character it is. -/
def readCode (delimiter c : Char) : Mode × List Event :=
  if c == delimiter then (.code, [.cut])
  else if c == '-' then (.dash, [])
  else if c == '/' then (.slash, [])
  else if isQuote c then (.quoted c, [.keep c])
  else (.code, [.keep c])

/-- Reads a character behind one that was held back and turned out to be plain code. -/
def readBehind (held delimiter c : Char) : Mode × List Event :=
  let (mode, events) := readCode delimiter c
  (mode, .keep held :: events)

/-- Reads one character. A line comment leaves its newline and a block comment one space. -/
def Mode.read (delimiter : Char) : Mode → Char → Mode × List Event
  | .code, c => readCode delimiter c
  | .dash, c => if c == '-' then (.lineComment, []) else readBehind '-' delimiter c
  | .slash, c => if c == '*' then (.blockComment, []) else readBehind '/' delimiter c
  | .quoted mark, c => (if c == mark then .code else .quoted mark, [.keep c])
  | .lineComment, c => if c == '\n' then (.code, [.keep c]) else (.lineComment, [])
  | .blockComment, c => (if c == '*' then .blockStar else .blockComment, [])
  | .blockStar, c =>
    if c == '/' then (.code, [.keep ' '])
    else (if c == '*' then .blockStar else .blockComment, [])

/-- What the end of the script releases. -/
def Mode.leftover : Mode → List Event
  | .dash => [.keep '-']
  | .slash => [.keep '/']
  | _ => []

end SqlSmell.Script
