/-!
# What has been written

Text is written with the indentation of the inclusion that it stands in. The indentation comes behind every line end
that more text follows, so it is written late: a line end at the very end of a text leaves it pending, and the next text
begins with it. Truth values that a tag gives are written as they are.
-/

namespace GatewayRegistrar.Template

/-- What has been written: the text, whether the indentation of its last line is pending, whether the text that came
last has ended a line, and whether any text has come since the part that is being filled in began. -/
structure Output where
  text : String := ""
  pending : Bool := false
  lineEnded : Bool := false
  produced : Bool := false
deriving DecidableEq, Repr

/-- Puts the indentation behind every line end but the last character. -/
def indentLines (indentation : List Char) : List Char → List Char
  | [] => []
  | [c] => [c]
  | c :: rest => c :: (if c = '\n' then indentation else []) ++ indentLines indentation rest

/-- A character that a line ends with. -/
def isLineMark (c : Char) : Bool := c == '\n' || c == '\r'

namespace Output

/-- Writes a text with the given indentation. -/
def write (indentation s : String) (o : Output) : Output :=
  if s.isEmpty then o
  else
    let start := if o.pending && !s.toList.head?.any isLineMark then indentation else ""
    let lines := if indentation.isEmpty then s else String.ofList (indentLines indentation.toList s.toList)
    let ended := s.toList.getLast?.any isLineMark
    { text := o.text ++ start ++ lines, pending := ended, lineEnded := ended, produced := true }

/-- Writes a text as it is. -/
def append (s : String) (o : Output) : Output := { o with text := o.text ++ s }

/-- The output where a part begins: `pending` says whether its first text is indented. -/
def beginning (pending : Bool) (o : Output) : Output := { o with pending, produced := false }

/-- The output behind a part, for the output before it. A part that has given no text leaves everything as it was. -/
def behind (before after : Output) : Output :=
  if after.produced then { after with pending := after.lineEnded }
  else { after with pending := before.pending, produced := before.produced }

@[simp] theorem write_empty (indentation : String) (o : Output) : o.write indentation "" = o := by
  simp [write]

end Output

end GatewayRegistrar.Template
