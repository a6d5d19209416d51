import Ratchet.Text.Cut

namespace Ratchet

/-!
# Shell words

A text is made one word of a command by putting it between single quotes; a
single quote inside is written as a word end, the quote between double
quotes, and a new beginning.  A text of safe characters stays as it is.
-/

namespace Word

/-- The characters that mean nothing to the shell. -/
def isSafe (c : Char) : Bool :=
  c.isAlphanum || ['_', '@', '%', '+', '=', ':', ',', '.', '/', '-'].contains c

/-- A quote inside a quoted word. -/
def innerQuote : List Char := ['\'', '"', '\'', '"', '\'']

/-- A text as one word. -/
def quote (cs : List Char) : List Char :=
  if cs.isEmpty then ['\'', '\'']
  else if cs.all isSafe then cs
  else '\'' :: (cs.flatMap fun c => if c = '\'' then innerQuote else [c]) ++ ['\'']

end Word

namespace Text

/-- The text as one word of a command. -/
def asWord (s : String) : String :=
  String.ofList (Word.quote s.toList)

end Text

end Ratchet
