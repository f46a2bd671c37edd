/-!
# Lexemes of scripts

What a script is cut into. Which lexeme a slash or a closing brace begins depends on what the
grammar expects at that place, so a script is cut while it is read and not in advance.

A malformed lexeme does not end the cutting: what was cut off is lost, and the reader may go on
after it. So `Cut` gives what follows in either case.
-/

namespace ChartNet

/-- What a numeric literal stands for. -/
inductive Numeral where
  /-- a whole number of 32 bits -/
  | integer (n : Int64)
  /-- any other number -/
  | number (x : Float)
  /-- a whole number of unbounded size -/
  | big

/-- The lexemes of a script. -/
inductive Token where
  /-- an identifier or a word of the language; `escaped` if some character is spelled by its code -/
  | word (text : String) (escaped : Bool)
  /-- the name of a private member, without its mark -/
  | privateName (text : String)
  /-- operators, brackets and separators -/
  | sign (text : String)
  /-- a numeric literal -/
  | numeral (n : Numeral)
  /-- a string literal as UTF-16 units, and its source text; `legacy` if it has an octal escape -/
  | string (units : List Nat) (source : List Char) (legacy : Bool)
  /-- a piece of a template; `valid` if its escapes are, `last` if a substitution does not follow -/
  | template (valid last : Bool)
  /-- a regular expression -/
  | regexp
  /-- the end of a line -/
  | lineEnd
  /-- the end of the script -/
  | done

/-- The lexeme is this sign. -/
def Token.isSign (s : String) : Token → Bool
  | .sign t => s == t
  | _ => false

/-- The lexeme is this word, with all its letters written out. -/
def Token.isWord (w : String) : Token → Bool
  | .word t false => w == t
  | _ => false

/-- The lexeme is the end of a line. -/
def Token.isLineEnd : Token → Bool
  | .lineEnd => true
  | _ => false

/-- The lexeme is the end of the script. -/
def Token.isDone : Token → Bool
  | .done => true
  | _ => false

/-- A lexeme cut off a text, unless it is malformed, and the text behind it. -/
abbrev Cut := Option Token × List Char

end ChartNet
