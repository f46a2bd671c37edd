import ChartNet.Script.Regexp

/-!
# Cutting a script

`next` skips blanks and comments and cuts off one lexeme. A slash begins a regular expression where
the grammar expects an operand, and an operator elsewhere; the caller says which.

Most operators could be the start of a longer one, so the lexer looks at what follows them; an
operator of this kind at the very end of a script is malformed.
-/

namespace ChartNet.Lexer

/-- Blanks between lexemes that do not end a line. -/
def isSpace (c : Char) : Bool :=
  let n := c.toNat
  n == 0x20 || n == 0x09 || n == 0x0B || n == 0x0C || n == 0xA0 || n == 0xFEFF || n == 0x1680
    || (0x2000 ≤ n && n ≤ 0x200A) || n == 0x202F || n == 0x205F || n == 0x3000

/-- What a gap between lexemes ends with. -/
inductive Gap where
  /-- a lexeme, or the end of the script -/
  | lexeme
  /-- the end of a line -/
  | lineEnd
  /-- a comment that does not close -/
  | unclosed

/-- Skips blanks and comments up to the end of a line or the next lexeme. -/
def skip : List Char → Gap × List Char
  | '/' :: '/' :: cs => skipLine cs
  | '/' :: '*' :: cs => skipBlock false cs
  | c :: cs =>
    if Escape.isLineEnd c then (.lineEnd, cs)
    else if isSpace c then skip cs
    else (.lexeme, c :: cs)
  | [] => (.lexeme, [])
where
  /-- Skips the rest of a comment that ends with its line. -/
  skipLine : List Char → Gap × List Char
    | c :: cs => if Escape.isLineEnd c then (.lineEnd, cs) else skipLine cs
    | [] => (.lexeme, [])
  /-- Skips the rest of a comment that has to close; one with several lines ends a line. -/
  skipBlock : Bool → List Char → Gap × List Char
    | newline, '*' :: '/' :: cs => if newline then (.lineEnd, cs) else skip cs
    | newline, c :: cs => skipBlock (newline || Escape.isLineEnd c) cs
    | _, [] => (.unclosed, [])

/-- Operators, brackets and separators, each after those that it begins. -/
def signs : List String :=
  [">>>=",
    "...", "===", "!==", "**=", "<<=", ">>=", ">>>", "&&=", "||=", "??=",
    "=>", "==", "!=", "<=", ">=", "&&", "||", "??", "?.", "++", "--", "+=", "-=", "*=", "/=",
    "%=", "&=", "|=", "^=", "<<", ">>", "**",
    "\x7b", "\x7d", "(", ")", "[", "]", ".", ";", ",", "<", ">", "+", "-", "*", "/", "%", "&",
    "|", "^", "!", "~", "?", ":", "="]

/-- Signs that must not end a script, since what follows decides whether they are complete. -/
def openSigns : List String :=
  ["<", ">", "+", "-", "*", "/", "%", "&", "|", "^", "!", "=", "<<", ">>", ">>>", "**", "&&", "||",
    "??"]

/-- The longest sign at the start of the text; of an unknown character only what follows it. The
mark of an optional member is not followed by a digit, for then it is a question mark and a number;
two points are no sign. -/
def sign (cs : List Char) : Cut :=
  let fits (s : String) : Bool :=
    s.toList.isPrefixOf cs && !(s == "?." && (cs.drop 2).head?.any Char.isDigit)
  match signs.find? fits with
  | some s =>
    let rest := cs.drop s.length
    if s == "." && rest.head? == some '.' then (none, rest.drop 1)
    else if rest.isEmpty && openSigns.contains s then (none, [])
    else (some (.sign s), rest)
  | none => (none, cs.drop 1)

/-- The characters of a word, each of which may be spelled by its code, and whether one is. The fuel
is the number of characters left. -/
def wordBody : Nat → Bool → List Char → Option (List Char × Bool) × List Char
  | 0, _, cs => (none, cs)
  | fuel + 1, first, '\\' :: 'u' :: cs =>
    match Escape.code? cs with
    | (some n, rest) =>
      let c := Char.ofNat n
      if c.toNat == n && (if first then Text.isIdentifierStart c else Text.isIdentifierPart c) then
        let (body?, rest) := wordBody fuel false rest
        (body?.map fun (w, _) => (c :: w, true), rest)
      else (none, rest)
    | (none, rest) => (none, rest)
  | fuel + 1, first, c :: cs =>
    if if first then Text.isIdentifierStart c else Text.isIdentifierPart c then
      let (body?, rest) := wordBody fuel false cs
      (body?.map fun (w, escaped) => (c :: w, escaped), rest)
    else if first then (none, cs)
    else (some ([], false), c :: cs)
  | _ + 1, first, [] => (if first then none else some ([], false), [])

/-- Reads a word. -/
def word (cs : List Char) : Option (String × Bool) × List Char :=
  let (body?, rest) := wordBody (cs.length + 1) true cs
  (body?.map fun (w, escaped) => (String.ofList w, escaped), rest)

/-- Cuts off the lexeme at the start of the text. -/
def token (operand strict : Bool) (cs : List Char) : Cut :=
  match cs with
  | [] => (some .done, [])
  | '"' :: cs => Escape.string strict '"' cs
  | '\'' :: cs => Escape.string strict '\'' cs
  | '#' :: cs =>
    let (w?, rest) := word cs
    (w?.map fun (w, _) => .privateName w, rest)
  | '.' :: d :: _ => if d.isDigit then Numeral.scan strict cs else sign cs
  | c :: rest =>
    if c.isDigit then Numeral.scan strict cs
    else if Escape.isBacktick c then Escape.template rest
    else if c = '/' && operand && !rest.isEmpty then Regexp.scan rest
    else if Text.isIdentifierStart c || (c = '\\' && rest.head? == some 'u') then
      let (w?, rest) := word cs
      (w?.map fun (w, escaped) => .word w escaped, rest)
    else sign cs

/-- Cuts off the next lexeme; `operand` says that the grammar expects an operand here, and `again`
that a line has just ended, so that further line ends mean nothing. The fuel is the number of
characters left. -/
def nextFrom (again operand strict : Bool) : Nat → List Char → Cut
  | 0, cs => (none, cs)
  | fuel + 1, cs =>
    match skip cs with
    | (.lexeme, rest) => token operand strict rest
    | (.lineEnd, rest) =>
      if again then nextFrom again operand strict fuel rest else (some .lineEnd, rest)
    | (.unclosed, rest) => (none, rest)

/-- Cuts off the next lexeme. -/
def next (again operand strict : Bool) (cs : List Char) : Cut :=
  nextFrom again operand strict (cs.length + 1) cs

end ChartNet.Lexer
