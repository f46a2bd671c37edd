import ChartNet.Script.Escape
import ChartNet.Text.Identifier
import ChartNet.Text.Property

/-!
# Regular expression literals

A regular expression has no value here, but a malformed one makes the whole script malformed: its
groups must close, its repetitions must have something to repeat, its ranges must not be empty, what
it refers to must exist, and its flags must be known and not repeated.

The readers below take a part of a pattern off the front of a text and give what follows, or fail.
-/

namespace ChartNet.Regexp

/-- What the flags and the groups of a pattern decide about the rest of it. -/
structure Mode where
  /-- the pattern is about code points; only known escapes are allowed -/
  unicode : Bool
  /-- brackets may be nested and combined -/
  sets : Bool
  /-- the number of groups -/
  groups : Nat
  /-- the names of groups -/
  names : List String

/-! ### Characters and escapes -/

/-- A code point after `\u`. Two escapes that spell the halves of a surrogate pair are one. -/
def codePoint? (unicode : Bool) : List Char → Option (Nat × List Char)
  | '\x7b' :: cs =>
    let ds := cs.takeWhile (Numeral.isDigitOf 16)
    match cs.dropWhile (Numeral.isDigitOf 16) with
    | '\x7d' :: rest =>
      let n := Numeral.natOfDigits 16 ds
      if unicode && !ds.isEmpty && n ≤ 0x10FFFF then some (n, rest) else none
    | _ => none
  | cs =>
    let unit? (cs : List Char) : Option Nat :=
      let ds := cs.take 4
      if ds.length == 4 && ds.all (Numeral.isDigitOf 16) then some (Numeral.natOfDigits 16 ds)
      else none
    (unit? cs).map fun u =>
      match cs.drop 4 with
      | '\\' :: 'u' :: more =>
        match (unit? more).filter fun v => unicode && Escape.isHigh u && Escape.isLow v with
        | some v => (0x10000 + (u - 0xD800) * 0x400 + (v - 0xDC00), more.drop 4)
        | none => (u, cs.drop 4)
      | rest => (u, rest)

/-- The signs of the grammar, which a backslash takes their meaning from. -/
def grammarSigns : List Char := "^$\\.*+?()[]\x7b\x7d|/".toList

/-- The code point that an escape stands for, after its backslash. -/
def character? (m : Mode) : List Char → Option (Nat × List Char)
  | [] => none
  | 'c' :: cs =>
    match cs with
    | l :: rest => if l.isAlpha then some (l.toNat % 32, rest) else if m.unicode then none
      else some ('\\'.toNat, 'c' :: cs)
    | [] => if m.unicode then none else some ('\\'.toNat, ['c'])
  | 'x' :: cs =>
    let ds := cs.take 2
    if ds.length == 2 && ds.all (Numeral.isDigitOf 16) then
      some (Numeral.natOfDigits 16 ds, cs.drop 2)
    else if m.unicode then none
    else some ('x'.toNat, cs)
  | 'u' :: cs =>
    match codePoint? m.unicode cs with
    | some r => some r
    | none => if m.unicode then none else some ('u'.toNat, cs)
  | c :: cs =>
    if c = '0' && !cs.head?.any Char.isDigit then some (0, cs)
    else if c.isDigit then
      if m.unicode then none
      else if Numeral.isDigitOf 8 c then
        match Escape.octal c cs with
        | (some e, rest) => some (e.units.headD 0, rest)
        | (none, _) => none
      else some (c.toNat, cs)
    else if ['f', 'n', 'r', 't', 'v'].contains c then some (Escape.letter c, cs)
    else if grammarSigns.contains c then some (c.toNat, cs)
    else if m.unicode || (c = 'k' && !m.names.isEmpty) then none
    else some (c.toNat, cs)

/-- A property of characters in braces, after `\p`. -/
def property? (m : Mode) (negated : Bool) : List Char → Option (List Char)
  | '\x7b' :: cs =>
    match cs.dropWhile (· != '\x7d') with
    | _ :: rest =>
      if Text.Property.isValid m.sets negated (cs.takeWhile (· != '\x7d')) then some rest else none
    | [] => none
  | _ => none

/-- A class of characters that a letter stands for, after the backslash. -/
def letterClass? (m : Mode) : List Char → Option (List Char)
  | c :: cs =>
    if ['d', 'D', 's', 'S', 'w', 'W'].contains c then some cs
    else if m.unicode && (c = 'p' || c = 'P') then property? m (c = 'P') cs
    else none
  | [] => none

/-- A letter that stands for a class follows, valid or not. -/
def isLetterClass (m : Mode) : List Char → Bool
  | c :: _ =>
    ['d', 'D', 's', 'S', 'w', 'W'].contains c || (m.unicode && (c = 'p' || c = 'P'))
  | [] => false

/-! ### Groups -/

/-- The characters of a group's name up to the closing mark. The fuel is the number of characters
left. -/
def nameBody? : Nat → Bool → List Char → Option (List Char × List Char)
  | 0, _, _ => none
  | fuel + 1, first, cs =>
    let (c?, rest) : Option Nat × List Char := match cs with
      | '\\' :: 'u' :: cs =>
        match codePoint? true cs with
        | some (n, rest) => (some n, rest)
        | none => (none, [])
      | '\\' :: cs => (none, cs)
      | c :: cs => (some c.toNat, cs)
      | [] => (none, [])
    match c? with
    | some n =>
      let c := Char.ofNat n
      if c = '>' && !first then some ([], rest)
      else if if first then Text.isIdentifierStart c else Text.isIdentifierPart c then
        (nameBody? fuel false rest).map fun (w, rest) => (c :: w, rest)
      else none
    | none => none

/-- A group's name in angle brackets. -/
def groupName? : List Char → Option (String × List Char)
  | '<' :: cs => (nameBody? (cs.length + 1) true cs).map fun (w, rest) => (String.ofList w, rest)
  | _ => none

/-- Where in a pattern a character stands, for counting groups. -/
inductive Spot where
  | plain
  | bracket

/-- The number of groups of a pattern and their names. -/
def groups : Spot → List Char → Nat × List String
  | s, '\\' :: _ :: cs => groups s cs
  | .bracket, c :: cs => groups (if c = ']' then .plain else .bracket) cs
  | .plain, '[' :: cs => groups .bracket cs
  | .plain, '(' :: '?' :: cs =>
    let (n, names) := groups .plain cs
    match groupName? cs with
    | some (w, _) => (n + 1, w :: names)
    | none => (n, names)
  | .plain, '(' :: cs =>
    let (n, names) := groups .plain cs
    (n + 1, names)
  | .plain, _ :: cs => groups .plain cs
  | _, [] => (0, [])

/-- Letters that switch a flag on or off inside a group, each at most once, and what follows. -/
def switches? (cs : List Char) : Option (List Char) :=
  let isSwitch (c : Char) : Bool := ['i', 'm', 's'].contains c
  let on := cs.takeWhile isSwitch
  let (off, dash, rest) := match cs.dropWhile isSwitch with
    | '-' :: rest => (rest.takeWhile isSwitch, true, rest.dropWhile isSwitch)
    | rest => ([], false, rest)
  let all := on ++ off
  match rest with
  | ':' :: rest =>
    if all.eraseDups.length == all.length && (dash || !on.isEmpty) && !all.isEmpty then some rest
    else none
  | _ => none

/-- What follows the mark of a group, and whether the group may be repeated. -/
def groupStart? (m : Mode) : List Char → Option (Bool × List Char)
  | '?' :: '<' :: '=' :: cs | '?' :: '<' :: '!' :: cs => some (false, cs)
  | '?' :: '=' :: cs | '?' :: '!' :: cs => some (!m.unicode, cs)
  | '?' :: ':' :: cs => some (true, cs)
  | '?' :: '<' :: cs => (groupName? ('<' :: cs)).map fun (_, rest) => (true, rest)
  | '?' :: cs => (switches? cs).map fun rest => (true, rest)
  | cs => some (true, cs)

/-! ### Brackets -/

/-- One element of a bracket expression: its code point, unless it stands for a class. -/
def bracketAtom? (m : Mode) : List Char → Option (Option Nat × List Char)
  | '\\' :: cs =>
    if isLetterClass m cs then (letterClass? m cs).map fun rest => (none, rest)
    else match cs with
      | 'b' :: rest => some (some 0x08, rest)
      | '-' :: rest => some (some '-'.toNat, rest)
      | 'c' :: c :: rest =>
        if !m.unicode && (c.isDigit || c = '_') then some (some (c.toNat % 32), rest)
        else (character? m cs).map fun (n, rest) => (some n, rest)
      | _ => (character? m cs).map fun (n, rest) => (some n, rest)
  | c :: cs => some (some c.toNat, cs)
  | [] => none

/-- A bracket expression after its opening bracket. A range runs between two characters in order;
with a class at one end it is no range, and not allowed about code points. -/
def bracket? (m : Mode) : Nat → List Char → Option (List Char)
  | 0, _ => none
  | _ + 1, ']' :: cs => some cs
  | fuel + 1, cs =>
    match bracketAtom? m cs with
    | some (_, '-' :: ']' :: rest) => some rest
    | some (low?, '-' :: rest) =>
      match bracketAtom? m rest with
      | some (high?, rest) =>
        let valid := match low?, high? with
          | some low, some high => decide (low ≤ high)
          | _, _ => !m.unicode
        if valid then bracket? m fuel rest else none
      | none => none
    | some (_, rest) => bracket? m fuel rest
    | none => none

/-! ### Sets of characters -/

/-- Signs that have a meaning in a set. -/
def setSigns : List Char := "()[]\x7b\x7d/-\\|".toList

/-- Signs that are kept for later meanings when they stand twice. -/
def doubledSigns : List Char := "&!#$%*+,.:;<=>?@^~".toList ++ [Char.ofNat 0x60]

/-- Signs that a backslash may stand before in a set, besides those of the grammar. -/
def escapedSigns : List Char := "&-!#%,:;<=>@~".toList ++ [Char.ofNat 0x60]

/-- A character of a set. -/
def setCharacter? (m : Mode) : List Char → Option (Nat × List Char)
  | '\\' :: cs =>
    match cs with
    | 'b' :: rest => some (0x08, rest)
    | c :: rest => if escapedSigns.contains c then some (c.toNat, rest) else character? m cs
    | [] => none
  | c :: cs =>
    if setSigns.contains c || (cs.head? == some c && doubledSigns.contains c) then none
    else some (c.toNat, cs)
  | [] => none

/-- Texts separated by bars, up to the closing brace. -/
def texts? (m : Mode) : Nat → List Char → Option (List Char)
  | 0, _ => none
  | _ + 1, '\x7d' :: cs => some cs
  | fuel + 1, '|' :: cs => texts? m fuel cs
  | fuel + 1, cs =>
    match setCharacter? m cs with
    | some (_, rest) => texts? m fuel rest
    | none => none

/-- What is being read of a set. -/
inductive Phase where
  /-- its first operand, after which it shows how the operands combine -/
  | first
  /-- a further operand of a union -/
  | union
  /-- a further operand of an intersection -/
  | intersection
  /-- a further operand of a difference -/
  | difference
deriving DecidableEq

/-- A leading mark that turns a set or a bracket expression into its complement. -/
def dropComplement : List Char → List Char
  | '^' :: cs => cs
  | cs => cs

/-- A set after its opening bracket: operands of one kind of combination, which are sets in
brackets, classes, texts, and in a union also ranges. -/
def set? (m : Mode) : Nat → Phase → List Char → Option (List Char)
  | 0, _, _ => none
  | fuel + 1, phase, cs =>
    if (phase = .first || phase = .union) && cs.head? == some ']' then some (cs.drop 1)
    else
      let operand? : Option (Option Nat × List Char) := match cs with
        | '[' :: inner => (set? m fuel .first (dropComplement inner)).map fun rest => (none, rest)
        | '\\' :: 'q' :: '\x7b' :: inner =>
          (texts? m (inner.length + 1) inner).map fun rest => (none, rest)
        | '\\' :: inner =>
          if isLetterClass m inner then (letterClass? m inner).map fun rest => (none, rest)
          else (setCharacter? m cs).map fun (n, rest) => (some n, rest)
        | _ => (setCharacter? m cs).map fun (n, rest) => (some n, rest)
      match phase, operand? with
      | _, none => none
      | .intersection, some (_, rest) =>
        match rest with
        | ']' :: rest => some rest
        | '&' :: '&' :: rest =>
          if rest.head? == some '&' then none else set? m fuel .intersection rest
        | _ => none
      | .difference, some (_, rest) =>
        match rest with
        | ']' :: rest => some rest
        | '-' :: '-' :: rest => set? m fuel .difference rest
        | _ => none
      | _, some (low?, rest) =>
        match low?, rest with
        | _, '&' :: '&' :: rest =>
          if phase = .first && rest.head? != some '&' then set? m fuel .intersection rest else none
        | _, '-' :: '-' :: rest => if phase = .first then set? m fuel .difference rest else none
        | some low, '-' :: rest =>
          match setCharacter? m rest with
          | some (high, rest) => if low ≤ high then set? m fuel .union rest else none
          | none => none
        | _, rest => set? m fuel .union rest

/-- A bracket expression or a set, after its opening bracket. -/
def brackets? (m : Mode) (cs : List Char) : Option (List Char) :=
  if m.sets then set? m (cs.length + 1) .first (dropComplement cs)
  else bracket? m (cs.length + 1) (dropComplement cs)

/-! ### Patterns -/

/-- The largest bound of a repetition; larger ones count as this one. -/
def largestBound : Nat := Nat.pow 2 64 - 1

/-- The bounds of a counted repetition after its opening brace, if it is one. -/
def bounds? (cs : List Char) : Option (Nat × Nat × List Char) :=
  let bound (ds : List Char) : Nat := Nat.min (Decimal.natOf ds) largestBound
  let (low, cs) := Decimal.takeDigits cs
  if low.isEmpty then none
  else match cs with
    | '\x7d' :: rest => some (bound low, bound low, rest)
    | ',' :: cs =>
      match Decimal.takeDigits cs with
      | ([], '\x7d' :: rest) => some (bound low, largestBound, rest)
      | (high, '\x7d' :: rest) => some (bound low, bound high, rest)
      | _ => none
    | _ => none

/-- A lazy mark after a repetition is a part of it. -/
def dropLazy : List Char → List Char
  | '?' :: cs => cs
  | cs => cs

/-- What an escape outside brackets stands for, after its backslash. -/
def escape? (m : Mode) (cs : List Char) : Option (List Char) :=
  let plain := (character? m cs).map (·.2)
  if isLetterClass m cs then letterClass? m cs
  else match cs with
    | 'k' :: rest =>
      if m.unicode || !m.names.isEmpty then
        match groupName? rest with
        | some (w, rest) => if m.names.contains w then some rest else none
        | none => none
      else some rest
    | c :: _ =>
      let (ds, rest) := Decimal.takeDigits cs
      if c.isDigit && c != '0' && Decimal.natOf ds ≤ m.groups then some rest else plain
    | [] => none

/-- The pattern is well formed. The list says of each open group whether it may be repeated, and
`repeatable` says that a repetition may stand here. The fuel is the number of characters left. -/
def patternValid (m : Mode) : Nat → List Bool → Bool → List Char → Bool
  | 0, _, _, _ => false
  | _ + 1, opened, _, [] => opened.isEmpty
  | fuel + 1, opened, repeatable, c :: cs =>
    let onward (repeatable : Bool) (rest? : Option (List Char)) : Bool :=
      rest?.any (patternValid m fuel opened repeatable ·)
    match c with
    | '\\' =>
      match cs with
      | 'b' :: rest | 'B' :: rest => onward false (some rest)
      | _ => onward true (escape? m cs)
    | '[' => onward true (brackets? m cs)
    | '(' =>
      match groupStart? m cs with
      | some (again, rest) => patternValid m fuel (again :: opened) false rest
      | none => false
    | ')' =>
      match opened with
      | again :: opened => patternValid m fuel opened again cs
      | [] => false
    | '|' | '^' | '$' => onward false (some cs)
    | '*' | '+' | '?' => repeatable && onward false (some (dropLazy cs))
    | '\x7b' =>
      match bounds? cs with
      | some (low, high, rest) =>
        repeatable && decide (low ≤ high) && onward false (some (dropLazy rest))
      | none => !m.unicode && onward true (some cs)
    | '\x7d' | ']' => !m.unicode && onward true (some cs)
    | _ => onward true (some cs)

/-! ### Literals -/

/-- The pattern up to the closing slash, which does not count inside brackets, and what follows. -/
def body? : Bool → List Char → Option (List Char) × List Char
  | _, [] => (none, [])
  | inBrackets, '\\' :: c :: cs =>
    if Escape.isLineEnd c then (none, cs)
    else
      let (p?, rest) := body? inBrackets cs
      (p?.map fun p => '\\' :: c :: p, rest)
  | inBrackets, c :: cs =>
    if Escape.isLineEnd c then (none, cs)
    else if c = '/' && !inBrackets then (some [], cs)
    else
      let (p?, rest) := body? (if c = '[' then true else if c = ']' then false else inBrackets) cs
      (p?.map (c :: ·), rest)

/-- The flags are known, none is repeated, and the two Unicode modes exclude each other. -/
def flagsValid (flags : List Char) : Bool :=
  flags.all (['d', 'g', 'i', 'm', 's', 'u', 'v', 'y'].contains ·)
    && flags.eraseDups.length == flags.length
    && !(flags.contains 'u' && flags.contains 'v')

/-- The pattern is well formed under these flags. No two groups have the same name. -/
def isValid (flags pattern : List Char) : Bool :=
  let (n, names) := groups .plain pattern
  let m : Mode := ⟨flags.contains 'u' || flags.contains 'v', flags.contains 'v', n, names⟩
  names.eraseDups.length == names.length
    && patternValid m (pattern.length + 1) [] false pattern

/-- Reads a regular expression after its opening slash. -/
def scan (cs : List Char) : Cut :=
  match body? false cs with
  | (some pattern, rest) =>
    let flags := rest.takeWhile Char.isAlpha
    (if flagsValid flags && isValid flags pattern then some .regexp else none,
      rest.drop flags.length)
  | (none, rest) => (none, rest)

end ChartNet.Regexp
