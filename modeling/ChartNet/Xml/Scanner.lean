import ChartNet.Xml.Basic

/-!
# Cutting marked-up text

One pass from front to back. A tag runs to the first `>` outside quotes; a comment, a literal
section, an instruction and a document type each have an end of their own. End tags are checked
against the open elements, names only.

Offsets count bytes. The offset of a piece is where the piece before it ended, so blanks before a
tag belong to the tag; a byte order mark at the very start is dropped and not counted.
-/

namespace ChartNet.Xml

/-- The characters up to the first `>` at which `done` holds of what was read, and what follows it.
What was read is kept backwards. -/
def closing (done : List Char → Bool) : List Char → List Char → Option (List Char × List Char)
  | _, [] => none
  | acc, c :: cs =>
    if c = '>' && done acc then some (acc.reverse, cs) else closing done (c :: acc) cs

/-- The characters up to the first `>` outside quotes, and what follows it. -/
def tagContent : Option Char → List Char → Option (List Char × List Char)
  | _, [] => none
  | none, c :: cs =>
    if c = '>' then some ([], cs)
    else
      let quote := if c = '"' || c.toNat = 0x27 then some c else none
      (tagContent quote cs).map fun (content, rest) => (c :: content, rest)
  | some q, c :: cs =>
    (tagContent (if c = q then none else some q) cs).map fun (content, rest) => (c :: content, rest)

/-- The text starts with these letters, in any case. -/
def startsWithAnyCase (letters : List Char) (cs : List Char) : Bool :=
  letters.isPrefixOf (cs.map Char.toUpper)

/-- What was read ends with these characters, which are given backwards. -/
def endsWith (backwards : List Char) (acc : List Char) : Bool := backwards.isPrefixOf acc

/-- What begins with an exclamation mark; the text starts with it. -/
def bang (cs : List Char) : Except Fault (List Char × List Char) :=
  match cs with
  | _ :: '[' :: _ =>
    match closing (endsWith [']', ']']) [] cs with
    | some (content, rest) =>
      if "![CDATA[".toList.isPrefixOf content then .ok (content, rest) else .error .unclosedCData
    | none => .error .unclosedCData
  | _ :: '-' :: _ =>
    match closing (fun acc => 5 ≤ acc.length && endsWith ['-', '-'] acc) [] cs with
    | some (content, rest) =>
      if "!--".toList.isPrefixOf content then .ok (content, rest) else .error .unclosedComment
    | none => .error .unclosedComment
  | _ :: c :: _ =>
    if c = 'D' || c = 'd' then
      match closing (fun acc => acc.count '<' == acc.count '>') [] cs with
      | some (content, rest) =>
        if !startsWithAnyCase "!DOCTYPE".toList content then .error .unclosedDoctype
        else if (content.drop 8).all isSpace then .error .missingDoctypeName
        else .ok (content, rest)
      | none => .error .unclosedDoctype
    else .error .invalidBang
  | _ => .error .invalidBang

/-- An instruction; the text starts with its question mark. -/
def instruction (cs : List Char) : Except Fault (List Char × List Char) :=
  match closing (endsWith ['?']) [] cs with
  | some (content, rest) =>
    if 1 < content.length then .ok (content, rest) else .error .unclosedInstruction
  | none => .error .unclosedInstruction

/-- The name in a start tag runs to the first blank; the attributes are all that follows. -/
def Tag.ofContent (content : List Char) : Tag :=
  ⟨String.ofList (content.takeWhile (!isSpace ·)), content.dropWhile (!isSpace ·)⟩

/-- The event of a start tag's content: a slash at its end makes the element empty. -/
def startEvent (content : List Char) : Event :=
  match content.reverse with
  | '/' :: before => .empty (.ofContent before.reverse)
  | _ => .start (.ofContent content)

/-- The name in an end tag, after its slash; blanks after it do not count. -/
def endName (content : List Char) : String :=
  String.ofList (content.reverse.dropWhile isSpace).reverse

/-- The open elements after a piece, innermost first. -/
def track (unclosed : List String) : Event → Except Fault (List String)
  | .start tag => .ok (tag.name :: unclosed)
  | .finish name =>
    match unclosed with
    | [] => .error .unmatchedEnd
    | top :: rest => if top = name then .ok rest else .error .mismatchedEnd
  | _ => .ok unclosed

/-- The piece that begins with `<`, given the text after that; the piece's content, which ends
before its `>`, and what follows. -/
def markup (cs : List Char) : Except Fault (Event × List Char × List Char) :=
  match cs with
  | '!' :: _ => (bang cs).map fun (content, rest) => (.other, content, rest)
  | '?' :: _ => (instruction cs).map fun (content, rest) => (.other, content, rest)
  | '/' :: _ =>
    match tagContent none cs with
    | some (content, rest) => .ok (.finish (endName (content.drop 1)), content, rest)
    | none => .error .unclosedTag
  | _ =>
    match tagContent none cs with
    | some (content, rest) => .ok (startEvent content, content, rest)
    | none => .error .unclosedTag

/-- Cuts the text, which starts at the given offset, with the given elements open. The fuel is the
number of characters left. -/
def cut : Nat → Nat → List String → List Char → Pieces
  | 0, _, _, _ => ⟨[], none⟩
  | fuel + 1, offset, unclosed, cs =>
    let blanks := cs.takeWhile isSpace
    match cs.dropWhile isSpace with
    | [] => ⟨[], none⟩
    | '<' :: cs =>
      match markup cs with
      | .error f => ⟨[], some (offset, f)⟩
      | .ok (event, content, rest) =>
        match track unclosed event with
        | .error f => ⟨[], some (offset, f)⟩
        | .ok unclosed =>
          let more := cut fuel (offset + blanks.length + bytes content + 2) unclosed rest
          { more with events := (offset, event) :: more.events }
    | cs =>
      let text := cs.takeWhile (· != '<')
      let more := cut fuel (offset + blanks.length + bytes text) unclosed (cs.dropWhile (· != '<'))
      { more with events := (offset, .other) :: more.events }

/-- A byte order mark at the start is no part of the text. -/
def dropMark : List Char → List Char
  | c :: cs => if c.toNat = 0xFEFF then cs else c :: cs
  | [] => []

/-- Cuts a text. -/
def scan (text : String) : Pieces :=
  let cs := dropMark text.toList
  cut (cs.length + 1) 0 [] cs

end ChartNet.Xml
