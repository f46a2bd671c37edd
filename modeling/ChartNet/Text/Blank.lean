/-!
# Blanks

What counts as blank in names, guards and event lists: the `White_Space` property of Unicode, and
nothing else (a zero-width space is not blank, nor is a byte order mark).

* `isBlank`: the property itself.
* `trim`, `words`: the two ways in which text is cut along blanks.
* `pieces`: text cut along one separating character, which keeps empty pieces.
-/

namespace ChartNet.Text

/-- The code points with the property `White_Space`. -/
def isBlank (c : Char) : Bool :=
  let n := c.toNat
  (0x09 ≤ n && n ≤ 0x0D) || n == 0x20 || n == 0x85 || n == 0xA0 || n == 0x1680
    || (0x2000 ≤ n && n ≤ 0x200A) || n == 0x2028 || n == 0x2029 || n == 0x202F
    || n == 0x205F || n == 0x3000

/-- Some character of the text is blank. -/
def hasBlank (s : String) : Bool := s.toList.any isBlank

/-- Every character of the text is blank; the empty text is blank too. -/
def allBlank (s : String) : Bool := s.toList.all isBlank

/-- Drops the blanks at both ends. -/
def trimChars (cs : List Char) : List Char :=
  ((cs.dropWhile isBlank).reverse.dropWhile isBlank).reverse

/-- Drops the blanks at both ends. -/
def trim (s : String) : String := String.ofList (trimChars s.toList)

/-- Puts the word under construction in front of the finished ones, unless it is empty. -/
def closeWord : List Char × List (List Char) → List (List Char)
  | ([], ws) => ws
  | (w, ws) => w :: ws

/-- One step of `wordsOf`, from the right: a blank closes the word, any other character joins it. -/
def wordStep (c : Char) (acc : List Char × List (List Char)) : List Char × List (List Char) :=
  if isBlank c then ([], closeWord acc) else (c :: acc.1, acc.2)

/-- The maximal runs of characters that are not blank, in order. -/
def wordsOf (cs : List Char) : List (List Char) := closeWord (cs.foldr wordStep ([], []))

/-- The maximal runs of characters that are not blank, in order. -/
def words (s : String) : List String := (wordsOf s.toList).map String.ofList

/-- Cuts at every `sep`; a text with `n` separators has `n + 1` pieces, which may be empty. -/
def pieces (sep : Char) : List Char → List (List Char)
  | [] => [[]]
  | c :: cs =>
    if c = sep then [] :: pieces sep cs
    else match pieces sep cs with
      | [] => [[c]]
      | w :: ws => (c :: w) :: ws

theorem pieces_ne_nil (sep : Char) (cs : List Char) : pieces sep cs ≠ [] := by
  cases cs with
  | nil => simp [pieces]
  | cons c cs =>
    rw [pieces]
    split
    · simp
    · split <;> simp

theorem pieces_of_not_mem {sep : Char} {cs : List Char} (h : sep ∉ cs) : pieces sep cs = [cs] := by
  induction cs with
  | nil => rfl
  | cons c cs ih =>
    obtain ⟨hc, hcs⟩ := not_or.mp (mt List.mem_cons.mpr h)
    rw [pieces, if_neg (Ne.symm hc), ih hcs]

/-- A separator ends one piece and begins another. -/
theorem pieces_append (sep : Char) (cs ds : List Char) :
    pieces sep (cs ++ sep :: ds) = pieces sep cs ++ pieces sep ds := by
  induction cs with
  | nil => simp [pieces]
  | cons c cs ih =>
    rw [List.cons_append, pieces, pieces, ih]
    split
    · rfl
    · rcases hpieces : pieces sep cs with _ | ⟨w, ws⟩
      · exact absurd hpieces (pieces_ne_nil sep cs)
      · rfl

end ChartNet.Text
