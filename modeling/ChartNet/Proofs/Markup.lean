import ChartNet.Proofs.Attributes
import ChartNet.Xml.Scanner

/-!
# Tags that are written and cut

A document is written as lines of tags, and cut again at the `<` and `>` of the tags.
`Written.event` is the piece that a written tag should be cut into. That this is so (`scan_print`)
needs that end tags match start tags: `Forest` is the grammar of such documents.
-/

namespace ChartNet.Xml

/-! ### One tag -/

namespace Written

/-- The piece of text that a written tag is. -/
def event : Written → Event
  | start name as => .start ⟨name, as.flatMap attributeText⟩
  | empty name as => .empty ⟨name, as.flatMap attributeText⟩
  | finish name => .finish name

/-- What stands between the angle brackets. -/
def content : Written → List Char
  | start name as => name.toList ++ as.flatMap attributeText
  | empty name as => name.toList ++ as.flatMap attributeText ++ ['/']
  | finish name => '/' :: name.toList

/-- All names are proper ones, those of the tag and those of its attributes. The values can be any
texts. -/
def Proper : Written → Prop
  | start name as | empty name as => IsName name ∧ ∀ a ∈ as, IsName a.1
  | finish name => IsName name

theorem text_eq (w : Written) : w.text = '<' :: w.content ++ ['>'] := by
  cases w <;> simp [text, content]

end Written

/-- The character is neither an angle bracket nor one that quotes. -/
def isInert (c : Char) : Bool := c ≠ '>' && c ≠ '"' && c.toNat ≠ 0x27

theorem isInert_of_isNameChar {c : Char} (h : isNameChar c = true) : isInert c = true := by
  have hne : ∀ d, isNameChar d = false → c ≠ d := fun _ => ne_of_isNameChar h
  have hquote : c.toNat ≠ 0x27 := fun hn =>
    hne (Char.ofNat 0x27) (by decide) (Char.ext (UInt32.toNat_inj.mp hn))
  simp [isInert, hne '>' (by decide), hne '"' (by decide), hquote]

/-- A name has a first character. This is the character by which a tag is told from a comment, an
instruction and an end tag. -/
theorem IsName.head {name : String} (h : IsName name) :
    ∃ c cs, name.toList = c :: cs ∧ isNameChar c = true ∧ ∀ c ∈ cs, isNameChar c = true := by
  obtain ⟨hne, hall⟩ := h
  rcases hname : name.toList with _ | ⟨c, cs⟩
  · exact absurd hname hne
  · rw [hname, List.all_eq_true, List.forall_mem_cons] at hall
    exact ⟨c, cs, rfl, hall⟩

theorem IsName.isNameChar {name : String} (h : IsName name) {c : Char} (hc : c ∈ name.toList) :
    Xml.isNameChar c = true := List.all_eq_true.mp h.2 c hc

theorem IsName.isInert {name : String} (h : IsName name) :
    ∀ c ∈ name.toList, Xml.isInert c = true :=
  fun _ hc => isInert_of_isNameChar (h.isNameChar hc)

section

variable {cs content rest rest' : List Char}

/-- Characters that neither quote nor are brackets are passed over on the way to the end of the
tag. -/
theorem tagContent_inert (h : ∀ c ∈ cs, isInert c = true)
    (hrest : tagContent none rest = some (content, rest')) :
    tagContent none (cs ++ rest) = some (cs ++ content, rest') := by
  induction cs with
  | nil => exact hrest
  | cons c cs ih =>
    obtain ⟨hc, hcs⟩ := List.forall_mem_cons.mp h
    obtain ⟨⟨hangle, hdouble⟩, hsingle⟩ : (c ≠ '>' ∧ c ≠ '"') ∧ c.toNat ≠ 0x27 := by
      simpa [isInert] using hc
    have hquote : (if c = '"' || c.toNat = 0x27 then some c else none) = none :=
      if_neg (by simp [hdouble, hsingle])
    rw [List.cons_append, tagContent, if_neg hangle]
    simp only [hquote, ih hcs]
    rfl

/-- Inside quotation marks everything is passed over, brackets included, up to the second mark. -/
theorem tagContent_quoted (h : '"' ∉ cs) (hrest : tagContent none rest = some (content, rest')) :
    tagContent (some '"') (cs ++ '"' :: rest) = some (cs ++ '"' :: content, rest') := by
  induction cs with
  | nil =>
    rw [List.nil_append, tagContent, if_pos rfl, hrest]
    rfl
  | cons c cs ih =>
    have hc : c ≠ '"' := fun heq => h (heq ▸ List.mem_cons_self ..)
    rw [List.cons_append, tagContent, if_neg hc, ih fun hmem => h (List.mem_cons_of_mem _ hmem)]
    rfl

/-- A tag does not end inside an attribute. In front of the quotation marks there are only inert
characters, and the value has no quotation mark in it. -/
theorem tagContent_attributeText {key value : String} (hkey : IsName key)
    (hrest : tagContent none rest = some (content, rest')) :
    tagContent none (attributeText (key, value) ++ rest) =
      some (attributeText (key, value) ++ content, rest') := by
  have hquoted := tagContent_quoted (quote_not_mem_escape value) hrest
  have hopen : tagContent none ('"' :: (escape value ++ '"' :: rest)) =
      some ('"' :: (escape value ++ '"' :: content), rest') := by
    rw [tagContent, if_neg (by decide)]
    simp only [hquoted, Char.reduceToNat, decide_true, Bool.true_or, if_true, Option.map_some]
  have hinert : ∀ c ∈ ' ' :: key.toList ++ ['='], isInert c = true := by
    refine List.forall_mem_append.mpr ⟨List.forall_mem_cons.mpr ⟨rfl, hkey.isInert⟩, ?_⟩
    exact List.forall_mem_singleton.mpr rfl
  simpa [attributeText] using tagContent_inert hinert hopen

/-- The same for all attributes of a tag, one after the other. -/
theorem tagContent_attributes {as : List Attribute} (hkeys : ∀ a ∈ as, IsName a.1)
    (hrest : tagContent none rest = some (content, rest')) :
    tagContent none (as.flatMap attributeText ++ rest) =
      some (as.flatMap attributeText ++ content, rest') := by
  induction as with
  | nil => exact hrest
  | cons a as ih =>
    obtain ⟨hkey, hkeys⟩ := List.forall_mem_cons.mp hkeys
    rw [List.flatMap_cons, List.append_assoc, List.append_assoc]
    exact tagContent_attributeText hkey (ih hkeys)

end

/-! ### Events -/

/-- The content of a tag that was written is found up to the bracket that was written for its
end. -/
theorem tagContent_written {w : Written} (h : w.Proper) (rest : List Char) :
    tagContent none (w.content ++ '>' :: rest) = some (w.content, rest) := by
  have hend : tagContent none ('>' :: rest) = some ([], rest) := rfl
  cases w with
  | start name as =>
    obtain ⟨hname, hkeys⟩ := h
    have hattributes := tagContent_attributes hkeys hend
    have hall := tagContent_inert hname.isInert hattributes
    simpa [Written.content] using hall
  | empty name as =>
    obtain ⟨hname, hkeys⟩ := h
    have hslash : tagContent none (['/'] ++ '>' :: rest) = some (['/'] ++ [], rest) :=
      tagContent_inert (List.forall_mem_singleton.mpr rfl) hend
    have hattributes := tagContent_attributes hkeys hslash
    have hall := tagContent_inert hname.isInert hattributes
    simpa [Written.content] using hall
  | finish name =>
    have hall := tagContent_inert h.isInert hend
    have hslash := @tagContent_inert ['/'] _ _ _ (List.forall_mem_singleton.mpr rfl) hall
    simpa [Written.content] using hslash

/-- The name of a tag ends where its attributes begin. -/
theorem ofContent_written {name : String} (hname : IsName name) (as : List Attribute) :
    Tag.ofContent (name.toList ++ as.flatMap attributeText) =
      ⟨name, as.flatMap attributeText⟩ := by
  have hname' : ∀ c ∈ name.toList, (!isSpace c) = true := by
    intro c hc
    rw [isSpace_of_isNameChar (hname.isNameChar hc)]
    rfl
  have htake : (as.flatMap attributeText).takeWhile (!isSpace ·) = [] := by
    cases as <;> rfl
  have hdrop : (as.flatMap attributeText).dropWhile (!isSpace ·) = as.flatMap attributeText := by
    cases as <;> rfl
  rw [Tag.ofContent, List.takeWhile_append_of_pos hname', List.dropWhile_append_of_pos hname',
    htake, hdrop, List.append_nil, String.ofList_toList]

/-- A tag without a slash at its end is a start tag. -/
theorem startEvent_start {name : String} (hname : IsName name) (as : List Attribute) :
    startEvent (name.toList ++ as.flatMap attributeText) =
      .start ⟨name, as.flatMap attributeText⟩ := by
  rw [startEvent]
  split
  · -- the last character belongs to the name or closes a value
    rename_i before hreverse
    have hlast := congrArg List.head? hreverse
    rw [List.head?_reverse] at hlast
    rcases List.eq_nil_or_concat as with rfl | ⟨init, a, rfl⟩
    · rw [List.flatMap_nil, List.append_nil] at hlast
      have hslash := hname.isNameChar (List.mem_of_getLast? hlast)
      exact absurd hslash (by decide)
    · obtain ⟨text, htext⟩ : ∃ text, attributeText a = text ++ ['"'] := ⟨_, rfl⟩
      rw [List.concat_eq_append, List.flatMap_append, List.flatMap_singleton, htext,
        ← List.append_assoc, ← List.append_assoc, List.getLast?_concat] at hlast
      cases hlast
  · rw [ofContent_written hname]

/-- A tag with a slash at its end is an empty one. The slash is not taken for a part of its
attributes. -/
theorem startEvent_empty {name : String} (hname : IsName name) (as : List Attribute) :
    startEvent (name.toList ++ as.flatMap attributeText ++ ['/']) =
      .empty ⟨name, as.flatMap attributeText⟩ := by
  rw [startEvent, List.reverse_append]
  simp only [List.reverse_singleton, List.singleton_append, List.reverse_reverse]
  rw [ofContent_written hname]

/-- The name of an end tag is all of its content. -/
theorem endName_written {name : String} (hname : IsName name) : endName name.toList = name := by
  have hdrop : name.toList.reverse.dropWhile isSpace = name.toList.reverse := by
    rcases hreverse : name.toList.reverse with _ | ⟨c, cs⟩
    · rfl
    · have hc : c ∈ name.toList := List.mem_reverse.mp (hreverse ▸ List.mem_cons_self ..)
      exact List.dropWhile_cons_of_neg (by simp [isSpace_of_isNameChar (hname.isNameChar hc)])
  rw [endName, hdrop, List.reverse_reverse, String.ofList_toList]

/-- What begins like a name is a start tag or an empty one, and nothing else. -/
theorem markup_of_isNameChar {c : Char} (hc : isNameChar c = true) {cs content rest : List Char}
    (h : tagContent none (c :: cs) = some (content, rest)) :
    markup (c :: cs) = .ok (startEvent content, content, rest) := by
  unfold markup
  split
  · rename_i heq
    exact absurd (List.cons.inj heq).1 (ne_of_isNameChar hc (by decide))
  · rename_i heq
    exact absurd (List.cons.inj heq).1 (ne_of_isNameChar hc (by decide))
  · rename_i heq
    exact absurd (List.cons.inj heq).1 (ne_of_isNameChar hc (by decide))
  · rw [h]

/-- **A tag is cut as it was written.** The three kinds of tags are told apart by the first
character of their content and by the last one. -/
theorem markup_written {w : Written} (h : w.Proper) (rest : List Char) :
    markup (w.content ++ '>' :: rest) = .ok (w.event, w.content, rest) := by
  have hcontent := tagContent_written h rest
  cases w with
  | start name as =>
    obtain ⟨c, cs, hname, hc, -⟩ := h.1.head
    rw [Written.event, ← startEvent_start h.1 as]
    simp only [Written.content, hname, List.cons_append] at hcontent ⊢
    exact markup_of_isNameChar hc hcontent
  | empty name as =>
    obtain ⟨c, cs, hname, hc, -⟩ := h.1.head
    rw [Written.event, ← startEvent_empty h.1 as]
    simp only [Written.content, hname, List.cons_append] at hcontent ⊢
    exact markup_of_isNameChar hc hcontent
  | finish name =>
    rw [Written.content, List.cons_append] at hcontent ⊢
    rw [markup, hcontent]
    simp only [List.drop_one, List.tail_cons, endName_written h]
    rfl

/-! ### Lines -/

/-- End tags match start tags, as in a document with the given elements open, the innermost one
first. After all the tags nothing is open. -/
def Tracked (unclosed : List String) (ws : List Written) : Prop :=
  ∃ final, (ws.map Written.event).foldlM track unclosed = .ok final

/-- A line is blank up to its tag. -/
theorem dropWhile_line (depth : Nat) (w : Written) (rest : List Char) :
    (line depth w ++ rest).dropWhile isSpace = '<' :: (w.content ++ '>' :: rest) := by
  have hblank : ∀ c ∈ '\n' :: List.replicate (4 * depth) ' ', isSpace c = true := by
    refine List.forall_mem_cons.mpr ⟨rfl, fun c hc => ?_⟩
    rw [List.eq_of_mem_replicate hc]
    rfl
  rw [line, w.text_eq, List.append_assoc, List.dropWhile_append_of_pos hblank]
  simp [isSpace]

/-- What the first piece is, and that the rest is cut after it. The fuel has to be enough for the
rest only. -/
theorem cut_piece {fuel offset : Nat} {unclosed unclosed' : List String} {event : Event}
    {cs piece content rest : List Char} (hcs : cs.dropWhile isSpace = '<' :: piece)
    (hmarkup : markup piece = .ok (event, content, rest))
    (htrack : track unclosed event = .ok unclosed') :
    ∃ offset', cut (fuel + 1) offset unclosed cs =
      ⟨(offset, event) :: (cut fuel offset' unclosed' rest).events,
        (cut fuel offset' unclosed' rest).fault?⟩ := by
  refine ⟨offset + (cs.takeWhile isSpace).length + bytes content + 2, ?_⟩
  rw [cut, hcs]
  simp only [hmarkup, htrack]

/-- The first tag stands on the first line. How far it is indented does not matter to the reading,
so the depth is not kept track of. -/
theorem exists_lines_cons (depth : Nat) (w : Written) (ws : List Written) :
    ∃ depth' depth'', lines depth (w :: ws) = line depth' w ++ lines depth'' ws := by
  cases w with
  | start name as => exact ⟨_, _, rfl⟩
  | empty name as => exact ⟨_, _, rfl⟩
  | finish name => exact ⟨_, _, rfl⟩

/-- Lines are cut into their tags. The induction is on the tags; `Tracked` goes along because an end
tag is only cut if it matches. -/
theorem cut_lines {ws : List Written} (hproper : ∀ w ∈ ws, w.Proper) {fuel : Nat}
    (hfuel : ws.length < fuel) {unclosed : List String} (htracked : Tracked unclosed ws)
    (offset depth : Nat) :
    ∃ es, cut fuel offset unclosed (lines depth ws) = ⟨es, none⟩ ∧
      es.map (·.2) = ws.map Written.event := by
  induction ws generalizing fuel unclosed offset depth with
  | nil =>
    obtain ⟨fuel, rfl⟩ := Nat.exists_eq_succ_of_ne_zero (Nat.ne_of_gt hfuel)
    exact ⟨[], rfl, rfl⟩
  | cons w ws ih =>
    obtain ⟨fuel, rfl⟩ := Nat.exists_eq_succ_of_ne_zero (Nat.ne_zero_of_lt hfuel)
    obtain ⟨hw, hws⟩ := List.forall_mem_cons.mp hproper
    obtain ⟨final, hfinal⟩ := htracked
    rw [List.map_cons, List.foldlM_cons, bind_eq_ok] at hfinal
    obtain ⟨unclosed', htrack, hfinal⟩ := hfinal
    obtain ⟨depth', depth'', hlines⟩ := exists_lines_cons depth w ws
    obtain ⟨offset', hcut⟩ := cut_piece (dropWhile_line depth' w (lines depth'' ws))
      (markup_written hw _) htrack
    obtain ⟨es, hes, hmap⟩ := ih hws (by simpa using hfuel) ⟨final, hfinal⟩ offset' depth''
    refine ⟨(offset, w.event) :: es, ?_, by rw [List.map_cons, List.map_cons, hmap]⟩
    rw [hlines, hcut, hes]

/-! ### Documents -/

/-- Elements one after the other, with elements inside. Documents are written as such lists of
tags. -/
inductive Forest : List Written → Prop
  /-- no tags -/
  | nil : Forest []
  /-- an empty tag, and a forest after it -/
  | empty {name : String} {as : List Attribute} {ws : List Written} (hname : IsName name)
      (has : ∀ a ∈ as, IsName a.1) (hws : Forest ws) : Forest (.empty name as :: ws)
  /-- a start tag, a forest as its content, the matching end tag, and a forest after it -/
  | element {name : String} {as : List Attribute} {content ws : List Written}
      (hname : IsName name) (has : ∀ a ∈ as, IsName a.1) (hcontent : Forest content)
      (hws : Forest ws) : Forest (.start name as :: (content ++ .finish name :: ws))

namespace Forest

theorem append {ws ws' : List Written} (h : Forest ws) (h' : Forest ws') : Forest (ws ++ ws') := by
  induction h with
  | nil => exact h'
  | empty hname has _ ih => exact .empty hname has ih
  | element hname has hcontent _ _ ih =>
    rw [List.cons_append, List.append_assoc, List.cons_append]
    exact .element hname has hcontent ih

theorem proper {ws : List Written} (h : Forest ws) : ∀ w ∈ ws, w.Proper := by
  induction h with
  | nil => simp
  | empty hname has _ ih => exact List.forall_mem_cons.mpr ⟨⟨hname, has⟩, ih⟩
  | element hname has _ _ ihcontent ih =>
    refine List.forall_mem_cons.mpr ⟨⟨hname, has⟩, List.forall_mem_append.mpr ⟨ihcontent, ?_⟩⟩
    exact List.forall_mem_cons.mpr ⟨hname, ih⟩

/-- After a forest the same elements are open as before it. So every end tag in it matches, whatever
elements it stands in. -/
theorem track_eq {ws : List Written} (h : Forest ws) (unclosed : List String) :
    (ws.map Written.event).foldlM track unclosed = .ok unclosed := by
  induction h generalizing unclosed with
  | nil => rfl
  | empty _ _ _ ih => exact ih unclosed
  | @element name as content ws _ _ _ _ ihcontent ih =>
    have hstart : track unclosed (Written.start name as).event = .ok (name :: unclosed) := rfl
    have hfinish : track (name :: unclosed) (Written.finish name).event = .ok unclosed := if_pos rfl
    rw [List.map_cons, List.map_append, List.map_cons, List.foldlM_cons, hstart, ok_bind,
      List.foldlM_append, ihcontent, ok_bind, List.foldlM_cons, hfinish, ok_bind, ih]

end Forest

/-- There are at least as many characters as tags, so that the length of the text is fuel enough. -/
theorem length_le_length_lines (depth : Nat) (ws : List Written) :
    ws.length ≤ (lines depth ws).length := by
  induction ws generalizing depth with
  | nil => exact Nat.zero_le _
  | cons w ws ih =>
    obtain ⟨depth', depth'', hlines⟩ := exists_lines_cons depth w ws
    have hws := ih depth''
    have hline : 0 < (line depth' w).length := List.length_pos_of_ne_nil (by simp [line])
    rw [hlines, List.length_append, List.length_cons]
    omega

/-- The first line is an instruction. -/
theorem markup_prologue (rest : List Char) :
    ∃ piece content, (prologue.toList ++ rest).dropWhile isSpace = '<' :: piece ∧
      markup piece = .ok (.other, content, rest) := by
  refine ⟨"?xml version=\"1.0\" encoding=\"UTF-8\"?>".toList ++ rest,
    "?xml version=\"1.0\" encoding=\"UTF-8\"?".toList, ?_, rfl⟩
  change ('<' :: ("?xml version=\"1.0\" encoding=\"UTF-8\"?>".toList ++ rest)).dropWhile isSpace = _
  exact List.dropWhile_cons_of_neg (by decide)

/-- **A document is cut into the tags that were written**, after its first line. The places in the
text are not told, since the reading does not depend on them. -/
theorem scan_print {ws : List Written} (h : Forest ws) :
    ∃ es, scan (print ws) = ⟨es, none⟩ ∧ es.map (·.2) = .other :: ws.map Written.event := by
  have htext : dropMark (print ws).toList = prologue.toList ++ lines 0 ws := by
    rw [print, String.toList_ofList]
    rfl
  have hlength : ws.length < (prologue.toList ++ lines 0 ws).length := by
    have hlines := length_le_length_lines 0 ws
    have hprologue : 0 < prologue.toList.length := by decide
    rw [List.length_append]
    omega
  rw [scan, htext]
  obtain ⟨piece, content, hpiece, hmarkup⟩ := markup_prologue (lines 0 ws)
  obtain ⟨offset, hcut⟩ := @cut_piece (prologue.toList ++ lines 0 ws).length 0 [] [] _ _ _ _ _
    hpiece hmarkup rfl
  obtain ⟨es, hlines, hes⟩ := cut_lines h.proper hlength ⟨[], h.track_eq []⟩ offset 0
  refine ⟨(0, .other) :: es, ?_, by rw [List.map_cons, hes]⟩
  rw [hcut, hlines]

end ChartNet.Xml
