import ChartNet.Document.Reader
import ChartNet.Proofs.Outcome
import ChartNet.Xml.Printer
import Mathlib.Data.List.Nodup
import Mathlib.Data.List.TakeWhile

/-!
# Attributes that are written and read

A value is written with entities in place of the characters that have a meaning of their own, and
they are replaced again when it is read (`unescape_escape`). A quotation mark is one of them, so
that a value ends where it should; `attributesFrom_written` and `attributes_written` then follow the
attributes of a tag one by one.
-/

namespace ChartNet

namespace Xml

/-! ### Entities -/

/-- An entity is read up to its semicolon. The induction is on the rest of its name. -/
theorem unescapeFrom_name {name : List Char} (hname : ∀ c ∈ name, c ≠ '&' ∧ c ≠ ';')
    (acc cs : List Char) {e : Char} (he : entity (acc.reverse ++ name) = .ok e) :
    unescapeFrom (some acc) (name ++ ';' :: cs) = (unescapeFrom none cs).map (e :: ·) := by
  induction name generalizing acc with
  | nil =>
    rw [List.append_nil] at he
    rw [List.nil_append, unescapeFrom, if_neg (by decide), if_pos rfl, he]
    cases unescapeFrom none cs <;> rfl
  | cons c name ih =>
    obtain ⟨⟨hamp, hsemicolon⟩, hrest⟩ := List.forall_mem_cons.mp hname
    rw [List.cons_append, unescapeFrom, if_neg hamp, if_neg hsemicolon]
    exact ih hrest (c :: acc) (by simpa using he)

theorem unescapeFrom_entity {name : List Char} (hname : ∀ c ∈ name, c ≠ '&' ∧ c ≠ ';')
    {e : Char} (he : entity name = .ok e) (cs : List Char) :
    unescapeFrom none ('&' :: name ++ ';' :: cs) = (unescapeFrom none cs).map (e :: ·) := by
  rw [List.cons_append, unescapeFrom, if_pos rfl]
  exact unescapeFrom_name hname [] cs he

/-- Every character is read as it was written, whether it was written as an entity or as itself. -/
theorem unescapeFrom_escapeChar (c : Char) (cs : List Char) :
    unescapeFrom none (escapeChar c ++ cs) = (unescapeFrom none cs).map (c :: ·) := by
  unfold escapeChar
  split
  · exact @unescapeFrom_entity ['l', 't'] (by simp) _ rfl cs
  · exact @unescapeFrom_entity ['g', 't'] (by simp) _ rfl cs
  · exact @unescapeFrom_entity ['a', 'm', 'p'] (by simp) _ rfl cs
  · exact @unescapeFrom_entity ['q', 'u', 'o', 't'] (by simp) _ rfl cs
  · rename_i hamp _
    split_ifs with hquote
    · obtain rfl : c = Char.ofNat 0x27 := Char.ext (UInt32.toNat_inj.mp hquote)
      exact @unescapeFrom_entity ['a', 'p', 'o', 's'] (by simp) _ rfl cs
    · rw [List.singleton_append, unescapeFrom, if_neg (by rintro rfl; exact hamp rfl)]

/-- The same for texts, character by character. -/
theorem unescapeFrom_escape (cs : List Char) :
    unescapeFrom none (cs.flatMap escapeChar) = .ok cs := by
  induction cs with
  | nil => rfl
  | cons c cs ih =>
    rw [List.flatMap_cons, unescapeFrom_escapeChar, ih]
    rfl

/-- **Values are read as they were written.** This holds for every text, also for one that looks
like an entity: the ampersand in it is escaped itself. -/
theorem unescape_escape (s : String) : unescape (escape s) = .ok s := by
  rw [unescape, escape, unescapeFrom_escape]
  exact congrArg Except.ok (String.ofList_toList ..)

/-- A quotation mark is written as an entity, which has none in it. -/
theorem quote_not_mem_escapeChar (c : Char) : '"' ∉ escapeChar c := by
  unfold escapeChar
  split
  · decide
  · decide
  · decide
  · decide
  · rename_i hquote
    split_ifs
    · decide
    · rw [List.mem_singleton]
      exact fun h => hquote h.symm

/-- A value that is written has no quotation mark in it, so that it ends at the first one. -/
theorem quote_not_mem_escape (s : String) : '"' ∉ escape s := by
  intro h
  obtain ⟨c, -, hc⟩ := List.mem_flatMap.mp h
  exact quote_not_mem_escapeChar c hc

/-! ### One attribute -/

/-- A letter or an underscore. -/
def isNameChar (c : Char) : Bool := c.isAlpha || c = '_'

/-- The text is a name of the kind that is written for elements and attributes. -/
def IsName (name : String) : Prop := name.toList ≠ [] ∧ name.toList.all isNameChar = true

instance (name : String) : Decidable (IsName name) := inferInstanceAs (Decidable (_ ∧ _))

theorem ne_of_isNameChar {c d : Char} (hc : isNameChar c = true) (hd : isNameChar d = false) :
    c ≠ d := by
  rintro rfl
  rw [hc] at hd
  cases hd

theorem isSpace_of_isNameChar {c : Char} (h : isNameChar c = true) : isSpace c = false := by
  have hne : ∀ d, isNameChar d = false → c ≠ d := fun _ => ne_of_isNameChar h
  simp [isSpace, hne ' ' (by decide), hne '\t' (by decide), hne '\r' (by decide),
    hne '\n' (by decide)]

theorem endsKey_of_isNameChar {c : Char} (h : isNameChar c = true) : endsKey c = false := by
  rw [endsKey, isSpace_of_isNameChar h]
  simp [ne_of_isNameChar h (show isNameChar '=' = false by decide)]

/-- The value between quotation marks is read up to the second one. -/
theorem attributeValue_escape (value : String) (rest : List Char) :
    attributeValue ('"' :: escape value ++ '"' :: rest) = .ok (escape value, rest) := by
  have hvalue : ∀ c ∈ escape value, (c != '"') = true := by
    intro c hc
    rw [bne_iff_ne]
    rintro rfl
    exact quote_not_mem_escape value hc
  have htake : (escape value ++ '"' :: rest).takeWhile (· != '"') = escape value := by
    rw [List.takeWhile_append_of_pos hvalue, List.takeWhile_cons_of_neg (by simp), List.append_nil]
  have hdrop : (escape value ++ '"' :: rest).dropWhile (· != '"') = '"' :: rest := by
    rw [List.dropWhile_append_of_pos hvalue, List.dropWhile_cons_of_neg (by simp)]
  rw [attributeValue, List.cons_append, List.dropWhile_cons_of_neg (by decide)]
  simp [htake, hdrop]

/-- The next attribute is the one that was written next. Its key has not been seen before, since
keys on a tag that is written differ. -/
theorem nextAttribute_written {seen : List String} {key : String} (hkey : IsName key)
    (hseen : key ∉ seen) (value : String) (rest : List Char) :
    nextAttribute seen (attributeText (key, value) ++ rest) =
      .ok (some ⟨key, escape value, rest⟩) := by
  obtain ⟨hne, hall⟩ := hkey
  rcases hkey : key.toList with _ | ⟨c, cs⟩
  · exact absurd hkey hne
  rw [hkey, List.all_eq_true, List.forall_mem_cons] at hall
  obtain ⟨hc, hall⟩ := hall
  have hspace : isSpace c = false := isSpace_of_isNameChar hc
  have hcs : ∀ c ∈ cs, (!endsKey c) = true := by
    intro c hc
    rw [endsKey_of_isNameChar (hall c hc)]
    rfl
  have hstart : (attributeText (key, value) ++ rest).dropWhile isSpace =
      c :: (cs ++ '=' :: ('"' :: escape value ++ '"' :: rest)) := by
    simp only [attributeText, hkey, List.cons_append, List.append_assoc, List.nil_append]
    rw [List.dropWhile_cons_of_pos (by decide), List.dropWhile_cons_of_neg (by simp [hspace])]
  have htake : ∀ l, (cs ++ '=' :: l).takeWhile (!endsKey ·) = cs := by
    intro l
    rw [List.takeWhile_append_of_pos hcs, List.takeWhile_cons_of_neg (by decide), List.append_nil]
  have hdrop : ∀ l, ((cs ++ '=' :: l).dropWhile (!endsKey ·)).dropWhile isSpace = '=' :: l := by
    intro l
    rw [List.dropWhile_append_of_pos hcs, List.dropWhile_cons_of_neg (by decide),
      List.dropWhile_cons_of_neg (by decide)]
  have hname : String.ofList (c :: cs) = key := by rw [← hkey, String.ofList_toList]
  -- the blank before the key is skipped, and the key ends at the equals sign
  rw [nextAttribute, hstart]
  simp only [htake, hdrop, hname, attributeValue_escape]
  rw [if_neg (by simpa using hseen)]
  rfl

end Xml

namespace Reader

/-! ### All attributes of a tag -/

/-- The attributes are found one after the other. The induction is on those that are still to come;
the fuel is enough for one more than there are. -/
theorem attributesFrom_written {wanted : List String} {written found : List (String × String)}
    {fuel : Nat} (hfuel : written.length < fuel) (hkeys : ∀ a ∈ written, Xml.IsName a.1)
    (hnodup : ((found ++ written).map (·.1)).Nodup) (hwanted : ∀ a ∈ written, a.1 ∈ wanted) :
    attributesFrom wanted fuel found (written.flatMap Xml.attributeText) =
      .ok (found ++ written) := by
  induction written generalizing found fuel with
  | nil =>
    obtain ⟨fuel, rfl⟩ := Nat.exists_eq_succ_of_ne_zero (Nat.ne_of_gt hfuel)
    rw [List.append_nil]
    rfl
  | cons a written ih =>
    obtain ⟨key, value⟩ := a
    obtain ⟨fuel, rfl⟩ := Nat.exists_eq_succ_of_ne_zero (Nat.ne_zero_of_lt hfuel)
    obtain ⟨hkey, hkeys⟩ := List.forall_mem_cons.mp hkeys
    obtain ⟨hmem, hwanted⟩ := List.forall_mem_cons.mp hwanted
    have hnew : key ∉ found.map (·.1) := by
      rw [List.map_append, List.nodup_append] at hnodup
      exact fun h => hnodup.2.2 key h key (by simp) rfl
    rw [attributesFrom, List.flatMap_cons, Xml.nextAttribute_written hkey hnew]
    simp only [List.contains_eq_mem, hmem, decide_true, Bool.not_true, Xml.unescape_escape]
    rw [if_neg (by decide), ih (by simpa using hfuel) hkeys (by simpa using hnodup) hwanted]
    simp

/-- Every attribute is written with at least one character, so that the length of the text is fuel
enough. -/
theorem length_le_length_attributes (written : List (String × String)) :
    written.length ≤ (written.flatMap Xml.attributeText).length := by
  induction written with
  | nil => simp
  | cons a written ih =>
    rw [List.flatMap_cons, List.length_append, List.length_cons]
    simp only [Xml.attributeText, List.length_append, List.length_cons]
    omega

/-- **The attributes of a tag are read as they were written**, if the tag may have them and has all
that it needs. They come back in the order in which they were written. -/
theorem attributes_written {name : String} {required optional : List String}
    {written : List (String × String)} (hkeys : ∀ a ∈ written, Xml.IsName a.1)
    (hnodup : (written.map (·.1)).Nodup) (hwanted : ∀ a ∈ written, a.1 ∈ required ++ optional)
    (hrequired : ∀ key ∈ required, key ∈ written.map (·.1)) :
    attributes ⟨name, written.flatMap Xml.attributeText⟩ required optional = .ok written := by
  have hfound : attributesFrom (required ++ optional)
      ((written.flatMap Xml.attributeText).length + 1) [] (written.flatMap Xml.attributeText) =
        .ok written :=
    attributesFrom_written (Nat.lt_succ_of_le (length_le_length_attributes written)) hkeys
      (by simpa using hnodup) hwanted
  have hnone : (required.find? fun key => (written.lookup key).isNone) = none := by
    rw [List.find?_eq_none]
    intro key hkey
    obtain ⟨a, ha, rfl⟩ := List.mem_map.mp (hrequired key hkey)
    rw [Option.isNone_iff_eq_none, List.lookup_eq_none_iff]
    exact fun hnone => absurd (hnone a ha) (by simp)
  rw [attributes, hfound, ok_bind]
  simp only [hnone]
  rfl

end Reader

end ChartNet
