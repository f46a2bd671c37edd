import ChartNet.Proofs.Numerals
import ChartNet.Text.Blank

/-!
# Blanks that separate

A list of events is written with a space between one event and the next, and read by cutting the
text along blanks. Events that are no empty texts and have no blank in them come back
(`words_intercalate`), and cutting gives no others (`hasBlank_of_mem_words`).
-/

namespace ChartNet

namespace Text

theorem hasBlank_eq_false {s : String} :
    hasBlank s = false ↔ ∀ c ∈ s.toList, isBlank c = false := by
  simp [hasBlank]

theorem hasBlank_append (s s' : String) : hasBlank (s ++ s') = (hasBlank s || hasBlank s') := by
  rw [hasBlank, String.toList_append, List.any_append]
  rfl

/-! ### Words -/

/-- Characters that are no blanks go to the word under construction. -/
theorem foldr_wordStep {w : List Char} (h : ∀ c ∈ w, isBlank c = false) (ws : List (List Char)) :
    w.foldr wordStep ([], ws) = (w, ws) := by
  induction w with
  | nil => rfl
  | cons c w ih =>
    obtain ⟨hc, hw⟩ := List.forall_mem_cons.mp h
    rw [List.foldr_cons, ih hw, wordStep, if_neg (by simp [hc])]

theorem closeWord_of_ne_nil {w : List Char} (h : w ≠ []) (ws : List (List Char)) :
    closeWord (w, ws) = w :: ws := by
  cases w with
  | nil => exact absurd rfl h
  | cons c w => rfl

/-- Words with a space between them are found again, as characters. The induction is on the words:
each space closes the word behind it. -/
theorem wordsOf_intercalate {ws : List (List Char)} (hne : ∀ w ∈ ws, w ≠ [])
    (hblank : ∀ w ∈ ws, ∀ c ∈ w, isBlank c = false) : wordsOf ([' '].intercalate ws) = ws := by
  induction ws with
  | nil => rfl
  | cons w ws ih =>
    obtain ⟨hw, hws⟩ := List.forall_mem_cons.mp hne
    obtain ⟨hw', hws'⟩ := List.forall_mem_cons.mp hblank
    cases ws with
    | nil => rw [List.intercalate_singleton, wordsOf, foldr_wordStep hw', closeWord_of_ne_nil hw]
    | cons w' ws =>
      -- the fold comes from the end: at the space the later words are cut already
      have hstep : wordStep ' ' (([' '].intercalate (w' :: ws)).foldr wordStep ([], [])) =
          ([], w' :: ws) := by
        rw [wordStep, if_pos (by decide), ← wordsOf, ih hws hws']
      rw [List.intercalate_cons_cons, wordsOf, List.append_assoc, List.foldr_append,
        List.singleton_append, List.foldr_cons, hstep, foldr_wordStep hw', closeWord_of_ne_nil hw]

/-- Words with a space between them are found again. -/
theorem words_intercalate {names : List String} (hne : ∀ n ∈ names, n ≠ "")
    (hblank : ∀ n ∈ names, hasBlank n = false) : words (" ".intercalate names) = names := by
  have hwords : wordsOf ([' '].intercalate (names.map String.toList)) =
      names.map String.toList := by
    refine wordsOf_intercalate ?_ ?_
    · refine List.forall_mem_map.mpr fun n hn hnil => hne n hn ?_
      exact String.toList_eq_nil_iff.mp hnil
    · exact List.forall_mem_map.mpr fun n hn => hasBlank_eq_false.mp (hblank n hn)
  rw [words, String.toList_intercalate]
  change (wordsOf ([' '].intercalate (names.map String.toList))).map String.ofList = names
  rw [hwords, List.map_map]
  simp

theorem mem_closeWord {w : List Char} {acc : List Char × List (List Char)}
    (h : w ∈ closeWord acc) : w ∈ acc.1 :: acc.2 := by
  obtain ⟨current, ws⟩ := acc
  cases current with
  | nil => exact List.mem_cons_of_mem _ h
  | cons c cs => exact h

/-- Neither the finished words nor the one under construction get a blank. -/
theorem blank_of_wordStep {c : Char} {acc : List Char × List (List Char)}
    (h : ∀ w ∈ acc.1 :: acc.2, ∀ d ∈ w, isBlank d = false) :
    ∀ w ∈ (wordStep c acc).1 :: (wordStep c acc).2, ∀ d ∈ w, isBlank d = false := by
  rw [wordStep]
  split
  · refine List.forall_mem_cons.mpr ⟨by simp, fun w hw => h w (mem_closeWord hw)⟩
  · rename_i hc
    obtain ⟨hopen, hclosed⟩ := List.forall_mem_cons.mp h
    refine List.forall_mem_cons.mpr ⟨List.forall_mem_cons.mpr ⟨?_, hopen⟩, hclosed⟩
    exact Bool.eq_false_iff.mpr hc

/-- No word of a sequence of characters has a blank in it. -/
theorem blank_of_mem_wordsOf {cs w : List Char} (h : w ∈ wordsOf cs) :
    ∀ d ∈ w, isBlank d = false := by
  have hall : ∀ w ∈ (cs.foldr wordStep ([], [])).1 :: (cs.foldr wordStep ([], [])).2,
      ∀ d ∈ w, isBlank d = false := by
    clear h
    induction cs with
    | nil => simp
    | cons c cs ih => exact blank_of_wordStep ih
  exact hall w (mem_closeWord h)

/-- No word has a blank in it. -/
theorem hasBlank_of_mem_words {s w : String} (h : w ∈ words s) : hasBlank w = false := by
  obtain ⟨cs, hcs, rfl⟩ := List.mem_map.mp h
  rw [hasBlank_eq_false, String.toList_ofList]
  exact blank_of_mem_wordsOf hcs

/-! ### Ends -/

theorem dropWhile_isBlank {cs : List Char} (h : ∀ c ∈ cs, isBlank c = false) :
    cs.dropWhile isBlank = cs := by
  cases cs with
  | nil => rfl
  | cons c cs => exact List.dropWhile_cons_of_neg (by simp [h c (List.mem_cons_self ..)])

/-- Trimming leaves a text without blanks as it is. -/
theorem trim_of_hasBlank {s : String} (h : hasBlank s = false) : trim s = s := by
  have hchars := hasBlank_eq_false.mp h
  have hreverse : ∀ c ∈ s.toList.reverse, isBlank c = false := fun c hc =>
    hchars c (List.mem_reverse.mp hc)
  rw [trim, trimChars, dropWhile_isBlank hchars, dropWhile_isBlank hreverse, List.reverse_reverse,
    String.ofList_toList]

end Text

/-! ### Numbers -/

namespace Decimal

theorem isBlank_of_isDigit {c : Char} (h : c.isDigit = true) : Text.isBlank c = false := by
  have hrange : 48 ≤ c.toNat ∧ c.toNat ≤ 57 := by
    simpa [Char.isDigit, Char.le_def, UInt32.le_iff_toNat_le] using h
  simp only [Text.isBlank, Bool.or_eq_false_iff, Bool.and_eq_false_imp, decide_eq_true_eq,
    decide_eq_false_iff_not, beq_eq_false_iff_ne]
  omega

/-- A number in positional notation has digits, a sign and a point, and none of these is a blank. -/
theorem Scaled.isBlank_of_mem_positional {d : Scaled} {c : Char} (h : c ∈ d.positional) :
    Text.isBlank c = false := by
  have hdigits : ∀ c ∈ digitsOf d.digits, Text.isBlank c = false := fun c hc =>
    isBlank_of_isDigit (isDigit_of_mem_digitsOf hc)
  have hzeros : ∀ k, ∀ c ∈ zeros k, Text.isBlank c = false := fun k c hc =>
    isBlank_of_isDigit (isDigit_of_mem_zeros hc)
  have hzero : Text.isBlank '0' = false := by decide
  have hpoint : Text.isBlank '.' = false := by decide
  rw [Scaled.positional] at h
  dsimp only at h
  split at h
  · rcases List.mem_append.mp h with h | h
    · exact hdigits c h
    · exact hzeros _ c h
  · split at h
    · rcases List.mem_append.mp h with h | h
      · exact hdigits c (List.mem_of_mem_take h)
      · rcases List.mem_cons.mp h with rfl | h
        · exact hpoint
        · exact hdigits c (List.mem_of_mem_drop h)
    · rcases List.mem_append.mp h with h | h
      · rcases List.mem_cons.mp h with rfl | h
        · exact hzero
        · rcases List.mem_cons.mp h with rfl | h
          · exact hpoint
          · exact hzeros _ c h
      · exact hdigits c h

/-- A number is written without blanks, also if it is written as a word. -/
theorem hasBlank_positional (x : Float) : Text.hasBlank (positional x) = false := by
  rw [positional]
  split
  · decide
  · split <;> decide
  · rename_i negative m q hbinary
    rw [Text.hasBlank_eq_false, String.toList_ofList]
    have hbody : ∀ c ∈ (if m == 0 then ['0']
        else (shortest .up m q x.abs.toBits).positional), Text.isBlank c = false := by
      split
      · exact List.forall_mem_singleton.mpr rfl
      · exact fun c hc => Scaled.isBlank_of_mem_positional hc
    split
    · exact List.forall_mem_cons.mpr ⟨by decide, hbody⟩
    · exact hbody

end Decimal

end ChartNet
