import ChartNet.Document.Writer
import ChartNet.Proofs.Markup
import ChartNet.Proofs.Nesting
import ChartNet.Proofs.Recompiling
import ChartNet.Proofs.Resolution

/-!
# Communication constructs in documents

The elements of communication constructs are those whose names begin with `ros_`. Whether a document
has one can be seen by looking for `<ros_` in its text: angle brackets do not occur in values, where
they are written as entities, so that the text is found only where a tag begins
(`infix_lines`).

`Marks` says that there are such tags among those that are written for some part of a chart exactly
if the part communicates. A choice without branches is not written, and what it does otherwise is
lost; so communication leaves a trace only in parts that pass their check, while the converse holds
of all parts.
-/

namespace ChartNet

/-! ### Finding a tag in a text -/

/-- The second text occurs in the first one. -/
def Text.Contains (text part : String) : Prop :=
  ∃ before after : String, text = before ++ part ++ after

namespace Xml

/-- A bracket in a value is written as an entity. -/
theorem angle_not_mem_escapeChar (c : Char) : '<' ∉ escapeChar c := by
  unfold escapeChar
  split
  · decide
  · decide
  · decide
  · decide
  · rename_i hangle _ _ _
    split_ifs
    · decide
    · rw [List.mem_singleton]
      exact fun h => hangle h.symm

theorem IsName.angle_not_mem {name : String} (h : IsName name) : '<' ∉ name.toList :=
  fun hmem => absurd (h.isNameChar hmem) (by decide)

/-- An attribute has no bracket in it that opens a tag, whatever its value is. -/
theorem angle_not_mem_attributeText {a : Attribute} (hkey : IsName a.1) :
    '<' ∉ attributeText a := by
  have hvalue : '<' ∉ escape a.2 := by
    intro h
    obtain ⟨c, -, hc⟩ := List.mem_flatMap.mp h
    exact angle_not_mem_escapeChar c hc
  simp [attributeText, hkey.angle_not_mem, hvalue]

/-- Between the angle brackets of a tag there is no other one that opens. So the brackets in a
document are those of its tags. -/
theorem angle_not_mem_content {w : Written} (h : w.Proper) : '<' ∉ w.content := by
  have hattributes : ∀ as : List Attribute, (∀ a ∈ as, IsName a.1) →
      '<' ∉ as.flatMap attributeText := by
    intro as hkeys hmem
    obtain ⟨a, ha, hmem⟩ := List.mem_flatMap.mp hmem
    exact angle_not_mem_attributeText (hkeys a ha) hmem
  cases w with
  | start name as =>
    rw [Written.content, List.mem_append, not_or]
    exact ⟨h.1.angle_not_mem, hattributes _ h.2⟩
  | empty name as =>
    rw [Written.content, List.mem_append, List.mem_append, not_or, not_or]
    exact ⟨⟨h.1.angle_not_mem, hattributes _ h.2⟩, by decide⟩
  | finish name =>
    rw [Written.content, List.mem_cons, not_or]
    exact ⟨by decide, IsName.angle_not_mem h⟩

section

variable {q s t : List Char}

/-- What begins with a bracket is not found before the first one. -/
theorem infix_append_of_not_mem (h : '<' ∉ s) : '<' :: q <:+: s ++ t ↔ '<' :: q <:+: t := by
  induction s with
  | nil => rfl
  | cons c s ih =>
    obtain ⟨hc, hs⟩ := not_or.mp (mt List.mem_cons.mpr h)
    rw [List.cons_append, List.infix_cons_iff, List.cons_prefix_cons, ih hs, or_iff_right]
    exact fun hprefix => hc hprefix.1

/-- What has no closing bracket in it ends before the first one. -/
theorem prefix_append_of_not_mem (h : '>' ∉ q) : q <+: s ++ '>' :: t ↔ q <+: s := by
  induction s generalizing q with
  | nil =>
    cases q with
    | nil => simp
    | cons c q => simp [List.cons_prefix_cons, Ne.symm (List.ne_of_not_mem_cons h)]
  | cons d s ih =>
    cases q with
    | nil => simp
    | cons c q =>
      rw [List.cons_append, List.cons_prefix_cons, List.cons_prefix_cons,
        ih (List.not_mem_of_not_mem_cons h)]

/-- The beginning of a tag is found in lines of tags only as the beginning of one of them. The
induction is on the tags, each with the blanks before it. -/
theorem infix_lines (hq : '>' ∉ q) {ws : List Written} (hproper : ∀ w ∈ ws, w.Proper)
    (depth : Nat) : '<' :: q <:+: lines depth ws ↔ ∃ w ∈ ws, q <+: w.content := by
  induction ws generalizing depth with
  | nil => simp [lines]
  | cons w ws ih =>
    obtain ⟨hw, hws⟩ := List.forall_mem_cons.mp hproper
    obtain ⟨depth', depth'', hlines⟩ := exists_lines_cons depth w ws
    have hblank : '<' ∉ '\n' :: List.replicate (4 * depth') ' ' := by simp
    have hclose : '<' :: q <:+: '>' :: lines depth'' ws ↔ '<' :: q <:+: lines depth'' ws :=
      @infix_append_of_not_mem q ['>'] _ (by decide)
    have hline : lines depth (w :: ws) = ('\n' :: List.replicate (4 * depth') ' ') ++
        '<' :: (w.content ++ '>' :: lines depth'' ws) := by
      rw [hlines, line, w.text_eq]
      simp
    rw [hline, infix_append_of_not_mem hblank, List.infix_cons_iff, List.cons_prefix_cons,
      prefix_append_of_not_mem hq, infix_append_of_not_mem (angle_not_mem_content hw), hclose,
      ih hws]
    simp

end

/-- The tag opens the element of a communication construct. -/
def Written.Mentions (w : Written) : Prop := ['r', 'o', 's', '_'] <+: w.content

/-- **A document mentions communication constructs in its tags only.** Values that contain the text
of a tag do not count, because of their brackets. -/
theorem print_mentions {ws : List Written} (hproper : ∀ w ∈ ws, w.Proper) :
    Text.Contains (print ws) "<ros_" ↔ ∃ w ∈ ws, w.Mentions := by
  have htext : Text.Contains (print ws) "<ros_" ↔
      ['<', 'r', 'o', 's', '_'] <:+: prologue.toList ++ lines 0 ws := by
    rw [print]
    refine ⟨?_, ?_⟩
    · rintro ⟨before, after, h⟩
      refine ⟨before.toList, after.toList, ?_⟩
      have hlist := congrArg String.toList h
      rw [String.toList_ofList] at hlist
      rw [hlist]
      simp
    · rintro ⟨before, after, h⟩
      refine ⟨String.ofList before, String.ofList after, ?_⟩
      apply String.toList_inj.mp
      simp [← h]
  -- the first line begins with a bracket of its own, which a question mark follows
  have hprologue : ['<', 'r', 'o', 's', '_'] <:+: prologue.toList ++ lines 0 ws ↔
      ['<', 'r', 'o', 's', '_'] <:+: lines 0 ws := by
    have hfirst : prologue.toList = '<' :: "?xml version=\"1.0\" encoding=\"UTF-8\"?>".toList := rfl
    have hrest : '<' ∉ "?xml version=\"1.0\" encoding=\"UTF-8\"?>".toList := by decide
    rw [hfirst, List.cons_append, List.infix_cons_iff, infix_append_of_not_mem hrest, or_iff_right]
    exact fun h => absurd (List.cons_prefix_cons.mp (List.cons_prefix_cons.mp h).2).1 (by decide)
  rw [htext, hprologue]
  exact infix_lines (by decide) hproper 0

end Xml

open Xml (Attribute Written IsName)

/-! ### Names of elements -/

/-- The name is that of a communication construct. -/
def isConstruct (name : String) : Bool := ['r', 'o', 's', '_'].isPrefixOf name.toList

/-- The name is that of an element; one that does not begin with `ros_` does not begin with `r`. So
the first character tells, even where the name is cut off or followed by something else. -/
def IsTag (name : String) : Prop :=
  IsName name ∧ (isConstruct name = true ∨ name.toList.head? ≠ some 'r')

instance (name : String) : Decidable (IsTag name) := inferInstanceAs (Decidable (_ ∧ _))

/-- For the names that are written it is enough to look at their first four characters, even if
other text follows. -/
theorem IsTag.prefix_iff {name : String} (h : IsTag name) (cs : List Char) :
    ['r', 'o', 's', '_'] <+: name.toList ++ cs ↔ isConstruct name = true := by
  obtain ⟨hname, hclear⟩ := h
  rw [isConstruct, List.isPrefixOf_iff_prefix]
  refine ⟨fun hprefix => ?_, fun hprefix => hprefix.trans (List.prefix_append ..)⟩
  rcases hclear with hconstruct | hhead
  · exact List.isPrefixOf_iff_prefix.mp hconstruct
  · obtain ⟨c, cs', hcons, -⟩ := hname.head
    rw [hcons, List.cons_append, List.cons_prefix_cons] at hprefix
    rw [hcons, ← hprefix.1] at hhead
    exact absurd rfl hhead

theorem isName_of_keys {as : List Attribute} (keys : List String) (hkeys : as.map (·.1) = keys)
    (hnames : ∀ key ∈ keys, IsName key) : ∀ a ∈ as, IsName a.1 :=
  fun _ ha => hnames _ (hkeys ▸ List.mem_map_of_mem ha)

/-! ### Tags of communication constructs -/

/-- The tags are those of a part of a chart that communicates if `P` holds. That it does can be seen
from the tags of a part that is `checked`. The two directions go together through all the parts of a
chart, and only the second one needs the check. -/
structure Marks (checked : Prop) (ws : List Written) (P : Prop) : Prop where
  /-- all tags can be written -/
  proper : ∀ w ∈ ws, w.Proper
  /-- where a tag is that of a communication construct, the property holds -/
  sound : (∃ w ∈ ws, w.Mentions) → P
  /-- where the property holds of something that was checked, there is such a tag -/
  complete : checked → P → ∃ w ∈ ws, w.Mentions

namespace Marks

variable {checked P P' : Prop} {ws ws' : List Written} {name : String} {as : List Attribute}

theorem congr (h : Marks checked ws P) (hiff : P ↔ P') : Marks checked ws P' := by
  rwa [← hiff]

theorem nil : Marks checked [] False := ⟨nofun, nofun, nofun⟩

/-- Of tags that follow each other, some of the one or of the other part mention a construct. -/
theorem append (h : Marks checked ws P) (h' : Marks checked ws' P') :
    Marks checked (ws ++ ws') (P ∨ P') where
  proper := List.forall_mem_append.mpr ⟨h.proper, h'.proper⟩
  sound := by
    rintro ⟨w, hw, hmentions⟩
    rcases List.mem_append.mp hw with hw | hw
    · exact .inl (h.sound ⟨w, hw, hmentions⟩)
    · exact .inr (h'.sound ⟨w, hw, hmentions⟩)
  complete := by
    rintro hchecked (hP | hP)
    · obtain ⟨w, hw, hmentions⟩ := h.complete hchecked hP
      exact ⟨w, List.mem_append_left _ hw, hmentions⟩
    · obtain ⟨w, hw, hmentions⟩ := h'.complete hchecked hP
      exact ⟨w, List.mem_append_right _ hw, hmentions⟩

theorem single (w : Written) (h : w.Proper) : Marks checked [w] w.Mentions where
  proper := List.forall_mem_singleton.mpr h
  sound := by
    rintro ⟨w', hw', hmentions⟩
    rwa [List.mem_singleton.mp hw'] at hmentions
  complete _ hmentions := ⟨w, List.mem_singleton_self w, hmentions⟩

/-- Of items that are written one after the other, some item mentions a construct. -/
theorem flatMap {α : Type} {f : α → List Written} {P : α → Prop} {xs : List α}
    (h : ∀ x ∈ xs, Marks checked (f x) (P x)) : Marks checked (xs.flatMap f) (∃ x ∈ xs, P x) := by
  induction xs with
  | nil => exact nil.congr (by simp)
  | cons x xs ih =>
    obtain ⟨hx, hxs⟩ := List.forall_mem_cons.mp h
    rw [List.flatMap_cons]
    exact (hx.append (ih hxs)).congr (by simp)

theorem map {α : Type} {f : α → Written} {P : α → Prop} {xs : List α}
    (h : ∀ x ∈ xs, Marks checked [f x] (P x)) : Marks checked (xs.map f) (∃ x ∈ xs, P x) := by
  rw [List.map_eq_flatMap]
  exact flatMap h

/-- An element with nothing in it. -/
theorem empty (hname : IsTag name) (hkeys : ∀ a ∈ as, IsName a.1) :
    Marks checked [.empty name as] (isConstruct name = true) := by
  refine (single (.empty name as) ⟨hname.1, hkeys⟩).congr ?_
  rw [Written.Mentions, Written.content, List.append_assoc, hname.prefix_iff]

/-- An element with its content. -/
theorem spanned (hname : IsTag name) (hkeys : ∀ a ∈ as, IsName a.1) (h : Marks checked ws P) :
    Marks checked (.start name as :: ws ++ [.finish name]) (isConstruct name = true ∨ P) := by
  have hstart : Marks checked [.start name as] (isConstruct name = true) :=
    (single (.start name as) ⟨hname.1, hkeys⟩).congr (hname.prefix_iff _)
  have hfinish : Marks checked [.finish name] False := by
    refine (single (.finish name) hname.1).congr (iff_false_intro fun hmentions => ?_)
    exact absurd (List.cons_prefix_cons.mp hmentions).1 (by decide)
  exact ((hstart.append h).append hfinish).congr (by rw [or_false])

/-- An element mentions a construct by its own name or in its content, in whichever way it is
written. -/
theorem element (hname : IsTag name) (hkeys : ∀ a ∈ as, IsName a.1) (h : Marks checked ws P) :
    Marks checked (ChartNet.element name as ws) (isConstruct name = true ∨ P) := by
  cases ws with
  | nil => exact (empty hname hkeys).append h
  | cons w ws => exact spanned hname hkeys h

end Marks

/-! ### What is written of actions -/

/-- Some of the actions sends through a resource. The list is that of the leaves of a block, so that
choices are looked into. -/
def Emitting (ls : List Action) : Prop := ∃ l ∈ ls, l.use? ≠ none

theorem emitting_append {ls ls' : List Action} :
    Emitting (ls ++ ls') ↔ Emitting ls ∨ Emitting ls' := by
  simp only [Emitting, List.mem_append, or_and_right, exists_or]

theorem Block.communicates_iff {b : Block} :
    Block.communicates b = true ↔ Emitting (Block.leaves b) := by
  rw [communicates, Bool.not_eq_true', ← Bool.not_eq_true, List.isEmpty_iff, uses,
    List.filterMap_eq_nil_iff]
  simp only [Emitting, not_forall, exists_prop]

section

variable {checked : Prop}

/-- Parameters and fields are no constructs, although those of an emission stand inside one. -/
theorem marks_params {tag : String} (htag : IsTag tag) (hplain : isConstruct tag = false)
    (ps : List Param) : Marks checked (ps.map (Param.written tag)) False := by
  have hparam : ∀ p ∈ ps, Marks checked [Param.written tag p] (isConstruct tag = true) :=
    fun p _ => .empty htag (isName_of_keys ["name", "expr"] rfl (by decide))
  exact (Marks.map hparam).congr (by simp [hplain])

/-- The mark before the last block of a choice is no construct, and it is only written if the block
is not empty. -/
theorem marks_otherwise {b : List Action} {P : Prop} (h : Marks checked (Block.written b) P) :
    Marks checked (if b.isEmpty then [] else .empty "else" [] :: Block.written b) P := by
  cases b with
  | nil => exact h
  | cons a as =>
    have helse : Marks checked [.empty "else" []] (isConstruct "else" = true) :=
      .empty (by decide) nofun
    exact (helse.append h).congr (or_iff_right (by decide))

mutual

/-- What is written of an action mentions a construct exactly if the action, or one inside it, sends
through a resource. The three statements follow the recursion by which actions are written. That
actions are proper is needed in one direction only: a choice without branches is not written at all,
so that what its last block sends would go unmentioned. -/
theorem Action.marks : ∀ a : Action, (checked → a.AllProper) →
    Marks checked (Action.written a) (Emitting a.leaves)
  | .assign location expr, _ => by
    rw [Action.written]
    refine (Marks.empty (by decide) ?_).congr (iff_of_false (by decide) ?_)
    · exact isName_of_keys ["location", "expr"] rfl (by decide)
    · simp [Emitting, Action.leaves, Action.use?]
  | .send event params, _ => by
    rw [Action.written]
    have hparams : Marks checked (params.map (Param.written "param")) False :=
      marks_params (by decide) (by decide) params
    refine (hparams.element (by decide) ?_).congr (iff_of_false (by decide) ?_)
    · exact isName_of_keys ["event"] rfl (by decide)
    · simp [Emitting, Action.leaves, Action.use?]
  | .emit kind resource fields, _ => by
    rw [Action.written]
    have hfields : Marks checked (fields.map (Param.written "field")) False :=
      marks_params (by decide) (by decide) fields
    refine (hfields.element ?_ ?_).congr (iff_of_true (.inl ?_) ?_)
    · cases kind <;> decide
    · exact isName_of_keys [kind.key] rfl (by cases kind <;> decide)
    · cases kind <;> decide
    · simp [Emitting, Action.leaves, Action.use?]
  | .choose [] otherwise, h => by
    rw [Action.written]
    refine ⟨nofun, nofun, fun hchecked _ => ?_⟩
    -- this is the choice that is not written; a check rules it out
    exact absurd rfl (Action.allProper_choose.mp (h hchecked)).1
  | .choose ((condition, body) :: branches) otherwise, h => by
    have hproper := fun hchecked => (Action.allProper_choose.mp (h hchecked)).2
    have hbody := Block.marks body fun hc => ((hproper hc).1 _ (List.mem_cons_self ..)).2
    have hbranches := Branches.marks branches fun hc branch hbranch =>
      ((hproper hc).1 branch (List.mem_cons_of_mem _ hbranch)).2
    have hotherwise := marks_otherwise (Block.marks otherwise fun hc => (hproper hc).2)
    have hkeys : ∀ a ∈ [("cond", condition)], IsName a.1 :=
      isName_of_keys ["cond"] rfl (by decide)
    rw [Action.written, Action.leaves, Branches.leaves, Branch.leaves, emitting_append,
      emitting_append]
    exact (((hbody.append hbranches).append hotherwise).spanned (by decide) hkeys).congr
      (or_iff_right (by decide))

/-- The same for a block, action by action. -/
theorem Block.marks : ∀ b : List Action, (checked → ∀ a ∈ b, a.AllProper) →
    Marks checked (Block.written b) (Emitting (Block.leaves b))
  | [], _ => by
    rw [Block.written, Block.leaves]
    exact Marks.nil.congr (by simp [Emitting])
  | a :: as, h => by
    rw [Block.written, Block.leaves, emitting_append]
    exact (Action.marks a fun hc => h hc a (List.mem_cons_self ..)).append
      (Block.marks as fun hc b hb => h hc b (List.mem_cons_of_mem _ hb))

/-- The same for the branches of a choice. The marks between them are no constructs, and so only the
blocks count. -/
theorem Branches.marks : ∀ bs : List (String × List Action),
    (checked → ∀ branch ∈ bs, ∀ a ∈ branch.2, a.AllProper) →
    Marks checked (Branches.written bs) (Emitting (Branches.leaves bs))
  | [], _ => by
    rw [Branches.written, Branches.leaves]
    exact Marks.nil.congr (by simp [Emitting])
  | (condition, body) :: bs, h => by
    have hmark : Marks checked [.empty "elseif" [("cond", condition)]]
        (isConstruct "elseif" = true) :=
      .empty (by decide) (isName_of_keys ["cond"] rfl (by decide))
    have hbody := Block.marks body fun hc => h hc _ (List.mem_cons_self ..)
    have hbs := Branches.marks bs fun hc b hb => h hc b (List.mem_cons_of_mem _ hb)
    rw [Branches.written, Branch.written, Branches.leaves, Branch.leaves, emitting_append]
    exact ((hmark.append hbody).congr (or_iff_right (by decide))).append hbs

end

/-! ### What is written of charts -/

theorem isName_optionalAttribute {key : String} (h : IsName key) (value? : Option String) :
    ∀ a ∈ optionalAttribute key value?, IsName a.1 := by
  cases value? with
  | none => exact nofun
  | some value => exact List.forall_mem_singleton.mpr h

theorem Trigger.isName_attributes (t : Trigger) : ∀ a ∈ t.attributes, IsName a.1 := by
  cases t with
  | events names =>
    cases names with
    | nil => exact nofun
    | cons name names => exact isName_of_keys ["event"] rfl (by decide)
  | reception kind resource =>
    exact isName_of_keys [kind.key] rfl (by cases kind <;> decide)

theorem Reception.isTag_tag (kind : Reception) : IsTag kind.tag ∧ isConstruct kind.tag = true := by
  cases kind <;> decide

/-- The element of a transition tells whether its trigger is a communication construct. -/
theorem Trigger.isTag_tag (t : Trigger) : IsTag t.tag ∧ isConstruct t.tag = t.communicates := by
  cases t with
  | events names =>
    have htag : IsTag "transition" ∧ isConstruct "transition" = false := by decide
    exact htag
  | reception kind resource => exact kind.isTag_tag

/-- What is written of a transition mentions a construct by its trigger or in its body. The element
of the transition is itself the construct, if the trigger is one. -/
theorem Transition.marks (t : Transition) (h : checked → ∀ a ∈ t.body, a.AllProper) :
    Marks checked t.written (t.trigger.communicates = true ∨ Emitting (Block.leaves t.body)) := by
  obtain ⟨htag, hconstruct⟩ := t.trigger.isTag_tag
  have hkeys : ∀ a ∈ t.trigger.attributes ++ [("target", t.target)] ++
      optionalAttribute "cond" t.guard?, IsName a.1 := by
    refine List.forall_mem_append.mpr ⟨List.forall_mem_append.mpr ⟨?_, ?_⟩, ?_⟩
    · exact t.trigger.isName_attributes
    · exact isName_of_keys ["target"] rfl (by decide)
    · exact isName_optionalAttribute (by decide) t.guard?
  have hbody := Block.marks t.body h
  rw [← hconstruct, Transition.written]
  cases hempty : t.body.isEmpty with
  | true =>
    rw [List.isEmpty_iff.mp hempty] at hbody ⊢
    exact (Marks.empty htag hkeys).append hbody
  | false => exact hbody.spanned htag hkeys

/-- What is written of the content of a state mentions a construct if one of its actions does.
Content that is empty is not written. -/
theorem marks_content {tag : String} (htag : IsTag tag) (hplain : isConstruct tag = false)
    (b : Block) (h : checked → ∀ a ∈ b, a.AllProper) :
    Marks checked (contentWritten tag b) (Emitting (Block.leaves b)) := by
  have hb := Block.marks b h
  cases b with
  | nil => exact hb
  | cons a as =>
    have hkeys : ∀ a ∈ ([] : List Attribute), IsName a.1 := isName_of_keys [] rfl nofun
    exact (hb.spanned htag hkeys).congr (or_iff_right (by simp [hplain]))

/-- Some trigger of the state is a communication construct, or some action in one of its blocks. -/
def State.Communicates (s : State) : Prop :=
  (∃ t ∈ s.transitions, t.trigger.communicates = true) ∨
    ∃ block ∈ s.blocks, Block.communicates block = true

/-- What is written of a state mentions a construct if the state communicates: in its entry or exit
content, or in a transition. -/
theorem State.marks (s : State) (h : checked → ∀ block ∈ s.blocks, ∀ a ∈ block, a.AllProper) :
    Marks checked s.written s.Communicates := by
  have hmem : ∀ t ∈ s.transitions, t.body ∈ s.blocks := fun t ht =>
    List.mem_cons_of_mem _ (List.mem_cons_of_mem _ (List.mem_map_of_mem ht))
  have hentry := @marks_content checked "onentry" (by decide) (by decide) s.entry fun hc =>
    h hc _ (List.mem_cons_self ..)
  have hexit := @marks_content checked "onexit" (by decide) (by decide) s.exit fun hc =>
    h hc _ (List.mem_cons_of_mem _ (List.mem_cons_self ..))
  have htransitions : Marks checked (s.transitions.flatMap Transition.written) _ :=
    .flatMap fun t ht => t.marks fun hc => h hc _ (hmem t ht)
  have hkeys : ∀ a ∈ [("id", s.id)], IsName a.1 := isName_of_keys ["id"] rfl (by decide)
  refine (((hentry.append htransitions).append hexit).element (by decide) hkeys).congr ?_
  rw [or_iff_right (by decide), State.Communicates]
  simp only [State.blocks, List.exists_mem_cons_iff, List.mem_map, exists_exists_and_eq_and,
    Block.communicates_iff, and_or_left, exists_or]
  simp only [or_comm, or_left_comm]

theorem Datum.marks (d : Datum) : Marks checked [d.written] False := by
  refine (Marks.empty (by decide) ?_).congr (iff_false_intro (by decide))
  refine List.forall_mem_append.mpr ⟨List.forall_mem_append.mpr ⟨?_, ?_⟩, ?_⟩
  · exact isName_of_keys ["id"] rfl (by decide)
  · exact isName_optionalAttribute (by decide) d.expr?
  · exact isName_optionalAttribute (by decide) d.type?

theorem Declaration.isTag_tag (d : Declaration) : IsTag d.tag ∧ isConstruct d.tag = true := by
  cases d with
  | timer name rate =>
    have htag : IsTag "ros_time_rate" ∧ isConstruct "ros_time_rate" = true := by decide
    exact htag
  | endpoint side name type =>
    have hsame : (endpoint side name type).tag = (endpoint side "" "").tag := by cases side <;> rfl
    rw [hsame]
    cases side <;> decide

/-- Every declaration is a construct. -/
theorem Declaration.marks (d : Declaration) : Marks checked [d.written] True := by
  obtain ⟨htag, hconstruct⟩ := d.isTag_tag
  cases d with
  | timer name rate =>
    refine (Marks.empty htag ?_).congr (iff_true_intro hconstruct)
    exact isName_of_keys ["name", "rate_hz"] rfl (by decide)
  | endpoint side name type =>
    refine (Marks.empty htag ?_).congr (iff_true_intro hconstruct)
    exact isName_of_keys [side.key, "type"] rfl (by cases side <;> decide)

/-- The data model has no constructs in it. -/
theorem marks_data (ds : List Datum) : Marks checked (dataWritten ds) False := by
  cases ds with
  | nil => exact .nil
  | cons d ds =>
    have hkeys : ∀ a ∈ ([] : List Attribute), IsName a.1 := isName_of_keys [] rfl nofun
    have hdata : Marks checked ((d :: ds).map Datum.written) _ := .map fun d _ => d.marks
    have hplain : isConstruct "datamodel" = false := by decide
    exact (hdata.spanned (by decide) hkeys).congr (by simp [hplain])

/-- The chart declares a resource, or one of its states communicates. -/
def Chart.Communicates (c : Chart) : Prop :=
  c.declarations ≠ [] ∨ ∃ s ∈ c.states, s.Communicates

/-- What is written of a chart mentions a construct if the chart communicates. All the statements
above are about its parts, in the order in which they are written. -/
theorem Chart.marks (c : Chart)
    (h : checked → ∀ s ∈ c.states, ∀ block ∈ s.blocks, ∀ a ∈ block, a.AllProper) :
    Marks checked c.written c.Communicates := by
  have hdeclarations : Marks checked (c.declarations.map Declaration.written) _ :=
    .map fun d _ => d.marks
  have hstates : Marks checked (c.states.flatMap State.written) _ :=
    .flatMap fun s hs => s.marks fun hc => h hc s hs
  have hcontent := ((marks_data c.data).append hdeclarations).append hstates
  have hkeys : ∀ a ∈ [("name", c.name), ("version", Document.version), ("model_src", ""),
      ("initial", c.initial), ("xmlns", Document.namespaceName),
      ("datamodel", Document.language)], IsName a.1 :=
    isName_of_keys ["name", "version", "model_src", "initial", "xmlns", "datamodel"] rfl (by decide)
  have hplain : isConstruct "scxml" = false := by decide
  have hdeclares : (∃ d ∈ c.declarations, True) ↔ c.declarations ≠ [] := by
    cases c.declarations <;> simp
  refine (hcontent.spanned (by decide) hkeys).congr ?_
  rw [hdeclares, Chart.Communicates]
  simp [hplain]

/-- In a chart that passes its check every action is proper, so that for such a chart nothing goes
unmentioned. -/
theorem Chart.allProper_of_check {c : Chart} (h : c.check = .ok ()) :
    ∀ s ∈ c.states, ∀ block ∈ s.blocks, ∀ a ∈ block, a.AllProper := by
  obtain ⟨-, -, -, -, -, hstates⟩ := Chart.check_eq_ok.mp h
  obtain ⟨-, -, -, hactions⟩ := Chart.check_states_iff.mp hstates
  exact fun s hs block hblock b hb a ha => hactions a ⟨s, hs, block, hblock, b, hb, ha⟩

end

/-- A settled chart has nothing left that communicates. -/
theorem Chart.Settled.not_communicates {c : Chart} (h : c.Settled) : ¬ c.Communicates := by
  rintro (hdeclares | ⟨s, hs, hcommunicates⟩)
  · exact hdeclares h.declares_nothing
  · obtain ⟨hentry, hexit, htransitions⟩ := Chart.uses_eq_nil_iff.mp h.uses_nothing s hs
    rcases hcommunicates with ⟨t, ht, htrigger⟩ | ⟨block, hblock, hcommunicates⟩
    · exact absurd htrigger (by simp [(htransitions t ht).1])
    · have hblocks : ∀ block ∈ s.blocks, Block.communicates block = false :=
        List.forall_mem_cons.mpr ⟨hentry, List.forall_mem_cons.mpr
          ⟨hexit, List.forall_mem_map.mpr fun t ht => (htransitions t ht).2⟩⟩
      exact absurd hcommunicates (by simp [hblocks block hblock])

/-- **Documents mention communication constructs exactly if their charts have some**: the document
of a chart that was built, in a declaration, a trigger or an action at any depth; and that of a
chart that was compiled, not at all, whatever the texts in it are. So it can be seen from the text
of a document, without reading it, that nothing is left to be compiled. -/
theorem write_mentions_iff :
    (∀ (b : Builder) (c : Chart), b.build = .ok c →
      (Text.Contains (Document.write c) "<ros_" ↔ c.Communicates)) ∧
    ∀ (interpret : Interpreter) (charts : List Chart) (out : Compiled),
      Network.compile interpret charts = .ok out →
      ∀ c ∈ out.charts, ¬ Text.Contains (Document.write c) "<ros_" := by
  refine ⟨fun b c hbuild => ?_, fun interpret charts out hcompile c hc hwritten => ?_⟩
  · obtain ⟨hcheck, rfl⟩ := Builder.build_eq_ok.mp hbuild
    have hmarks := @Chart.marks True b.draft fun _ => Chart.allProper_of_check hcheck
    exact (Xml.print_mentions hmarks.proper).trans ⟨hmarks.sound, hmarks.complete trivial⟩
  · -- nothing is known of checks here, and nothing is needed
    have hmarks := @Chart.marks False c nofun
    have hsettled := ((Network.settled_of_compile hcompile).1 c hc).1
    exact hsettled.not_communicates
      (hmarks.sound ((Xml.print_mentions hmarks.proper).mp hwritten))

/-- A chart that does not communicate, although the text of a tag occurs in its expressions. -/
def Sample.quoting : Chart where
  name := "quoting"
  initial := "idle"
  data := [⟨"n", some "'<ros_time_rate'", none⟩]
  declarations := []
  states := [⟨"idle", [.assign "n" "1<ros_n"], [], [⟨"idle", .events ["go"], some "n<ros_n", []⟩]⟩]

/-- A chart that sends from deep inside a choice. -/
def Sample.choosing : Chart where
  name := "choosing"
  initial := "idle"
  data := []
  declarations := []
  states := [⟨"idle", [.choose [("true", [.choose [("true", [])] [.emit .message "/out" []]])] []],
    [], []⟩]

open Sample in
/-- A chart whose expressions only quote a tag does not mention it, and one that sends from deep
inside a choice does. Nothing that comes out of the compilation mentions a construct. -/
theorem write_mentions_iff_sample :
    ¬ Text.Contains (Document.write quoting) "<ros_" ∧
    Text.Contains (Document.write choosing) "<ros_" ∧
    ∃ out, Network.compile scriptInterpreter [quoting, serving "a", asking "b"] = .ok out ∧
      out.charts.map (·.name) = ["quoting", "a", "b", "srv_handler_set_bool"] ∧
      ∀ c ∈ out.charts, ¬ Text.Contains (Document.write c) "<ros_" := by
  have hquoting : quoting.toBuilder.build = .ok quoting := Chart.build_toBuilder (by decide)
  have hchoosing : choosing.toBuilder.build = .ok choosing := Chart.build_toBuilder (by decide)
  have hquiet : quoting.Settled := ⟨rfl, rfl⟩
  have hsends : choosing.Communicates :=
    .inr ⟨_, List.mem_singleton_self _, .inr ⟨_, List.mem_cons_self .., rfl⟩⟩
  have hcompiled : (Network.compile scriptInterpreter
      [quoting, serving "a", asking "b"]).toOption.any (fun out =>
        out.charts.map (·.name) == ["quoting", "a", "b", "srv_handler_set_bool"]) = true := by
    decide +kernel
  obtain ⟨out, hout, hnames⟩ := exists_of_any hcompiled
  exact ⟨mt (write_mentions_iff.1 _ _ hquoting).mp hquiet.not_communicates,
    (write_mentions_iff.1 _ _ hchoosing).mpr hsends, out, hout, eq_of_beq hnames,
    write_mentions_iff.2 _ _ _ hout⟩

end ChartNet
