import ChartNet.Proofs.Elements
import ChartNet.Proofs.StartTags

/-!
# Elements that come to an end

When an element ends, its frame is given to the element around it or to the chart. With frames read
as elements that are not yet complete, the element around simply has one more element in it
(`Reader.leave_frame`).

The one thing to be seen is that a choice collects its branches from the front while `parts` cuts
its content from the back. `Document.parts_append_elseIf` and `Document.parts_append_else` say what
a mark in the middle does, and `Document.pushAction_parts` what an action at the end does.
-/

namespace ChartNet

open Document

namespace Document

open Reader (value)

/-! ### The parts of a choice -/

/-- The element is the mark of a branch, the mark of the last block, or no mark. -/
theorem Element.mark_cases (e : Element) :
    (∃ as content, e = mk .elseIf as content) ∨ (∃ as content, e = mk .elseMark as content) ∨
      e.kind.isMark = false := by
  obtain ⟨kind, as, content⟩ := e
  cases kind with
  | elseIf => exact .inl ⟨as, content, rfl⟩
  | elseMark => exact .inr (.inl ⟨as, content, rfl⟩)
  | _ => exact .inr (.inr rfl)

@[simp] theorem parts_elseIf (as : List (String × String)) (content es : List Element) :
    parts (.mk .elseIf as content :: es) =
      ⟨[], (value as "cond", (parts es).first) :: (parts es).branches, (parts es).otherwise?⟩ := by
  rw [parts]

@[simp] theorem parts_else (as : List (String × String)) (content es : List Element) :
    parts (.mk .elseMark as content :: es) = ⟨[], [], some (parts es).first⟩ := by
  rw [parts]

theorem parts_action {e : Element} (h : e.kind.isMark = false) (es : List Element) :
    parts (e :: es) = { parts es with first := e.action :: (parts es).first } := by
  obtain ⟨kind, as, content⟩ := e
  cases kind with
  | elseIf | elseMark => cases h
  | _ => rw [parts] <;> simp

/-- There is a last block if its mark is there. So the reader, which knows the parts only, can tell
whether another mark may come. -/
theorem otherwise?_eq_none {es : List Element} :
    (parts es).otherwise? = none ↔ ∀ e ∈ es, e.kind ≠ .elseMark := by
  induction es with
  | nil => simp [parts]
  | cons e es ih =>
    rw [List.forall_mem_cons, ← ih]
    obtain ⟨as, content, rfl⟩ | ⟨as, content, rfl⟩ | hmark := e.mark_cases
    · simp
    · simp
    · have hne : e.kind ≠ .elseMark := by
        intro h
        rw [h] at hmark
        cases hmark
      simp [parts_action hmark, hne]

/-- Without a mark everything goes to the first block. -/
theorem first_of_no_mark {es : List Element} (h : ∀ e ∈ es, e.kind.isMark = false) :
    (parts es).first = es.map Element.action := by
  induction es with
  | nil => simp [parts]
  | cons e es ih =>
    obtain ⟨hmark, hrest⟩ := List.forall_mem_cons.mp h
    simp [parts_action hmark, ih hrest]

/-- Up to a mark nothing is changed by what follows it. The choice has one more branch, with nothing
in it yet. -/
theorem parts_append_elseIf {es : List Element} (h : ∀ e ∈ es, e.kind ≠ .elseMark)
    (as : List (String × String)) (content es' : List Element) :
    parts (es ++ .mk .elseIf as content :: es') =
      ⟨(parts es).first,
        (parts es).branches ++ (value as "cond", (parts es').first) :: (parts es').branches,
        (parts es').otherwise?⟩ := by
  induction es with
  | nil => simp [parts]
  | cons e es ih =>
    obtain ⟨hne, hrest⟩ := List.forall_mem_cons.mp h
    rw [List.cons_append]
    obtain ⟨as, content, rfl⟩ | ⟨as, content, rfl⟩ | hmark := e.mark_cases
    · simp [ih hrest]
    · exact absurd rfl hne
    · simp [parts_action hmark, ih hrest]

/-- The mark of the last block comes once, and what follows it is the last block. -/
theorem parts_append_else {es : List Element} (h : ∀ e ∈ es, e.kind ≠ .elseMark)
    (as : List (String × String)) (content es' : List Element) :
    parts (es ++ .mk .elseMark as content :: es') =
      { parts es with otherwise? := some (parts es').first } := by
  induction es with
  | nil => simp [parts]
  | cons e es ih =>
    obtain ⟨hne, hrest⟩ := List.forall_mem_cons.mp h
    rw [List.cons_append]
    obtain ⟨as, content, rfl⟩ | ⟨as, content, rfl⟩ | hmark := e.mark_cases
    · simp [ih hrest]
    · exact absurd rfl hne
    · simp [parts_action hmark, ih hrest]

/-- An action at the front of the first of the branches does not matter to the last one. -/
theorem pushBranch_cons {a a' : Action} {condition : String} {b b' : Block}
    {bs bs' : List (String × Block)}
    (h : Frame.pushBranch a ((condition, b) :: bs) = some ((condition, b') :: bs')) :
    Frame.pushBranch a ((condition, a' :: b) :: bs) = some ((condition, a' :: b') :: bs') := by
  cases bs with
  | nil =>
    simp only [Frame.pushBranch] at h ⊢
    simp_all
  | cons d bs =>
    simp only [Frame.pushBranch] at h ⊢
    simp_all

/-- As long as there is no last block, an action goes to the last of the branches. The branch of the
choice's own condition counts as the first one. -/
theorem pushBranch_parts {es : List Element} (h : ∀ e ∈ es, e.kind ≠ .elseMark) {e : Element}
    (he : e.kind.isMark = false) (condition : String) :
    Frame.pushBranch e.action ((condition, (parts es).first) :: (parts es).branches) =
      some ((condition, (parts (es ++ [e])).first) :: (parts (es ++ [e])).branches) := by
  induction es generalizing condition with
  | nil => simp [parts_action he, parts, Frame.pushBranch]
  | cons first es ih =>
    obtain ⟨hne, hrest⟩ := List.forall_mem_cons.mp h
    rw [List.cons_append]
    obtain ⟨as, content, rfl⟩ | ⟨as, content, rfl⟩ | hmark := first.mark_cases
    · simp [Frame.pushBranch, ih hrest]
    · exact absurd rfl hne
    · simp only [parts_action hmark]
      exact pushBranch_cons (ih hrest condition)

/-- **An action at the end of a choice goes to the block that was begun last.** What has been read
of the choice is given by its elements, and the reader keeps just the parts that these elements
spell. -/
theorem pushAction_parts {es : List Element} (hordered : es.Pairwise Ordered) {e : Element}
    (he : e.kind.isMark = false) (condition name : String) :
    (Frame.choice ((condition, (parts es).first) :: (parts es).branches)
      (parts es).otherwise?).pushAction e.action name =
        .ok (.choice ((condition, (parts (es ++ [e])).first) :: (parts (es ++ [e])).branches)
          (parts (es ++ [e])).otherwise?) := by
  have hne : e.kind ≠ .elseMark := by
    intro h
    rw [h] at he
    cases he
  rcases hfind : es.find? (·.kind = .elseMark) with _ | last
  · -- the last block has not begun, neither before the action nor with it
    have hopen : ∀ u ∈ es, u.kind ≠ .elseMark := by simpa using hfind
    have hnone := otherwise?_eq_none.mpr hopen
    have hnone' : (parts (es ++ [e])).otherwise? = none :=
      otherwise?_eq_none.mpr (List.forall_mem_append.mpr ⟨hopen, by simpa using hne⟩)
    rw [hnone, hnone', Frame.pushAction, pushBranch_parts hopen he condition]
  · -- everything after the mark of the last block belongs to that block
    obtain ⟨hlast, before, after, rfl, hbefore⟩ := List.find?_eq_some_iff_append.mp hfind
    simp only [decide_eq_true_eq] at hlast
    have hbefore : ∀ u ∈ before, u.kind ≠ .elseMark := by simpa using hbefore
    obtain ⟨kind, as, content⟩ := last
    obtain rfl : kind = .elseMark := hlast
    have hafter : ∀ u ∈ after, u.kind.isMark = false := by
      intro u hu
      have := (List.pairwise_append.mp hordered).2.1
      exact (List.pairwise_cons.mp this).1 u hu rfl
    have hafter' : ∀ u ∈ after ++ [e], u.kind.isMark = false :=
      List.forall_mem_append.mpr ⟨hafter, by simpa using he⟩
    rw [List.append_assoc, List.cons_append, parts_append_else hbefore, parts_append_else hbefore,
      first_of_no_mark hafter, first_of_no_mark hafter']
    simp [Frame.pushAction]

/-! ### What an open element takes -/

/-- In elements with actions, other than choices, there are only actions. -/
theorem within_iff_isAction {kind k : Kind} (h : kind.holdsActions = true) (hne : kind ≠ .choice) :
    k.Within kind ↔ k.isAction = true := by
  cases kind with
  | entry | exit | transition | reception _ =>
    cases k <;> simp [Kind.Within, Kind.isAction, Kind.holdsActions]
  | choice => exact absurd rfl hne
  | _ => cases h

/-- Marks come only in a choice, actions also elsewhere. -/
theorem within_choice {k : Kind} : k.Within .choice ↔ k.isAction = true ∨ k.isMark = true := by
  cases k <;> simp [Kind.Within, Kind.isAction, Kind.isMark, Kind.holdsActions]

theorem eq_choice_of_isMark {kind k : Kind} (h : k.Within kind) (hmark : k.isMark = true) :
    kind = .choice := by
  cases k with
  | elseIf | elseMark => exact h
  | _ => cases hmark

/-- An open element that is no choice takes what belongs in it, whatever it holds already. -/
theorem takes_frame_of_ne {kind : Kind} (hne : kind ≠ .choice) {k : Kind}
    {as : List (String × String)} {done : List Element} :
    Takes (Element.mk kind as done).frame k ↔ k.Within kind := by
  cases kind with
  | root | state => exact Iff.rfl
  | entry | exit | transition | reception _ => exact (within_iff_isAction rfl hne).symm
  | choice => exact absurd rfl hne
  | assign | send | emission kind =>
    cases k <;> simp [Element.frame, Takes, Kind.Within, Kind.holdsActions, Kind.tag_inj]
  | _ => cases k <;> simp [Element.frame, Takes, Kind.Within, Kind.holdsActions]

/-- **An open element takes the kinds that belong in it**, except for a mark after the mark of the
last block. So the order that a grammar asks for is kept by the reader one element at a time. -/
theorem takes_frame {kind k : Kind} {as : List (String × String)} {done : List Element} :
    Takes (Element.mk kind as done).frame k ↔
      k.Within kind ∧ ∀ u ∈ done, u.kind = .elseMark → k.isMark = false := by
  by_cases hchoice : kind = .choice
  · subst hchoice
    simp only [Element.frame]
    -- the reader goes by the last block, the grammar by its mark
    rcases hotherwise : (parts done).otherwise? with _ | b
    · have hopen := otherwise?_eq_none.mp hotherwise
      rw [within_choice]
      exact ⟨fun h => ⟨h, fun u hu helse => absurd helse (hopen u hu)⟩, And.left⟩
    · have hclosed : ∃ u ∈ done, u.kind = .elseMark := by
        by_contra hnone
        have hopen := otherwise?_eq_none.mpr fun u hu helse => hnone ⟨u, hu, helse⟩
        rw [hopen] at hotherwise
        cases hotherwise
      obtain ⟨u, hu, helse⟩ := hclosed
      rw [within_choice]
      constructor
      · intro haction
        refine ⟨.inl haction, fun _ _ _ => ?_⟩
        cases k with
        | elseIf | elseMark => cases haction
        | _ => rfl
      · rintro ⟨haction | hmark, hlate⟩
        · exact haction
        · rw [hlate u hu helse] at hmark
          cases hmark
  · rw [takes_frame_of_ne hchoice]
    refine ⟨fun h => ⟨h, fun _ _ _ => ?_⟩, And.left⟩
    by_contra hmark
    exact hchoice (eq_choice_of_isMark h (by simpa using hmark))

/-- An action that has come to an end is pushed onto the element around it. -/
theorem absorb_action {e : Element} (h : e.kind.isAction = true) (parent : Frame) :
    parent.absorb e.frame = parent.pushAction e.action e.kind.tag := by
  obtain ⟨kind, as, content⟩ := e
  cases kind with
  | assign | send | emission kind => cases parent <;> rfl
  | choice =>
    simp only [Element.frame, Element.action]
    cases parent <;> rfl
  | _ => cases h

/-- An action at the end of an open element is one more element in it. For a choice this is
`pushAction_parts`. -/
theorem pushAction_frame {kind : Kind} (hkind : kind.holdsActions = true)
    (as : List (String × String)) {done : List Element} (hordered : done.Pairwise Ordered)
    {e : Element} (he : e.kind.isMark = false) (name : String) :
    (Element.mk kind as done).frame.pushAction e.action name =
      .ok (Element.mk kind as (done ++ [e])).frame := by
  cases kind with
  | entry | exit | transition | reception kind => simp [Element.frame, Frame.pushAction]
  | choice => exact pushAction_parts hordered he _ name
  | _ => cases hkind

/-- Inside the root and the data model nothing is absorbed: what ends there goes to the chart.
Everywhere else, the frame of the element around becomes that of the element with one more element
in it. -/
theorem absorb_frame {kind : Kind} (hroot : kind ≠ .root) (hdata : kind ≠ .dataModel)
    (as : List (String × String)) {done : List Element} {e : Element}
    (hwithin : e.kind.Within kind) (hordered : (done ++ [e]).Pairwise Ordered) :
    (Element.mk kind as done).frame.absorb e.frame =
      .ok (Element.mk kind as (done ++ [e])).frame := by
  obtain ⟨hdone, -, hlast⟩ := List.pairwise_append.mp hordered
  obtain ⟨k, as', content⟩ := e
  -- a mark ends only where the last block has not begun
  have hopen : k.isMark = true → ∀ u ∈ done, u.kind ≠ .elseMark := by
    intro hmark u hu helse
    have hlate : k.isMark = false := hlast u hu _ (List.mem_singleton_self _) helse
    rw [hmark] at hlate
    cases hlate
  cases k with
  | root => cases hwithin
  | dataModel | timer | endpoint side | state => exact absurd hwithin hroot
  | datum => exact absurd hwithin hdata
  | entry | exit | transition | reception k =>
    obtain rfl : kind = .state := hwithin
    simp [Element.frame, Frame.absorb, Element.entry, Element.exit, Element.transition?]
  | assign | send | emission k | choice =>
    rw [absorb_action rfl]
    exact pushAction_frame hwithin as hdone rfl _
  | elseIf =>
    obtain rfl : kind = .choice := hwithin
    have hopen := hopen rfl
    simp [Element.frame, Frame.absorb, parts_append_elseIf hopen, otherwise?_eq_none.mpr hopen,
      parts]
  | elseMark =>
    obtain rfl : kind = .choice := hwithin
    simp [Element.frame, Frame.absorb, parts_append_else (hopen rfl), parts]
  | param =>
    obtain rfl : kind = .send := hwithin
    simp [Element.frame, Element.action, Frame.absorb]
  | field =>
    obtain ⟨k, rfl⟩ := hwithin
    simp [Element.frame, Element.action, Frame.absorb]

end Document

/-! ### What goes to the chart -/

namespace Reader

/-- The reader with what these elements bring to the chart. Only elements directly in the root, and
variables, bring something; all others are a part of one that does. -/
def gather (r : Reader) (ts : List Element) : Reader :=
  { r with
    data := r.data ++ ts.flatMap Element.data
    declarations := r.declarations ++ ts.filterMap Element.declaration?
    states := r.states ++ ts.filterMap Element.state? }

@[simp] theorem gather_nil (r : Reader) : r.gather [] = r := by simp [gather]

theorem gather_append (r : Reader) (ts ts' : List Element) :
    r.gather (ts ++ ts') = (r.gather ts).gather ts' := by
  simp [gather]

/-- Only elements in the root or in the data model bring something. What ends elsewhere is absorbed
by the element around it. -/
theorem gather_of_within {kind : Kind} (hroot : kind ≠ .root) (hdata : kind ≠ .dataModel)
    {ts : List Element} (h : ∀ t ∈ ts, t.kind.Within kind) (r : Reader) : r.gather ts = r := by
  have hnone : ∀ t ∈ ts, t.data = [] ∧ t.declaration? = none ∧ t.state? = none := by
    intro t ht
    have hwithin := h t ht
    obtain ⟨k, as, content⟩ := t
    cases k with
    | root => cases hwithin
    | dataModel | timer | endpoint side | state => exact absurd hwithin hroot
    | datum => exact absurd hwithin hdata
    | _ => exact ⟨rfl, rfl, rfl⟩
  have hdatas : ts.flatMap Element.data = [] :=
    List.flatMap_eq_nil_iff.mpr fun t ht => (hnone t ht).1
  have hdeclarations : ts.filterMap Element.declaration? = [] :=
    List.filterMap_eq_nil_iff.mpr fun t ht => (hnone t ht).2.1
  have hstates : ts.filterMap Element.state? = [] :=
    List.filterMap_eq_nil_iff.mpr fun t ht => (hnone t ht).2.2
  simp [gather, hdatas, hdeclarations, hstates]

/-- A data model brings what the variables in it bring one by one. They have gone to the chart when
they ended, so that nothing is left to do when the data model ends. -/
theorem gather_dataModel {ts : List Element} (h : ∀ t ∈ ts, t.kind.Within .dataModel)
    (as : List (String × String)) (r : Reader) : r.gather [.mk .dataModel as ts] = r.gather ts := by
  have hvariable : ∀ t ∈ ts, t.data = [t.datum] ∧ t.declaration? = none ∧ t.state? = none := by
    intro t ht
    have hwithin := h t ht
    obtain ⟨k, as, content⟩ := t
    cases k with
    | datum => exact ⟨rfl, rfl, rfl⟩
    | field => exact absurd hwithin (by simp [Kind.Within])
    | _ => cases hwithin
  have hdatas : ts.flatMap Element.data = ts.map Element.datum := by
    rw [List.flatMap_congr fun t ht => (hvariable t ht).1, List.map_eq_flatMap]
  have hdeclarations : ts.filterMap Element.declaration? = [] :=
    List.filterMap_eq_nil_iff.mpr fun t ht => (hvariable t ht).2.1
  have hstates : ts.filterMap Element.state? = [] :=
    List.filterMap_eq_nil_iff.mpr fun t ht => (hvariable t ht).2.2
  simp [gather, hdatas, hdeclarations, hstates, Element.data, Element.declaration?, Element.state?]

/-- **The end of an element**: the element around has one more element in it, and the chart has what
the element brings. An element that was taken can always be left. -/
theorem leave_frame {kind : Kind} (as : List (String × String)) {done : List Element} {e : Element}
    (he : e.Lawful) (hwithin : e.kind.Within kind) (hordered : (done ++ [e]).Pairwise Ordered)
    (r : Reader) :
    ((r.gather e.content).opened (Element.mk kind as done).frame).leave e.frame =
      .ok ((r.gather [e]).opened (Element.mk kind as (done ++ [e])).frame) := by
  obtain @⟨k, as', content, hadmits, hcontent, -, -⟩ := he
  -- nothing but a data model has elements in it that bring something
  have hnothing : k ≠ .dataModel → r.gather content = r := by
    intro hk
    refine gather_of_within ?_ hk hcontent r
    rintro rfl
    cases hwithin
  rw [Element.content_mk]
  by_cases hroot : kind = .root
  · subst hroot
    cases k with
    | dataModel =>
      rw [gather_dataModel hcontent]
      rfl
    | timer =>
      obtain ⟨rate, hrate⟩ := Option.isSome_iff_exists.mp (hadmits.rate rfl)
      rw [hnothing (by simp)]
      simp [Element.frame, leave, opened, gather, Element.data, Element.declaration?,
        Element.state?, hrate]
    | endpoint side =>
      rw [hnothing (by simp)]
      simp [Element.frame, leave, opened, gather, Element.data, Element.declaration?,
        Element.state?]
    | state =>
      rw [hnothing (by simp)]
      simp [Element.frame, leave, opened, gather, Element.data, Element.declaration?,
        Element.state?]
    | field => exact absurd hwithin (by simp [Kind.Within])
    | _ => cases hwithin
  · by_cases hdata : kind = .dataModel
    · subst hdata
      cases k with
      | datum =>
        rw [hnothing (by simp)]
        simp [Element.frame, leave, opened, gather, Element.data, Element.declaration?,
          Element.state?]
      | field => exact absurd hwithin (by simp [Kind.Within])
      | _ => cases hwithin
    · have hk : k ≠ .dataModel := by
        rintro rfl
        exact hroot hwithin
      have hsingle : r.gather [.mk k as' content] = r :=
        gather_of_within hroot hdata (by simpa using hwithin) r
      rw [hnothing hk, hsingle]
      exact leave_opened (absorb_frame hroot hdata as hwithin hordered) r

end Reader

end ChartNet
