import ChartNet.Proofs.EndTags
import ChartNet.Proofs.WellFormed

/-!
# Documents that are read

The reader accepts the events of a lawful tree and nothing else, and the chart that it reads is the
one that the tree spells (`Reader.run_finish_eq_ok`).

* The events of elements, met inside an open element, are taken if and only if the elements may come
  next in it; the frame is then that of the element with these elements in it
  (`Reader.Fills.of_forms`). This is an induction over how the events form elements.
* Events that are taken up to the end of all open elements do form elements
  (`Reader.closes_of_run`). This is an induction over the events; what is still to come has to
  close what is open.
-/

namespace ChartNet

open Document

namespace Document

/-- The elements may come next in an element of the kind that has the elements `done` in it. In a
choice it matters what is there already. -/
structure Continues (kind : Kind) (done ts : List Element) : Prop where
  /-- the elements belong in an element of the kind -/
  within : ∀ t ∈ ts, t.kind.Within kind
  /-- they are lawful themselves -/
  lawful : ∀ t ∈ ts, t.Lawful
  /-- they may come after those that are there already, and in this order -/
  ordered : (done ++ ts).Pairwise Ordered

theorem continues_nil {kind : Kind} {done : List Element} (h : done.Pairwise Ordered) :
    Continues kind done [] :=
  ⟨List.forall_mem_nil _, List.forall_mem_nil _, by rwa [List.append_nil]⟩

/-- Elements go on one by one, each after those before it. -/
theorem continues_cons {kind : Kind} {done ts : List Element} {t : Element} :
    Continues kind done (t :: ts) ↔
      Continues kind done [t] ∧ Continues kind (done ++ [t]) ts := by
  constructor
  · rintro ⟨hwithin, hlawful, hordered⟩
    obtain ⟨ht, hwithin⟩ := List.forall_mem_cons.mp hwithin
    obtain ⟨ht', hlawful⟩ := List.forall_mem_cons.mp hlawful
    rw [List.append_cons] at hordered
    have hfirst : (done ++ [t]).Pairwise Ordered := (List.pairwise_append.mp hordered).1
    exact ⟨⟨by simpa using ht, by simpa using ht', hfirst⟩, hwithin, hlawful, hordered⟩
  · rintro ⟨⟨ht, ht', -⟩, hwithin, hlawful, hordered⟩
    refine ⟨?_, ?_, by rwa [List.append_cons]⟩
    · exact List.forall_mem_cons.mpr ⟨by simpa using ht, hwithin⟩
    · exact List.forall_mem_cons.mpr ⟨by simpa using ht', hlawful⟩

/-- An element is lawful if its attributes are right and its content may go on from nothing. -/
theorem lawful_iff {kind : Kind} {as : List (String × String)} {content : List Element} :
    (Element.mk kind as content).Lawful ↔ kind.Admits as ∧ Continues kind [] content := by
  constructor
  · rintro ⟨hadmits, hwithin, hordered, hlawful⟩
    exact ⟨hadmits, hwithin, hlawful, hordered⟩
  · rintro ⟨hadmits, hwithin, hlawful, hordered⟩
    exact ⟨hadmits, hwithin, hordered, hlawful⟩

end Document

namespace Reader

/-! ### One tag -/

/-- When a start tag is taken inside an open element: its kind belongs there, it may come after what
was read before, and its attributes are right. -/
theorem enter_opened {tag : Xml.Tag} {k : Kind} {as' : List (String × String)}
    (htag : Tagged tag k as') {kind : Kind} {as : List (String × String)} {done : List Element}
    {r r' : Reader} {f : Frame} :
    (r.opened (Element.mk kind as done).frame).enter tag = .ok (f, r') ↔
      k.Within kind ∧ (∀ u ∈ done, u.kind = .elseMark → k.isMark = false) ∧ k.Admits as' ∧
        f = (Element.mk k as' []).frame ∧ r' = r.opened (Element.mk kind as done).frame := by
  simp only [enter, opened, bind_eq_ok, pure_eq_ok, Prod.mk.injEq, openInside_eq_ok, takes_frame]
  constructor
  · rintro ⟨_, ⟨k', as'', ⟨hwithin, hlate⟩, htag', hadmits, rfl⟩, rfl, rfl⟩
    obtain ⟨rfl, rfl⟩ := htag.unique htag'
    exact ⟨hwithin, hlate, hadmits, rfl, rfl⟩
  · rintro ⟨hwithin, hlate, hadmits, rfl, rfl⟩
    exact ⟨_, ⟨k, as', ⟨hwithin, hlate⟩, htag, hadmits, rfl⟩, rfl, rfl⟩

/-- A start tag that is taken is that of an element of some kind, and opens its frame. In the other
direction this is `enter_opened`, where the kind is given. -/
theorem enter_tagged {tag : Xml.Tag} {r r' : Reader} {f : Frame} (h : r.enter tag = .ok (f, r')) :
    r'.stack = r.stack ∧ ∃ (k : Kind) (as : List (String × String)),
      Tagged tag k as ∧ f = (Element.mk k as []).frame := by
  rw [enter] at h
  split at h
  · obtain ⟨f', hopen, h⟩ := bind_eq_ok.mp h
    obtain ⟨rfl, rfl⟩ := Prod.mk.inj (pure_eq_ok.mp h)
    obtain ⟨k, as, -, htag, -, rfl⟩ := openInside_eq_ok.mp hopen
    exact ⟨rfl, k, as, htag, rfl⟩
  · split at h
    · rename_i hroot
      obtain ⟨hname, -⟩ := Bool.and_eq_true_iff.mp hroot
      obtain ⟨as, has, h⟩ := bind_eq_ok.mp h
      obtain ⟨rfl, rfl⟩ := Prod.mk.inj (pure_eq_ok.mp h)
      exact ⟨rfl, .root, as, ⟨of_decide_eq_true hname, (attributes_eq_ok.mp has).1⟩, rfl⟩
    · cases h

/-- An empty tag is as good as a start tag with its end tag, so that only the latter has to be
looked at. -/
theorem run_empty {r r' : Reader} {offset : Nat} {tag : Xml.Tag} {es : List (Nat × Xml.Event)} :
    r.run ((offset, .empty tag) :: es) = .ok r' ↔
      r.run ((offset, .start tag) :: (offset, .finish tag.name) :: es) = .ok r' := by
  have hstep : ∀ r₁, r.step offset (.empty tag) = .ok r₁ ↔
      ∃ r₂, r.step offset (.start tag) = .ok r₂ ∧ r₂.step offset (.finish tag.name) = .ok r₁ := by
    intro r₁
    simp only [step_start_eq_ok, step_empty_eq_ok]
    constructor
    · rintro ⟨f, r₂, henter, hleave⟩
      obtain ⟨-, k, as, htag, rfl⟩ := enter_tagged henter
      refine ⟨_, ⟨_, _, henter, rfl⟩, ?_⟩
      rw [htag.name, ← Element.kind_mk k as [], ← Element.tag_frame]
      exact step_finish_eq_ok.mpr hleave
    · rintro ⟨_, ⟨f, r₂, henter, rfl⟩, hfinish⟩
      obtain ⟨-, k, as, htag, rfl⟩ := enter_tagged henter
      rw [htag.name, ← Element.kind_mk k as [], ← Element.tag_frame] at hfinish
      exact ⟨_, _, henter, step_finish_eq_ok.mp hfinish⟩
  simp only [run, bind_eq_ok, hstep]
  constructor
  · rintro ⟨r₁, ⟨r₂, hstart, hfinish⟩, h⟩
    exact ⟨r₂, hstart, r₁, hfinish, h⟩
  · rintro ⟨r₂, hstart, r₁, hfinish, h⟩
    exact ⟨r₁, ⟨r₂, hstart, hfinish⟩, h⟩

/-! ### Elements inside an open element -/

/-- Inside an open element, the events are taken if these elements may come next in it. They are
then among its content, and the chart has what they bring. -/
def Fills (es : List (Nat × Xml.Event)) (ts : List Element) : Prop :=
  ∀ (kind : Kind) (as : List (String × String)) (done : List Element), done.Pairwise Ordered →
    ∀ r r' : Reader, (r.opened (Element.mk kind as done).frame).run es = .ok r' ↔
      Continues kind done ts ∧ r' = (r.gather ts).opened (Element.mk kind as (done ++ ts)).frame

namespace Fills

theorem nil : Fills [] [] := by
  intro kind as done hdone r r'
  simp [run, continues_nil hdone, eq_comm]

theorem other {offset : Nat} {es : List (Nat × Xml.Event)} {ts : List Element} (h : Fills es ts) :
    Fills ((offset, .other) :: es) ts := by
  intro kind as done hdone r r'
  rw [run, step, ok_bind]
  exact h kind as done hdone r r'

/-- Elements that fill an open one part by part fill it together. -/
theorem append {es es' : List (Nat × Xml.Event)} {t : Element} {ts : List Element}
    (h : Fills es [t]) (h' : Fills es' ts) : Fills (es ++ es') (t :: ts) := by
  intro kind as done hdone r r'
  rw [run_append, bind_eq_ok, continues_cons]
  constructor
  · rintro ⟨r₁, hr₁, hr'⟩
    obtain ⟨ht, rfl⟩ := (h kind as done hdone _ _).mp hr₁
    obtain ⟨hts, rfl⟩ := (h' kind as _ ht.ordered _ _).mp hr'
    refine ⟨⟨ht, hts⟩, ?_⟩
    rw [← gather_append, List.singleton_append, ← List.append_cons]
  · rintro ⟨⟨ht, hts⟩, rfl⟩
    refine ⟨_, (h kind as done hdone _ _).mpr ⟨ht, rfl⟩, ?_⟩
    refine (h' kind as _ ht.ordered _ _).mpr ⟨hts, ?_⟩
    rw [← gather_append, List.singleton_append, ← List.append_cons]

/-- The content fills the element that the start tag opens, and the element then fills the one
around. -/
theorem element {tag : Xml.Tag} {k : Kind} {as' : List (String × String)}
    (htag : Tagged tag k as') {inner : List (Nat × Xml.Event)} {content : List Element}
    (hinner : Fills inner content) (offset offset' : Nat) :
    Fills ((offset, .start tag) :: inner ++ [(offset', .finish tag.name)])
      [.mk k as' content] := by
  intro kind as done hdone r r'
  have hname : tag.name = (Element.mk k as' content).frame.tag := by
    rw [Element.tag_frame, htag.name, Element.kind_mk]
  -- the run is cut at the end of the content, where `hinner` says what the frame holds
  simp only [List.cons_append, run, run_append, bind_eq_ok, step_start_eq_ok, enter_opened htag]
  constructor
  · rintro ⟨_, ⟨_, _, ⟨hwithin, hlate, hadmits, rfl, rfl⟩, rfl⟩, r₂, hr₂, r₃, hfinish, hend⟩
    obtain ⟨hcontent, rfl⟩ := (hinner k as' [] .nil _ _).mp hr₂
    have hlawful : (Element.mk k as' content).Lawful := lawful_iff.mpr ⟨hadmits, hcontent⟩
    have hordered : (done ++ [Element.mk k as' content]).Pairwise Ordered := by
      refine List.pairwise_append.mpr ⟨hdone, List.pairwise_singleton _ _, ?_⟩
      intro u hu t ht helse
      obtain rfl := List.mem_singleton.mp ht
      exact hlate u hu helse
    rw [List.nil_append, hname, step_finish_eq_ok] at hfinish
    have hleave := leave_frame as hlawful hwithin hordered r
    obtain rfl := Except.ok.inj (hleave.symm.trans hfinish)
    exact ⟨⟨by simpa using hwithin, by simpa using hlawful, hordered⟩, (Except.ok.inj hend).symm⟩
  · rintro ⟨⟨hwithin, hlawful, hordered⟩, rfl⟩
    have hwithin : k.Within kind := hwithin _ (List.mem_singleton_self _)
    have hlawful : (Element.mk k as' content).Lawful := hlawful _ (List.mem_singleton_self _)
    obtain ⟨hadmits, hcontent⟩ := lawful_iff.mp hlawful
    have hlate : ∀ u ∈ done, u.kind = .elseMark → k.isMark = false := by
      intro u hu
      exact (List.pairwise_append.mp hordered).2.2 u hu _ (List.mem_singleton_self _)
    refine ⟨_, ⟨_, _, ⟨hwithin, hlate, hadmits, rfl, rfl⟩, rfl⟩, _,
      (hinner k as' [] .nil _ _).mpr ⟨hcontent, rfl⟩, _, ?_, rfl⟩
    rw [List.nil_append, hname, step_finish_eq_ok]
    exact leave_frame as hlawful hwithin hordered r

theorem empty {tag : Xml.Tag} {k : Kind} {as' : List (String × String)}
    (htag : Tagged tag k as') (offset : Nat) :
    Fills [(offset, .empty tag)] [.mk k as' []] := by
  intro kind as done hdone r r'
  rw [run_empty]
  exact element htag nil offset offset kind as done hdone r r'

/-- **Elements are taken as a whole.** The induction is on how the tags form elements; inside an
element the statement is used for its content. -/
theorem of_forms {es : List (Nat × Xml.Event)} {ts : List Element} (h : Forms es ts) :
    Fills es ts := by
  induction h with
  | nil => exact nil
  | other _ ih => exact ih.other
  | @empty offset _ _ _ _ _ htag _ ih => exact (empty htag offset).append ih
  | @element offset offset' _ _ _ _ _ _ _ htag _ _ hinner ih =>
    rw [List.append_cons]
    exact (element htag hinner offset offset').append ih

end Fills

/-! ### Nesting -/

theorem tag_pushAction {f f' : Frame} {a : Action} {name : String}
    (h : f.pushAction a name = .ok f') : f'.tag = f.tag := by
  cases f with
  | entry b | exit b | transition tag t =>
    obtain rfl := Except.ok.inj h
    rfl
  | choice branches otherwise? =>
    cases otherwise? with
    | some b =>
      obtain rfl := Except.ok.inj h
      rfl
    | none =>
      rw [Frame.pushAction] at h
      split at h
      · obtain rfl := Except.ok.inj h
        rfl
      · cases h
  | _ => cases h

/-- An open element keeps its name, whatever it absorbs. -/
theorem tag_absorb {f f' child : Frame} (h : f.absorb child = .ok f') : f'.tag = f.tag := by
  rw [Frame.absorb.eq_def] at h
  split at h
  case h_4 | h_5 => exact tag_pushAction h
  case h_10 => cases h
  all_goals
    obtain rfl := Except.ok.inj h
    rfl

/-- The end of an element leaves the elements around it open, and they keep their names. So the
names of open elements can be followed through a run without looking at anything else. -/
theorem tags_leave {r r' : Reader} {f : Frame} (h : r.leave f = .ok r') :
    r'.stack.map Frame.tag = r.stack.map Frame.tag := by
  rw [leave.eq_def] at h
  split at h
  case h_6 =>
    split at h
    · rename_i parent rest hstack
      split at h
      · rename_i parent' habsorb
        obtain rfl := Except.ok.inj h
        simp [hstack, tag_absorb habsorb]
      · cases h
    · cases h
  all_goals
    obtain rfl := Except.ok.inj h
    rfl

end Reader

namespace Document

theorem Forms.append {es es' : List (Nat × Xml.Event)} {ts ts' : List Element} (h : Forms es ts)
    (h' : Forms es' ts') : Forms (es ++ es') (ts ++ ts') := by
  induction h with
  | nil => exact h'
  | other _ ih => exact .other ih
  | empty htag _ ih => exact .empty htag ih
  | element htag hinner _ _ ih =>
    rw [List.append_assoc, List.cons_append]
    exact .element htag hinner ih

/-- The events close the elements with these names, innermost first, and have whole elements in
between. It is what is left of a document in the middle of it. -/
def Closes : List String → List (Nat × Xml.Event) → Prop
  | [], es => ∃ ts, Forms es ts
  | name :: names, es => ∃ inner offset rest ts,
      es = inner ++ (offset, .finish name) :: rest ∧ Forms inner ts ∧ Closes names rest

/-- Whole elements may come before the end of an open one. -/
theorem Closes.append {names : List String} {es es' : List (Nat × Xml.Event)} {ts : List Element}
    (h : Forms es ts) (h' : Closes names es') : Closes names (es ++ es') := by
  cases names with
  | nil =>
    obtain ⟨ts', hts'⟩ := h'
    exact ⟨_, h.append hts'⟩
  | cons name names =>
    obtain ⟨inner, offset, rest, ts', rfl, hinner, hrest⟩ := h'
    exact ⟨es ++ inner, offset, rest, _, by rw [List.append_assoc], h.append hinner, hrest⟩

end Document

namespace Reader

/-- **What is read to the end of all open elements is properly nested.** The induction is on the
tags; the reader itself compares the name of an end tag with that of the element that it ends. -/
theorem closes_of_run {es : List (Nat × Xml.Event)} {r r' : Reader} (h : r.run es = .ok r')
    (hend : r'.stack = []) : Closes (r.stack.map Frame.tag) es := by
  induction es generalizing r with
  | nil =>
    obtain rfl := Except.ok.inj h
    rw [hend]
    exact ⟨[], .nil⟩
  | cons e es ih =>
    obtain ⟨offset, e⟩ := e
    cases e with
    | other =>
      exact .append (.other .nil) (ih h)
    | start tag =>
      obtain ⟨r₁, hstep, h⟩ := bind_eq_ok.mp h
      obtain ⟨f, r₂, henter, rfl⟩ := step_start_eq_ok.mp hstep
      obtain ⟨hstack, k, as, htag, rfl⟩ := enter_tagged henter
      -- the element that was opened here is closed first
      have hcloses := ih h
      simp only [opened, List.map_cons, Element.tag_frame, Element.kind_mk, ← htag.name,
        hstack] at hcloses
      obtain ⟨inner, offset', rest, content, rfl, hinner, hrest⟩ := hcloses
      have helement : Forms ((offset, .start tag) :: inner ++ [(offset', .finish tag.name)])
          [.mk k as content] := .element htag hinner .nil
      rw [← List.cons_append, List.append_cons]
      exact .append helement hrest
    | empty tag =>
      obtain ⟨r₁, hstep, h⟩ := bind_eq_ok.mp h
      obtain ⟨f, r₂, henter, hleave⟩ := step_empty_eq_ok.mp hstep
      obtain ⟨hstack, k, as, htag, rfl⟩ := enter_tagged henter
      have hcloses := ih h
      rw [tags_leave hleave, hstack] at hcloses
      exact .append (.empty htag .nil) hcloses
    | finish name =>
      obtain ⟨r₁, hstep, h⟩ := bind_eq_ok.mp h
      rw [step] at hstep
      split at hstep
      · rename_i f rest hstack
        split at hstep
        · rename_i htag
          have hcloses := ih h
          rw [tags_leave (causeIn_eq_ok.mp hstep)] at hcloses
          rw [hstack, List.map_cons, htag]
          exact ⟨[], offset, es, [], rfl, .nil, hcloses⟩
        · cases hstep
      · cases hstep

/-! ### Whole documents -/

/-- The root has been opened, and it has these attributes: the reader knows the name of the chart
and its initial state, and nothing else yet. -/
def titled (as : List (String × String)) : Reader :=
  { start with name? := some (value as "name"), initial? := as.lookup "initial" }

/-- What has been read at the end of a document. -/
def ofRoot (root : Element) : Reader :=
  let b := root.builder
  ⟨some b.name, b.initial?, b.data, b.declarations, b.states, []⟩

theorem gather_titled (as : List (String × String)) (content : List Element) :
    (titled as).gather content = ofRoot (.mk .root as content) := by
  simp [gather, titled, ofRoot, Element.builder, start]

/-- After the root there is nothing more to be read. -/
theorem run_after_root {es : List (Nat × Xml.Event)} {ts : List Element} (h : Forms es ts)
    {r r' : Reader} (hstack : r.stack = []) (hname : r.name?.isSome = true) :
    r.run es = .ok r' ↔ ts = [] ∧ r' = r := by
  have henter : ∀ tag, r.enter tag = unexpected tag := by
    intro tag
    simp [enter, hstack, Option.isNone_iff_eq_none, Option.isSome_iff_ne_none.mp hname]
  induction h with
  | nil => simp [run, eq_comm]
  | other _ ih => exact ih
  | empty => simp [run, step, henter, unexpected, causeIn]
  | element => simp [run, step, henter, unexpected, causeIn]

/-- The first start tag has to be that of the root. Nothing is open before it, and no other kind of
element is taken then. -/
theorem enter_start {tag : Xml.Tag} {k : Kind} {as : List (String × String)}
    (htag : Tagged tag k as) {f : Frame} {r : Reader} :
    start.enter tag = .ok (f, r) ↔ k = .root ∧ k.Admits as ∧ f = .root ∧ r = titled as := by
  constructor
  · intro h
    rw [enter] at h
    split at h
    · rename_i hstack
      cases hstack
    · split at h
      · rename_i hroot
        obtain ⟨hname, -⟩ := Bool.and_eq_true_iff.mp hroot
        obtain ⟨as', has', h⟩ := bind_eq_ok.mp h
        obtain ⟨hspelled, hrequired, hknown⟩ := attributes_eq_ok.mp has'
        have htag' : Tagged tag .root as' := ⟨of_decide_eq_true hname, hspelled⟩
        obtain ⟨rfl, rfl⟩ := htag.unique htag'
        obtain ⟨rfl, rfl⟩ := Prod.mk.inj (pure_eq_ok.mp h)
        exact ⟨rfl, ⟨hrequired, hknown, by simp⟩, rfl, rfl⟩
      · cases h
  · rintro ⟨rfl, ⟨hrequired, hknown, -⟩, rfl, rfl⟩
    have hname : tag.name = "scxml" := htag.name
    have has : attributes tag ["name"] ["initial", "version", "model_src", "xmlns", "datamodel"] =
        .ok as := attributes_eq_ok.mpr ⟨htag.attributes, hrequired, hknown⟩
    simp only [enter, start, hname]
    rw [has]
    rfl

/-- Of the elements of a document, the first is the root, and no other follows it. Before it there
may be anything that is no tag. -/
theorem run_first {tag : Xml.Tag} {k : Kind} {as : List (String × String)}
    (htag : Tagged tag k as) {inner es : List (Nat × Xml.Event)} {content ts : List Element}
    (hinner : Forms inner content) (hes : Forms es ts) (offset offset' : Nat) {r : Reader} :
    start.run ((offset, .start tag) :: inner ++ (offset', .finish tag.name) :: es) = .ok r ↔
      ts = [] ∧ k = .root ∧ (Element.mk k as content).Lawful ∧ r = ofRoot (.mk k as content) := by
  have hfills := Fills.of_forms hinner
  simp only [List.cons_append, run, run_append, bind_eq_ok, step_start_eq_ok, enter_start htag]
  constructor
  · rintro ⟨_, ⟨_, _, ⟨rfl, hadmits, rfl, rfl⟩, rfl⟩, r₂, hr₂, r₃, hfinish, hrest⟩
    obtain ⟨hcontent, rfl⟩ := (hfills .root as [] .nil _ _).mp hr₂
    have hname : tag.name = Frame.root.tag := htag.name
    rw [hname, gather_titled] at hfinish
    obtain rfl : ofRoot (.mk .root as content) = r₃ :=
      Except.ok.inj (step_finish_eq_ok.mp hfinish)
    -- nothing may follow the root
    obtain ⟨rfl, rfl⟩ := (run_after_root hes rfl rfl).mp hrest
    exact ⟨rfl, rfl, lawful_iff.mpr ⟨hadmits, hcontent⟩, rfl⟩
  · rintro ⟨rfl, rfl, hlawful, rfl⟩
    obtain ⟨hadmits, hcontent⟩ := lawful_iff.mp hlawful
    have hname : tag.name = Frame.root.tag := htag.name
    refine ⟨_, ⟨_, _, ⟨rfl, hadmits, rfl, rfl⟩, rfl⟩, _,
      (hfills .root as [] .nil _ _).mpr ⟨hcontent, rfl⟩, ofRoot (.mk .root as content), ?_, ?_⟩
    · rw [hname, gather_titled]
      exact step_finish_eq_ok.mpr rfl
    · exact (run_after_root hes rfl rfl).mpr ⟨rfl, rfl⟩

/-- The elements of a document are none at all, or one lawful root. A document without elements is
not finished by this: a chart without a name cannot be built. -/
theorem run_document {es : List (Nat × Xml.Event)} {ts : List Element} (h : Forms es ts)
    {r : Reader} :
    start.run es = .ok r ↔ ts = [] ∧ r = start ∨
      ∃ root : Element, ts = [root] ∧ root.kind = .root ∧ root.Lawful ∧ r = ofRoot root := by
  have hroot : ∀ {k : Kind} {as : List (String × String)} {content ts : List Element},
      (Element.mk k as content :: ts = [] ∧ r = start ∨
        ∃ root : Element, Element.mk k as content :: ts = [root] ∧ root.kind = .root ∧
          root.Lawful ∧ r = ofRoot root) ↔
      ts = [] ∧ k = .root ∧ (Element.mk k as content).Lawful ∧ r = ofRoot (.mk k as content) := by
    intro k as content ts
    simp only [List.cons.injEq, reduceCtorEq, false_and, false_or]
    constructor
    · rintro ⟨root, ⟨rfl, rfl⟩, hkind, hlawful, hr⟩
      exact ⟨rfl, hkind, hlawful, hr⟩
    · rintro ⟨rfl, hkind, hlawful, hr⟩
      exact ⟨_, ⟨rfl, rfl⟩, hkind, hlawful, hr⟩
  induction h with
  | nil => simp [run, eq_comm]
  | other _ ih => exact ih
  | @empty offset _ _ _ _ _ htag hes _ =>
    rw [hroot, run_empty]
    exact run_first htag .nil hes offset offset
  | @element offset offset' _ _ _ _ _ _ _ htag hinner hes _ _ =>
    rw [hroot]
    exact run_first htag hinner hes offset offset'

/-- **The reader accepts the lawful documents**, and reads the chart that a document spells. In one
direction the tags are read as elements, in the other the elements are found in the tags. -/
theorem run_finish_eq_ok {es : List (Nat × Xml.Event)} {c : Chart} :
    (start.run es >>= finish) = .ok c ↔ ∃ root : Element, Forms es [root] ∧ root.kind = .root ∧
      root.Lawful ∧ root.chart.check = .ok () ∧ c = root.chart := by
  rw [bind_eq_ok]
  constructor
  · rintro ⟨r, hrun, hfinish⟩
    obtain ⟨hstack, name, hname, hbuild⟩ := finish_eq_ok.mp hfinish
    obtain ⟨ts, hforms⟩ := closes_of_run hrun hstack
    rcases (run_document hforms).mp hrun with ⟨-, rfl⟩ | ⟨root, rfl, hkind, hlawful, rfl⟩
    · cases hname
    · obtain rfl := Option.some.inj hname
      exact ⟨root, hforms, hkind, hlawful, Builder.build_eq_ok.mp hbuild⟩
  · rintro ⟨root, hforms, hkind, hlawful, hchart⟩
    refine ⟨ofRoot root, (run_document hforms).mpr (.inr ⟨root, rfl, hkind, hlawful, rfl⟩), ?_⟩
    exact finish_eq_ok.mpr ⟨rfl, _, rfl, Builder.build_eq_ok.mpr hchart⟩

end Reader

namespace Document

/-- The events are those of a document that obeys the grammar, and the document spells the chart,
which is well formed. -/
def Spells (es : List (Nat × Xml.Event)) (c : Chart) : Prop :=
  ∃ root : Element, Forms es [root] ∧ root.kind = .root ∧ root.Lawful ∧
    root.chart.check = .ok () ∧ c = root.chart

/-- A text is read if all of it can be cut into events, and these are the events of a document. -/
theorem read_eq_ok {text : String} {c : Chart} :
    read text = .ok c ↔ (Xml.scan text).fault? = none ∧ Spells (Xml.scan text).events c := by
  rw [Spells, ← Reader.run_finish_eq_ok, read]
  rcases (Xml.scan text).fault? with _ | ⟨offset, f⟩
  · simp
  · simp [bind_eq_ok]

end Document

/-- **Documents are read by their grammar.** Of all streams of events, the reader accepts those of
lawful trees, and it reads the chart that such a tree spells. A text is read if moreover all of it
can be cut into events. Elements of the kinds that have nothing in them are then empty. As the
reader is a function, a document spells one chart at most. -/
theorem document_read_iff :
    (∀ es c, (Reader.start.run es >>= Reader.finish) = .ok c ↔ Spells es c) ∧
    (∀ text c, Document.read text = .ok c ↔
      (Xml.scan text).fault? = none ∧ Spells (Xml.scan text).events c) ∧
    ∀ e : Element, e.Lawful → e.kind.isLeaf = true → e.content = [] := by
  refine ⟨?_, ?_, ?_⟩
  · intro es c
    exact Reader.run_finish_eq_ok
  · intro text c
    exact Document.read_eq_ok
  · intro e he
    exact he.content_eq_nil

/-- A tag with attributes as they are written. -/
def Sample.tag (name attributes : String) : Xml.Tag := ⟨name, attributes.toList⟩

/-- The document of a chart with one state, and these tags in what it does when it is left. -/
def Sample.leaving (body : List Xml.Event) : List (Nat × Xml.Event) :=
  let before : List Xml.Event :=
    [.start (tag "scxml" "name='a'"), .start (tag "state" "id='s'"), .start (tag "onexit" "")]
  let after : List Xml.Event := [.finish "onexit", .finish "state", .other, .finish "scxml"]
  (before ++ body ++ after).map fun e => (0, e)

/-- A choice inside a branch of a choice, with both ways to write a mark. -/
def Sample.nested : List (Nat × Xml.Event) :=
  leaving [.start (tag "if" "cond='p'"), .empty (tag "send" "event='x'"),
    .empty (tag "elseif" "cond='q'"), .start (tag "if" "cond='r'"), .start (tag "else" ""),
    .finish "else", .empty (tag "send" "event='y'"), .finish "if", .finish "if"]

/-- A mark after the mark of the last block. -/
def Sample.late : List (Nat × Xml.Event) :=
  leaving [.start (tag "if" "cond='p'"), .empty (tag "else" ""), .empty (tag "elseif" "cond='q'"),
    .finish "if"]

open Sample in
/-- A choice inside a branch is accepted, and read with its blocks where they belong. A mark after
the mark of the last block is refused. -/
theorem document_read_iff_sample :
    (∃ c, (Reader.start.run nested >>= Reader.finish) = .ok c ∧ Spells nested c ∧
      c.states.map (·.exit) ==
        [[.choose [("p", [.send "x" []]), ("q", [.choose [("r", [])] [.send "y" []]])] []]]) ∧
    ∀ c, ¬ Spells late c := by
  constructor
  · have hread : (Reader.start.run nested >>= Reader.finish).toOption.any (fun c =>
        c.states.map (·.exit) ==
          [[.choose [("p", [.send "x" []]), ("q", [.choose [("r", [])] [.send "y" []]])] []]]) =
            true := by decide +kernel
    obtain ⟨c, hread, hexit⟩ := exists_of_any hread
    exact ⟨c, hread, (document_read_iff.1 _ c).mp hread, hexit⟩
  · intro c hspells
    have hnone : (Reader.start.run late >>= Reader.finish).toOption.isNone = true := by
      decide +kernel
    rw [(document_read_iff.1 _ c).mpr hspells] at hnone
    cases hnone

end ChartNet
