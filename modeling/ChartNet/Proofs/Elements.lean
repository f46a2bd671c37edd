import ChartNet.Document.Reader
import ChartNet.Document.Writer
import ChartNet.Proofs.Markup

/-!
# Elements that are read again

A reader goes through the tags of a document with a stack of open elements. `Reads` says what it has
become after the tags of some written elements. Inside an element, only the innermost frame changes
(`Turns`): the elements around it, and what was read before, are not looked at.
-/

namespace ChartNet

open Xml (Attribute Written IsName)

/-- An action goes to the last of the branches, whatever stands before it. -/
theorem Frame.pushBranch_concat (a : Action) (init : List (String × Block)) (condition : String)
    (b : Block) :
    pushBranch a (init ++ [(condition, b)]) = some (init ++ [(condition, b ++ [a])]) := by
  induction init with
  | nil => rfl
  | cons c init ih =>
    cases init with
    | nil => rfl
    | cons d init =>
      rw [List.cons_append, List.cons_append, pushBranch, ← List.cons_append, ih]
      · rfl
      · simp

namespace Reader

/-! ### Attributes -/

/-- Attributes with these names can be written on a tag and are what the tag wants. For the tags of
a document this can be decided, as the names are all given. -/
def Admits (required optional keys : List String) : Prop :=
  (∀ key ∈ keys, IsName key ∧ key ∈ required ++ optional) ∧ keys.Nodup ∧
    ∀ key ∈ required, key ∈ keys

instance (required optional keys : List String) : Decidable (Admits required optional keys) :=
  inferInstanceAs (Decidable (_ ∧ _))

/-- Attributes that the tag wants are read as they were written. All kinds of tags get their
attributes through this. -/
theorem attributes_of_admits {name : String} {required optional keys : List String}
    {as : List Attribute} (hkeys : as.map (·.1) = keys) (h : Admits required optional keys) :
    attributes ⟨name, as.flatMap Xml.attributeText⟩ required optional = .ok as := by
  subst hkeys
  obtain ⟨hall, hnodup, hrequired⟩ := h
  have hall := List.forall_mem_map.mp hall
  exact attributes_written (fun a ha => (hall a ha).1) hnodup (fun a ha => (hall a ha).2) hrequired

/-! ### Tags one after the other -/

theorem causeIn_eq_ok {α : Type} {circumstance : String} {x : Except Cause α} {a : α} :
    causeIn circumstance x = .ok a ↔ x = .ok a := by
  cases x <;> simp [causeIn]

/-- A document comes to its end with all elements closed, and a chart that can be built. -/
theorem finish_eq_ok {r : Reader} {c : Chart} :
    r.finish = .ok c ↔ r.stack = [] ∧ ∃ name, r.name? = some name ∧
      Builder.build ⟨name, r.initial?, r.data, r.declarations, r.states⟩ = .ok c := by
  rw [finish]
  rcases hstack : r.stack with _ | ⟨f, rest⟩
  · rcases hname : r.name? with _ | name
    · simp
    · rcases hbuild : Builder.build ⟨name, r.initial?, r.data, r.declarations, r.states⟩ with e | c'
      · simp [hbuild]
      · simp [hbuild]
  · simp

/-- The tags are those of whole elements, and a reader `r` that takes them becomes `r'`. What
matters of a stream of events is only what they are, not where in the text they stand. -/
structure Reads (r : Reader) (ws : List Written) (r' : Reader) : Prop where
  /-- the tags are those of whole elements -/
  forest : Xml.Forest ws
  /-- from the one reader they lead to the other, wherever they stand in a document -/
  run_eq {es : List (Nat × Xml.Event)} (h : es.map (·.2) = ws.map Written.event) :
    r.run es = .ok r'

/-- Tags are read one after the other. -/
theorem run_append (r : Reader) (es es' : List (Nat × Xml.Event)) :
    r.run (es ++ es') = r.run es >>= fun r => r.run es' := by
  induction es generalizing r with
  | nil => rfl
  | cons e es ih =>
    obtain ⟨offset, e⟩ := e
    rw [List.cons_append, run, run]
    rcases r.step offset e with f | r
    · rfl
    · exact ih r

namespace Reads

variable {r r' r'' : Reader}

theorem nil (r : Reader) : Reads r [] r where
  forest := .nil
  run_eq h := by
    obtain rfl := List.map_eq_nil_iff.mp h
    rfl

theorem eq_of_nil (h : Reads r [] r') : r = r' := Except.ok.inj (@h.run_eq [] rfl)

/-- Elements that follow each other are read one after the other. -/
theorem append {ws ws' : List Written} (h : Reads r ws r') (h' : Reads r' ws' r'') :
    Reads r (ws ++ ws') r'' where
  forest := h.forest.append h'.forest
  run_eq hes := by
    rw [List.map_append, List.map_eq_append_iff] at hes
    obtain ⟨es, es', rfl, hes, hes'⟩ := hes
    rw [run_append, h.run_eq hes, ok_bind, h'.run_eq hes']

/-- Where each item of a list is read as one more item, the list is read as a whole. -/
theorem each {α : Type} {hold : List α → Reader} {spell : α → List Written} {xs : List α}
    (h : ∀ x ∈ xs, ∀ done, Reads (hold done) (spell x) (hold (done ++ [x]))) (done : List α) :
    Reads (hold done) (xs.flatMap spell) (hold (done ++ xs)) := by
  induction xs generalizing done with
  | nil =>
    rw [List.append_nil]
    exact .nil _
  | cons x xs ih =>
    obtain ⟨hx, hxs⟩ := List.forall_mem_cons.mp h
    rw [List.flatMap_cons, List.append_cons]
    exact (hx done).append (ih hxs _)

end Reads

/-! ### Whole elements -/

/-- One more element is open. -/
def opened (r : Reader) (f : Frame) : Reader := { r with stack := f :: r.stack }

/-- A start tag opens an element, if it may stand there. -/
theorem step_start_eq_ok {r r' : Reader} {offset : Nat} {tag : Xml.Tag} :
    r.step offset (.start tag) = .ok r' ↔
      ∃ f r₁, r.enter tag = .ok (f, r₁) ∧ r' = r₁.opened f := by
  rw [step, causeIn_eq_ok, bind_eq_ok]
  constructor
  · rintro ⟨⟨f, r₁⟩, henter, h⟩
    exact ⟨f, r₁, henter, (pure_eq_ok.mp h).symm⟩
  · rintro ⟨f, r₁, henter, rfl⟩
    exact ⟨(f, r₁), henter, rfl⟩

theorem step_empty_eq_ok {r r' : Reader} {offset : Nat} {tag : Xml.Tag} :
    r.step offset (.empty tag) = .ok r' ↔
      ∃ f r₁, r.enter tag = .ok (f, r₁) ∧ r₁.leave f = .ok r' := by
  rw [step, causeIn_eq_ok, bind_eq_ok, Prod.exists]

theorem step_finish_eq_ok {r r' : Reader} {f : Frame} {offset : Nat} :
    (r.opened f).step offset (.finish f.tag) = .ok r' ↔ r.leave f = .ok r' := by
  simp only [step, opened, if_true, causeIn_eq_ok]

/-- The tag can be written, and where it is a start tag, it opens the element `f`. The reader may
change as well: the root takes the name of the chart from its tag. -/
structure Enters (r : Reader) (name : String) (as : List Attribute) (f : Frame) (r' : Reader) :
    Prop where
  /-- the name can be written -/
  isName : IsName name
  /-- the names of the attributes can be written -/
  keys : ∀ a ∈ as, IsName a.1
  /-- the tag opens the element -/
  enter_eq : r.enter ⟨name, as.flatMap Xml.attributeText⟩ = .ok (f, r')

/-- To enter an element, it is enough to know what comes of its attributes as a list. Which text
they were read from does not matter further. -/
theorem Enters.of_attributes {r r' : Reader} {f : Frame} {name : String} {as : List Attribute}
    (required optional keys : List String) (hname : IsName name) (hkeys : as.map (·.1) = keys)
    (hadmits : Admits required optional keys)
    (h : attributes ⟨name, as.flatMap Xml.attributeText⟩ required optional = .ok as →
      r.enter ⟨name, as.flatMap Xml.attributeText⟩ = .ok (f, r')) : Enters r name as f r' where
  isName := hname
  keys a ha := (hadmits.1 a.1 (hkeys ▸ List.mem_map_of_mem ha)).1
  enter_eq := h (attributes_of_admits hkeys hadmits)

section

variable {r r₁ r₂ r' : Reader} {f f' : Frame} {name : String} {as : List Attribute}
  {content : List Written}

theorem step_start {offset : Nat} (h : Enters r name as f r') :
    r.step offset (Written.start name as).event = .ok (r'.opened f) :=
  step_start_eq_ok.mpr ⟨f, r', h.enter_eq, rfl⟩

theorem step_empty {offset : Nat} (h : Enters r name as f r₁) (hleave : r₁.leave f = .ok r') :
    r.step offset (Written.empty name as).event = .ok r' :=
  step_empty_eq_ok.mpr ⟨f, r₁, h.enter_eq, hleave⟩

theorem step_finish {offset : Nat} (htag : f.tag = name) (hleave : r.leave f = .ok r') :
    (r.opened f).step offset (Written.finish name).event = .ok r' := by
  subst htag
  exact step_finish_eq_ok.mpr hleave

namespace Reads

/-- An element without content is one tag. -/
theorem empty (h : Enters r name as f r₁) (hleave : r₁.leave f = .ok r') :
    Reads r [.empty name as] r' where
  forest := .empty h.isName h.keys .nil
  run_eq {es} hes := by
    obtain ⟨⟨offset, e⟩, rfl, he⟩ := List.map_eq_singleton_iff.mp hes
    obtain rfl : e = (Written.empty name as).event := he
    rw [run, step_empty h hleave]
    rfl

/-- An element with content is a start tag, the content and an end tag. -/
theorem spanned (h : Enters r name as f r₁)
    (hcontent : Reads (r₁.opened f) content (r₂.opened f')) (htag : f'.tag = name)
    (hleave : r₂.leave f' = .ok r') : Reads r (.start name as :: content ++ [.finish name]) r' where
  forest := by
    rw [List.cons_append]
    exact .element h.isName h.keys hcontent.forest .nil
  run_eq {es} hes := by
    rw [List.cons_append, List.map_cons, List.map_append, List.map_singleton,
      List.map_eq_cons_iff] at hes
    obtain ⟨⟨offset, e⟩, es, rfl, he, hes⟩ := hes
    obtain ⟨inner, last, rfl, hinner, hlast⟩ := List.map_eq_append_iff.mp hes
    obtain ⟨⟨offset', e'⟩, rfl, he'⟩ := List.map_eq_singleton_iff.mp hlast
    obtain rfl : e = (Written.start name as).event := he
    obtain rfl : e' = (Written.finish name).event := he'
    rw [run, step_start h, ok_bind, run_append, hcontent.run_eq hinner, ok_bind, run,
      step_finish htag hleave]
    rfl

/-- An element without content is written in another way than one with content, and read in the
same way. -/
theorem element (h : Enters r name as f r₁)
    (hcontent : Reads (r₁.opened f) content (r₁.opened f')) (htag : f'.tag = name)
    (hleave : r₁.leave f' = .ok r') : Reads r (ChartNet.element name as content) r' := by
  rw [ChartNet.element]
  split
  · -- nothing was read inside, so that the element is left as it was opened
    rename_i hnil
    obtain rfl := List.isEmpty_iff.mp hnil
    obtain rfl : f = f' := (List.cons.inj (congrArg Reader.stack hcontent.eq_of_nil)).1
    exact .empty h hleave
  · exact .spanned h hcontent htag hleave

end Reads

end

/-! ### Inside an element -/

/-- The tag can be written, and it opens the element `f` inside `parent`. -/
def Opens (parent : Frame) (name : String) (as : List Attribute) (f : Frame) : Prop :=
  ∀ r : Reader, Enters (r.opened parent) name as f (r.opened parent)

/-- The tags are those of whole elements, and inside `f` they turn it into `f'`. The rest of the
reader stays as it is, so that this can be used wherever `f` is open. -/
def Turns (f : Frame) (ws : List Written) (f' : Frame) : Prop :=
  ∀ r : Reader, Reads (r.opened f) ws (r.opened f')

/-- To open an element inside another one, it is enough to know what comes of its attributes as a
list. -/
theorem Opens.of_attributes {parent f : Frame} {name : String} {as : List Attribute}
    (required optional keys : List String) (hname : IsName name) (hkeys : as.map (·.1) = keys)
    (hadmits : Admits required optional keys)
    (h : attributes ⟨name, as.flatMap Xml.attributeText⟩ required optional = .ok as →
      openInside ⟨name, as.flatMap Xml.attributeText⟩ parent = .ok f) :
    Opens parent name as f := by
  refine fun r => .of_attributes required optional keys hname hkeys hadmits fun hattributes => ?_
  simp only [enter, opened]
  rw [h hattributes]
  rfl

/-- An element ends inside the one around it if that one absorbs it. -/
theorem leave_opened {parent parent' f : Frame} (h : parent.absorb f = .ok parent') (r : Reader) :
    (r.opened parent).leave f = .ok (r.opened parent') := by
  cases f with
  | root => cases parent <;> cases h
  | dataModel => cases parent <;> cases h
  | datum d => cases parent <;> cases h
  | declaration d => cases parent <;> cases h
  | state s => cases parent <;> cases h
  | _ => simp only [leave, opened, h]

namespace Turns

variable {f f' f'' g g' : Frame} {ws ws' content : List Written} {name : String}
  {as : List Attribute}

/-- Without tags an open element stays as it is. -/
theorem nil (f : Frame) : Turns f [] f := fun _ => .nil _

theorem append (h : Turns f ws f') (h' : Turns f' ws' f'') : Turns f (ws ++ ws') f'' :=
  fun r => (h r).append (h' r)

theorem each {α : Type} {hold : List α → Frame} {spell : α → List Written} {xs : List α}
    (h : ∀ x ∈ xs, ∀ done, Turns (hold done) (spell x) (hold (done ++ [x]))) (done : List α) :
    Turns (hold done) (xs.flatMap spell) (hold (done ++ xs)) :=
  fun r => @Reads.each α (fun done => r.opened (hold done)) spell xs
    (fun x hx done => h x hx done r) done

/-- An element without content is absorbed as it was opened. -/
theorem empty (h : Opens f name as g) (habsorb : f.absorb g = .ok f') :
    Turns f [.empty name as] f' :=
  fun r => .empty (h r) (leave_opened habsorb r)

theorem spanned (h : Opens f name as g) (hcontent : Turns g content g') (htag : g'.tag = name)
    (habsorb : f.absorb g' = .ok f') : Turns f (.start name as :: content ++ [.finish name]) f' :=
  fun r => .spanned (h r) (hcontent _) htag (leave_opened habsorb r)

/-- An element is absorbed as its content has left it, in whichever of the two ways it is
written. -/
theorem element (h : Opens f name as g) (hcontent : Turns g content g') (htag : g'.tag = name)
    (habsorb : f.absorb g' = .ok f') : Turns f (ChartNet.element name as content) f' :=
  fun r => .element (h r) (hcontent _) htag (leave_opened habsorb r)

end Turns

end Reader

end ChartNet
