import ChartNet.Proofs.Grammar
import ChartNet.Proofs.Outcome

/-!
# Start tags that are accepted

A start tag is accepted for its name, for the element around it and for its attributes. Here the
three are taken apart: the attributes are those that its text spells, if an element of its kind may
have them (`Reader.attributes_eq_ok`), and the element around it counts only by the kinds that it
takes (`Document.Takes`). `Reader.openInside_eq_ok` puts them together.

The frame of an element is a function of the element as far as it has been read
(`Document.Element.frame`), so that a stack of frames is a path in a tree.
-/

namespace ChartNet

open Document

/-! ### Attributes -/

namespace Xml

theorem length_dropWhile_le (p : Char → Bool) (cs : List Char) :
    (cs.dropWhile p).length ≤ cs.length :=
  (List.dropWhile_suffix p).length_le

/-- A value takes up at least its quotation marks. -/
theorem attributeValue_shorter {cs value rest : List Char}
    (h : attributeValue cs = .ok (value, rest)) : rest.length < cs.length := by
  rw [attributeValue] at h
  have hblank := length_dropWhile_le isSpace cs
  split at h
  · cases h
  · rename_i q after heq
    rw [heq, List.length_cons] at hblank
    split at h
    · split at h
      · rename_i c rest' hquoted
        have hquote := length_dropWhile_le (· != q) after
        rw [hquoted, List.length_cons] at hquote
        obtain ⟨-, rfl⟩ := Prod.mk.inj (Except.ok.inj h)
        omega
      · cases h
    · cases h

/-- Every attribute takes up some of the text. This is why the length of the text is fuel enough for
all of them. -/
theorem nextAttribute_shorter {seen : List String} {cs : List Char} {a : RawAttribute}
    (h : nextAttribute seen cs = .ok (some a)) : a.rest.length < cs.length := by
  rw [nextAttribute] at h
  have hblank := length_dropWhile_le isSpace cs
  split at h
  · cases h
  · rename_i c after heq
    rw [heq, List.length_cons] at hblank
    split at h
    · rename_i afterKey hkey
      have hkeys := length_dropWhile_le isSpace (after.dropWhile (!endsKey ·))
      have hkeys' := length_dropWhile_le (!endsKey ·) after
      rw [hkey, List.length_cons] at hkeys
      dsimp only at h
      split at h
      · cases h
      · obtain ⟨⟨value, rest⟩, hvalue, ha⟩ := map_eq_ok.mp h
        obtain rfl := Option.some.inj ha
        have := attributeValue_shorter hvalue
        change rest.length < cs.length
        omega
    · cases h

/-- A text spells its attributes in one way only. The next attribute is a function of the text, so
there is no choice at any step. -/
theorem Attributed.unique {seen : List String} {cs : List Char} {as as' : List (String × String)}
    (h : Attributed seen cs as) (h' : Attributed seen cs as') : as = as' := by
  induction h generalizing as' with
  | nil hnone =>
    cases h' with
    | nil _ => rfl
    | cons hsome _ _ =>
      rw [hnone] at hsome
      cases hsome
  | cons hsome hvalue _ ih =>
    cases h' with
    | nil hnone =>
      rw [hsome] at hnone
      cases hnone
    | cons hsome' hvalue' has' =>
      rw [hsome] at hsome'
      obtain rfl := Option.some.inj (Except.ok.inj hsome')
      rw [hvalue] at hvalue'
      obtain rfl := Except.ok.inj hvalue'
      rw [ih has']

end Xml

namespace Reader

/-- The fuel is enough for all attributes, as each takes up some of the text. Running out of fuel
therefore never shows, and the loop finds what the relation describes. -/
theorem attributesFrom_eq_ok {wanted : List String} {fuel : Nat} {cs : List Char}
    {found all : List (String × String)} (hfuel : cs.length < fuel) :
    attributesFrom wanted fuel found cs = .ok all ↔
      ∃ as, Xml.Attributed (found.map (·.1)) cs as ∧ (∀ key ∈ as.map (·.1), key ∈ wanted) ∧
        all = found ++ as := by
  induction fuel generalizing found cs with
  | zero => omega
  | succ fuel ih =>
    rw [attributesFrom]
    constructor
    · intro h
      split at h
      · cases h
      · rename_i hnone
        obtain rfl := Except.ok.inj h
        exact ⟨[], .nil hnone, by simp, by simp⟩
      · rename_i a hsome
        split at h
        · cases h
        · rename_i hwanted
          split at h
          · cases h
          · rename_i value hvalue
            -- the text gets shorter with each attribute, so that the fuel lasts
            have hshorter := Xml.nextAttribute_shorter hsome
            obtain ⟨as, has, hkeys, rfl⟩ := (ih (by omega)).mp h
            rw [List.map_append] at has
            refine ⟨(a.key, value) :: as, .cons hsome hvalue has, ?_, by simp⟩
            exact List.forall_mem_cons.mpr ⟨by simpa using hwanted, hkeys⟩
    · rintro ⟨as, has, hkeys, rfl⟩
      cases has with
      | nil hnone => simp [hnone]
      | @cons _ _ a value as hsome hvalue has =>
        obtain ⟨hwanted, hkeys⟩ := List.forall_mem_cons.mp hkeys
        have hshorter := Xml.nextAttribute_shorter hsome
        have hmore : attributesFrom wanted fuel (found ++ [(a.key, value)]) a.rest =
            .ok (found ++ (a.key, value) :: as) := by
          refine (ih (by omega)).mpr ⟨as, ?_, hkeys, by simp⟩
          rwa [List.map_append]
        simp only [hsome, hvalue]
        rw [if_neg (by simpa using hwanted), hmore]

/-- **The attributes of a tag are those that it spells**, if all the required ones are among them
and none that is not wanted. They are looked for one after the other, and the first that goes wrong
stops the reading. -/
theorem attributes_eq_ok {tag : Xml.Tag} {required optional : List String}
    {as : List (String × String)} :
    attributes tag required optional = .ok as ↔ Xml.Attributed [] tag.attributes as ∧
      (∀ key ∈ required, key ∈ as.map (·.1)) ∧
        ∀ key ∈ as.map (·.1), key ∈ required ++ optional := by
  -- no required key is missing when the search for one finds nothing
  have hrequired : ∀ found : List (String × String),
      (required.find? fun key => (found.lookup key).isNone) = none ↔
        ∀ key ∈ required, key ∈ found.map (·.1) := by
    intro found
    rw [List.find?_eq_none]
    refine forall₂_congr fun key _ => ?_
    rw [Option.isNone_iff_eq_none, List.lookup_eq_none_iff, List.mem_map]
    constructor
    · intro h
      by_contra hnone
      exact h fun a ha => by simpa using fun hkey => hnone ⟨a, ha, hkey.symm⟩
    · rintro ⟨a, ha, rfl⟩ h
      simpa using h a ha
  rw [attributes, bind_eq_ok]
  constructor
  · rintro ⟨found, hfound, h⟩
    obtain ⟨as', has, hknown, rfl⟩ := (attributesFrom_eq_ok (Nat.lt_succ_self _)).mp hfound
    split at h
    · cases h
    · rename_i hnone
      obtain rfl := pure_eq_ok.mp h
      exact ⟨has, (hrequired _).mp hnone, hknown⟩
  · rintro ⟨has, hall, hknown⟩
    refine ⟨as, (attributesFrom_eq_ok (Nat.lt_succ_self _)).mpr ⟨as, has, hknown, rfl⟩, ?_⟩
    simp only [(hrequired as).mpr hall]
    rfl

end Reader

namespace Document

open Reader (value attributes)

/-! ### Names -/

/-- All the kinds of elements. -/
def Kind.all : List Kind :=
  [.root, .dataModel, .datum, .timer, .endpoint .publisher, .endpoint .subscriber,
    .endpoint .server, .endpoint .client, .state, .entry, .exit, .transition, .reception .tick,
    .reception .message, .reception .request, .reception .response, .assign, .send,
    .emission .message, .emission .request, .emission .response, .choice, .elseIf, .elseMark,
    .param, .field]

/-- Each kind is found under its name. All of them are gone through. -/
theorem Kind.find?_tag (kind : Kind) : all.find? (·.tag == kind.tag) = some kind := by
  cases kind with
  | endpoint side => cases side <;> decide
  | reception kind => cases kind <;> decide
  | emission kind => cases kind <;> decide
  | _ => decide

/-- An element's name tells what it is. No two kinds share a name, so that the reader could go by
kinds instead of names. -/
theorem Kind.tag_injective {kind kind' : Kind} (h : kind.tag = kind'.tag) : kind = kind' := by
  have hfound := kind.find?_tag
  rw [h, kind'.find?_tag] at hfound
  exact (Option.some.inj hfound).symm

theorem Kind.tag_inj {kind kind' : Kind} : kind.tag = kind'.tag ↔ kind = kind' :=
  ⟨Kind.tag_injective, congrArg Kind.tag⟩

/-- A tag is that of an element of one kind only, with one list of attributes. -/
theorem Tagged.unique {tag : Xml.Tag} {kind kind' : Kind} {as as' : List (String × String)}
    (h : Tagged tag kind as) (h' : Tagged tag kind' as') : kind = kind' ∧ as = as' := by
  obtain rfl := Kind.tag_injective (h.name.symm.trans h'.name)
  refine ⟨rfl, ?_⟩
  have has := h.attributes
  have has' := h'.attributes
  split at has
  · rename_i hattributes
    rw [if_pos hattributes] at has'
    exact has.unique has'
  · rename_i hattributes
    rw [if_neg hattributes] at has'
    rw [has, has']

/-! ### Frames -/

/-- The frame of an element whose content has been read so far. It is what the reader keeps of an
open element, so that reading can be followed by growing an element. -/
def Element.frame : Element → Frame
  | mk .root _ _ => .root
  | mk .dataModel _ _ => .dataModel
  | e@(mk .datum _ _) => .datum e.datum
  | mk .timer as _ => .declaration (.timer (value as "name") ((rate? as).getD 0))
  | mk (.endpoint side) as _ =>
    .declaration (.endpoint side (value as side.key) (value as "type"))
  | mk .state as content => .state
    ⟨value as "id", content.flatMap entry, content.flatMap exit, content.filterMap transition?⟩
  | mk .entry _ content => .entry (content.map action)
  | mk .exit _ content => .exit (content.map action)
  | mk .transition as content =>
    let events := ((as.lookup "event").map Text.words).getD []
    .transition Kind.transition.tag
      ⟨value as "target", .events events, as.lookup "cond", content.map action⟩
  | mk (.reception kind) as content =>
    let trigger := .reception kind (value as kind.key)
    .transition kind.tag ⟨value as "target", trigger, as.lookup "cond", content.map action⟩
  | e@(mk .assign _ _) | e@(mk .send _ _) | e@(mk (.emission _) _ _) => .action e.kind.tag e.action
  | mk .choice as content =>
    let p := parts content
    .choice ((value as "cond", p.first) :: p.branches) p.otherwise?
  | mk .elseIf as _ => .elseIf (value as "cond")
  | mk .elseMark _ _ => .elseMark
  | e@(mk .param _ _) | e@(mk .field _ _) => .param e.kind.tag e.param

theorem Element.tag_frame (e : Element) : e.frame.tag = e.kind.tag := by
  obtain ⟨kind, as, content⟩ := e
  cases kind with
  | endpoint side => cases side <;> rfl
  | _ => rfl

/-- An element of the kind is begun, if its attributes are right. For a timer the rate must be
right, too. -/
def Kind.opening (kind : Kind) (tag : Xml.Tag) : Except Cause Frame :=
  if kind.hasAttributes then do
    let as ← attributes tag kind.required kind.optional
    if kind = .timer ∧ (rate? as).isNone then
      .error (.document (.invalidValue "rate_hz" (value as "rate_hz")))
    else return (Element.mk kind as []).frame
  else .ok (Element.mk kind [] []).frame

/-- An element is begun exactly if its tag spells attributes that the kind admits, and the frame it
opens with is that of the element with these attributes and no content yet. The lemmas below, on
what may be opened where, find the kind by the name of the tag and leave the attributes to this
one. -/
theorem opening_eq_ok {kind : Kind} {tag : Xml.Tag} (hname : tag.name = kind.tag) {f : Frame} :
    kind.opening tag = .ok f ↔
      ∃ as, Tagged tag kind as ∧ kind.Admits as ∧ f = (Element.mk kind as []).frame := by
  rw [Kind.opening]
  by_cases hattributes : kind.hasAttributes = true
  · rw [if_pos hattributes, bind_eq_ok]
    refine exists_congr fun as => ?_
    rw [Reader.attributes_eq_ok]
    constructor
    · rintro ⟨⟨has, hrequired, hknown⟩, h⟩
      split at h
      · cases h
      · rename_i hrate
        obtain rfl := pure_eq_ok.mp h
        refine ⟨⟨hname, by rwa [if_pos hattributes]⟩, ⟨hrequired, hknown, ?_⟩, rfl⟩
        intro htimer
        simpa [htimer, Option.isSome_iff_ne_none] using hrate
    · rintro ⟨⟨-, has⟩, ⟨hrequired, hknown, hrate⟩, rfl⟩
      rw [if_pos hattributes] at has
      refine ⟨⟨has, hrequired, hknown⟩, ?_⟩
      rw [if_neg]
      · rfl
      · rintro ⟨htimer, hnone⟩
        have := hrate htimer
        simp [Option.isNone_iff_eq_none.mp hnone] at this
  · have hadmits : kind.Admits [] := by
      cases kind <;> first
        | exact absurd rfl hattributes
        | exact ⟨by simp [Kind.required], by simp, by simp⟩
    rw [if_neg hattributes]
    constructor
    · intro h
      exact ⟨[], ⟨hname, by rw [if_neg hattributes]⟩, hadmits, (Except.ok.inj h).symm⟩
    · rintro ⟨as, ⟨-, has⟩, -, rfl⟩
      rw [if_neg hattributes] at has
      rw [has]

/-! ### The element around -/

/-- The kind is that of an action. -/
def Kind.isAction : Kind → Bool
  | assign | send | emission _ | choice => true
  | _ => false

/-- The kinds that an open element takes. A choice whose last block has begun takes no mark. What an
action takes depends on the name of its element, and not on the action. -/
def Takes : Frame → Kind → Prop
  | .root, kind => kind.Within .root
  | .dataModel, kind => kind = .datum
  | .state _, kind => kind.Within .state
  | .entry _, kind | .exit _, kind | .transition .., kind | .choice _ (some _), kind =>
    kind.isAction = true
  | .choice _ none, kind => kind.isAction = true ∨ kind.isMark = true
  | .action name _, kind => kind = .param ∧ name = Kind.send.tag ∨
    kind = .field ∧ ∃ k : Emission, name = (Kind.emission k).tag
  | _, _ => False

end Document

namespace Reader

theorem openTimer_eq (tag : Xml.Tag) : openTimer tag = Kind.opening .timer tag := by
  have hattributes : Kind.timer.hasAttributes = true := rfl
  rw [openTimer, Kind.opening, if_pos hattributes]
  refine bind_congr fun as => ?_
  rcases hrate : Decimal.read? (Text.trim (value as "rate_hz")) with _ | rate
  · simp [rate?, hrate]
  · simp [rate?, hrate, Element.frame]

/-- What is opened in the root is an element of a kind that belongs there. -/
theorem openInRoot_eq_ok {tag : Xml.Tag} {f : Frame} :
    openInRoot tag = .ok f ↔
      ∃ kind : Kind, tag.name = kind.tag ∧ kind.Within .root ∧ kind.opening tag = .ok f := by
  rw [openInRoot.eq_def]
  constructor
  · intro h
    split at h
    · rename_i hname
      exact ⟨.dataModel, hname, rfl, h⟩
    · rename_i hname
      exact ⟨.timer, hname, rfl, openTimer_eq tag ▸ h⟩
    · rename_i hname
      exact ⟨.endpoint .publisher, hname, rfl, h⟩
    · rename_i hname
      exact ⟨.endpoint .subscriber, hname, rfl, h⟩
    · rename_i hname
      exact ⟨.endpoint .server, hname, rfl, h⟩
    · rename_i hname
      exact ⟨.endpoint .client, hname, rfl, h⟩
    · rename_i hname
      exact ⟨.state, hname, rfl, h⟩
    · cases h
  · rintro ⟨kind, hname, hwithin, h⟩
    rw [hname]
    cases kind with
    | endpoint side => cases side <;> exact h
    | timer => exact openTimer_eq tag ▸ h
    | dataModel | state => exact h
    | field => exact absurd hwithin (by simp [Kind.Within])
    | _ => cases hwithin

/-- What is opened in a state is an element of a kind that belongs there. -/
theorem openInState_eq_ok {tag : Xml.Tag} {f : Frame} :
    openInState tag = .ok f ↔
      ∃ kind : Kind, tag.name = kind.tag ∧ kind.Within .state ∧ kind.opening tag = .ok f := by
  rw [openInState.eq_def]
  constructor
  · intro h
    split at h
    · rename_i hname
      exact ⟨.entry, hname, rfl, h⟩
    · rename_i hname
      exact ⟨.exit, hname, rfl, h⟩
    · rename_i hname
      exact ⟨.transition, hname, rfl, h⟩
    · rename_i hname
      exact ⟨.reception .tick, hname, rfl, h⟩
    · rename_i hname
      exact ⟨.reception .message, hname, rfl, h⟩
    · rename_i hname
      exact ⟨.reception .request, hname, rfl, h⟩
    · rename_i hname
      exact ⟨.reception .response, hname, rfl, h⟩
    · cases h
  · rintro ⟨kind, hname, hwithin, h⟩
    rw [hname]
    cases kind with
    | reception kind => cases kind <;> exact h
    | entry | exit | transition => exact h
    | field => exact absurd hwithin (by simp [Kind.Within])
    | _ => cases hwithin

/-- What is opened among actions is an action. -/
theorem openAction_eq_ok {tag : Xml.Tag} {f : Frame} :
    openAction tag = .ok f ↔
      ∃ kind : Kind, tag.name = kind.tag ∧ kind.isAction = true ∧ kind.opening tag = .ok f := by
  rw [openAction.eq_def]
  constructor
  · intro h
    split at h
    · rename_i hname
      exact ⟨.assign, hname, rfl, h⟩
    · rename_i hname
      exact ⟨.send, hname, rfl, h⟩
    · rename_i hname
      exact ⟨.emission .message, hname, rfl, h⟩
    · rename_i hname
      exact ⟨.emission .request, hname, rfl, h⟩
    · rename_i hname
      exact ⟨.emission .response, hname, rfl, h⟩
    · rename_i hname
      exact ⟨.choice, hname, rfl, h⟩
    · cases h
  · rintro ⟨kind, hname, haction, h⟩
    rw [hname]
    cases kind with
    | emission kind => cases kind <;> exact h
    | assign | send | choice => exact h
    | _ => cases haction

/-- A choice takes the marks besides actions, as long as its last block has not begun. -/
theorem openInChoice_eq_ok {tag : Xml.Tag} {f : Frame} :
    openInChoice tag = .ok f ↔
      ∃ kind : Kind, tag.name = kind.tag ∧ (kind.isAction = true ∨ kind.isMark = true) ∧
        kind.opening tag = .ok f := by
  rw [openInChoice.eq_def]
  constructor
  · intro h
    split at h
    · rename_i hname
      exact ⟨.elseIf, hname, .inr rfl, h⟩
    · rename_i hname
      exact ⟨.elseMark, hname, .inr rfl, h⟩
    · obtain ⟨kind, hname, haction, h⟩ := openAction_eq_ok.mp h
      exact ⟨kind, hname, .inl haction, h⟩
  · rintro ⟨kind, hname, haction | hmark, h⟩
    · have hopen := openAction_eq_ok.mpr ⟨kind, hname, haction, h⟩
      rw [hname]
      cases kind with
      | emission kind => cases kind <;> exact hopen
      | assign | send | choice => exact hopen
      | _ => cases haction
    · rw [hname]
      cases kind with
      | elseIf | elseMark => exact h
      | _ => cases hmark

/-- Elements of one kind, and of no other. -/
theorem openOnly_eq_ok (kind : Kind) {tag : Xml.Tag} {f : Frame} :
    (if tag.name = kind.tag then kind.opening tag else unexpected tag) = .ok f ↔
      ∃ k : Kind, tag.name = k.tag ∧ k = kind ∧ k.opening tag = .ok f := by
  constructor
  · intro h
    split at h
    · rename_i hname
      exact ⟨kind, hname, rfl, h⟩
    · cases h
  · rintro ⟨k, hname, rfl, h⟩
    rw [if_pos hname, h]

/-- The name of an action's element tells what it takes: parameters, fields or nothing. The action
itself is not looked at. -/
theorem openInAction_eq_ok {tag : Xml.Tag} {name : String} {f : Frame} :
    openInAction tag name = .ok f ↔ ∃ kind : Kind, tag.name = kind.tag ∧
      (kind = .param ∧ name = Kind.send.tag ∨
        kind = .field ∧ ∃ k : Emission, name = (Kind.emission k).tag) ∧
          kind.opening tag = .ok f := by
  rw [openInAction.eq_def]
  constructor
  · intro h
    split at h
    · obtain ⟨kind, hname, rfl, h⟩ := (openOnly_eq_ok .param).mp h
      exact ⟨.param, hname, .inl ⟨rfl, rfl⟩, h⟩
    · obtain ⟨kind, hname, rfl, h⟩ := (openOnly_eq_ok .field).mp h
      exact ⟨.field, hname, .inr ⟨rfl, .message, rfl⟩, h⟩
    · obtain ⟨kind, hname, rfl, h⟩ := (openOnly_eq_ok .field).mp h
      exact ⟨.field, hname, .inr ⟨rfl, .request, rfl⟩, h⟩
    · obtain ⟨kind, hname, rfl, h⟩ := (openOnly_eq_ok .field).mp h
      exact ⟨.field, hname, .inr ⟨rfl, .response, rfl⟩, h⟩
    · cases h
  · rintro ⟨kind, hname, ⟨rfl, rfl⟩ | ⟨rfl, k, rfl⟩, h⟩
    · exact (openOnly_eq_ok .param).mpr ⟨.param, hname, rfl, h⟩
    · have hopen := (openOnly_eq_ok .field).mpr ⟨.field, hname, rfl, h⟩
      cases k <;> exact hopen

/-- **A tag opens an element inside another one**: its name is that of a kind which the other one
takes, and its attributes are those of the kind. With `opening_eq_ok` this tells all about start
tags below the root. -/
theorem openInside_eq_ok {tag : Xml.Tag} {parent f : Frame} :
    openInside tag parent = .ok f ↔ ∃ (kind : Kind) (as : List (String × String)),
      Takes parent kind ∧ Tagged tag kind as ∧ kind.Admits as ∧
        f = (Element.mk kind as []).frame := by
  -- first the kind, frame by frame; the attributes are the same for every parent
  have hkind : openInside tag parent = .ok f ↔
      ∃ kind : Kind, tag.name = kind.tag ∧ Takes parent kind ∧ kind.opening tag = .ok f := by
    cases parent with
    | root => exact openInRoot_eq_ok
    | state s => exact openInState_eq_ok
    | entry b | exit b | transition name t => exact openAction_eq_ok
    | choice branches otherwise? =>
      cases otherwise? with
      | none => exact openInChoice_eq_ok
      | some b => exact openAction_eq_ok
    | dataModel => exact openOnly_eq_ok .datum
    | action name a => exact openInAction_eq_ok
    | _ => simp [openInside, Takes, unexpected]
  rw [hkind]
  constructor
  · rintro ⟨kind, hname, htakes, h⟩
    obtain ⟨as, htagged, hadmits, hf⟩ := (opening_eq_ok hname).mp h
    exact ⟨kind, as, htakes, htagged, hadmits, hf⟩
  · rintro ⟨kind, as, htakes, htagged, hadmits, hf⟩
    exact ⟨kind, htagged.name, htakes, (opening_eq_ok htagged.name).mpr ⟨as, htagged, hadmits, hf⟩⟩

end Reader

end ChartNet
