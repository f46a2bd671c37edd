import ChartNet.Proofs.Recognition

/-!
# Stacks of open elements

A start tag is checked against the innermost open element, but its content is given to that element
only at the end tag, when both have changed. Moreover the first goes by the name that the frame of
that element keeps, and the second by what the frame holds. `Frame.SitsOn` says which element may be
open in which one, as far as both have been read, and that the names which are kept are right;
`Frame.Stacked` says that this holds all through a stack.

On such a stack the end of an element always succeeds (`Reader.leave_stacked`): its content goes to
one slot of the reader, which is a list of the chart or a part of the element around, and nothing
else is changed (`Reader.Gains`). The slots hold all the content there is (`Reader.eq_of_held`).
So a run over events whose end tags match can fail only where a tag is to be entered
(`Reader.Nested.run`).
-/

namespace ChartNet

open Document

/-- The action is a choice. -/
def Action.isChoice : Action → Bool
  | choose .. => true
  | _ => false

/-- Only a sent event has the name of one. -/
theorem Action.eq_send_of_tag {a : Action} (h : a.tag = Kind.send.tag) :
    ∃ event ps, a = .send event ps := by
  cases a with
  | send event ps => exact ⟨event, ps, rfl⟩
  | assign location expr => cases @Kind.tag_injective .assign .send h
  | choose branches otherwise => cases @Kind.tag_injective .choice .send h
  | emit kind resource ps => cases @Kind.tag_injective (.emission kind) .send h

/-- Only an emission has the name of one, and the name tells which. -/
theorem Action.eq_emit_of_tag {a : Action} {kind : Emission}
    (h : a.tag = (Kind.emission kind).tag) : ∃ resource ps, a = .emit kind resource ps := by
  cases a with
  | emit kind' resource ps =>
    cases @Kind.tag_injective (.emission kind') (.emission kind) h
    exact ⟨resource, ps, rfl⟩
  | assign location expr => cases @Kind.tag_injective .assign (.emission kind) h
  | choose branches otherwise => cases @Kind.tag_injective .choice (.emission kind) h
  | send event ps => cases @Kind.tag_injective .send (.emission kind) h

namespace Frame

/-! ### Stacks -/

/-- Actions belong directly in the element. -/
def holdsActions : Frame → Bool
  | entry _ | exit _ | transition .. | choice .. => true
  | _ => false

/-- The first element may be open directly in the second one. Marks come in a choice as long as its
last block has not begun. A choice has a frame of its own kind, and it has a branch. Where the name
of an element is kept, it is the name for what the element is. -/
inductive SitsOn : Frame → Frame → Prop
  /-- a data model in the root -/
  | dataModel : SitsOn dataModel root
  /-- a variable in a data model -/
  | datum (d : Datum) : SitsOn (datum d) dataModel
  /-- a declaration in the root -/
  | declaration (d : Declaration) : SitsOn (declaration d) root
  /-- a state in the root -/
  | state (s : State) : SitsOn (state s) root
  /-- what is done on entering, in a state -/
  | entry (b : Block) (s : State) : SitsOn (entry b) (state s)
  /-- what is done on leaving, in a state -/
  | exit (b : Block) (s : State) : SitsOn (exit b) (state s)
  /-- a transition in a state, under the name that goes with its trigger -/
  | transition {tag : String} {t : Transition} (htag : tag = t.trigger.tag) (s : State) :
      SitsOn (transition tag t) (state s)
  /-- an action that is no choice, where actions belong, under the name that goes with it -/
  | action {tag : String} {a : Action} {parent : Frame} (htag : tag = a.tag)
      (ha : a.isChoice = false) (hparent : parent.holdsActions = true) :
      SitsOn (action tag a) parent
  /-- a choice, which has a branch from the start, where actions belong -/
  | choice {branches : List (String × Block)} {otherwise? : Option Block} {parent : Frame}
      (hbranches : branches ≠ []) (hparent : parent.holdsActions = true) :
      SitsOn (choice branches otherwise?) parent
  /-- the mark of a further branch, as long as the last block is not begun -/
  | elseIf (condition : String) (branches : List (String × Block)) :
      SitsOn (elseIf condition) (choice branches none)
  /-- the mark of the last block, as long as that is not begun -/
  | elseMark (branches : List (String × Block)) : SitsOn elseMark (choice branches none)
  /-- a parameter in an event that is sent -/
  | param (p : Param) (event : String) (ps : List Param) :
      SitsOn (param "param" p) (action "send" (.send event ps))
  /-- a field in an emission -/
  | field (p : Param) (kind : Emission) (resource : String) (ps : List Param) :
      SitsOn (param "field" p) (action kind.tag (.emit kind resource ps))

/-- The open elements, innermost first: the outermost is the chart, and each other one sits on the
next. Nothing is said about what they hold, but for the names that are kept with them. -/
inductive Stacked : List Frame → Prop
  /-- nothing is open -/
  | nil : Stacked []
  /-- the root is open -/
  | root : Stacked [root]
  /-- one more element is open, and it sits on the one that was opened last -/
  | cons {f parent : Frame} {rest : List Frame} (h : f.SitsOn parent)
      (hrest : Stacked (parent :: rest)) : Stacked (f :: parent :: rest)

/-! ### Content -/

/-- A piece of content, such as an element can bring to the one around it. The marks of a choice
bring something as well. -/
inductive Item where
  /-- a variable -/
  | datum (d : Datum)
  /-- a declaration -/
  | declaration (d : Declaration)
  /-- a state -/
  | state (s : State)
  /-- a transition -/
  | transition (t : Transition)
  /-- an action, choices included -/
  | action (a : Action)
  /-- the condition of a further branch -/
  | condition (c : String)
  /-- the mark of the last block -/
  | last
  /-- a parameter or field -/
  | param (p : Param)

/-- What an element brings to the element around it, or to the chart, once it ends. The root brings
nothing. -/
def content : Frame → List Item
  | root | dataModel => []
  | datum d => [.datum d]
  | declaration d => [.declaration d]
  | state s => [.state s]
  | entry b | exit b => b.map .action
  | transition _ t => [.transition t]
  | action _ a => [.action a]
  | choice branches otherwise? => [.action (.choose branches (otherwise?.getD []))]
  | elseIf condition => [.condition condition]
  | elseMark => [.last]
  | param _ p => [.param p]

/-- Where an open element keeps content. What it does not have a place for, it does not keep. -/
inductive Slot where
  /-- what a state does on entering, or the content of that element itself -/
  | entry
  /-- what a state does on leaving, or the content of that element itself -/
  | exit
  /-- the transitions of a state -/
  | transitions
  /-- the body of a transition -/
  | body
  /-- the conditions of a choice, in order -/
  | conditions
  /-- the block of the branch with this number -/
  | branch (i : Nat)
  /-- the last block of a choice -/
  | otherwise
  /-- the parameters or fields of an action -/
  | params
deriving DecidableEq

/-- What an open element keeps where. -/
def held : Frame → Slot → List Item
  | state s, .entry => s.entry.map .action
  | state s, .exit => s.exit.map .action
  | state s, .transitions => s.transitions.map .transition
  | entry b, .body | exit b, .body => b.map .action
  | transition _ t, .body => t.body.map .action
  | choice branches _, .conditions => branches.map fun b => .condition b.1
  | choice branches _, .branch i => (branches[i]?.elim [] Prod.snd).map .action
  | choice _ (some b), .otherwise => .last :: b.map .action
  | action _ (.send _ ps), .params | action _ (.emit _ _ ps), .params => ps.map .param
  | _, _ => []

/-- The element without the content that it keeps: its name and its attributes. -/
def shell : Frame → Frame
  | state s => state ⟨s.id, [], [], []⟩
  | entry _ => entry []
  | exit _ => exit []
  | transition tag t => transition tag { t with body := [] }
  | choice .. => choice [] none
  | action tag (.send event _) => action tag (.send event [])
  | action tag (.emit kind resource _) => action tag (.emit kind resource [])
  | f => f

/-- The element has these items more in one slot, and is otherwise the same. With `eq_of_held` this
determines what it has become. -/
structure Gains (f : Frame) (slot : Slot) (items : List Item) (f' : Frame) : Prop where
  /-- it is the same element -/
  shell : f'.shell = f.shell
  /-- the slot has the items at its end, and all other slots have what they had -/
  held : ∀ s, f'.held s = f.held s ++ if s = slot then items else []

theorem eq_of_map_action {b b' : Block} (h : b.map Item.action = b'.map Item.action) : b = b' :=
  List.map_injective_iff.mpr (fun _ _ => Item.action.inj) h

theorem eq_of_map_param {ps ps' : List Param} (h : ps.map Item.param = ps'.map Item.param) :
    ps = ps' :=
  List.map_injective_iff.mpr (fun _ _ => Item.param.inj) h

/-- A choice is given by its conditions and its blocks. The branches have to be put together again
from both. -/
theorem eq_of_held_choice {bs bs' : List (String × Block)} {o o' : Option Block}
    (h : ∀ s, (choice bs o).held s = (choice bs' o').held s) : bs = bs' ∧ o = o' := by
  constructor
  · have hconditions : bs.map Prod.fst = bs'.map Prod.fst := by
      refine List.map_injective_iff.mpr (fun _ _ => Item.condition.inj) ?_
      rw [List.map_map, List.map_map]
      exact h .conditions
    have hlength : bs.length = bs'.length := by simpa using congrArg List.length hconditions
    -- branch by branch: the condition from the one slot, the block from its own
    refine List.ext_getElem hlength fun i hi hi' => Prod.ext ?_ ?_
    · simpa [hi, hi'] using congrArg (fun cs => cs[i]?) hconditions
    · have hbody := h (.branch i)
      simp only [held, List.getElem?_eq_getElem hi, List.getElem?_eq_getElem hi',
        Option.elim_some] at hbody
      exact eq_of_map_action hbody
  · have hotherwise := h .otherwise
    cases o with
    | none =>
      cases o' with
      | none => rfl
      | some b' => cases hotherwise
    | some b =>
      cases o' with
      | none => cases hotherwise
      | some b' => exact congrArg some (eq_of_map_action (List.cons.inj hotherwise).2)

/-- An action is given by what it is without its parameters, and by these. -/
theorem eq_of_held_action {tag tag' : String} {a a' : Action}
    (hshell : (action tag a).shell = (action tag' a').shell)
    (hheld : ∀ s, (action tag a).held s = (action tag' a').held s) :
    action tag a = action tag' a' := by
  cases a with
  | assign location expr | choose branches otherwise =>
    cases a' with
    | assign | choose => exact hshell
    | send | emit => cases hshell
  | send event ps =>
    cases a' with
    | send event' ps' =>
      obtain ⟨rfl, hevent⟩ := action.inj hshell
      obtain rfl : event = event' := (Action.send.inj hevent).1
      rw [eq_of_map_param (hheld .params)]
    | _ => cases hshell
  | emit kind resource ps =>
    cases a' with
    | emit kind' resource' ps' =>
      obtain ⟨rfl, hresource⟩ := action.inj hshell
      obtain ⟨rfl, rfl, -⟩ := Action.emit.inj hresource
      rw [eq_of_map_param (hheld .params)]
    | _ => cases hshell

/-- An element is what it is without content together with the content that it keeps. So two
elements can be compared slot by slot, and `Gains` determines its result. -/
theorem eq_of_held {f g : Frame} (hshell : f.shell = g.shell) (hheld : ∀ s, f.held s = g.held s) :
    f = g := by
  cases f with
  | state s =>
    cases g with
    | state s' =>
      obtain ⟨id, entry, exit, transitions⟩ := s
      obtain ⟨id', entry', exit', transitions'⟩ := s'
      obtain rfl : id = id' := (State.mk.inj (state.inj hshell)).1
      obtain rfl : entry = entry' := eq_of_map_action (hheld .entry)
      obtain rfl : exit = exit' := eq_of_map_action (hheld .exit)
      obtain rfl : transitions = transitions' :=
        List.map_injective_iff.mpr (fun _ _ => Item.transition.inj) (hheld .transitions)
      rfl
    | action tag a => cases a <;> cases hshell
    | _ => cases hshell
  | entry b =>
    cases g with
    | entry b' => rw [eq_of_map_action (hheld .body)]
    | action tag a => cases a <;> cases hshell
    | _ => cases hshell
  | exit b =>
    cases g with
    | exit b' => rw [eq_of_map_action (hheld .body)]
    | action tag a => cases a <;> cases hshell
    | _ => cases hshell
  | transition tag t =>
    cases g with
    | transition tag' t' =>
      obtain ⟨target, trigger, guard?, body⟩ := t
      obtain ⟨target', trigger', guard?', body'⟩ := t'
      obtain ⟨rfl, hfields⟩ := transition.inj hshell
      obtain ⟨htarget, htrigger, hguard, -⟩ := Transition.mk.inj hfields
      obtain rfl : target = target' := htarget
      obtain rfl : trigger = trigger' := htrigger
      obtain rfl : guard? = guard?' := hguard
      obtain rfl : body = body' := eq_of_map_action (hheld .body)
      rfl
    | action tag a => cases a <;> cases hshell
    | _ => cases hshell
  | choice bs o =>
    cases g with
    | choice bs' o' =>
      obtain ⟨rfl, rfl⟩ := eq_of_held_choice hheld
      rfl
    | action tag a => cases a <;> cases hshell
    | _ => cases hshell
  | action tag a =>
    cases g with
    | action tag' a' => exact eq_of_held_action hshell hheld
    | _ => cases a <;> cases hshell
  | _ =>
    -- these elements keep nothing
    cases g with
    | action tag a => cases a <;> cases hshell
    | state | entry | exit | transition | choice => cases hshell
    | _ => exact hshell

/-! ### Elements that end -/

/-- The element gains these items in one slot by becoming the other one, and sits where it did. -/
structure Grows (f : Frame) (slot : Slot) (items : List Item) (f' : Frame) : Prop
    extends Gains f slot items f' where
  /-- it can stay where it is -/
  sitsOn : ∀ g, f.SitsOn g → f'.SitsOn g

theorem sitsOn_state {s s' : State} {g : Frame} (h : (state s).SitsOn g) : (state s').SitsOn g := by
  cases h
  exact .state s'

/-- An action sits where it sat before, as long as it goes by the same name. -/
theorem sitsOn_action {tag : String} {a a' : Action} (htag : a'.tag = a.tag)
    (ha : a'.isChoice = false) {g : Frame} (h : (action tag a).SitsOn g) :
    (action tag a').SitsOn g := by
  cases h with
  | action htag' _ hparent => exact .action (htag'.trans htag.symm) ha hparent

theorem sitsOn_choice {branches branches' : List (String × Block)} {o o' : Option Block}
    (hne : branches' ≠ []) {g : Frame} (h : (choice branches o).SitsOn g) :
    (choice branches' o').SitsOn g := by
  cases h with
  | choice _ hparent => exact .choice hne hparent

/-- A further branch has the next number. -/
theorem body_append (bs : List (String × Block)) (b : String × Block) (i : Nat) :
    (bs ++ [b])[i]?.elim [] Prod.snd = if i = bs.length then b.2 else bs[i]?.elim [] Prod.snd := by
  rcases Nat.lt_trichotomy i bs.length with hlt | rfl | hgt
  · simp [List.getElem?_append_left hlt, hlt.ne]
  · simp
  · have hnone : (bs ++ [b])[i]? = none := List.getElem?_eq_none (by simp; omega)
    simp [hnone, hgt.ne', hgt.le]

/-- The last branch of a choice gains an action. The conditions and the other branches are as
before. -/
theorem grows_branch (bs : List (String × Block)) (condition : String) (body : Block) (a : Action) :
    (choice (bs ++ [(condition, body)]) none).Grows (.branch bs.length) [.action a]
      (choice (bs ++ [(condition, body ++ [a])]) none) where
  shell := rfl
  held s := by
    cases s with
    | branch i =>
      by_cases hi : i = bs.length
      · simp [held, hi]
      · simp [held, body_append, hi]
    | _ => simp [held]
  sitsOn _ := sitsOn_choice (by simp)

/-- An action goes to the block that was begun last. This is the last block of a choice if it is
begun, and otherwise its last branch; elements that are no choices have one block only. -/
theorem pushAction_grows {parent : Frame} (hparent : parent.holdsActions = true)
    (hbranches : ∀ branches otherwise?, parent = choice branches otherwise? → branches ≠ [])
    (a : Action) (name : String) :
    ∃ slot parent', parent.pushAction a name = .ok parent' ∧
      parent.Grows slot [.action a] parent' := by
  cases parent with
  | entry b | exit b =>
    refine ⟨.body, _, rfl, ⟨rfl, ?_⟩, ?_⟩
    · intro s
      cases s <;> simp [held]
    · intro g hg
      cases hg
      constructor
  | transition tag t =>
    refine ⟨.body, _, rfl, ⟨rfl, ?_⟩, ?_⟩
    · intro s
      cases s <;> simp [held]
    · intro g hg
      cases hg with
      | transition htag s =>
        refine .transition ?_ s
        exact htag
  | choice branches otherwise? =>
    have hne := hbranches branches otherwise? rfl
    cases otherwise? with
    | some b =>
      refine ⟨.otherwise, _, rfl, ⟨rfl, ?_⟩, fun _ => sitsOn_choice hne⟩
      intro s
      cases s <;> simp [held]
    | none =>
      -- without a last block the action goes to the last branch, and there is one
      obtain ⟨bs, ⟨condition, body⟩, rfl⟩ := (List.eq_nil_or_concat' branches).resolve_left hne
      refine ⟨_, _, ?_, grows_branch bs condition body a⟩
      rw [pushAction, pushBranch_concat]
  | _ => cases hparent

/-- A choice has a branch from the start, so that there is a block that was begun last. -/
theorem Stacked.branches_ne_nil {branches : List (String × Block)} {otherwise? : Option Block}
    {rest : List Frame} (h : Stacked (choice branches otherwise? :: rest)) : branches ≠ [] := by
  cases h with
  | cons h _ =>
    cases h with
    | choice hbranches _ => exact hbranches

/-- The name that is kept with an action is the name of its element. -/
theorem Stacked.tag_action {tag : String} {a : Action} {rest : List Frame}
    (h : Stacked (action tag a :: rest)) : tag = a.tag := by
  cases h with
  | cons h _ =>
    cases h with
    | action htag _ _ => exact htag

/-- The element goes to the chart itself when it ends. -/
def isChartPart : Frame → Bool
  | root | dataModel | datum _ | declaration _ | state _ => true
  | _ => false

/-- **An element that ends is taken** by the one around it, whatever has been read in both. Its
content goes to one slot of that element, behind what is there. -/
theorem Stacked.absorb {f parent : Frame} {rest : List Frame} (h : Stacked (f :: parent :: rest))
    (hf : f.isChartPart = false) :
    ∃ slot parent', parent.absorb f = .ok parent' ∧ parent.Grows slot f.content parent' := by
  cases h with
  | cons h hrest =>
    -- the actions of a choice go to its last branch, which the choice has had since it was opened
    have hbranches : ∀ branches otherwise?, parent = choice branches otherwise? →
        branches ≠ [] := by
      rintro branches otherwise? rfl
      exact hrest.branches_ne_nil
    cases h with
    | dataModel | datum | declaration | state => cases hf
    | entry b s =>
      refine ⟨.entry, _, rfl, ⟨rfl, ?_⟩, fun _ => sitsOn_state⟩
      intro s
      cases s <;> simp [held, content]
    | exit b s =>
      refine ⟨.exit, _, rfl, ⟨rfl, ?_⟩, fun _ => sitsOn_state⟩
      intro s
      cases s <;> simp [held, content]
    | transition _ s =>
      refine ⟨.transitions, _, rfl, ⟨rfl, ?_⟩, fun _ => sitsOn_state⟩
      intro s
      cases s <;> simp [held, content]
    | @action tag a parent _ ha hparent =>
      obtain ⟨slot, parent', hpush, hgrows⟩ := pushAction_grows hparent hbranches a tag
      refine ⟨slot, parent', ?_, hgrows⟩
      rw [← hpush]
      cases parent <;> rfl
    | @choice branches otherwise? parent _ hparent =>
      obtain ⟨slot, parent', hpush, hgrows⟩ :=
        pushAction_grows hparent hbranches (.choose branches (otherwise?.getD [])) "if"
      refine ⟨slot, parent', ?_, hgrows⟩
      rw [← hpush]
      cases parent <;> rfl
    | elseIf condition branches =>
      refine ⟨.conditions, _, rfl, ⟨rfl, ?_⟩, fun _ => sitsOn_choice (by simp)⟩
      intro s
      cases s with
      | branch i =>
        by_cases hi : i = branches.length
        · simp [held, hi]
        · simp [held, body_append, hi]
      | _ => simp [held, content]
    | elseMark branches =>
      refine ⟨.otherwise, _, rfl, ⟨rfl, ?_⟩, fun _ => sitsOn_choice hrest.branches_ne_nil⟩
      intro s
      cases s <;> simp [held, content]
    | param p event ps =>
      refine ⟨.params, _, rfl, ⟨rfl, ?_⟩, fun _ => sitsOn_action (by rfl) rfl⟩
      intro s
      cases s <;> simp [held, content]
    | field p kind resource ps =>
      refine ⟨.params, _, rfl, ⟨rfl, ?_⟩, fun _ => sitsOn_action (by rfl) rfl⟩
      intro s
      cases s <;> simp [held, content]

theorem SitsOn.isChartPart {f : Frame} (h : f.SitsOn root) : f.isChartPart = true := by
  cases h with
  | action _ _ hparent | choice _ hparent => cases hparent
  | _ => rfl

theorem Stacked.tail {f : Frame} {rest : List Frame} (h : Stacked (f :: rest)) : Stacked rest := by
  cases h with
  | root => exact .nil
  | cons _ hrest => exact hrest

/-- A stack stays in order when its top gains something. The root gains nothing, since what ends in
it goes to the chart. -/
theorem Stacked.of_grows {parent parent' : Frame} {rest : List Frame} {slot : Slot}
    {items : List Item} (h : Stacked (parent :: rest)) (hroot : parent ≠ .root)
    (hgrows : parent.Grows slot items parent') : Stacked (parent' :: rest) := by
  cases h with
  | root => exact absurd rfl hroot
  | cons hsits hrest => exact .cons (hgrows.sitsOn _ hsits) hrest

/-! ### Elements that begin -/

theorem sitsOn_of_isAction {kind : Kind} (h : kind.isAction = true) {parent : Frame}
    (hparent : parent.holdsActions = true) (as : List (String × String)) :
    (Element.mk kind as []).frame.SitsOn parent := by
  cases kind with
  | assign | send | emission k => exact .action rfl rfl hparent
  | choice => exact .choice (by simp) hparent
  | _ => cases h

/-- **An element sits on the one that takes its kind.** An action takes kinds by the name that is
kept with it, and this is the name of the action. -/
theorem Stacked.sitsOn_of_takes {parent : Frame} {rest : List Frame}
    (hparent : Stacked (parent :: rest)) {kind : Kind} (h : Takes parent kind)
    (as : List (String × String)) : (Element.mk kind as []).frame.SitsOn parent := by
  cases parent with
  | root =>
    cases kind with
    | dataModel => exact .dataModel
    | timer | endpoint side => exact .declaration _
    | state => exact .state _
    | field => exact absurd h (by simp [Takes, Kind.Within])
    | _ => cases h
  | dataModel =>
    obtain rfl : kind = .datum := h
    exact .datum _
  | state s =>
    cases kind with
    | entry => exact .entry _ s
    | exit => exact .exit _ s
    | transition | reception k =>
      refine .transition ?_ s
      rfl
    | field => exact absurd h (by simp [Takes, Kind.Within])
    | _ => cases h
  | entry b | exit b | transition tag t => exact sitsOn_of_isAction h rfl as
  | choice branches otherwise? =>
    cases otherwise? with
    | some b => exact sitsOn_of_isAction h rfl as
    | none =>
      rcases h with haction | hmark
      · exact sitsOn_of_isAction haction rfl as
      · cases kind with
        | elseIf => exact .elseIf _ branches
        | elseMark => exact .elseMark branches
        | _ => cases hmark
  | action name a =>
    -- the kept name decides what is taken, and agrees with the action that has it
    have hname := hparent.tag_action
    rcases h with ⟨rfl, hsend⟩ | ⟨rfl, k, hemission⟩
    · obtain ⟨event, ps, rfl⟩ := Action.eq_send_of_tag (hname.symm.trans hsend)
      rw [hname]
      exact .param _ event ps
    · obtain ⟨resource, ps, rfl⟩ := Action.eq_emit_of_tag (hname.symm.trans hemission)
      rw [hname]
      exact .field _ k resource ps
  | _ => cases h

end Frame

namespace Reader

open ChartNet.Frame (Item Stacked)

/-! ### Readers -/

/-- Where a reader keeps content: for the chart, or in the innermost open element. -/
inductive Slot where
  /-- the variables of the chart -/
  | data
  /-- the declarations of the chart -/
  | declarations
  /-- the states of the chart -/
  | states
  /-- a slot of the innermost open element -/
  | inner (slot : Frame.Slot)
deriving DecidableEq

/-- What a reader keeps where. -/
def held (r : Reader) : Slot → List Item
  | .data => r.data.map .datum
  | .declarations => r.declarations.map .declaration
  | .states => r.states.map .state
  | .inner slot =>
    match r.stack with
    | [] => []
    | f :: _ => f.held slot

/-- The reader without the content that it keeps. -/
def shell (r : Reader) : Reader :=
  let stack := match r.stack with
    | [] => []
    | f :: rest => f.shell :: rest
  ⟨r.name?, r.initial?, [], [], [], stack⟩

/-- The reader has these items more in one slot, and is otherwise the same. -/
structure Gains (r : Reader) (slot : Slot) (items : List Item) (r' : Reader) : Prop where
  /-- the chart has the same name and initial state, and the same elements are open -/
  shell : r'.shell = r.shell
  /-- the slot has the items at its end, and all other slots have what they had -/
  held : ∀ s, r'.held s = r.held s ++ if s = slot then items else []

/-- The element, which is no longer among the open ones, is given up. The reader gains its content
in one slot, and that is all that happens to it. -/
def Receives (r : Reader) (f : Frame) : Prop :=
  ∃ slot r', r.leave f = .ok r' ∧ ∀ r'', r.Gains slot f.content r'' ↔ r'' = r'

/-- A reader is what it is without content together with the content that it keeps, in the chart and
in the innermost open element. The other open elements belong to what it is without content. -/
theorem eq_of_held {r r' : Reader} (hshell : r.shell = r'.shell)
    (hheld : ∀ s, r.held s = r'.held s) : r = r' := by
  obtain ⟨name?, initial?, data, declarations, states, stack⟩ := r
  obtain ⟨name?', initial?', data', declarations', states', stack'⟩ := r'
  obtain ⟨rfl, rfl, -, -, -, hstack⟩ := Reader.mk.inj hshell
  have hdata : data = data' :=
    List.map_injective_iff.mpr (fun _ _ => Item.datum.inj) (hheld .data)
  have hdeclarations : declarations = declarations' :=
    List.map_injective_iff.mpr (fun _ _ => Item.declaration.inj) (hheld .declarations)
  have hstates : states = states' :=
    List.map_injective_iff.mpr (fun _ _ => Item.state.inj) (hheld .states)
  have hstacks : stack = stack' := by
    cases stack with
    | nil =>
      cases stack' with
      | nil => rfl
      | cons g rest' => cases hstack
    | cons f rest =>
      cases stack' with
      | nil => cases hstack
      | cons g rest' =>
        obtain ⟨hf, rfl⟩ := List.cons.inj hstack
        rw [Frame.eq_of_held hf fun s => hheld (.inner s)]
  rw [hdata, hdeclarations, hstates, hstacks]

theorem gains_nil (r : Reader) (slot : Slot) : r.Gains slot [] r where
  shell := rfl
  held s := by simp

theorem gains_inner {parent parent' : Frame} {slot : Frame.Slot} {items : List Item}
    (h : parent.Gains slot items parent') (r : Reader) :
    (r.opened parent).Gains (.inner slot) items (r.opened parent') where
  shell := by simp [shell, opened, h.shell]
  held s := by
    cases s with
    | inner s => simp [held, opened, h.held]
    | _ => simp [held, opened]

/-- **The end of an element** on a stack of open ones: it can be left, and the reader gains its
content in one slot. -/
theorem leave_stacked {r : Reader} {f : Frame} (h : Stacked (f :: r.stack)) :
    ∃ slot r', r.leave f = .ok r' ∧ r.Gains slot f.content r' ∧ Stacked r'.stack := by
  by_cases hpart : f.isChartPart = true
  · -- these go to the chart, each sort to its own list
    cases f with
    | root | dataModel => exact ⟨.data, r, rfl, gains_nil r .data, h.tail⟩
    | datum d =>
      refine ⟨.data, _, rfl, ⟨rfl, ?_⟩, h.tail⟩
      intro s
      cases s <;> simp [held, Frame.content]
    | declaration d =>
      refine ⟨.declarations, _, rfl, ⟨rfl, ?_⟩, h.tail⟩
      intro s
      cases s <;> simp [held, Frame.content]
    | state st =>
      refine ⟨.states, _, rfl, ⟨rfl, ?_⟩, h.tail⟩
      intro s
      cases s <;> simp [held, Frame.content]
    | _ => cases hpart
  · -- everything else goes to the element around, which is not the root
    obtain ⟨name?, initial?, data, declarations, states, stack⟩ := r
    cases h with
    | root => exact absurd rfl hpart
    | @cons _ parent rest hsits hrest =>
      obtain ⟨slot, parent', habsorb, hgrows⟩ :=
        Stacked.absorb (.cons hsits hrest) (by simpa using hpart)
      let r : Reader := ⟨name?, initial?, data, declarations, states, rest⟩
      have hroot : parent ≠ .root := by
        rintro rfl
        exact hpart hsits.isChartPart
      exact ⟨.inner slot, r.opened parent', leave_opened habsorb r, gains_inner hgrows.toGains r,
        hrest.of_grows hroot hgrows⟩

/-- An element on a stack in order can always be given up, whatever has been read in it. -/
theorem receives_of_stacked {r : Reader} {f : Frame} (h : Stacked (f :: r.stack)) :
    r.Receives f := by
  obtain ⟨slot, r', hleave, hgains, -⟩ := leave_stacked h
  refine ⟨slot, r', hleave, fun r'' => ⟨fun h => ?_, fun h => h ▸ hgains⟩⟩
  exact eq_of_held (h.shell.trans hgains.shell.symm) fun s => (h.held s).trans (hgains.held s).symm

/-- **The beginning of an element** on a stack of open ones: if it can be entered, it sits on the
element that was innermost until then. -/
theorem enter_stacked {r r' : Reader} {tag : Xml.Tag} {f : Frame} (h : Stacked r.stack)
    (henter : r.enter tag = .ok (f, r')) : Stacked (f :: r'.stack) ∧ f.tag = tag.name := by
  obtain ⟨hstack, k, as, htag, hf⟩ := enter_tagged henter
  have hname : f.tag = tag.name := by rw [hf, Element.tag_frame, Element.kind_mk, htag.name]
  refine ⟨?_, hname⟩
  rw [hstack]
  rw [enter] at henter
  split at henter
  · rename_i parent rest hparent
    obtain ⟨f', hopen, henter⟩ := bind_eq_ok.mp henter
    obtain ⟨rfl, rfl⟩ := Prod.mk.inj (pure_eq_ok.mp henter)
    obtain ⟨k, as, htakes, -, -, rfl⟩ := openInside_eq_ok.mp hopen
    rw [hparent] at h ⊢
    exact .cons (h.sitsOn_of_takes htakes as) h
  · rename_i hnil
    split at henter
    · obtain ⟨as, -, henter⟩ := bind_eq_ok.mp henter
      obtain ⟨rfl, -⟩ := Prod.mk.inj (pure_eq_ok.mp henter)
      rw [hnil]
      exact .root
    · cases henter

/-! ### Events -/

/-- End tags match start tags in the events, which leave the elements with these names open. -/
def Matched (es : List (Nat × Xml.Event)) (names : List String) : Prop :=
  es.foldlM (fun names e => Xml.track names e.2) [] = .ok names

/-- The open elements are stacked, and the tags that opened them had these names. -/
structure Nested (r : Reader) (names : List String) : Prop where
  /-- the open elements sit on each other -/
  stacked : Stacked r.stack
  /-- they have these names -/
  tags : r.stack.map Frame.tag = names

/-- The reader fails at one of the events, a start tag or an empty one, because it does not take the
tag after the events before it. -/
def Refuses (r : Reader) (es : List (Nat × Xml.Event)) (failure : Failure) : Prop :=
  ∃ before offset e after tag r' cause, es = before ++ (offset, e) :: after ∧
    (e = .start tag ∨ e = .empty tag) ∧ r.run before = .ok r' ∧ r'.enter tag = .error cause ∧
      failure = cause.within (atTag tag.name offset)

theorem Nested.exists_opened {r : Reader} {name : String} {names : List String}
    (h : r.Nested (name :: names)) : ∃ f r', r = opened r' f ∧ f.tag = name := by
  obtain ⟨f, rest, hstack, hf, -⟩ := List.map_eq_cons_iff.mp h.tags
  refine ⟨f, { r with stack := rest }, ?_, hf⟩
  rw [opened, ← hstack]

theorem Nested.leave {r : Reader} {f : Frame} {names : List String}
    (h : (r.opened f).Nested (f.tag :: names)) : ∃ r', r.leave f = .ok r' ∧ r'.Nested names := by
  obtain ⟨-, r', hleave, -, hstacked⟩ := leave_stacked h.stacked
  refine ⟨r', hleave, hstacked, ?_⟩
  rw [tags_leave hleave]
  exact (List.cons.inj h.tags).2

/-- An element that is entered goes by the name of its tag. So the end tag that matches is the one
with the name that is kept with the element. -/
theorem Nested.enter {r r' : Reader} {tag : Xml.Tag} {f : Frame} {names : List String}
    (h : r.Nested names) (henter : r.enter tag = .ok (f, r')) :
    f.tag = tag.name ∧ (r'.opened f).Nested (f.tag :: names) := by
  obtain ⟨hstacked, hname⟩ := enter_stacked h.stacked henter
  obtain ⟨hstack, -⟩ := enter_tagged henter
  refine ⟨hname, hstacked, ?_⟩
  rw [← h.tags, ← hstack]
  rfl

/-- **One event** that matches the open elements is taken, or it is a tag that cannot be entered.
This is the step; the invariant is that the open elements are stacked and have the names of the tags
that opened them. -/
theorem Nested.step {r : Reader} {names names' : List String} {e : Xml.Event} (h : r.Nested names)
    (htrack : Xml.track names e = .ok names') (offset : Nat) :
    (∃ r', r.step offset e = .ok r' ∧ r'.Nested names') ∨
      ∃ tag cause, (e = .start tag ∨ e = .empty tag) ∧ r.enter tag = .error cause ∧
        r.step offset e = .error (cause.within (atTag tag.name offset)) := by
  cases e with
  | other =>
    obtain rfl : names = names' := Except.ok.inj htrack
    exact .inl ⟨r, rfl, h⟩
  | start tag =>
    obtain rfl : tag.name :: names = names' := Except.ok.inj htrack
    rcases henter : r.enter tag with cause | ⟨f, r'⟩
    · refine .inr ⟨tag, cause, .inl rfl, henter, ?_⟩
      rw [Reader.step, henter]
      rfl
    · obtain ⟨hname, hnested⟩ := h.enter henter
      refine .inl ⟨r'.opened f, step_start_eq_ok.mpr ⟨f, r', henter, rfl⟩, ?_⟩
      rw [← hname]
      exact hnested
  | empty tag =>
    obtain rfl : names = names' := Except.ok.inj htrack
    rcases henter : r.enter tag with cause | ⟨f, r'⟩
    · refine .inr ⟨tag, cause, .inr rfl, henter, ?_⟩
      rw [Reader.step, henter]
      rfl
    · obtain ⟨r'', hleave, hnested⟩ := (h.enter henter).2.leave
      exact .inl ⟨r'', step_empty_eq_ok.mpr ⟨f, r', henter, hleave⟩, hnested⟩
  | finish name =>
    cases names with
    | nil => cases htrack
    | cons top rest =>
      -- the tag matches, and so the innermost element has its name
      rw [Xml.track] at htrack
      split at htrack
      · rename_i htop
        obtain rfl : rest = names' := Except.ok.inj htrack
        obtain ⟨f, r', rfl, hf⟩ := h.exists_opened
        rw [← hf] at h
        obtain ⟨r'', hleave, hnested⟩ := h.leave
        rw [← htop, ← hf]
        exact .inl ⟨r'', step_finish_eq_ok.mpr hleave, hnested⟩
      · cases htrack

/-- **A run** over events whose end tags match keeps the stack, or ends at a tag that cannot be
entered. The induction is on the events, with one step for each. -/
theorem Nested.run {es : List (Nat × Xml.Event)} {r : Reader} {names names' : List String}
    (h : r.Nested names)
    (hmatched : es.foldlM (fun names e => Xml.track names e.2) names = .ok names') :
    (∃ r', r.run es = .ok r' ∧ r'.Nested names') ∨
      ∃ failure, r.run es = .error failure ∧ r.Refuses es failure := by
  induction es generalizing r names with
  | nil =>
    obtain rfl := pure_eq_ok.mp hmatched
    exact .inl ⟨r, rfl, h⟩
  | cons e es ih =>
    obtain ⟨offset, e⟩ := e
    rw [List.foldlM_cons] at hmatched
    obtain ⟨names₁, htrack, hmatched⟩ := bind_eq_ok.mp hmatched
    rcases h.step htrack offset with ⟨r₁, hstep, hnested⟩ | ⟨tag, cause, he, henter, hstep⟩
    · -- a tag that is refused later comes after this event too
      rw [Reader.run, hstep, ok_bind]
      rcases ih hnested hmatched with hok | ⟨failure, hrun, before, offset', e', after, tag, r',
        cause, rfl, he, hbefore, hrefused⟩
      · exact .inl hok
      · refine .inr ⟨failure, hrun, (offset, e) :: before, offset', e', after, tag, r', cause, rfl,
          he, ?_, hrefused⟩
        rw [Reader.run, hstep, ok_bind, hbefore]
    · rw [Reader.run, hstep, error_bind]
      exact .inr ⟨_, rfl, [], offset, e, es, tag, r, cause, rfl, he, rfl, henter, rfl⟩

end Reader

/-- **The stack of open elements** is in order after any events whose end tags match. Each element
sits where it may, the name that is kept with it agrees with what it is, and it has the name of the
tag that opened it. It can be closed, as can any element that is opened next, and its content then
goes to one slot. A run fails only because a tag cannot be entered. -/
theorem elements_stacked {es : List (Nat × Xml.Event)} {names : List String}
    (h : Reader.Matched es names) :
    (∀ r, Reader.start.run es = .ok r →
      Frame.Stacked r.stack ∧ r.stack.map Frame.tag = names ∧
        (∀ f rest, r.stack = f :: rest → { r with stack := rest }.Receives f) ∧
        ∀ tag f r', r.enter tag = .ok (f, r') → f.tag = tag.name ∧ r'.Receives f) ∧
    ∀ failure, Reader.start.run es = .error failure → Reader.start.Refuses es failure := by
  -- one run from the start gives both parts: it ends in a stack, or it refuses a tag
  have hstart : Reader.start.Nested [] := ⟨.nil, rfl⟩
  rcases hstart.run h with ⟨r, hrun, hnested⟩ | ⟨failure, hrun, hrefuses⟩
  · refine ⟨fun r' hr' => ?_, fun failure hfailure => ?_⟩
    · obtain rfl := Except.ok.inj (hrun.symm.trans hr')
      refine ⟨hnested.stacked, hnested.tags, ?_, ?_⟩
      · intro f rest hstack
        have hstacked := hnested.stacked
        rw [hstack] at hstacked
        exact Reader.receives_of_stacked hstacked
      · intro tag f r' henter
        obtain ⟨hname, hopened⟩ := hnested.enter henter
        exact ⟨hname, Reader.receives_of_stacked hopened.stacked⟩
    · rw [hrun] at hfailure
      cases hfailure
  · refine ⟨fun r' hr' => ?_, fun failure' hfailure => ?_⟩
    · rw [hrun] at hr'
      cases hr'
    · obtain rfl := Except.error.inj (hrun.symm.trans hfailure)
      exact hrefuses

/-- A field in an emission that already has one; both are still open. -/
def Sample.filling : List (Nat × Xml.Event) :=
  (leaving [.start (tag "ros_topic_publish" "topic='t'"), .empty (tag "field" "name='x' expr='1'"),
    .start (tag "field" "name='y' expr='2'")]).take 6

open Sample in
/-- Marks and choices, elements whose frames keep a name, and a mark that is refused. The events of
each run match, and so the runs differ only in whether a tag can be entered. -/
theorem elements_stacked_sample :
    (∃ r, Reader.start.run (nested.take 8) = .ok r ∧ Frame.Stacked r.stack ∧
      r.stack.map Frame.tag = ["else", "if", "if", "onexit", "state", "scxml"]) ∧
    (∃ r, Reader.start.run filling = .ok r ∧ Frame.Stacked r.stack ∧
      r.stack.map Frame.tag = ["field", "ros_topic_publish", "onexit", "state", "scxml"]) ∧
    ∃ failure, Reader.start.Refuses late failure := by
  refine ⟨?_, ?_, ?_⟩
  · have hmatched : Reader.Matched (nested.take 8)
        ["else", "if", "if", "onexit", "state", "scxml"] := by rfl
    have hrun : (Reader.start.run (nested.take 8)).toOption.any (fun _ => true) = true := by
      decide +kernel
    obtain ⟨r, hrun, -⟩ := exists_of_any hrun
    obtain ⟨hstacked, htags, -⟩ := (elements_stacked hmatched).1 r hrun
    exact ⟨r, hrun, hstacked, htags⟩
  · have hmatched : Reader.Matched filling
        ["field", "ros_topic_publish", "onexit", "state", "scxml"] := by rfl
    have hrun : (Reader.start.run filling).toOption.any (fun _ => true) = true := by
      decide +kernel
    obtain ⟨r, hrun, -⟩ := exists_of_any hrun
    obtain ⟨hstacked, htags, -⟩ := (elements_stacked hmatched).1 r hrun
    exact ⟨r, hrun, hstacked, htags⟩
  · have hmatched : Reader.Matched late [] := by rfl
    have hnone : (Reader.start.run late).toOption.isNone = true := by decide +kernel
    rcases hrun : Reader.start.run late with failure | r
    · exact ⟨failure, (elements_stacked hmatched).2 failure hrun⟩
    · rw [hrun] at hnone
      cases hnone

end ChartNet
