import ChartNet.Proofs.PlainForm

/-!
# Where a construct goes

In the plain form of a chart, every trigger and every action has its place, which is that of what it
stands for. `Chart.triggers` and `Chart.actions` list them in one order for all charts, so that a
place is an index: `triggers_image` and `actions_image` say that the lists correspond index by
index.
-/

namespace ChartNet

/-- What stands at a place in the second list stands for what is at that place in the first. -/
theorem exists_image {α β : Type} {R : α → β → Prop} {l : List α} {l' : List β}
    (h : List.Forall₂ R l l') {i : Nat} {a : α} (ha : l[i]? = some a) :
    ∃ b, l'[i]? = some b ∧ R a b := by
  induction h generalizing i with
  | nil => cases ha
  | cons hab _ ih =>
    cases i with
    | zero =>
      obtain rfl := Option.some.inj ha
      exact ⟨_, rfl, hab⟩
    | succ i => exact ih ha

/-- What is in the second list stands for something in the first. -/
theorem exists_source {α β : Type} {R : α → β → Prop} {l : List α} {l' : List β}
    (h : List.Forall₂ R l l') {b : β} (hb : b ∈ l') : ∃ a ∈ l, R a b := by
  induction h with
  | nil => cases hb
  | cons hab _ ih =>
    rcases List.mem_cons.mp hb with rfl | hb
    · exact ⟨_, List.mem_cons_self .., hab⟩
    · obtain ⟨a, ha, hr⟩ := ih hb
      exact ⟨a, List.mem_cons_of_mem _ ha, hr⟩

/-- The triggers of a chart. -/
def Chart.triggers (c : Chart) : List Trigger :=
  c.states.flatMap fun s => s.transitions.map (·.trigger)

/-- The actions of a state that are no choices: those of its own content, and those of its
transitions. They come in the order in which they are written, with those inside a choice in its
place. -/
def State.actions (s : State) : List Action :=
  Block.leaves s.entry ++ Block.leaves s.exit ++ s.transitions.flatMap fun t => Block.leaves t.body

/-- The actions of a chart that are no choices. -/
def Chart.actions (c : Chart) : List Action := c.states.flatMap State.actions

/-! ### Images of lists -/

mutual

/-- Leaves stand for leaves, in their order. A choice stands for a choice with the same branches, so
that no leaf moves to another place. -/
theorem Action.Image.leaves {automaton : String} :
    ∀ {a a' : Action}, Action.Image automaton a a' →
      List.Forall₂ (Action.Image automaton) (Action.leaves a) (Action.leaves a')
  | _, _, .assign location expr => by
    simpa [Action.leaves] using Action.Image.assign location expr
  | _, _, .send event params => by simpa [Action.leaves] using Action.Image.send event params
  | _, _, .choose hbranches hotherwise => by
    rw [Action.leaves, Action.leaves]
    exact List.rel_append hbranches.leaves hotherwise.leaves
  | _, _, .message fields h => by simpa [Action.leaves] using Action.Image.message fields h
  | _, _, .request fields h => by simpa [Action.leaves] using Action.Image.request fields h
  | _, _, .response fields h => by simpa [Action.leaves] using Action.Image.response fields h

/-- The same for the actions of a block. -/
theorem Block.Image.leaves {automaton : String} :
    ∀ {b b' : List Action}, Block.Image automaton b b' →
      List.Forall₂ (Action.Image automaton) (Block.leaves b) (Block.leaves b')
  | _, _, .nil => .nil
  | _, _, .cons ha has => by
    rw [Block.leaves, Block.leaves]
    exact List.rel_append ha.leaves has.leaves

/-- The same for the branches of a choice. -/
theorem Branches.Image.leaves {automaton : String} :
    ∀ {bs bs' : List (String × List Action)}, Branches.Image automaton bs bs' →
      List.Forall₂ (Action.Image automaton) (Branches.leaves bs) (Branches.leaves bs')
  | _, _, .nil => .nil
  | _, _, .cons _ hbody hbs => by
    rw [Branches.leaves, Branches.leaves, Branch.leaves, Branch.leaves]
    exact List.rel_append hbody.leaves hbs.leaves

end

theorem State.Image.actions {automaton : String} {s s' : State} (h : s.Image automaton s') :
    List.Forall₂ (Action.Image automaton) s.actions s'.actions :=
  List.rel_append (List.rel_append h.entry.leaves h.exit.leaves)
    (List.rel_flatMap h.transitions fun _ _ ht => ht.body.leaves)

/-! ### Images of charts -/

namespace Chart

variable {c plain : Chart} {r : Registry}

theorem triggers_image (h : c.toPlain = .ok (plain, r)) :
    List.Forall₂ (Trigger.Image c.name) c.triggers plain.triggers :=
  List.rel_flatMap (states_image h) fun _ _ hs =>
    List.rel_map (fun _ _ ht => ht.trigger) hs.transitions

theorem actions_image (h : c.toPlain = .ok (plain, r)) :
    List.Forall₂ (Action.Image c.name) c.actions plain.actions :=
  List.rel_flatMap (states_image h) fun _ _ hs => hs.actions

end Chart

end ChartNet
