import ChartNet.Proofs.WellFormed

/-!
# Well-formed charts

What a well-formed chart is, said without an order of checks. `Chart.check` walks through the blocks
of a chart and follows choices into their branches; `Chart.WellFormed` speaks of all actions that
the chart contains (`Chart.Contains`), at whatever depth, and asks something of each one by itself
(`Action.Proper`).

That the walk comes by every action is `Action.check_iff`, an induction over the nesting.
-/

namespace ChartNet

/-- Some character of the text is not blank. -/
def Text.Visible (s : String) : Prop := ∃ ch ∈ s.toList, isBlank ch = false

theorem Text.allBlank_eq_false {s : String} : allBlank s = false ↔ Visible s := by
  simp [allBlank, Visible]

/-! ### The actions of a chart -/

namespace Action

/-- The first action is the second one, or is contained in it at some depth. -/
inductive Inside : Action → Action → Prop
  /-- an action is inside itself -/
  | self (a : Action) : Inside a a
  /-- what is inside an action of a branch is inside the choice -/
  | branch {a b : Action} {branches : List (String × List Action)} {condition : String}
      {body otherwise : List Action} (hbranch : (condition, body) ∈ branches) (hb : b ∈ body)
      (h : Inside a b) : Inside a (.choose branches otherwise)
  /-- what is inside an action of the last block is inside the choice -/
  | otherwise {a b : Action} {branches : List (String × List Action)} {otherwise : List Action}
      (hb : b ∈ otherwise) (h : Inside a b) : Inside a (.choose branches otherwise)

/-- What is asked of an action, apart from the actions in it: it names what it is about, and a
choice offers something to choose from. -/
def Proper : Action → Prop
  | assign location _ => location ≠ ""
  | send event _ => event ≠ ""
  | choose branches _ => branches ≠ [] ∧ ∀ branch ∈ branches, Text.Visible branch.1
  | emit _ resource _ => resource ≠ ""

/-- Everything in the action is proper. -/
def AllProper (a : Action) : Prop := ∀ b : Action, b.Inside a → b.Proper

/-- An action that is not a choice contains nothing else. -/
theorem allProper_iff_proper {a : Action}
    (h : ∀ branches otherwise, a ≠ .choose branches otherwise) : a.AllProper ↔ a.Proper := by
  refine ⟨fun hall => hall a (.self a), fun hproper b hb => ?_⟩
  cases hb with
  | self => exact hproper
  | branch | otherwise => exact absurd rfl (h _ _)

/-- A choice is proper throughout if it has a branch, its conditions are visible and all actions in
its blocks are proper throughout. This is the one case in which something else is inside. -/
theorem allProper_choose {branches : List (String × List Action)} {otherwise : List Action} :
    (choose branches otherwise).AllProper ↔ branches ≠ [] ∧
      (∀ branch ∈ branches, Text.Visible branch.1 ∧ ∀ a ∈ branch.2, a.AllProper) ∧
      ∀ a ∈ otherwise, a.AllProper := by
  refine ⟨fun hall => ?_, ?_⟩
  · obtain ⟨hne, hconditions⟩ := hall _ (.self _)
    refine ⟨hne, fun branch hbranch => ⟨hconditions branch hbranch, ?_⟩, ?_⟩
    · exact fun a ha b hb => hall b (.branch hbranch ha hb)
    · exact fun a ha b hb => hall b (.otherwise ha hb)
  · rintro ⟨hne, hbranches, hotherwise⟩ b hb
    cases hb with
    | self => exact ⟨hne, fun branch hbranch => (hbranches branch hbranch).1⟩
    | branch hbranch ha hb => exact (hbranches _ hbranch).2 _ ha b hb
    | otherwise ha hb => exact hotherwise _ ha b hb

end Action

mutual

/-- An action passes its check if everything in it is proper. The check goes down into choices,
which is what being inside stands for. -/
theorem Action.check_iff : ∀ a : Action, Action.check a = .ok () ↔ a.AllProper
  | .assign location expr => by
    rw [Action.check, ensure_eq_ok, Action.allProper_iff_proper (by simp)]
    simp [Action.Proper]
  | .send event params => by
    rw [Action.check, ensure_eq_ok, Action.allProper_iff_proper (by simp)]
    simp [Action.Proper]
  | .choose branches otherwise => by
    rw [Action.check, seq_eq_ok, seq_eq_ok, ensure_eq_ok, Branches.check_iff branches,
      Block.check_iff otherwise, Action.allProper_choose]
    simp
  | .emit kind resource fields => by
    rw [Action.check, ensure_eq_ok, Action.allProper_iff_proper (by simp)]
    simp [Action.Proper]

theorem Block.check_iff : ∀ b : List Action, Block.check b = .ok () ↔ ∀ a ∈ b, a.AllProper
  | [] => by simp [Block.check]
  | a :: as => by
    rw [Block.check, seq_eq_ok, Action.check_iff a, Block.check_iff as]
    simp

/-- Branches pass if each has a visible condition and a block that passes. -/
theorem Branches.check_iff : ∀ bs : List (String × List Action), Branches.check bs = .ok () ↔
    ∀ b ∈ bs, Text.Visible b.1 ∧ ∀ a ∈ b.2, a.AllProper
  | [] => by simp [Branches.check]
  | (condition, body) :: bs => by
    rw [Branches.check, Branch.check, seq_eq_ok, seq_eq_ok, ensure_eq_ok, Block.check_iff body,
      Branches.check_iff bs]
    simp [Text.allBlank_eq_false]

end

/-! ### Whole charts -/

/-- The blocks of a state: its entry and exit content, and the bodies of its transitions. -/
def State.blocks (s : State) : List Block := s.entry :: s.exit :: s.transitions.map (·.body)

/-- The action occurs in the chart, at whatever depth. -/
def Chart.Contains (c : Chart) (a : Action) : Prop :=
  ∃ s ∈ c.states, ∃ block ∈ s.blocks, ∃ b ∈ block, a.Inside b

/-- A trigger names what it waits for; it may wait for nothing. -/
def Trigger.Named : Trigger → Prop
  | events names => ∀ name ∈ names, name ≠ ""
  | reception _ resource => resource ≠ ""

/-- The transition is one of the chart's. -/
def Chart.HasTransition (c : Chart) (t : Transition) : Prop := ∃ s ∈ c.states, t ∈ s.transitions

/-- The chart is well formed. The conditions are on the chart as a whole and on the actions that
occur in it anywhere; how deep they are nested does not matter. -/
structure Chart.WellFormed (c : Chart) : Prop where
  /-- the chart has a name -/
  name_ne : c.name ≠ ""
  /-- its name can be part of an event, and be the name of a file -/
  name_clean : ∀ ch ∈ c.name.toList, Text.isBlank ch = false ∧ ch ≠ '/' ∧ ch ≠ '\\'
  /-- there is a state to be in -/
  some_state : c.states ≠ []
  /-- every state has a name -/
  ids_ne : ∀ s ∈ c.states, s.id ≠ ""
  /-- no two states have the same name -/
  ids_nodup : (c.states.map (·.id)).Nodup
  /-- the chart starts in one of its states -/
  initial : ∃ s ∈ c.states, s.id = c.initial
  /-- every variable has a name -/
  data_ne : ∀ d ∈ c.data, d.id ≠ ""
  /-- no two variables have the same name -/
  data_nodup : (c.data.map (·.id)).Nodup
  /-- every declaration names its resource -/
  resources_ne : ∀ d ∈ c.declarations, d.resource ≠ ""
  /-- every transition leads to a state of the chart -/
  targets : ∀ t, c.HasTransition t → ∃ s ∈ c.states, s.id = t.target
  /-- no trigger waits for something without a name -/
  triggers : ∀ t, c.HasTransition t → t.trigger.Named
  /-- a guard has something to evaluate -/
  guards : ∀ t, c.HasTransition t → ∀ guard, t.guard? = some guard → Text.Visible guard
  /-- every action is proper, at whatever depth it stands -/
  actions : ∀ a, c.Contains a → a.Proper

theorem Trigger.check_iff {t : Trigger} : t.check = .ok () ↔ t.Named := by
  cases t with
  | events names => simp [check, ensure_eq_ok, Named]
  | reception kind resource => simp [check, ensure_eq_ok, Named]

theorem Transition.guard_iff {t : Transition} :
    t.guard?.any Text.allBlank = false ↔ ∀ guard, t.guard? = some guard → Text.Visible guard := by
  cases t.guard? with
  | none => simp
  | some guard => simp [Text.allBlank_eq_false]

/-- The characters that a name may not have are the blanks and the two slashes. -/
theorem isForbiddenInName_eq_false {ch : Char} :
    isForbiddenInName ch = false ↔ Text.isBlank ch = false ∧ ch ≠ '/' ∧ ch ≠ '\\' := by
  simp [isForbiddenInName, and_assoc]

namespace Chart

variable {c : Chart}

/-- What the states of a chart are checked for, sorted by kind and not by place. The check goes
through the states one by one and looks at everything in each of them; being well formed asks one
thing of all transitions and one of all actions. -/
theorem check_states_iff :
    (∀ s ∈ c.states, s.check (c.states.map (·.id)) = .ok ()) ↔
      (∀ t, c.HasTransition t → ∃ s ∈ c.states, s.id = t.target) ∧
      (∀ t, c.HasTransition t → t.trigger.Named) ∧
      (∀ t, c.HasTransition t → ∀ guard, t.guard? = some guard → Text.Visible guard) ∧
      ∀ a, c.Contains a → a.Proper := by
  simp only [State.check_eq_ok, Transition.check_eq_ok, Action.check_iff, Trigger.check_iff,
    Transition.guard_iff]
  refine ⟨fun h => ⟨?_, ?_, ?_, ?_⟩, ?_⟩
  · rintro t ⟨s, hs, ht⟩
    exact List.mem_map.mp ((h s hs).2 t ht).1
  · rintro t ⟨s, hs, ht⟩
    exact ((h s hs).2 t ht).2.1
  · rintro t ⟨s, hs, ht⟩
    exact ((h s hs).2 t ht).2.2.1
  · rintro a ⟨s, hs, block, hblock, b, hb, ha⟩
    obtain ⟨hcontent, htransitions⟩ := h s hs
    -- the entry and exit content are checked as one block
    rcases List.mem_cons.mp hblock with rfl | hblock
    · exact hcontent b (List.mem_append_left _ hb) a ha
    rcases List.mem_cons.mp hblock with rfl | hblock
    · exact hcontent b (List.mem_append_right _ hb) a ha
    · obtain ⟨t, ht, rfl⟩ := List.mem_map.mp hblock
      exact (htransitions t ht).2.2.2 b hb a ha
  · rintro ⟨htargets, htriggers, hguards, hactions⟩ s hs
    have hblock : ∀ block ∈ s.blocks, ∀ b ∈ block, b.AllProper :=
      fun block hblock b hb a ha => hactions a ⟨s, hs, block, hblock, b, hb, ha⟩
    refine ⟨fun b hb => ?_, fun t ht => ⟨?_, ?_, ?_, ?_⟩⟩
    · rcases List.mem_append.mp hb with hb | hb
      · exact hblock s.entry (by simp [State.blocks]) b hb
      · exact hblock s.exit (by simp [State.blocks]) b hb
    · exact List.mem_map.mpr (htargets t ⟨s, hs, ht⟩)
    · exact htriggers t ⟨s, hs, ht⟩
    · exact hguards t ⟨s, hs, ht⟩
    · apply hblock
      simp only [State.blocks, List.mem_cons, List.mem_map]
      exact .inr (.inr ⟨t, ht, rfl⟩)

/-- **A chart passes its check exactly if it is well formed.** The check goes through the chart in
some order and stops at the first fault; here nothing is left of the order. -/
theorem check_iff_wellFormed (c : Chart) : c.check = .ok () ↔ c.WellFormed := by
  rw [check_eq_ok, check_states_iff]
  simp only [isForbiddenInName_eq_false]
  refine ⟨?_, fun h => ?_⟩
  · rintro ⟨⟨hname, hclean⟩, ⟨hstates, hids, hnodup⟩, hinitial, ⟨hdata, hdata'⟩, hresources,
      htargets, htriggers, hguards, hactions⟩
    exact ⟨hname, hclean, hstates, hids, hnodup, hinitial, hdata, hdata', hresources, htargets,
      htriggers, hguards, hactions⟩
  · exact ⟨⟨h.name_ne, h.name_clean⟩, ⟨h.some_state, h.ids_ne, h.ids_nodup⟩, h.initial,
      ⟨h.data_ne, h.data_nodup⟩, h.resources_ne, h.targets, h.triggers, h.guards, h.actions⟩

end Chart

end ChartNet
