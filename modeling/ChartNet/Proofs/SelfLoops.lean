import ChartNet.Proofs.Recompiling
import ChartNet.Proofs.Run

/-!
# What dropping empty self loops does to a run

Of the transitions that fire, a state takes the first. An empty self loop does nothing when it is
taken, but a transition behind it that fires as well is then not taken. Without the loop it is, and
so dropping the loop can change what the chart does.

* `Chart.move` is one step of a plain chart, on an event or on none and with any verdict on each
  guard, and `Chart.history` a run of steps.
* `State.Hides` says, of the texts alone, that an empty self loop stands before another transition
  that could fire in its place.
* `history_withoutIdle_iff`: a chart behaves as before if and only if no state that it can get to
  hides a transition in this way.
-/

namespace ChartNet

/-! ### Steps and runs -/

/-- What a chart meets at a step: an event or none, and a verdict on every guard. -/
structure Occasion where
  /-- what happens, if anything does -/
  event? : Option String
  /-- which guards hold at that time -/
  holds : String → Bool

/-- The trigger goes off: at its events, or without any if it names none. -/
def Trigger.goesOff (event? : Option String) : Trigger → Bool
  | events names =>
    match event? with
    | some event => names.contains event
    | none => names.isEmpty
  | reception .. => false

/-- The transition may be taken. -/
def Transition.fires (o : Occasion) (t : Transition) : Bool :=
  t.trigger.goesOff o.event? && t.guard?.all o.holds

theorem Transition.fires_iff {o : Occasion} {t : Transition} :
    t.fires o = true ↔ t.trigger.goesOff o.event? = true ∧
      ∀ guard, t.guard? = some guard → o.holds guard = true := by
  rw [fires, Bool.and_eq_true, Option.all_eq_true]

/-- The transition that is taken: the first one that fires. -/
def State.choice (s : State) (o : Occasion) : Option Transition := s.transitions.find? (·.fires o)

namespace Chart

/-- Where a transition out of a state leads to and what is run on the way. Without a transition,
nothing happens. -/
def take (c : Chart) (s : State) : Option Transition → String × Block
  | some t => (t.target, c.effect s t)
  | none => (s.id, [])

/-- One step: the next state, and what is run. -/
def move (c : Chart) (id : String) (o : Occasion) : String × Block :=
  match c.state? id with
  | some s => c.take s (s.choice o)
  | none => (id, [])

/-- A run: the state after each step, and what the step has run. -/
def history (c : Chart) : String → List Occasion → List (String × Block)
  | _, [] => []
  | id, o :: os => c.move id o :: c.history (c.move id o).1 os

/-- The state at the end of a run. -/
def stateAfter (c : Chart) (id : String) (os : List Occasion) : String :=
  os.foldl (fun id o => (c.move id o).1) id

/-- The chart can get to the state. -/
def Visits (c : Chart) (s : State) : Prop :=
  ∃ os, c.state? (c.stateAfter c.initial os) = some s

theorem stateAfter_cons (c : Chart) (id : String) (o : Occasion) (os : List Occasion) :
    c.stateAfter id (o :: os) = c.stateAfter (c.move id o).1 os := rfl

/-- Two charts have the same runs if and only if they make the same steps wherever the one of them
can get to. -/
theorem history_eq_iff {c c' : Chart} {id : String} :
    (∀ os, c'.history id os = c.history id os) ↔
      ∀ os o, c'.move (c.stateAfter id os) o = c.move (c.stateAfter id os) o := by
  constructor
  · intro h os
    induction os generalizing id with
    | nil =>
      intro o
      exact (List.cons.inj (h [o])).1
    | cons o os ih =>
      have hstep : c'.move id o = c.move id o := (List.cons.inj (h [o])).1
      rw [stateAfter_cons]
      -- both runs go on from the same state, and what is left of them is the same again
      apply ih
      intro os'
      have htail := (List.cons.inj (h (o :: os'))).2
      rwa [hstep] at htail
  · intro h os
    induction os generalizing id with
    | nil => rfl
    | cons o os ih =>
      have hstep : c'.move id o = c.move id o := h [] o
      rw [history, history, hstep]
      congr 1
      apply ih
      intro os' o'
      exact h (o :: os') o'

end Chart

/-! ### Hidden transitions -/

/-- An empty self loop stands before a transition that does something, and there is an event at
which both of them fire while nothing before them need do so: whatever would go off there as well
has a guard of its own. As long as the loop is there, it is the one that is taken. -/
def State.Hides (s : State) : Prop :=
  s.entry = [] ∧ s.exit = [] ∧ ∃ before loop rest later event?,
    s.transitions = before ++ loop :: rest ∧ later ∈ rest ∧
    loop.isIdle s.id = true ∧ later.isIdle s.id = false ∧
    loop.trigger.goesOff event? = true ∧ later.trigger.goesOff event? = true ∧
    ∀ t ∈ before, t.trigger.goesOff event? = true →
      ∃ guard, t.guard? = some guard ∧ loop.guard? ≠ some guard ∧ later.guard? ≠ some guard

/-- The occasion with this event on which the guards of two transitions hold and no others. -/
def Occasion.forGuards (event? : Option String) (t t' : Transition) : Occasion :=
  ⟨event?, fun guard => t.guard? == some guard || t'.guard? == some guard⟩

/-- On the occasion that two transitions ask for, another one fires only if its guard is one of
theirs. -/
theorem Transition.fires_forGuards {event? : Option String} {t t' u : Transition} :
    u.fires (.forGuards event? t t') = true ↔ u.trigger.goesOff event? = true ∧
      ∀ guard, u.guard? = some guard → t.guard? = some guard ∨ t'.guard? = some guard := by
  simp only [fires_iff, Occasion.forGuards, Bool.or_eq_true, beq_iff_eq]

namespace State

variable {s : State} {o : Occasion}

/-- What is taken once the loops are gone is no loop. -/
theorem later_of_choice_withoutIdle (hentry : s.entry = []) (hexit : s.exit = []) {t : Transition}
    (h : s.withoutIdle.choice o = some t) :
    t ∈ s.transitions ∧ t.isIdle s.id = false ∧ t.fires o = true := by
  have hmem := List.mem_of_find?_eq_some h
  rw [transitions_withoutIdle hentry hexit, List.mem_filter] at hmem
  exact ⟨hmem.1, by simpa using hmem.2, List.find?_some h⟩

/-- A transition that does something is taken with or without the loops. -/
theorem choice_withoutIdle_of_not_idle (hentry : s.entry = []) (hexit : s.exit = [])
    {t : Transition} (h : s.choice o = some t) (ht : t.isIdle s.id = false) :
    s.withoutIdle.choice o = some t := by
  obtain ⟨hfires, before, rest, hsplit, hbefore⟩ := List.find?_eq_some_iff_append.mp h
  rw [choice, transitions_withoutIdle hentry hexit, List.find?_filter]
  refine List.find?_eq_some_iff_append.mpr ⟨by simp [hfires, ht], before, rest, hsplit, ?_⟩
  intro u hu
  have hnot := hbefore u hu
  simp only [Bool.not_eq_true'] at hnot
  simp [hnot]

theorem choice_withoutIdle_eq_none (h : s.choice o = none) : s.withoutIdle.choice o = none := by
  apply List.find?_eq_none.mpr
  intro t ht
  exact List.find?_eq_none.mp h t (mem_of_mem_withoutIdle ht)

/-- A state that hides a transition takes a loop on some occasion, and would take something else
without it. -/
theorem Hides.exists_occasion (h : s.Hides) : ∃ o loop later,
    s.choice o = some loop ∧ loop.isIdle s.id = true ∧ s.withoutIdle.choice o = some later := by
  obtain ⟨hentry, hexit, before, loop, rest, later, event?, hsplit, hlater, hloop, hidle, hgoes,
    hgoes', hbefore⟩ := h
  let o := Occasion.forGuards event? loop later
  have hfires : loop.fires o = true :=
    Transition.fires_forGuards.mpr ⟨hgoes, fun _ hguard => .inl hguard⟩
  have hfires' : later.fires o = true :=
    Transition.fires_forGuards.mpr ⟨hgoes', fun _ hguard => .inr hguard⟩
  have hchoice : s.choice o = some loop := by
    refine List.find?_eq_some_iff_append.mpr ⟨hfires, before, rest, hsplit, ?_⟩
    intro t ht
    rw [Bool.not_eq_true', Bool.eq_false_iff]
    intro hfirst
    obtain ⟨hevent, hguards⟩ := Transition.fires_forGuards.mp hfirst
    obtain ⟨guard, hguard, hne, hne'⟩ := hbefore t ht hevent
    exact (hguards guard hguard).elim hne hne'
  -- another transition may come before `later` once the loops are gone
  have hsome : (s.withoutIdle.choice o).isSome = true := by
    rw [choice, transitions_withoutIdle hentry hexit, List.find?_isSome]
    refine ⟨later, List.mem_filter.mpr ⟨?_, by simp [hidle]⟩, hfires'⟩
    rw [hsplit]
    exact List.mem_append_right _ (List.mem_cons_of_mem _ hlater)
  obtain ⟨next, hnext⟩ := Option.isSome_iff_exists.mp hsome
  exact ⟨o, loop, next, hchoice, hloop, hnext⟩

/-- The converse: such an occasion is only met where something is hidden. The loop that was taken
stands before what is taken now, and whatever stands before the loop has a guard that does not
hold. -/
theorem hides_of_choice (hentry : s.entry = []) (hexit : s.exit = []) {loop later : Transition}
    (hchoice : s.choice o = some loop) (hloop : loop.isIdle s.id = true)
    (hlater : s.withoutIdle.choice o = some later) : s.Hides := by
  obtain ⟨hfires, before, rest, hsplit, hbefore⟩ := List.find?_eq_some_iff_append.mp hchoice
  obtain ⟨hmem, hidle, hfires'⟩ := later_of_choice_withoutIdle hentry hexit hlater
  have hsilent : ∀ t ∈ before, t.fires o ≠ true := by
    intro t ht
    simpa using hbefore t ht
  obtain ⟨hgoes, hholds⟩ := Transition.fires_iff.mp hfires
  obtain ⟨hgoes', hholds'⟩ := Transition.fires_iff.mp hfires'
  refine ⟨hentry, hexit, before, loop, rest, later, o.event?, hsplit, ?_, hloop, hidle, hgoes,
    hgoes', ?_⟩
  · -- it fires, which nothing before the loop does, and it is not the loop itself
    rw [hsplit] at hmem
    rcases List.mem_append.mp hmem with hmem | hmem
    · exact absurd hfires' (hsilent later hmem)
    · rcases List.mem_cons.mp hmem with rfl | hmem
      · rw [hloop] at hidle
        cases hidle
      · exact hmem
  · -- what goes off before the loop is kept back by a guard, which holds for neither of the two
    intro t ht hevent
    have hnot := hsilent t ht
    rw [ne_eq, Transition.fires_iff] at hnot
    simp only [hevent, true_and, not_forall] at hnot
    obtain ⟨guard, hguard, hfails⟩ := hnot
    exact ⟨guard, hguard, fun heq => hfails (hholds guard heq),
      fun heq => hfails (hholds' guard heq)⟩

end State

/-! ### Charts without empty self loops -/

namespace Chart

variable {c : Chart} {s : State}

theorem state?_withoutIdle (c : Chart) (id : String) :
    c.withoutIdle.state? id = (c.state? id).map State.withoutIdle := by
  rw [state?, withoutIdle, List.find?_map]
  simp only [Function.comp_def, State.withoutIdle_id]
  rfl

theorem effect_withoutIdle (c : Chart) (s : State) (t : Transition) :
    c.withoutIdle.effect s.withoutIdle t = c.effect s t := by
  rw [effect, effect, state?_withoutIdle, State.withoutIdle_exit, Option.map_map]
  simp only [Function.comp_def, State.withoutIdle_entry]

/-- A transition leads to the same place and runs the same, whether or not there are loops beside
it. -/
theorem take_withoutIdle (c : Chart) (s : State) (choice : Option Transition) :
    c.withoutIdle.take s.withoutIdle choice = c.take s choice := by
  cases choice with
  | none => rw [take, take, State.withoutIdle_id]
  | some t => rw [take, take, effect_withoutIdle]

/-- Out of a state without content, an empty self loop is all that does nothing. -/
theorem take_eq_stay_iff (hs : c.state? s.id = some s) (hentry : s.entry = [])
    (hexit : s.exit = []) {t : Transition} :
    c.take s (some t) = (s.id, []) ↔ t.isIdle s.id = true := by
  rw [take, Prod.mk.injEq, Transition.isIdle, Bool.and_eq_true, beq_iff_eq, List.isEmpty_iff]
  constructor
  · rintro ⟨htarget, heffect⟩
    rw [effect, hexit, List.nil_append, List.append_eq_nil_iff] at heffect
    exact ⟨htarget, heffect.1⟩
  · rintro ⟨htarget, hbody⟩
    refine ⟨htarget, ?_⟩
    rw [effect, hexit, hbody, htarget, hs]
    exact hentry

/-- A state makes the same steps without its loops if and only if it hides nothing. One direction is
read off an occasion that shows the difference, the other one from what such an occasion needs. -/
theorem take_choice_withoutIdle_iff (hs : c.state? s.id = some s) :
    (∀ o, c.take s (s.withoutIdle.choice o) = c.take s (s.choice o)) ↔ ¬ s.Hides := by
  constructor
  · rintro hsame hhides
    obtain ⟨o, loop, later, hchoice, hloop, hlater⟩ := hhides.exists_occasion
    obtain ⟨hentry, hexit, -⟩ := hhides
    have hstay : c.take s (some later) = (s.id, []) := by
      rw [← hlater, hsame o, hchoice]
      exact (take_eq_stay_iff hs hentry hexit).mpr hloop
    obtain ⟨-, hidle, -⟩ := State.later_of_choice_withoutIdle hentry hexit hlater
    rw [(take_eq_stay_iff hs hentry hexit).mp hstay] at hidle
    cases hidle
  · intro hhides o
    by_cases hcontent : s.entry = [] ∧ s.exit = []
    · obtain ⟨hentry, hexit⟩ := hcontent
      cases hchoice : s.choice o with
      | none => rw [State.choice_withoutIdle_eq_none hchoice]
      | some t =>
        cases hidle : t.isIdle s.id with
        | false => rw [State.choice_withoutIdle_of_not_idle hentry hexit hchoice hidle]
        | true =>
          -- nothing else can be taken, and both ways nothing happens
          have hnone : s.withoutIdle.choice o = none := by
            cases hlater : s.withoutIdle.choice o with
            | none => rfl
            | some later =>
              exact absurd (State.hides_of_choice hentry hexit hchoice hidle hlater) hhides
          rw [hnone, (take_eq_stay_iff hs hentry hexit).mpr hidle]
          rfl
    · rw [State.withoutIdle_of_content hcontent]

/-- The same for a chart in the state with a given name. -/
theorem move_withoutIdle_iff {id : String} :
    (∀ o, c.withoutIdle.move id o = c.move id o) ↔
      ∀ s, c.state? id = some s → ¬ s.Hides := by
  cases hs : c.state? id with
  | none =>
    have hnone : c.withoutIdle.state? id = none := by
      rw [state?_withoutIdle, hs]
      rfl
    simp [move, hs, hnone]
  | some s =>
    obtain rfl : s.id = id := by simpa using List.find?_some hs
    have hsome : c.withoutIdle.state? s.id = some s.withoutIdle := by
      rw [state?_withoutIdle, hs]
      rfl
    simp only [move, hs, hsome, take_withoutIdle, take_choice_withoutIdle_iff hs,
      Option.some.injEq, forall_eq']

end Chart

/-- **What dropping empty self loops keeps.** A chart and the chart without its empty self loops go
through the same states and run the same actions, whatever they meet, if and only if none of the
states that the chart can get to hides a transition behind such a loop. For the direction that needs
a witness, guards may hold in any combination, and the event is the one that both transitions go off
at. -/
theorem history_withoutIdle_iff (c : Chart) :
    (∀ os, c.withoutIdle.history c.initial os = c.history c.initial os) ↔
      ∀ s, c.Visits s → ¬ s.Hides := by
  rw [Chart.history_eq_iff]
  constructor
  · rintro h s ⟨os, hs⟩
    exact Chart.move_withoutIdle_iff.mp (h os) s hs
  · intro h os
    exact Chart.move_withoutIdle_iff.mpr fun s hs => h s ⟨os, hs⟩

open Sample in
/-- A chart that is well formed and plain, goes through a compilation, and behaves differently
afterwards: of two transitions for one event the first does nothing, and once it is gone the second
is taken. -/
theorem withoutIdle_changes_history :
    looping.check = .ok () ∧ looping.Settled ∧
    Network.compile scriptInterpreter [looping] = .ok ⟨[looping.withoutIdle], []⟩ ∧
    ∃ o, looping.history looping.initial [o] = [("idle", [])] ∧
      looping.withoutIdle.history looping.initial [o] = [("done", [])] := by
  have hsettled : looping.Settled := ⟨rfl, rfl⟩
  have htidy : looping.tidy = looping.withoutIdle := if_pos (by decide)
  refine ⟨by decide +kernel, hsettled, ?_, ⟨some "go", fun _ => true⟩, ?_, ?_⟩
  · rw [Network.compile_settled (List.forall_mem_singleton.mpr hsettled) (List.nodup_singleton _),
      List.map_singleton, htidy]
  · rfl
  · rfl

end ChartNet
