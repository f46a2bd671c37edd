import ChartNet.Proofs.Recompiling
import ChartNet.Proofs.RoundTrip

/-!
# Charts in circulation

A chart gets into circulation in one of a few ways: it is built, read from a document, or made out
of charts that are in circulation already. Not all of these end with a check of the result; still
every chart in circulation passes it (`Chart.Circulates.check`), and a chart that passes it can be
built (`Chart.circulates_iff`). What that is good for is said by `Chart.Navigable`.
-/

namespace ChartNet

/-- The chart came about in one of the ways in which charts do. There is one constructor for each
function of the program that returns a chart, and what one of them returns may be given to the
next. -/
inductive Chart.Circulates : Chart → Prop
  /-- it was built -/
  | built {b : Builder} {c : Chart} (h : b.build = .ok c) : Circulates c
  /-- it was read from a document -/
  | read {text : String} {c : Chart} (h : Document.read text = .ok c) : Circulates c
  /-- it is the plain form of a chart in circulation -/
  | plain {c plain : Chart} {r : Registry} (hc : Circulates c) (h : c.toPlain = .ok (plain, r)) :
      Circulates plain
  /-- it is the arbiter of a service -/
  | arbiter {interpret : Interpreter} {s : Service} {c : Chart} (h : s.arbiter interpret = .ok c) :
      Circulates c
  /-- empty self loops were taken out -/
  | withoutIdle {c : Chart} (hc : Circulates c) : Circulates c.withoutIdle
  /-- it was tidied up -/
  | tidied {c : Chart} (hc : Circulates c) : Circulates c.tidy
  /-- it came out of a compilation -/
  | compiled {interpret : Interpreter} {charts : List Chart} {out : Compiled} {c : Chart}
      (hcharts : ∀ c ∈ charts, Circulates c) (h : Network.compile interpret charts = .ok out)
      (hc : c ∈ out.charts) : Circulates c

/-! ### What each way preserves -/

/-- An arbiter has passed its check, since it is built like any other chart. -/
theorem Service.check_arbiter {interpret : Interpreter} {s : Service} {c : Chart}
    (h : s.arbiter interpret = .ok c) : c.check = .ok () := by
  obtain ⟨-, schema, flat, -, -, -, hcheck, rfl⟩ := Service.arbiter_eq_ok.mp h
  exact hcheck

/-- Plain forms are tidied up after their check, arbiters are taken as they are. -/
theorem Network.check_of_compile {interpret : Interpreter} {charts : List Chart} {out : Compiled}
    (h : compile interpret charts = .ok out) (hcharts : ∀ c ∈ charts, c.check = .ok ()) :
    ∀ c ∈ out.charts, c.check = .ok () := by
  obtain ⟨parts, arbiters, hparts, harbiters, -, rfl⟩ := compile_parts h
  refine List.forall_mem_append.mpr ⟨?_, ?_⟩
  · rw [List.map_map]
    refine List.forall_mem_map.mpr ?_
    intro part hpart
    obtain ⟨c, hc, hplain⟩ := exists_source hparts hpart
    exact Chart.check_tidy (Chart.check_toPlain hplain (hcharts c hc))
  · refine forall_mem_of_forall₂ ?_ harbiters
    rintro flat a ⟨s, -, ha⟩
    exact Service.check_arbiter ha

namespace Chart

/-- **Every chart in circulation is well formed.** The induction is on the way by which it got
there: each way checks the chart itself or keeps what was checked before. -/
theorem Circulates.check {c : Chart} (h : c.Circulates) : c.check = .ok () := by
  induction h with
  | built hbuild =>
    obtain ⟨hcheck, rfl⟩ := Builder.build_eq_ok.mp hbuild
    exact hcheck
  | read hread => exact (Document.of_read hread).1
  | plain _ hplain ih => exact check_toPlain hplain ih
  | arbiter harbiter => exact Service.check_arbiter harbiter
  | withoutIdle _ ih => exact check_withoutIdle ih
  | tidied _ ih => exact check_tidy ih
  | compiled _ hcompile hc ih => exact Network.check_of_compile hcompile ih _ hc

/-! ### Charts put together again -/

/-- A builder that was told the parts of the chart one by one, each with the call that adds such a
part. -/
def reassembled (c : Chart) : Builder :=
  let withData := c.data.foldl Builder.datum ((Builder.named c.name).initial c.initial)
  c.states.foldl Builder.state (c.declarations.foldl Builder.declare withData)

/-- Telling a builder one part after the other adds them all. The order among parts of one sort is
kept, and parts of different sorts do not matter to each other. -/
theorem reassembled_eq (c : Chart) : c.reassembled = c.toBuilder := by
  have hdata : ∀ (ds : List Datum) (b : Builder),
      ds.foldl Builder.datum b = { b with data := b.data ++ ds } := by
    intro ds
    induction ds with
    | nil => simp
    | cons d ds ih => simp [ih, Builder.datum]
  have hdeclarations : ∀ (ds : List Declaration) (b : Builder),
      ds.foldl Builder.declare b = { b with declarations := b.declarations ++ ds } := by
    intro ds
    induction ds with
    | nil => simp
    | cons d ds ih => simp [ih, Builder.declare]
  have hstates : ∀ (ss : List State) (b : Builder),
      ss.foldl Builder.state b = { b with states := b.states ++ ss } := by
    intro ss
    induction ss with
    | nil => simp
    | cons s ss ih => simp [ih, Builder.state]
  simp [reassembled, toBuilder, hdata, hdeclarations, hstates, Builder.named, Builder.initial]

/-- Charts in circulation are those that a builder would build, and so just the well formed ones. -/
theorem circulates_iff {c : Chart} : c.Circulates ↔ c.check = .ok () := by
  constructor
  · exact Circulates.check
  · intro h
    exact .built (build_toBuilder h)

/-! ### States that can be found -/

/-- Every state that is named as the initial one or as a target is there to be found, and there is
only one to be found. So a run of the chart never gets lost. -/
structure Navigable (c : Chart) : Prop where
  /-- the initial state is there -/
  initial : ∃ s, c.state? c.initial = some s
  /-- the targets of all transitions are there -/
  target : ∀ s ∈ c.states, ∀ t ∈ s.transitions, ∃ s', c.state? t.target = some s'
  /-- a state that is found is the only one with its identifier -/
  unique : ∀ id s, c.state? id = some s → c.states.filter (·.id = id) = [s]

theorem exists_state? {c : Chart} {id : String} (h : id ∈ c.states.map (·.id)) :
    ∃ s, c.state? id = some s := by
  obtain ⟨s, hs, rfl⟩ := List.mem_map.mp h
  apply Option.isSome_iff_exists.mp
  rw [state?, List.find?_isSome]
  exact ⟨s, hs, beq_self_eq_true _⟩

/-- With different identifiers, no second state has the identifier of the one that is found. A
lookup takes the first state, and so this is what makes it the right one. -/
theorem filter_eq_of_find? {states : List State} (hnodup : (states.map (·.id)).Nodup) {id : String}
    {s : State} (h : states.find? (·.id == id) = some s) : states.filter (·.id = id) = [s] := by
  induction states with
  | nil => cases h
  | cons first rest ih =>
    obtain ⟨hnew, hrest⟩ := List.nodup_cons.mp hnodup
    by_cases hid : first.id = id
    · have hnone : rest.filter (·.id = id) = [] := by
        simp only [List.filter_eq_nil_iff, decide_eq_true_eq]
        intro s' hs' hsame
        exact hnew (List.mem_map.mpr ⟨s', hs', hsame.trans hid.symm⟩)
      have hfirst : first = s := by simpa [hid] using h
      rw [List.filter_cons_of_pos (by simpa using hid), hnone, hfirst]
    · have hfound : rest.find? (·.id == id) = some s := by simpa [hid] using h
      simpa [hid] using ih hrest hfound

/-- The check is all that is needed for states to be found. -/
theorem navigable_of_check {c : Chart} (h : c.check = .ok ()) : c.Navigable := by
  obtain ⟨-, ⟨-, -, hnodup⟩, ⟨s, hs, hinitial⟩, -, -, hstates⟩ := check_eq_ok.mp h
  refine ⟨?_, ?_, ?_⟩
  · exact exists_state? (List.mem_map.mpr ⟨s, hs, hinitial⟩)
  · intro s hs t ht
    obtain ⟨-, htransitions⟩ := State.check_eq_ok.mp (hstates s hs)
    obtain ⟨htarget, -⟩ := Transition.check_eq_ok.mp (htransitions t ht)
    exact exists_state? htarget
  · intro id s hs
    exact filter_eq_of_find? hnodup hs

/-- **Every chart in circulation is valid**: it passes its check, so that its initial state and the
targets of its transitions are found, each of them one state and no other, and a builder that is
told its parts one by one builds the very same chart. The same means that every part is the same; a
rate that is not a number counts as the same if it is taken over. -/
theorem circulating_valid {c : Chart} (h : c.Circulates) :
    c.check = .ok () ∧ c.Navigable ∧ c.reassembled.build = .ok c := by
  have hcheck := h.check
  refine ⟨hcheck, navigable_of_check hcheck, ?_⟩
  rw [reassembled_eq]
  exact build_toBuilder hcheck

open Sample in
/-- Charts with an empty self loop, a timer and a service: all that comes out, the arbiter included,
is in circulation. -/
theorem circulating_valid_sample :
    ∃ out, Network.compile scriptInterpreter [serving "a", asking "b", looping] = .ok out ∧
      out.charts.map (·.name) = ["a", "b", "srv_handler_x", "srv_handler_set_bool"] ∧
      ∀ c ∈ out.charts, c.check = .ok () ∧ c.Navigable ∧ c.reassembled.build = .ok c := by
  have hcharts : ∀ c ∈ [serving "a", asking "b", looping], c.Circulates := by
    simp only [List.forall_mem_cons, circulates_iff]
    exact ⟨by decide +kernel, by decide +kernel, by decide +kernel, List.forall_mem_nil _⟩
  have hcompiled : (Network.compile scriptInterpreter
      [serving "a", asking "b", looping]).toOption.any (fun out =>
        out.charts.map (·.name) == ["a", "b", "srv_handler_x", "srv_handler_set_bool"]) = true := by
    decide +kernel
  obtain ⟨out, hout, hnames⟩ := exists_of_any hcompiled
  refine ⟨out, hout, eq_of_beq hnames, ?_⟩
  intro c hc
  exact circulating_valid (.compiled hcharts hout hc)

end Chart

end ChartNet
