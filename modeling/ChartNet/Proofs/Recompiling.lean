import ChartNet.Proofs.Contents
import ChartNet.Proofs.Images

/-!
# Compiling what was compiled

The charts that come out of a compilation make up a network of their own. They are *settled*: they
neither declare nor use anything, and so a second compilation finds no timers and no services in
them, and never asks its interpreter (`Network.compile_settled`).

That everything is settled has to be seen for plain forms, where every construct was replaced
(`Chart.settled_of_toPlain`), and for arbiters (`Service.settled_arbiter`). That nothing is dropped
a second time is a matter of `Chart.tidy_tidy`.
-/

namespace ChartNet

/-- The chart neither declares nor uses a resource. -/
structure Chart.Settled (c : Chart) : Prop where
  /-- it declares no resource -/
  declares_nothing : c.declarations = []
  /-- no trigger and no action uses one -/
  uses_nothing : c.uses = []

/-! ### Settled charts as a network -/

/-- A settled chart is its own plain form. -/
theorem Chart.Settled.toPlain_eq {c : Chart} (h : c.Settled) :
    c.toPlain = .ok (c, Registry.empty c.name) := by
  apply toPlain_eq_ok.mpr
  refine ⟨?_, ?_, .inl ⟨h.declares_nothing, rfl⟩⟩
  · rw [Registry.ofChart, h.declares_nothing]
    rfl
  · rw [Registry.checkUses, h.uses_nothing]
    rfl

/-- Settled charts need nothing but different names, and come out tidied up. There is nothing to
register and so no arbiter, and the interpreter is not asked. -/
theorem Network.compile_settled {interpret : Interpreter} {charts : List Chart}
    (hsettled : ∀ c ∈ charts, c.Settled) (hnames : (charts.map (·.name)).Nodup) :
    compile interpret charts = .ok ⟨charts.map Chart.tidy, []⟩ := by
  have htimers : (charts.flatMap fun c => (Registry.empty c.name).timers) = [] :=
    List.flatMap_eq_nil_iff.mpr fun _ _ => rfl
  have hcalls : (charts.flatMap fun c => (Registry.empty c.name).calls c.name) = [] :=
    List.flatMap_eq_nil_iff.mpr fun _ _ => rfl
  apply compile_eq_ok.mpr
  -- every chart is its own part, with a registry that holds nothing
  refine ⟨charts.map fun c => (c, Registry.empty c.name), [], [], ?_, ?_, ?_, ?_, .nil,
    fresh_nil _, ?_⟩
  · apply List.forall₂_map_right_iff.mpr
    apply List.forall₂_same.mpr
    intro c hc
    exact (hsettled c hc).toPlain_eq
  · rw [List.map_map]
    exact hnames
  · rw [List.flatMap_map, htimers]
    exact List.nodup_nil
  · rw [List.flatMap_map, hcalls]
    rfl
  · rw [List.flatMap_map, htimers, List.map_map, List.append_nil]
    simp only [Function.comp_def, List.map_id']

/-! ### Compiled charts are settled -/

theorem Trigger.Image.uses_eq_nil {automaton : String} {t t' : Trigger}
    (h : t.Image automaton t') : t'.uses = [] := by
  cases h <;> rfl

theorem Transition.Image.uses_eq_nil {automaton : String} {t t' : Transition}
    (h : t.Image automaton t') : t'.uses = [] := by
  rw [Transition.uses, h.trigger.uses_eq_nil, h.body.uses_eq_nil]
  rfl

theorem State.Image.uses_eq_nil {automaton : String} {s s' : State} (h : s.Image automaton s') :
    s'.uses = [] := by
  rw [State.uses, Block.uses_append, h.entry.uses_eq_nil, h.exit.uses_eq_nil]
  apply List.flatMap_eq_nil_iff.mpr
  exact forall_mem_of_forall₂ (fun _ _ ht => ht.uses_eq_nil) h.transitions

/-- A plain form is settled, also if the chart is its own plain form: then it was checked that it
uses nothing. -/
theorem Chart.settled_of_toPlain {c plain : Chart} {r : Registry}
    (h : c.toPlain = .ok (plain, r)) : plain.Settled where
  declares_nothing := declarations_toPlain h
  uses_nothing := by
    apply List.flatMap_eq_nil_iff.mpr
    exact forall_mem_of_forall₂ (fun _ _ hs => hs.uses_eq_nil) (states_image h)

/-- A settled chart stays so when it is tidied up. -/
theorem Chart.Settled.tidy {c : Chart} (h : c.Settled) : c.tidy.Settled where
  declares_nothing := c.declarations_tidy.trans h.declares_nothing
  uses_nothing := uses_tidy h.uses_nothing

namespace Arbiter

/-- A relay only assigns and sends. -/
theorem uses_relay (target trigger event : String) (fields : List Field) :
    (relay target trigger fields event).uses = [] := by
  have hkeep : ∀ fs : List Field, Block.uses (fs.map keep) = [] := by
    intro fs
    induction fs with
    | nil => rfl
    | cons f fs ih => exact ih
  have hbody : Block.uses (relay target trigger fields event).body = [] := by
    rw [relay, Block.uses_append, hkeep fields]
    rfl
  rw [Transition.uses, hbody]
  rfl

theorem settled_chart (flat : String) (schema : ServiceSchema) (clients : List String) :
    (chart flat schema clients).Settled where
  declares_nothing := rfl
  uses_nothing := by
    have hwaiting : (waitingState flat schema clients).uses = [] := by
      apply List.flatMap_eq_nil_iff.mpr
      refine List.forall_mem_map.mpr ?_
      intro client _
      exact uses_relay _ _ _ _
    have hserving : ∀ client, (servingState flat schema client).uses = [] := by
      intro client
      apply List.flatMap_eq_nil_iff.mpr
      exact List.forall_mem_singleton.mpr (uses_relay _ _ _ _)
    apply List.flatMap_eq_nil_iff.mpr
    refine List.forall_mem_cons.mpr ⟨hwaiting, List.forall_mem_map.mpr ?_⟩
    intro client _
    exact hserving client

end Arbiter

theorem Service.settled_arbiter {interpret : Interpreter} {s : Service} {a : Chart}
    (h : s.arbiter interpret = .ok a) : a.Settled := by
  obtain ⟨-, schema, flat, -, -, -, -, rfl⟩ := Service.arbiter_eq_ok.mp h
  exact Arbiter.settled_chart flat schema s.clients

/-! ### Compiling twice -/

/-- Everything that comes out of a compilation is settled and tidy, and has a name of its own. These
are the conditions of `Network.compile_settled`. -/
theorem Network.settled_of_compile {interpret : Interpreter} {charts : List Chart} {out : Compiled}
    (h : compile interpret charts = .ok out) :
    (∀ c ∈ out.charts, c.Settled ∧ c.tidy = c) ∧ (out.charts.map (·.name)).Nodup := by
  obtain ⟨parts, arbiters, hparts, harbiters, hnodup, rfl⟩ := compile_parts h
  refine ⟨List.forall_mem_append.mpr ⟨?_, ?_⟩, ?_⟩
  · rw [List.map_map]
    refine List.forall_mem_map.mpr (forall_mem_of_forall₂ ?_ hparts)
    rintro c ⟨plain, r⟩ hplain
    exact ⟨(Chart.settled_of_toPlain hplain).tidy, Chart.tidy_tidy plain⟩
  · refine forall_mem_of_forall₂ ?_ harbiters
    rintro flat a ⟨s, -, ha⟩
    exact ⟨Service.settled_arbiter ha, Service.tidy_arbiter ha⟩
  · obtain ⟨hnames, -⟩ := gathered_eq hparts
    rw [← hnames] at hnodup
    simpa [Function.comp_def] using hnodup

/-- **Compiling is idempotent**: what came out of a compilation comes out of the next one as it is,
whatever interpreter that one is given, and there are no timers left. The charts are in the same
order, and the arbiters are not made again. -/
theorem compile_compiled {interpret : Interpreter} {charts : List Chart} {out : Compiled}
    (h : Network.compile interpret charts = .ok out) (interpret' : Interpreter) :
    Network.compile interpret' out.charts = .ok ⟨out.charts, []⟩ := by
  obtain ⟨hcharts, hnames⟩ := Network.settled_of_compile h
  have htidy : out.charts.map Chart.tidy = out.charts := by
    rw [List.map_congr_left fun c hc => (hcharts c hc).2, List.map_id']
  rw [Network.compile_settled (fun c hc => (hcharts c hc).1) hnames, htidy]

/-- A chart with the name of an arbiter, and with an empty self loop that is to be dropped. -/
def Sample.looping : Chart :=
  ⟨"srv_handler_x", "idle", [], [],
    [⟨"idle", [], [], [⟨"idle", .events ["go"], none, []⟩, ⟨"done", .events ["go"], none, []⟩]⟩,
      ⟨"done", [], [], []⟩]⟩

open Sample in
/-- A service, a timer and an empty self loop, and a second compilation by an interpreter that finds
no values at all. -/
theorem compile_compiled_sample :
    ∃ out, Network.compile scriptInterpreter [serving "a", asking "b", looping] = .ok out ∧
      out.charts.map (·.name) = ["a", "b", "srv_handler_x", "srv_handler_set_bool"] ∧
      out.timers.map (·.name) = ["tick"] ∧
      Network.compile (fun code _ => .error ⟨code, .malformed⟩) out.charts =
        .ok ⟨out.charts, []⟩ := by
  have hcompiled : (Network.compile scriptInterpreter
      [serving "a", asking "b", looping]).toOption.any (fun out =>
        out.charts.map (·.name) == ["a", "b", "srv_handler_x", "srv_handler_set_bool"] &&
          out.timers.map (·.name) == ["tick"]) = true := by decide +kernel
  obtain ⟨out, hout, hnames⟩ := exists_of_any hcompiled
  obtain ⟨hcharts, htimers⟩ := Bool.and_eq_true_iff.mp hnames
  exact ⟨out, hout, eq_of_beq hcharts, eq_of_beq htimers, compile_compiled hout _⟩

end ChartNet
