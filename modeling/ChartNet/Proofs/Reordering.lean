import ChartNet.Proofs.Contents
import ChartNet.Proofs.Images
import Mathlib.Data.List.Rotate
import Mathlib.Data.Set.Basic

/-!
# Networks in another order

The charts of a network are registered one after the other, and whoever comes first settles the type
of a service and the spelling of its name. Still the order of the charts decides nothing: whether a
network can be compiled is the same in any order, and what comes out is the same but for order.

* `Arbiter.Reordered` relates arbiters that differ in the order of clients alone, and
  `Compiled.Reordered` what comes out of two compilations.
* A service of the directory is made from the calls for it, and these are the same calls in another
  order (`Network.Directory.arbiter_of_perm`). The rest follows list by list
  (`Network.compile_of_perm`).
-/

namespace ChartNet

/-- The states of a chart as a set, each with its transitions as a set. Where at most one transition
fires on an event, their order does not matter to a run. -/
def Chart.stateSets (c : Chart) : Set (String × Set Transition) :=
  {p | ∃ s ∈ c.states, p = (s.id, {t | t ∈ s.transitions})}

/-! ### Arbiters -/

namespace Arbiter

/-- The arbiters are the same, but for the order of the transitions out of the waiting state and of
the states after it. -/
structure Reordered (a a' : Chart) : Prop where
  /-- the same name -/
  name : a.name = a'.name
  /-- the same initial state -/
  initial : a.initial = a'.initial
  /-- the same variables in the same order -/
  data : a.data = a'.data
  /-- the same declarations -/
  declarations : a.declarations = a'.declarations
  /-- the waiting state comes first, its transitions and the other states may be reordered -/
  states : ∃ accepts accepts' serving serving',
    a.states = ⟨waiting, [], [], accepts⟩ :: serving ∧
    a'.states = ⟨waiting, [], [], accepts'⟩ :: serving' ∧
    accepts.Perm accepts' ∧ serving.Perm serving'

/-- The clients in another order make an arbiter in another order. -/
theorem reordered_chart (flat : String) (schema : ServiceSchema) {clients clients' : List String}
    (h : clients.Perm clients') :
    Reordered (chart flat schema clients) (chart flat schema clients') where
  name := rfl
  initial := rfl
  data := rfl
  declarations := rfl
  states := ⟨_, _, _, _, rfl, rfl, h.map _, h.map _⟩

/-- As sets, states and transitions are the same. -/
theorem Reordered.stateSets_eq {a a' : Chart} (h : Reordered a a') :
    a.stateSets = a'.stateSets := by
  obtain ⟨accepts, accepts', serving, serving', hstates, hstates', haccepts, hserving⟩ := h.states
  have hsets : {t | t ∈ accepts} = {t | t ∈ accepts'} := by
    ext t
    exact haccepts.mem_iff
  ext p
  simp only [Chart.stateSets, hstates, hstates', Set.mem_ofPred_eq, List.mem_cons,
    exists_eq_or_imp, hsets, hserving.mem_iff]

end Arbiter

/-- The same calls in another order, on a service whose name is spelled differently, give the same
arbiter but for order. -/
theorem Service.arbiter_of_perm {interpret : Interpreter} {name name' flat : String}
    {calls calls' : List Call} {a : Chart} (hcalls : Call.Compatible calls)
    (hperm : calls.Perm calls') (hname : Wire.flatName name = .ok flat)
    (hname' : Wire.flatName name' = .ok flat)
    (h : ((named name).enrol calls).arbiter interpret = .ok a) :
    ∃ a', ((named name').enrol calls').arbiter interpret = .ok a' ∧ Arbiter.Reordered a a' := by
  obtain ⟨hservers, hclients, hbackslash, schema, ⟨c, hc, hservice⟩, hdefaults, rfl⟩ :=
    (arbiter_enrol_eq_ok hname hcalls).mp h
  have hservers' : (Call.servers calls).Perm (Call.servers calls') := hperm.filterMap _
  have hclients' : (Call.clients calls).Perm (Call.clients calls') := hperm.filterMap _
  refine ⟨Arbiter.chart flat schema (Call.clients calls'), ?_,
    Arbiter.reordered_chart flat schema hclients'⟩
  apply (arbiter_enrol_eq_ok hname' (hcalls.perm hperm)).mpr
  refine ⟨?_, ?_, hbackslash, schema, ⟨c, hperm.mem_iff.mp hc, hservice⟩, hdefaults, rfl⟩
  · intro hnil
    rw [hnil] at hservers'
    exact hservers hservers'.eq_nil
  · intro hnil
    rw [hnil] at hclients'
    exact hclients hclients'.eq_nil

/-! ### Directories -/

namespace Network

section Directories

variable {entries entries' : List (String × Call)} {services services' : List (String × Service)}

/-- The services do not depend on the order of the calls. -/
theorem Directory.keys_perm (h : Directory entries services) (h' : Directory entries' services')
    (hperm : entries.Perm entries') : (services.map (·.1)).Perm (services'.map (·.1)) := by
  apply (List.perm_ext_iff_of_nodup h.keys_nodup h'.keys_nodup).mpr
  intro flat
  rw [h.mem_keys, h'.mem_keys]
  simp only [hperm.mem_iff]

/-- Nor do their arbiters, but for order. -/
theorem Directory.arbiter_of_perm (h : Directory entries services)
    (h' : Directory entries' services') (hperm : entries.Perm entries')
    (hconsonant : Consonant entries) {e e' : String × Service} (he : e ∈ services)
    (he' : e' ∈ services') (hkey : e.1 = e'.1) {interpret : Interpreter} {a : Chart}
    (ha : e.2.arbiter interpret = .ok a) :
    ∃ a', e'.2.arbiter interpret = .ok a' ∧ Arbiter.Reordered a a' := by
  obtain ⟨name, hname, hservice⟩ := h.service_eq e he
  obtain ⟨name', hname', hservice'⟩ := h'.service_eq e' he'
  rw [hservice] at ha
  rw [← hkey] at hname' hservice'
  rw [hservice']
  exact Service.arbiter_of_perm (hconsonant.compatible e.1) (callsFor_perm e.1 hperm) hname hname'
    ha

/-- All arbiters together. Arbiters of the same name belong to the same service, so that they can be
compared one by one although they come in another order. -/
theorem Directory.arbiters_of_perm (h : Directory entries services)
    (h' : Directory entries' services') (hperm : entries.Perm entries')
    (hconsonant : Consonant entries) {interpret : Interpreter} {arbiters : List Chart}
    (harbiters : List.Forall₂ (fun e a => e.2.arbiter interpret = .ok a) services arbiters) :
    ∃ arbiters', List.Forall₂ (fun e a => e.2.arbiter interpret = .ok a) services' arbiters' ∧
      (arbiters.map (·.name)).Perm (arbiters'.map (·.name)) ∧
      ∀ a ∈ arbiters, ∀ a' ∈ arbiters', a.name = a'.name → Arbiter.Reordered a a' := by
  have hkeys := h.keys_perm h' hperm
  obtain ⟨arbiters', harbiters'⟩ : ∃ arbiters',
      List.Forall₂ (fun e a => e.2.arbiter interpret = .ok a) services' arbiters' := by
    apply exists_forall₂.mpr
    intro e' he'
    -- the service is in the first directory as well, perhaps under another spelling
    obtain ⟨e, he, hkey⟩ := List.mem_map.mp (hkeys.mem_iff.mpr (List.mem_map_of_mem he'))
    obtain ⟨a, ha⟩ := exists_forall₂.mp ⟨arbiters, harbiters⟩ e he
    obtain ⟨a', ha', -⟩ := h.arbiter_of_perm h' hperm hconsonant he he' hkey ha
    exact ⟨a', ha'⟩
  refine ⟨arbiters', harbiters', ?_, ?_⟩
  · rw [arbiter_names h.flatName_eq harbiters, arbiter_names h'.flatName_eq harbiters']
    simpa only [List.map_map, Function.comp_def] using hkeys.map ("srv_handler_" ++ ·)
  · intro a ha a' ha' hname
    obtain ⟨e, he, hea⟩ := exists_source harbiters ha
    obtain ⟨e', he', hea'⟩ := exists_source harbiters' ha'
    rw [Service.arbiter_name hea (h.flatName_eq e he),
      Service.arbiter_name hea' (h'.flatName_eq e' he')] at hname
    -- an arbiter is called after the flat name, so that its name tells the service
    have hkey : e.1 = e'.1 := (String.append_right_inj _).mp hname
    obtain ⟨a'', ha'', hreordered⟩ := h.arbiter_of_perm h' hperm hconsonant he he' hkey hea
    obtain rfl := Except.ok.inj (hea'.symm.trans ha'')
    exact hreordered

end Directories

end Network

/-! ### Whole networks -/

/-- The outcomes of two compilations of `n` charts are the same but for order. The plain forms come
first, and after these `n` charts there are only arbiters (`Network.compile_parts`). -/
structure Compiled.Reordered (n : Nat) (out out' : Compiled) : Prop where
  /-- the same timers -/
  timers : out.timers.Perm out'.timers
  /-- the same plain forms -/
  plains : (out.charts.take n).Perm (out'.charts.take n)
  /-- arbiters for the same services -/
  arbiter_names : ((out.charts.drop n).map (·.name)).Perm ((out'.charts.drop n).map (·.name))
  /-- each arbiter is the same but for order -/
  arbiters : ∀ a ∈ out.charts.drop n, ∀ a' ∈ out'.charts.drop n, a.name = a'.name →
    Arbiter.Reordered a a' ∧ a.stateSets = a'.stateSets

/-- A network that can be compiled can be compiled in any other order. Names and timers stay
different, calls stay consonant, and for each service there is the same arbiter but for order. -/
theorem Network.compile_of_perm {interpret : Interpreter} {charts charts' : List Chart}
    {out : Compiled} (hcharts : charts.Perm charts') (h : compile interpret charts = .ok out) :
    ∃ out', compile interpret charts' = .ok out' ∧ out.Reordered charts.length out' := by
  obtain ⟨parts, services, arbiters, hparts, hnames, htimers, hservices, harbiters, hfresh, rfl⟩ :=
    compile_eq_ok.mp h
  rw [List.forall₂_map_left_iff] at harbiters
  obtain ⟨hconsonant, hdirectory⟩ := (enlistCalls_spec (callsOf parts)).1 services hservices
  -- the parts follow their charts, and the calls follow the parts
  obtain ⟨parts', hparts', hperm⟩ := List.perm_comp_forall₂ hcharts.symm hparts
  replace hperm := hperm.symm
  have hcalls : (callsOf parts).Perm (callsOf parts') := hperm.flatMap_right _
  obtain ⟨services', hservices'⟩ :=
    (enlistCalls_spec (callsOf parts')).2 (hconsonant.perm hcalls)
  obtain ⟨-, hdirectory'⟩ := (enlistCalls_spec (callsOf parts')).1 services' hservices'
  obtain ⟨arbiters', harbiters', hsame, hreordered⟩ :=
    hdirectory.arbiters_of_perm hdirectory' hcalls hconsonant harbiters
  have htimers' : (parts.flatMap (·.2.timers)).Perm (parts'.flatMap (·.2.timers)) :=
    hperm.flatMap_right _
  refine ⟨_, compile_eq_ok.mpr ⟨parts', services', arbiters', hparts',
    (hperm.map _).nodup_iff.mp hnames, (htimers'.map _).nodup_iff.mp htimers, hservices',
    List.forall₂_map_left_iff.mpr harbiters', hfresh.perm (hperm.map _) hsame, rfl⟩, ?_⟩
  -- where the arbiters begin, which is at the same place in both outcomes
  have hlength : charts.length = ((parts.map (·.1)).map Chart.tidy).length := by
    rw [List.length_map, List.length_map, hparts.length_eq]
  have hlength' : charts.length = ((parts'.map (·.1)).map Chart.tidy).length := by
    rw [List.length_map, List.length_map, hcharts.length_eq, hparts'.length_eq]
  simp only [List.map_append, Service.map_tidy_arbiters harbiters,
    Service.map_tidy_arbiters harbiters']
  refine ⟨htimers', ?_, ?_, ?_⟩
  · rw [List.take_left' hlength.symm, List.take_left' hlength'.symm]
    exact (hperm.map _).map _
  · rw [List.drop_left' hlength.symm, List.drop_left' hlength'.symm]
    exact hsame
  · rw [List.drop_left' hlength.symm, List.drop_left' hlength'.symm]
    intro a ha a' ha' hname
    have hboth := hreordered a ha a' ha' hname
    exact ⟨hboth, hboth.stateSets_eq⟩

/-- **The order of a network does not matter**: its charts can be compiled in all orders or in none,
and the outcomes are the same but for order. Where a compilation fails, however, the order does
matter to the fault that is reported. -/
theorem compile_perm {charts charts' : List Chart} (h : charts.Perm charts')
    (interpret : Interpreter) :
    ((∃ out, Network.compile interpret charts = .ok out) ↔
      ∃ out', Network.compile interpret charts' = .ok out') ∧
    ∀ out out', Network.compile interpret charts = .ok out →
      Network.compile interpret charts' = .ok out' → out.Reordered charts.length out' := by
  refine ⟨⟨?_, ?_⟩, ?_⟩
  · rintro ⟨out, hout⟩
    obtain ⟨out', hout', -⟩ := Network.compile_of_perm h hout
    exact ⟨out', hout'⟩
  · rintro ⟨out', hout'⟩
    obtain ⟨out, hout, -⟩ := Network.compile_of_perm h.symm hout'
    exact ⟨out, hout⟩
  · intro out out' hout hout'
    obtain ⟨out₁, hout₁, hreordered⟩ := Network.compile_of_perm h hout
    obtain rfl := Except.ok.inj (hout'.symm.trans hout₁)
    exact hreordered

/-- With the first chart at the end, the other service comes first, and so does the other client of
`b`. -/
theorem compile_perm_sample :
    ∃ out out', Network.compile scriptInterpreter Sample.parties = .ok out ∧
      Network.compile scriptInterpreter (Sample.parties.rotate 1) = .ok out' ∧
      out.charts.map (·.name) = ["p", "q", "r", "srv_handler_a", "srv_handler_b"] ∧
      out'.charts.map (·.name) = ["q", "r", "p", "srv_handler_b", "srv_handler_a"] ∧
      out.Reordered 3 out' := by
  have hnames : (Network.compile scriptInterpreter Sample.parties).toOption.any
      (fun out => out.charts.map (·.name) ==
        ["p", "q", "r", "srv_handler_a", "srv_handler_b"]) = true := by decide +kernel
  have hnames' : (Network.compile scriptInterpreter (Sample.parties.rotate 1)).toOption.any
      (fun out => out.charts.map (·.name) ==
        ["q", "r", "p", "srv_handler_b", "srv_handler_a"]) = true := by decide +kernel
  obtain ⟨out, hout, hcharts⟩ := exists_of_any hnames
  obtain ⟨out', hout', hcharts'⟩ := exists_of_any hnames'
  have hperm : Sample.parties.Perm (Sample.parties.rotate 1) := (List.rotate_perm _ 1).symm
  exact ⟨out, out', hout, hout', eq_of_beq hcharts, eq_of_beq hcharts',
    (compile_perm hperm scriptInterpreter).2 out out' hout hout'⟩

end ChartNet
