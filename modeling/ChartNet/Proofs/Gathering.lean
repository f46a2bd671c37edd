import ChartNet.Proofs.ArbiterForm
import ChartNet.Proofs.Declared
import ChartNet.Proofs.Directory

/-!
# What a compilation gathers

A compilation takes the charts in order and gathers their plain forms, their timers and their
services side by side, and then adds the arbiters. Here the gathering is taken apart: each of the
lists can be followed on its own, and `Network.compile_eq_ok` puts them together.

Names of charts, of timers and of arbiters are all kept apart in the same way, `Fresh`.
-/

namespace ChartNet

/-- The names are new, and none of them occurs twice. It is what a check finds out that goes through
the names and adds each to those that are known. -/
def Fresh (known names : List String) : Prop := names.Nodup ∧ ∀ name ∈ names, name ∉ known

/-- No names at all are always fresh. -/
theorem fresh_nil (known : List String) : Fresh known [] := ⟨List.nodup_nil, by simp⟩

theorem Fresh.perm {known known' names names' : List String} (h : Fresh known names)
    (hknown : known.Perm known') (hnames : names.Perm names') : Fresh known' names' := by
  refine ⟨hnames.nodup_iff.mp h.1, ?_⟩
  intro name hname hmem
  exact h.2 name (hnames.mem_iff.mpr hname) (hknown.mem_iff.mpr hmem)

/-- Names that are added one after the other have to be fresh as they come: the later ones must also
differ from the earlier ones. -/
theorem fresh_append {known names names' : List String} :
    Fresh known (names ++ names') ↔ Fresh known names ∧ Fresh (known ++ names) names' := by
  simp only [Fresh, List.nodup_append, List.mem_append]
  constructor
  · rintro ⟨⟨hnames, hnames', hapart⟩, hnew⟩
    refine ⟨⟨hnames, fun name h => hnew name (.inl h)⟩, hnames', ?_⟩
    rintro name h (hknown | hmem)
    · exact hnew name (.inr h) hknown
    · exact hapart name hmem name h rfl
  · rintro ⟨⟨hnames, hnew⟩, hnames', hnew'⟩
    refine ⟨⟨hnames, hnames', ?_⟩, ?_⟩
    · rintro name h _ h' rfl
      exact hnew' name h' (.inr h)
    · rintro name (h | h)
      · exact hnew name h
      · exact fun hknown => hnew' name h (.inl hknown)

theorem fresh_singleton {known : List String} {name : String} :
    Fresh known [name] ↔ name ∉ known := by
  simp [Fresh]

theorem fresh_cons {known names : List String} {name : String} :
    Fresh known (name :: names) ↔ name ∉ known ∧ Fresh (known ++ [name]) names := by
  rw [← List.singleton_append, fresh_append, fresh_singleton]

theorem fresh_of_nothing {names : List String} : Fresh [] names ↔ names.Nodup := by
  simp [Fresh]

namespace Network

/-- Whether a name is taken is asked of timers and of charts alike. -/
theorem any_name_iff {α : Type} {nameOf : α → String} {known : List α} {name : String} :
    known.any (nameOf · == name) = true ↔ name ∈ known.map nameOf := by
  simp [List.any_eq_true]

/-- Timers can be added if their names are fresh, and they go to the end in their order. -/
theorem addTimers_eq_ok {known ts out : List Timer} :
    addTimers known ts = .ok out ↔
      Fresh (known.map (·.name)) (ts.map (·.name)) ∧ known ++ ts = out := by
  induction ts generalizing known with
  | nil => simp [addTimers, fresh_nil]
  | cons t ts ih =>
    rw [addTimers, List.map_cons, fresh_cons]
    by_cases hmem : t.name ∈ known.map (·.name)
    · rw [if_pos (any_name_iff.mpr hmem)]
      simp [hmem]
    · rw [if_neg (mt any_name_iff.mp hmem), ih]
      simp [hmem]

/-- The first timer that is there already is reported. Those before it are fresh, so they were added
and do not come into the report. -/
theorem addTimers_of_clash {known before after : List Timer} {t : Timer}
    (hbefore : Fresh (known.map (·.name)) (before.map (·.name)))
    (ht : t.name ∈ known.map (·.name)) :
    addTimers known (before ++ t :: after) = .error (.duplicateTimer t.name) := by
  induction before generalizing known with
  | nil => rw [List.nil_append, addTimers, if_pos (any_name_iff.mpr ht)]
  | cons u before ih =>
    rw [List.map_cons, fresh_cons] at hbefore
    rw [List.cons_append, addTimers, if_neg (mt any_name_iff.mp hbefore.1)]
    apply ih
    · simpa using hbefore.2
    · simp only [List.map_append]
      exact List.mem_append_left _ ht

/-- A network has a chart of a name if one of its charts is called so. -/
theorem hasChart_eq_true {n : Network} {name : String} :
    n.hasChart name = true ↔ name ∈ n.charts.map (·.name) :=
  any_name_iff

/-- Registering one side of all declared services is making the calls for it. From here on a chart
is known by its calls, whichever side they come from. -/
theorem enlistAll_eq (automaton : String) (call : String → Call)
    (hcall : ∀ type, (call type).automaton = automaton) (services : List (String × Service))
    (declared : List (String × String)) :
    enlistAll automaton (fun type => (call type).step) services declared =
      (declared.map fun e => (e.1, call e.2)).foldlM enlistCall services := by
  rw [enlistAll, List.foldlM_map]
  simp only [enlistCall, hcall]

/-- The calls of a chart are those of its servers and then those of its clients. -/
theorem foldlM_calls (r : Registry) (automaton : String) (services : List (String × Service)) :
    (r.calls automaton).foldlM enlistCall services =
      enlistAll automaton (Service.addServer · automaton) services (r.onSide .server) >>=
        fun services => enlistAll automaton (Service.addClient · automaton) services
          (r.onSide .client) := by
  rw [Registry.calls, List.foldlM_append]
  simp only [← enlistAll_eq automaton (Call.server · automaton) (fun _ => rfl),
    ← enlistAll_eq automaton (Call.client · automaton) (fun _ => rfl)]
  rfl

/-- When a chart can be added, and what it adds. Name, timers and calls are each checked against
what is there already, in this order. -/
theorem addPlain_eq_ok {n n' : Network} {c : Chart} {r : Registry} :
    n.addPlain c r = .ok n' ↔ c.name ∉ n.charts.map (·.name) ∧
      Fresh (n.timers.map (·.name)) (r.timers.map (·.name)) ∧
      ∃ services, (r.calls c.name).foldlM enlistCall n.services = .ok services ∧
        n' = ⟨n.charts ++ [c], n.timers ++ r.timers, services⟩ := by
  rw [addPlain, foldlM_calls]
  by_cases hname : c.name ∈ n.charts.map (·.name)
  · rw [if_pos (hasChart_eq_true.mpr hname), throw_bind]
    simp [hname]
  · rw [if_neg (mt hasChart_eq_true.mp hname)]
    simp only [bind_eq_ok, addTimers_eq_ok, pure_eq_ok]
    constructor
    · rintro ⟨timers, ⟨hfresh, rfl⟩, services, hservers, services', hclients, rfl⟩
      exact ⟨hname, hfresh, services', ⟨services, hservers, hclients⟩, rfl⟩
    · rintro ⟨-, hfresh, services', ⟨services, hservers, hclients⟩, rfl⟩
      exact ⟨_, ⟨hfresh, rfl⟩, services, hservers, services', hclients, rfl⟩

/-- A chart whose name is not new fails because of it, whatever else is wrong with it. -/
theorem addPlain_of_name {n : Network} {c : Chart} {r : Registry}
    (h : c.name ∈ n.charts.map (·.name)) :
    n.addPlain c r = .error (.duplicateAutomaton c.name) := by
  rw [addPlain, if_pos (hasChart_eq_true.mpr h), throw_bind]

/-- A chart whose name is new fails where one of its timers does, before any of its calls is
made. -/
theorem addPlain_of_timers_error {n : Network} {c : Chart} {r : Registry} {f : Fault}
    (hname : c.name ∉ n.charts.map (·.name)) (h : addTimers n.timers r.timers = .error f) :
    n.addPlain c r = .error f := by
  rw [addPlain, if_neg (mt hasChart_eq_true.mp hname)]
  simp only [h, error_bind]

/-- A chart whose name and timers are new fails where one of its calls does. -/
theorem addPlain_of_calls_error {n : Network} {c : Chart} {r : Registry} {f : Fault}
    (hname : c.name ∉ n.charts.map (·.name))
    (htimers : Fresh (n.timers.map (·.name)) (r.timers.map (·.name)))
    (h : (r.calls c.name).foldlM enlistCall n.services = .error f) :
    n.addPlain c r = .error f := by
  rw [foldlM_calls] at h
  rw [addPlain, if_neg (mt hasChart_eq_true.mp hname)]
  simp only [addTimers_eq_ok.mpr ⟨htimers, rfl⟩, ok_bind]
  rcases bind_eq_error.mp h with hservers | ⟨services, hservers, hclients⟩
  · rw [hservers, error_bind]
  · rw [hservers, ok_bind, hclients, error_bind]

/-- When all charts can be added, and what they add. The three lists do not depend on each other, so
that names, timers and calls can be looked at separately. The induction is on the charts from the
front, with the network as it is after those before. -/
theorem foldlM_add_eq_ok {charts : List Chart} {n n' : Network} :
    charts.foldlM add n = .ok n' ↔ ∃ parts : List (Chart × Registry),
      List.Forall₂ (fun c part => c.toPlain = .ok part) charts parts ∧
      Fresh (n.charts.map (·.name)) (parts.map (·.1.name)) ∧
      Fresh (n.timers.map (·.name)) ((parts.flatMap (·.2.timers)).map (·.name)) ∧
      (parts.flatMap fun part => part.2.calls part.1.name).foldlM enlistCall n.services =
        .ok n'.services ∧
      n'.charts = n.charts ++ parts.map (·.1) ∧
      n'.timers = n.timers ++ parts.flatMap (·.2.timers) := by
  induction charts generalizing n with
  | nil =>
    rw [List.foldlM_nil, pure_eq_ok]
    constructor
    · rintro rfl
      exact ⟨[], .nil, fresh_nil _, fresh_nil _, rfl, by simp, by simp⟩
    · rintro ⟨parts, hparts, -, -, hservices, hcharts, htimers⟩
      obtain rfl := List.forall₂_nil_left_iff.mp hparts
      obtain ⟨charts, timers, services⟩ := n'
      simp only [List.map_nil, List.flatMap_nil, List.append_nil] at hcharts htimers
      obtain rfl : n.services = services := Except.ok.inj hservices
      rw [hcharts, htimers]
  | cons c charts ih =>
    rw [List.foldlM_cons, bind_eq_ok]
    constructor
    · rintro ⟨n₁, hadd, hrest⟩
      rw [add, bind_eq_ok] at hadd
      obtain ⟨⟨plain, r⟩, hplain, hadd⟩ := hadd
      obtain ⟨hname, htimers, services, hservices, rfl⟩ := addPlain_eq_ok.mp hadd
      obtain ⟨parts, hparts, hnames, htimers', hservices', hcharts, htimers''⟩ := ih.mp hrest
      refine ⟨(plain, r) :: parts, .cons hplain hparts, ?_, ?_, ?_, ?_, ?_⟩
      · simpa [fresh_cons, hname] using hnames
      · simpa [fresh_append, htimers] using htimers'
      · rw [List.flatMap_cons, List.foldlM_append, hservices]
        exact hservices'
      · simp [hcharts]
      · simp [htimers'']
    · rintro ⟨parts, hparts, hnames, htimers, hservices, hcharts, htimers'⟩
      obtain ⟨⟨plain, r⟩, parts, hplain, hparts', rfl⟩ := List.forall₂_cons_left_iff.mp hparts
      rw [List.flatMap_cons, List.foldlM_append, bind_eq_ok] at hservices
      obtain ⟨services, hservices, hrest⟩ := hservices
      -- what is asked of all charts is asked of the first one, and then of the rest
      rw [List.map_cons, fresh_cons] at hnames
      rw [List.flatMap_cons, List.map_append, fresh_append] at htimers
      refine ⟨⟨n.charts ++ [plain], n.timers ++ r.timers, services⟩, ?_, ih.mpr
        ⟨parts, hparts', ?_, ?_, hrest, ?_, ?_⟩⟩
      · rw [add, hplain]
        exact addPlain_eq_ok.mpr ⟨hnames.1, htimers.1, services, hservices, rfl⟩
      · simpa using hnames.2
      · simpa using htimers.2
      · simpa using hcharts
      · simpa using htimers'

/-- Charts whose names and timers are all new fail where the first of their calls does. The calls of
all charts can therefore be seen as one sequence. -/
theorem foldlM_add_of_calls_error {charts : List Chart} {n : Network}
    {parts : List (Chart × Registry)} {f : Fault}
    (hparts : List.Forall₂ (fun c part => c.toPlain = .ok part) charts parts)
    (hnames : Fresh (n.charts.map (·.name)) (parts.map (·.1.name)))
    (htimers : Fresh (n.timers.map (·.name)) ((parts.flatMap (·.2.timers)).map (·.name)))
    (h : (parts.flatMap fun part => part.2.calls part.1.name).foldlM enlistCall n.services =
      .error f) : charts.foldlM add n = .error f := by
  induction hparts generalizing n with
  | nil => cases h
  | @cons c part charts parts hplain _ ih =>
    obtain ⟨plain, r⟩ := part
    rw [List.map_cons, fresh_cons] at hnames
    rw [List.flatMap_cons, List.map_append, fresh_append] at htimers
    rw [List.flatMap_cons, List.foldlM_append] at h
    have hadd : n.add c = n.addPlain plain r := by
      rw [add, hplain]
      rfl
    rw [List.foldlM_cons, hadd]
    -- the first chart fails in its calls, or it is added and a later one fails
    rcases bind_eq_error.mp h with hcalls | ⟨services, hcalls, hrest⟩
    · rw [addPlain_of_calls_error hnames.1 htimers.1 hcalls, error_bind]
    · rw [addPlain_eq_ok.mpr ⟨hnames.1, htimers.1, services, hcalls, rfl⟩, ok_bind]
      refine ih ?_ ?_ hrest
      · simpa using hnames.2
      · simpa using htimers.2

/-- When an arbiter can be added. It has no timers and makes no calls, so that only its name
counts. -/
theorem addArbiter_eq_ok {interpret : Interpreter} {charts charts' : List Chart} {s : Service} :
    addArbiter interpret charts s = .ok charts' ↔ ∃ c, s.arbiter interpret = .ok c ∧
      c.name ∉ charts.map (·.name) ∧ charts ++ [c] = charts' := by
  rw [addArbiter, bind_eq_ok]
  refine exists_congr fun c => and_congr_right fun _ => ?_
  by_cases hmem : c.name ∈ charts.map (·.name)
  · rw [if_pos (any_name_iff.mpr hmem), throw_bind]
    simp [hmem]
  · rw [if_neg (mt any_name_iff.mp hmem)]
    simp [hmem, pure_eq_ok]

/-- An arbiter whose name is not new is not added. -/
theorem addArbiter_of_name {interpret : Interpreter} {charts : List Chart} {s : Service} {c : Chart}
    (hc : s.arbiter interpret = .ok c) (h : c.name ∈ charts.map (·.name)) :
    addArbiter interpret charts s = .error (.duplicateAutomaton c.name) := by
  rw [addArbiter, hc, ok_bind, if_pos (any_name_iff.mpr h), throw_bind]

/-- When all arbiters can be added: their names are fresh among those of the charts and of each
other. -/
theorem foldlM_addArbiter_eq_ok {interpret : Interpreter} {services : List Service}
    {charts charts' : List Chart} :
    services.foldlM (addArbiter interpret) charts = .ok charts' ↔ ∃ arbiters,
      List.Forall₂ (fun s c => s.arbiter interpret = .ok c) services arbiters ∧
      Fresh (charts.map (·.name)) (arbiters.map (·.name)) ∧ charts ++ arbiters = charts' := by
  induction services generalizing charts with
  | nil => simp [pure_eq_ok, fresh_nil]
  | cons s services ih =>
    rw [List.foldlM_cons, bind_eq_ok]
    simp only [addArbiter_eq_ok, ih]
    constructor
    · rintro ⟨_, ⟨c, hc, hname, rfl⟩, arbiters, harbiters, hfresh, rfl⟩
      refine ⟨c :: arbiters, .cons hc harbiters, ?_, by simp⟩
      simpa [fresh_cons, hname] using hfresh
    · rintro ⟨arbiters, harbiters, hfresh, rfl⟩
      obtain ⟨c, arbiters, hc, harbiters', rfl⟩ := List.forall₂_cons_left_iff.mp harbiters
      rw [List.map_cons, fresh_cons] at hfresh
      exact ⟨_, ⟨c, hc, hfresh.1, rfl⟩, arbiters, harbiters', by simpa using hfresh.2, by simp⟩

/-- When a network can be compiled, and what comes out. Each of the stages is described by its own
condition: the plain forms, what is gathered from them, and the arbiters. -/
theorem compile_eq_ok {interpret : Interpreter} {charts : List Chart} {out : Compiled} :
    compile interpret charts = .ok out ↔ ∃ (parts : List (Chart × Registry))
        (services : List (String × Service)) (arbiters : List Chart),
      List.Forall₂ (fun c part => c.toPlain = .ok part) charts parts ∧
      (parts.map (·.1.name)).Nodup ∧ ((parts.flatMap (·.2.timers)).map (·.name)).Nodup ∧
      (parts.flatMap fun part => part.2.calls part.1.name).foldlM enlistCall [] = .ok services ∧
      List.Forall₂ (fun s c => s.arbiter interpret = .ok c) (services.map (·.2)) arbiters ∧
      Fresh (parts.map (·.1.name)) (arbiters.map (·.name)) ∧
      out = ⟨(parts.map (·.1) ++ arbiters).map Chart.tidy, parts.flatMap (·.2.timers)⟩ := by
  simp only [compile, bind_eq_ok, foldlM_add_eq_ok, foldlM_addArbiter_eq_ok, pure_eq_ok, empty,
    List.map_nil, fresh_of_nothing, List.nil_append]
  constructor
  · rintro ⟨n, ⟨parts, hparts, hnames, htimers, hservices, hcharts, htimers'⟩, _,
      ⟨arbiters, harbiters, hfresh, rfl⟩, rfl⟩
    refine ⟨parts, n.services, arbiters, hparts, hnames, htimers, hservices, harbiters, ?_, ?_⟩
    · simpa [hcharts, Function.comp_def] using hfresh
    · rw [hcharts, htimers']
  · rintro ⟨parts, services, arbiters, hparts, hnames, htimers, hservices, harbiters, hfresh, rfl⟩
    refine ⟨⟨parts.map (·.1), parts.flatMap (·.2.timers), services⟩,
      ⟨parts, hparts, hnames, htimers, hservices, rfl, rfl⟩, _,
      ⟨arbiters, harbiters, ?_, rfl⟩, rfl⟩
    simpa [Function.comp_def] using hfresh

end Network

end ChartNet
