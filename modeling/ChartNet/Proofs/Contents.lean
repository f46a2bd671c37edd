import ChartNet.Proofs.Acceptance
import ChartNet.Proofs.Tidying

/-!
# What comes out of a compilation

The charts that come out are the plain forms of those that went in, and an arbiter for each service.
Which services there are, in which order, and who takes part in them is read off the declarations:

* `Chart.flatNames` are the services that a chart declares on one side, `servicesInOrder` those of
  all charts in the order in which they are registered.
* `Service.HasParties` says that a service has the server and the clients that the charts declare.

The directory is built call by call; `enlistCalls_keys` follows the order of its entries, which
`Directory` leaves open.
-/

namespace ChartNet

/-! ### The services that charts declare -/

/-- The flat form of a name, if it has one. -/
def Wire.flatName? (name : String) : Option String := (flatName name).toOption

theorem Wire.flatName?_eq_some {name flat : String} :
    flatName? name = some flat ↔ flatName name = .ok flat := by
  rw [flatName?]
  rcases flatName name with e | flat' <;> simp [Except.toOption]

/-- The flat name of what is declared on the given side. -/
def Declaration.flatName? (side : Endpoint) : Declaration → Option String
  | timer .. => none
  | endpoint side' name _ => if side' = side then Wire.flatName? name else none

/-- The flat names of what the chart declares on the given side, in order. A name without a flat
form is left out, but a chart that declares one has no registry. -/
def Chart.flatNames (side : Endpoint) (c : Chart) : List String :=
  c.declarations.filterMap (Declaration.flatName? side)

/-- The services of a network, in the order in which they are first registered: the charts come in
order, and each of them registers what it serves before what it asks for. -/
def servicesInOrder (charts : List Chart) : List String :=
  (charts.flatMap fun c => c.flatNames .server ++ c.flatNames .client).eraseDups

/-- The charts that declare the service on the given side, in their order and each of them once. -/
def partiesOf (side : Endpoint) (flat : String) (charts : List Chart) : List Chart :=
  charts.filter fun c => flat ∈ c.flatNames side

/-- The service is the one with the given flat name, and its parties are those that the charts
declare: one server, and the clients in the order of the charts. -/
structure Service.HasParties (charts : List Chart) (flat : String) (s : Service) : Prop where
  /-- the service is called by one of the names that the charts use for it -/
  name : Wire.flatName s.name = .ok flat
  /-- one chart declares to be the server, and it is the one that is registered -/
  server : ∃ c, partiesOf .server flat charts = [c] ∧ s.server? = some c.name
  /-- the clients are the charts that declare to be one, in the order of the charts -/
  clients : s.clients = (partiesOf .client flat charts).map (·.name)
  /-- every declaration of the service, on either side, names its type -/
  type : ∀ c ∈ charts, ∀ side ∈ [Endpoint.server, .client], ∀ name type,
    .endpoint side name type ∈ c.declarations → Wire.flatName name = .ok flat →
      s.type? = some type

/-- A declaration has a flat name on a side if it declares that side under a name with this flat
form. -/
theorem Declaration.flatName?_eq_some {side : Endpoint} {d : Declaration} {flat : String} :
    d.flatName? side = some flat ↔
      ∃ name type, d = .endpoint side name type ∧ Wire.flatName name = .ok flat := by
  cases d with
  | timer name rate => simp [flatName?]
  | endpoint side' name type =>
    by_cases hside : side' = side
    · simp [flatName?, hside, Wire.flatName?_eq_some]
    · simp [flatName?, hside]

/-- A flat name is among those of a chart if the chart declares it on the side, under any
spelling. -/
theorem Chart.mem_flatNames {side : Endpoint} {c : Chart} {flat : String} :
    flat ∈ c.flatNames side ↔
      ∃ name type, .endpoint side name type ∈ c.declarations ∧ Wire.flatName name = .ok flat := by
  rw [flatNames, List.mem_filterMap]
  constructor
  · rintro ⟨d, hd, hflat⟩
    obtain ⟨name, type, rfl, hname⟩ := Declaration.flatName?_eq_some.mp hflat
    exact ⟨name, type, hd, hname⟩
  · rintro ⟨name, type, hd, hname⟩
    exact ⟨_, hd, Declaration.flatName?_eq_some.mpr ⟨name, type, rfl, hname⟩⟩

namespace Chart

/-- The registrations that the chart makes by its declarations, in the order in which it makes them:
what it serves comes before what it asks for. -/
def registrations (c : Chart) : List (String × Call) :=
  (c.declarations.filterMap (Declaration.on? .server)).map (fun e => (e.1, .server e.2 c.name)) ++
    (c.declarations.filterMap (Declaration.on? .client)).map (fun e => (e.1, .client e.2 c.name))

/-- What is declared on a side, by name and type, has the flat names of the chart's declarations. -/
theorem filterMap_on? (c : Chart) (side : Endpoint) :
    ((c.declarations.filterMap (Declaration.on? side)).filterMap fun e => Wire.flatName? e.1) =
      c.flatNames side := by
  rw [List.filterMap_filterMap, flatNames]
  congr 1
  funext d
  cases d with
  | timer name rate => rfl
  | endpoint side' name type =>
    by_cases hside : side' = side <;> simp [Declaration.on?, Declaration.flatName?, hside]

/-- The registrations of a chart are for the services that it declares. -/
theorem filterMap_registrations (c : Chart) :
    (c.registrations.filterMap fun e => Wire.flatName? e.1) =
      c.flatNames .server ++ c.flatNames .client := by
  rw [registrations, List.filterMap_append, List.filterMap_map, List.filterMap_map]
  exact congrArg₂ (· ++ ·) (c.filterMap_on? .server) (c.filterMap_on? .client)

/-- The calls of a registry are the registrations of its chart. The registry is not needed any more
to say what a chart calls for. -/
theorem calls_eq_registrations {c : Chart} {r : Registry} (h : Registry.ofChart c = .ok r) :
    r.calls c.name = c.registrations := by
  rw [Registry.calls, Registry.onSide_of_ofChart h, Registry.onSide_of_ofChart h]
  rfl

end Chart

/-! ### The order of the directory -/

namespace Network

/-- A further element is dropped if it is there already, and goes to the end if not. -/
theorem eraseDups_concat (l : List String) (a : String) :
    (l ++ [a]).eraseDups = if a ∈ l then l.eraseDups else l.eraseDups ++ [a] := by
  rw [List.eraseDups_append]
  by_cases h : a ∈ l
  · simp [List.removeAll, h]
  · have hkept : [a].removeAll l = [a] := by simp [List.removeAll, h]
    rw [hkept, if_neg h]
    rfl

/-- Services are kept in the order of the first call for each. The induction is on the calls from
the end, as they are made. -/
theorem enlistCalls_keys {entries : List (String × Call)} {services : List (String × Service)}
    (h : entries.foldlM enlistCall [] = .ok services) :
    services.map (·.1) = (entries.filterMap fun e => Wire.flatName? e.1).eraseDups := by
  induction entries using List.reverseRecOn generalizing services with
  | nil =>
    obtain rfl : [] = services := Except.ok.inj h
    rfl
  | append_singleton entries entry ih =>
    obtain ⟨name, call⟩ := entry
    rw [List.foldlM_append, bind_eq_ok] at h
    obtain ⟨before, hbefore, h⟩ := h
    simp only [List.foldlM_cons, List.foldlM_nil, bind_pure] at h
    obtain ⟨flat, hflat, henlist⟩ := enlistCall_eq_ok.mp h
    rw [enlist_eq, map_eq_ok] at henlist
    obtain ⟨s, -, rfl⟩ := henlist
    have hlast : ([(name, call)].filterMap fun e => Wire.flatName? e.1) = [flat] :=
      List.filterMap_cons_some (Wire.flatName?_eq_some.mpr hflat)
    rw [keys_put, ih hbefore, List.filterMap_append, hlast, eraseDups_concat]
    simp only [List.mem_eraseDups]

/-! ### The calls of a chart -/

theorem onSide_eq {c : Chart} {r : Registry} (h : Registry.ofChart c = .ok r) (side : Endpoint) :
    (r.onSide side).filterMap (fun e => Wire.flatName? e.1) = c.flatNames side := by
  rw [Registry.onSide_of_ofChart h, Chart.filterMap_on?]

/-- Of the calls on one side, each one for the service registers the automaton once more. How often
is given by the flat names, so the spelling is gone from here on. -/
theorem parties_callsFor (call : String → Call) (party? : Call → Option String) {a : String}
    (hparty : ∀ type, party? (call type) = some a) (flat : String)
    (declared : List (String × String)) :
    (callsFor flat (declared.map fun e => (e.1, call e.2))).filterMap party? =
      List.replicate ((declared.filterMap fun e => Wire.flatName? e.1).count flat) a := by
  induction declared with
  | nil => rfl
  | cons e declared ih =>
    obtain ⟨name, type⟩ := e
    rw [List.map_cons, List.filterMap_cons, callsFor_cons, callsFor_singleton,
      List.filterMap_append, ih]
    by_cases hname : Wire.flatName name = .ok flat
    · rw [if_pos hname, List.filterMap_cons_some (hparty type), Wire.flatName?_eq_some.mpr hname]
      simp [List.replicate_succ]
    · rw [if_neg hname, List.filterMap_nil, List.nil_append]
      cases hflat : Wire.flatName? name with
      | none => rfl
      | some flat' =>
        have hne : flat' ≠ flat := fun heq =>
          hname (heq ▸ Wire.flatName?_eq_some.mp hflat)
        simp [hne]

/-- The calls of the other side register nobody on this one. -/
theorem parties_callsFor_other (call : String → Call) (party? : Call → Option String)
    (hparty : ∀ type, party? (call type) = none) (flat : String)
    (declared : List (String × String)) :
    (callsFor flat (declared.map fun e => (e.1, call e.2))).filterMap party? = [] := by
  refine List.filterMap_eq_nil_iff.mpr fun c hc => ?_
  obtain ⟨name, hmem, -⟩ := mem_callsFor.mp hc
  obtain ⟨e, -, heq⟩ := List.mem_map.mp hmem
  obtain ⟨-, rfl⟩ := Prod.mk.inj heq
  exact hparty e.2

/-- A chart registers as a party of a service as often as it declares it. More than once would be
refused, but that is not known here. -/
theorem parties_calls {c : Chart} {r : Registry} (h : Registry.ofChart c = .ok r) (flat : String) :
    Call.servers (callsFor flat (r.calls c.name)) =
        List.replicate ((c.flatNames .server).count flat) c.name ∧
      Call.clients (callsFor flat (r.calls c.name)) =
        List.replicate ((c.flatNames .client).count flat) c.name := by
  rw [Registry.calls, callsFor_append, Call.servers_append, Call.clients_append, ← onSide_eq h,
    ← onSide_eq h]
  constructor
  · rw [Call.servers, Call.servers, parties_callsFor (.server · c.name) _ fun _ => rfl,
      parties_callsFor_other (.client · c.name) _ fun _ => rfl, List.append_nil]
  · rw [Call.clients, Call.clients, parties_callsFor_other (.server · c.name) _ fun _ => rfl,
      parties_callsFor (.client · c.name) _ fun _ => rfl, List.nil_append]

/-- The calls that the plain forms of charts make, in order. This is what a compilation goes
through; `parties_callsOf` says what it amounts to in terms of declarations. -/
def callsOf (parts : List (Chart × Registry)) : List (String × Call) :=
  parts.flatMap fun part => part.2.calls part.1.name

section

variable {charts : List Chart} {parts : List (Chart × Registry)}

/-- The services that are called for, and who calls for them, in terms of what the charts declare.
Each chart contributes its name as often as it declares the service on the side. -/
theorem parties_callsOf (h : List.Forall₂ (fun c part => c.toPlain = .ok part) charts parts) :
    ((callsOf parts).filterMap fun e => Wire.flatName? e.1) =
        charts.flatMap (fun c => c.flatNames .server ++ c.flatNames .client) ∧
      ∀ flat, Call.servers (callsFor flat (callsOf parts)) =
          charts.flatMap (fun c => List.replicate ((c.flatNames .server).count flat) c.name) ∧
        Call.clients (callsFor flat (callsOf parts)) =
          charts.flatMap (fun c => List.replicate ((c.flatNames .client).count flat) c.name) := by
  induction h with
  | nil => exact ⟨rfl, fun flat => ⟨rfl, rfl⟩⟩
  | @cons c part charts parts hplain hrest ih =>
    obtain ⟨plain, r⟩ := part
    obtain ⟨hr, -, -⟩ := Chart.toPlain_eq_ok.mp hplain
    obtain ⟨hname, -⟩ := Chart.declared_of_toPlain hplain
    obtain ⟨hflats, hparties⟩ := ih
    have hcalls : callsOf ((plain, r) :: parts) = r.calls c.name ++ callsOf parts := by
      rw [callsOf, List.flatMap_cons, hname]
      rfl
    have hown : ((r.calls c.name).filterMap fun e => Wire.flatName? e.1) =
        c.flatNames .server ++ c.flatNames .client := by
      rw [Chart.calls_eq_registrations hr, Chart.filterMap_registrations]
    -- the calls of the first chart come first, and those of the others are known by induction
    refine ⟨?_, fun flat => ?_⟩
    · rw [hcalls, List.filterMap_append, hflats, hown, List.flatMap_cons]
    · obtain ⟨hservers, hclients⟩ := parties_calls hr flat
      obtain ⟨hservers', hclients'⟩ := hparties flat
      rw [hcalls, callsFor_append, Call.servers_append, Call.clients_append, hservers, hclients,
        hservers', hclients']
      exact ⟨rfl, rfl⟩

/-- Where nobody is registered twice, it is enough to know who is. The number of repetitions is then
zero or one. -/
theorem flatMap_replicate_of_nodup {side : Endpoint} {flat : String}
    (h : (charts.flatMap fun c =>
      List.replicate ((c.flatNames side).count flat) c.name).Nodup) :
    (charts.flatMap fun c => List.replicate ((c.flatNames side).count flat) c.name) =
      (partiesOf side flat charts).map (·.name) := by
  induction charts with
  | nil => rfl
  | cons c charts ih =>
    rw [List.flatMap_cons] at h ⊢
    obtain ⟨hown, hrest, -⟩ := List.nodup_append.mp h
    rw [List.nodup_replicate] at hown
    rw [ih hrest, partiesOf, partiesOf]
    by_cases hmem : flat ∈ c.flatNames side
    · have hcount : (c.flatNames side).count flat = 1 :=
        Nat.le_antisymm hown (List.count_pos_iff.mpr hmem)
      rw [List.filter_cons_of_pos (by simpa using hmem), hcount]
      rfl
    · rw [List.filter_cons_of_neg (by simpa using hmem), List.count_eq_zero.mpr hmem]
      rfl

/-- A declared side of a service is among the calls. -/
theorem exists_call (h : List.Forall₂ (fun c part => c.toPlain = .ok part) charts parts)
    {c : Chart} (hc : c ∈ charts) {side : Endpoint} (hside : side ∈ [Endpoint.server, .client])
    {name type flat : String} (hdeclared : .endpoint side name type ∈ c.declarations)
    (hflat : Wire.flatName name = .ok flat) :
    ∃ call ∈ callsFor flat (callsOf parts), call.type = type := by
  obtain ⟨-, -, hperm, -⟩ := gathered_eq h
  have hmem : ∀ call, (name, call) ∈ c.serviceCalls → call ∈ callsFor flat (callsOf parts) :=
    fun call hcall => mem_callsFor.mpr
      ⟨name, hperm.mem_iff.mpr (List.mem_flatMap.mpr ⟨c, hc, hcall⟩), hflat⟩
  rcases List.mem_cons.mp hside with rfl | hside
  · exact ⟨.server type c.name, hmem _ (List.mem_filterMap.mpr ⟨_, hdeclared, rfl⟩), rfl⟩
  · obtain rfl := List.mem_singleton.mp hside
    exact ⟨.client type c.name, hmem _ (List.mem_filterMap.mpr ⟨_, hdeclared, rfl⟩), rfl⟩

/-- A service of the directory has the parties that the charts declare, once it has a server. That
nobody is there twice is known from the service, and so the charts need not be counted. -/
theorem Directory.hasParties
    (h : List.Forall₂ (fun c part => c.toPlain = .ok part) charts parts)
    {services : List (String × Service)} (hdirectory : Directory (callsOf parts) services)
    (hconsonant : Consonant (callsOf parts)) {e : String × Service} (he : e ∈ services)
    (hserver : e.2.server? ≠ none) : e.2.HasParties charts e.1 := by
  obtain ⟨name, hname, heq⟩ := hdirectory.service_eq e he
  obtain ⟨hservers, hclients⟩ := (parties_callsOf h).2 e.1
  have hcompatible := hconsonant.compatible e.1
  rw [Service.enrol_named] at heq
  rw [heq] at hserver ⊢
  refine ⟨hname, ?_, ?_, ?_⟩
  · -- there is one call of a server, and so one chart that makes it
    obtain ⟨a, ha⟩ := Option.ne_none_iff_exists'.mp hserver
    have hone := hcompatible.servers_eq_singleton (List.mem_of_getLast? ha)
    have hnodup : (Call.servers (callsFor e.1 (callsOf parts))).Nodup := by
      rw [hone]
      exact List.nodup_singleton a
    rw [hservers] at hnodup
    rw [hservers, flatMap_replicate_of_nodup hnodup] at hone
    obtain ⟨c, hc, rfl⟩ := List.map_eq_singleton_iff.mp hone
    exact ⟨c, hc, ha⟩
  · have hnodup := hcompatible.clients_nodup
    rw [hclients] at hnodup
    exact hclients.trans (flatMap_replicate_of_nodup hnodup)
  · intro c hc side hside name' type hdeclared hflat
    -- the declaration is among the calls, and these all name the type that the service has fixed
    obtain ⟨call, hcall, rfl⟩ := exists_call h hc hside hdeclared hflat
    have hne : callsFor e.1 (callsOf parts) ≠ [] := List.ne_nil_of_mem hcall
    have hlast := List.getLast?_eq_some_getLast hne
    rw [hlast, Option.map_some]
    exact congrArg some (hcompatible.one_type _ (List.getLast_mem hne) _ hcall)

end

end Network

/-! ### Arbiters have no empty self loops -/

/-- A relay does something: at the least it sends its event. -/
theorem Arbiter.body_relay (target trigger event : String) (fields : List Field) :
    (relay target trigger fields event).body ≠ [] := by
  simp [relay]

/-- Every transition of an arbiter sends something, so that none of them is an empty self loop and
tidying up leaves it as it is. -/
theorem Arbiter.tidy_chart (flat : String) (schema : ServiceSchema) (clients : List String) :
    (chart flat schema clients).tidy = chart flat schema clients := by
  have hstates : ∀ s ∈ (chart flat schema clients).states, s.withoutIdle = s := by
    intro s hs
    refine State.withoutIdle_eq fun t ht => ?_
    rcases List.mem_cons.mp hs with rfl | hs
    · obtain ⟨client, -, rfl⟩ := List.mem_map.mp ht
      exact body_relay _ _ _ _
    · obtain ⟨client, -, rfl⟩ := List.mem_map.mp hs
      obtain rfl := List.mem_singleton.mp ht
      exact body_relay _ _ _ _
  rw [Chart.tidy]
  split
  · rw [Chart.withoutIdle, List.map_congr_left hstates, List.map_id']
  · rfl

/-- Tidying up leaves an arbiter as it is, since none of its transitions is an empty self loop. -/
theorem Service.tidy_arbiter {interpret : Interpreter} {s : Service} {a : Chart}
    (h : s.arbiter interpret = .ok a) : a.tidy = a := by
  obtain ⟨-, schema, flat, -, -, -, -, rfl⟩ := Service.arbiter_eq_ok.mp h
  exact Arbiter.tidy_chart flat schema s.clients

theorem Service.map_tidy_arbiters {interpret : Interpreter} {services : List (String × Service)}
    {arbiters : List Chart}
    (h : List.Forall₂ (fun e c => e.2.arbiter interpret = .ok c) services arbiters) :
    arbiters.map Chart.tidy = arbiters := by
  rw [List.map_congr_left (forall_mem_of_forall₂ (fun _ _ ha => Service.tidy_arbiter ha) h),
    List.map_id']

/-- An arbiter declares nothing. It is a plain chart from the start. -/
theorem Service.declarations_arbiter {interpret : Interpreter} {s : Service} {a : Chart}
    (h : s.arbiter interpret = .ok a) : a.declarations = [] := by
  obtain ⟨-, schema, flat, -, -, -, -, rfl⟩ := Service.arbiter_eq_ok.mp h
  rfl

theorem Chart.declarations_toPlain {c plain : Chart} {r : Registry}
    (h : c.toPlain = .ok (plain, r)) : plain.declarations = [] := by
  obtain ⟨-, -, ⟨hnil, rfl⟩ | ⟨-, states, -, rfl, -⟩⟩ := Chart.toPlain_eq_ok.mp h
  · exact hnil
  · rfl

/-! ### Whole networks -/

open Network

/-- The parts that a compilation puts together: plain forms, what is gathered from them, and
arbiters in the order of the directory. The main results on compilations start from here. -/
theorem Network.compile_parts {interpret : Interpreter} {charts : List Chart} {out : Compiled}
    (h : compile interpret charts = .ok out) :
    ∃ (parts : List (Chart × Registry)) (arbiters : List Chart),
      List.Forall₂ (fun c part => c.toPlain = .ok part) charts parts ∧
      List.Forall₂ (fun flat a => ∃ s : Service, s.HasParties charts flat ∧
        s.arbiter interpret = .ok a) (servicesInOrder charts) arbiters ∧
      (charts.map (·.name) ++ arbiters.map (·.name)).Nodup ∧
      out = ⟨(parts.map (·.1)).map Chart.tidy ++ arbiters, parts.flatMap (·.2.timers)⟩ := by
  obtain ⟨parts, services, arbiters, hparts, hnames, -, hservices, harbiters, hfresh, rfl⟩ :=
    compile_eq_ok.mp h
  obtain ⟨hnames', -⟩ := gathered_eq hparts
  obtain ⟨hconsonant, hdirectory⟩ := (enlistCalls_spec (callsOf parts)).1 services hservices
  have hkeys : services.map (·.1) = servicesInOrder charts := by
    rw [enlistCalls_keys hservices, ← callsOf, (parties_callsOf hparts).1]
    rfl
  rw [List.forall₂_map_left_iff] at harbiters
  refine ⟨parts, arbiters, hparts, ?_, ?_, ?_⟩
  · -- what is known of an entry needs that it is one, which the pairing alone forgets
    have hboth := (List.forall₂_and_left services arbiters).mpr ⟨fun e he => he, harbiters⟩
    rw [← hkeys, List.forall₂_map_left_iff]
    refine hboth.imp fun e a hea => ?_
    obtain ⟨he, ha⟩ := hea
    obtain ⟨hcontract, -⟩ := Service.arbiter_eq_ok.mp ha
    obtain ⟨-, ⟨server, hserver⟩, -⟩ := Service.checkContract_eq_ok.mp hcontract
    refine ⟨e.2, hdirectory.hasParties hparts hconsonant he ?_, ha⟩
    rw [hserver]
    exact Option.some_ne_none server
  · rw [hnames'] at hnames hfresh
    exact List.nodup_append.mpr ⟨hnames, hfresh.1, fun a ha b hb hab =>
      hfresh.2 b hb (hab ▸ ha)⟩
  · rw [List.map_append, Service.map_tidy_arbiters harbiters]

/-- The timers that are gathered are those that the charts declare, in the order of the charts. -/
theorem timers_gathered {charts : List Chart} {parts : List (Chart × Registry)}
    (h : List.Forall₂ (fun c part => c.toPlain = .ok part) charts parts) :
    parts.flatMap (·.2.timers) =
      charts.flatMap fun c => c.declarations.filterMap Declaration.timer? := by
  induction h with
  | nil => rfl
  | @cons c part charts parts hplain _ ih =>
    obtain ⟨hr, -⟩ := Chart.toPlain_eq_ok.mp hplain
    obtain ⟨-, htimers, -⟩ := Registry.ofChart_eq_ok hr
    rw [List.flatMap_cons, List.flatMap_cons, ih, htimers]

/-- **What comes out of a compilation**: the plain forms of the charts without empty self loops, and
then one arbiter for each service in the order of registration, between the one server and the
clients that are declared for it. Timers come out as they are declared. Nothing else comes out, so
that this tells all about the output up to what plain forms and arbiters are. -/
theorem compile_yields {interpret : Interpreter} {charts : List Chart} {out : Compiled}
    (h : Network.compile interpret charts = .ok out) :
    ∃ plains arbiters : List Chart,
      List.Forall₂ (fun c plain => ∃ r, c.toPlain = .ok (plain, r)) charts plains ∧
      List.Forall₂ (fun flat a => ∃ s : Service, s.HasParties charts flat ∧
        s.arbiter interpret = .ok a) (servicesInOrder charts) arbiters ∧
      out.charts = plains.map Chart.tidy ++ arbiters ∧
      (∀ a ∈ arbiters, a.tidy = a) ∧
      out.timers = charts.flatMap (fun c => c.declarations.filterMap Declaration.timer?) ∧
      (out.charts.map (·.name)).Nodup ∧
      ∀ c ∈ out.charts, c.declarations = [] := by
  obtain ⟨parts, arbiters, hparts, harbiters, hnodup, rfl⟩ := compile_parts h
  refine ⟨parts.map (·.1), arbiters, ?_, harbiters, rfl, ?_, ?_, ?_, ?_⟩
  · exact List.forall₂_map_right_iff.mpr (hparts.imp fun _ part hplain => ⟨part.2, hplain⟩)
  · exact forall_mem_of_forall₂
      (fun _ _ h => h.elim fun _ hs => Service.tidy_arbiter hs.2) harbiters
  · exact timers_gathered hparts
  · -- plain forms keep the names of their charts, and tidying up keeps them as well
    obtain ⟨hnames, -⟩ := gathered_eq hparts
    rw [← hnames] at hnodup
    simpa [Function.comp_def] using hnodup
  · refine List.forall_mem_append.mpr ⟨?_, ?_⟩
    · rw [List.map_map]
      refine List.forall_mem_map.mpr (forall_mem_of_forall₂ (fun _ part hplain => ?_) hparts)
      rw [Function.comp_apply, Chart.declarations_tidy]
      exact Chart.declarations_toPlain hplain
    · exact forall_mem_of_forall₂
        (fun _ _ h => h.elim fun _ hs => Service.declarations_arbiter hs.2) harbiters

namespace Sample

/-- A chart that does nothing but declare. -/
def party (name : String) (declarations : List Declaration) : Chart :=
  ⟨name, "idle", [], declarations, [⟨"idle", [], [], []⟩]⟩

/-- Two services, one of which has two clients. The first chart asks for the one before it serves
the other, and the services are spelled in different ways. -/
def parties : List Chart :=
  [party "p" [.endpoint .client "/b" "std_srvs/SetBool", .endpoint .server "a" "std_srvs/Empty"],
    party "q" [.endpoint .server "b" "std_srvs/SetBool", .timer "tick" 2.0],
    party "r" [.endpoint .client "/a" "std_srvs/Empty", .endpoint .client "b" "std_srvs/SetBool"]]

end Sample

/-- The sample network has two services. They come out in the order of the first registration, and
the second has both its clients in the order of the charts. -/
theorem compile_yields_sample :
    ∃ (out : Compiled) (plains arbiters : List Chart),
      Network.compile scriptInterpreter Sample.parties = .ok out ∧
      out.charts = plains.map Chart.tidy ++ arbiters ∧
      List.Forall₂ (fun flat a => ∃ s : Service, s.HasParties Sample.parties flat ∧
        s.arbiter scriptInterpreter = .ok a) ["a", "b"] arbiters ∧
      (partiesOf .client "b" Sample.parties).map (·.name) = ["p", "r"] ∧
      out.timers.map (·.name) = ["tick"] := by
  have hcompiled : (Network.compile scriptInterpreter Sample.parties).toOption.any
      (fun _ => true) = true := by decide +kernel
  have hservices : servicesInOrder Sample.parties = ["a", "b"] := by decide +kernel
  obtain ⟨out, hout, -⟩ := exists_of_any hcompiled
  obtain ⟨plains, arbiters, -, harbiters, hcharts, -, htimers, -⟩ := compile_yields hout
  rw [hservices] at harbiters
  refine ⟨out, plains, arbiters, hout, hcharts, harbiters, by decide +kernel, ?_⟩
  rw [htimers]
  rfl

end ChartNet
