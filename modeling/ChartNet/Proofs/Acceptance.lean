import ChartNet.Proofs.Gathering
import Mathlib.Data.List.Perm.Subperm

/-!
# Which networks can be compiled

A compilation is stopped by the first fault that it comes upon, and what it comes upon depends on
the order of the charts and on what was gathered before. `Acceptable` says which networks can be
compiled in terms of the declarations alone: each condition is about the charts as a whole, and none
of them mentions an order.
-/

namespace ChartNet

namespace Call

/-- Compatible calls stay so in any order. All that is asked of them is about pairs of calls or
about how many there are. -/
theorem Compatible.perm {calls calls' : List Call} (h : Compatible calls)
    (hperm : calls.Perm calls') : Compatible calls' where
  one_type := fun c hc d hd => h.one_type c (hperm.mem_iff.mpr hc) d (hperm.mem_iff.mpr hd)
  one_server := (hperm.filterMap server?).length_eq ▸ h.one_server
  clients_nodup := (hperm.filterMap client?).nodup_iff.mp h.clients_nodup
  apart := by
    intro a ha hmem
    exact h.apart a ((hperm.filterMap server?).mem_iff.mpr ha)
      ((hperm.filterMap client?).mem_iff.mpr hmem)

theorem servers_flatMap {α : Type} (l : List α) (f : α → List Call) :
    servers (l.flatMap f) = l.flatMap fun a => servers (f a) := List.filterMap_flatMap

theorem clients_flatMap {α : Type} (l : List α) (f : α → List Call) :
    clients (l.flatMap f) = l.flatMap fun a => clients (f a) := List.filterMap_flatMap

/-- Whoever is registered has called. -/
theorem exists_automaton {calls : List Call} {a : String}
    (h : a ∈ servers calls ∨ a ∈ clients calls) : ∃ c ∈ calls, c.automaton = a := by
  rcases h with h | h <;> obtain ⟨c, hc, ha⟩ := List.mem_filterMap.mp h <;>
    refine ⟨c, hc, ?_⟩ <;> cases c <;> cases ha <;> rfl

end Call

namespace Network

theorem callsFor_perm (flat : String) {entries entries' : List (String × Call)}
    (h : entries.Perm entries') : (callsFor flat entries).Perm (callsFor flat entries') :=
  (h.filter _).map _

theorem Consonant.perm {entries entries' : List (String × Call)} (h : Consonant entries)
    (hperm : entries.Perm entries') : Consonant entries' where
  flat := fun e he => h.flat e (hperm.mem_iff.mpr he)
  compatible := fun flat => (h.compatible flat).perm (callsFor_perm flat hperm)

theorem callsFor_flatMap (flat : String) (charts : List Chart) :
    callsFor flat (charts.flatMap Chart.serviceCalls) =
      charts.flatMap fun c => callsFor flat c.serviceCalls := by
  induction charts with
  | nil => rfl
  | cons c charts ih => rw [List.flatMap_cons, callsFor_append, ih, List.flatMap_cons]

theorem mem_callsFor {flat : String} {entries : List (String × Call)} {call : Call} :
    call ∈ callsFor flat entries ↔
      ∃ name, (name, call) ∈ entries ∧ Wire.flatName name = .ok flat := by
  simp [callsFor]

end Network

open Network

/-- The calls for a service that a chart makes by its declarations. A chart may call for a service
under several spellings, and all of them count. -/
def Chart.callsFor (flat : String) (c : Chart) : List Call := Network.callsFor flat c.serviceCalls

/-- The calls for a service that the charts make by their declarations. They come in the order of
declaration, which is not the order in which they are made: there, what a chart serves comes before
what it asks for. -/
def declaredCalls (flat : String) (charts : List Chart) : List Call :=
  charts.flatMap (Chart.callsFor flat)

/-- The parties of the service with the given flat name make up a service, and there is room for its
arbiter. Every condition is one on declarations, so that it can be seen from the charts alone. -/
structure ServiceOk (charts : List Chart) (flat : String) : Prop where
  /-- all declarations name the same type -/
  one_type : ∀ d ∈ declaredCalls flat charts, ∀ d' ∈ declaredCalls flat charts, d.type = d'.type
  /-- exactly one declaration is a server's -/
  one_server : (Call.servers (declaredCalls flat charts)).length = 1
  /-- somebody asks for the service -/
  some_client : Call.clients (declaredCalls flat charts) ≠ []
  /-- no chart asks for it twice, under whatever spelling -/
  client_once : ∀ c ∈ charts, (Call.clients (c.callsFor flat)).length ≤ 1
  /-- no chart is server and client at once -/
  one_side : ∀ c ∈ charts, Call.servers (c.callsFor flat) = [] ∨ Call.clients (c.callsFor flat) = []
  /-- the arbiter can have the flat name in its own name -/
  no_backslash : '\\' ∉ flat.toList
  /-- no chart has the name of the arbiter -/
  name_free : ∀ c ∈ charts, c.name ≠ "srv_handler_" ++ flat

/-- What it takes for a network to be compiled. The conditions do not mention the order of the
charts, nor what is gathered from them along the way. -/
structure Acceptable (charts : List Chart) : Prop where
  /-- every chart has a plain form -/
  plain : ∀ c ∈ charts, ∃ form, c.toPlain = .ok form
  /-- no two charts have the same name -/
  names_nodup : (charts.map (·.name)).Nodup
  /-- no timer is declared twice, not even by different charts -/
  timers_nodup : (charts.flatMap Chart.timerNames).Nodup
  /-- every service that is declared is as it should be -/
  services : ∀ flat, (∃ c ∈ charts, ∃ e ∈ c.serviceCalls, Wire.flatName e.1 = .ok flat) →
    ServiceOk charts flat

/-! ### Calls of charts with different names -/

/-- A chart calls under its own name. -/
theorem Chart.automaton_of_mem_callsFor {c : Chart} {flat : String} {call : Call}
    (h : call ∈ c.callsFor flat) : call.automaton = c.name := by
  obtain ⟨name, hmem, -⟩ := mem_callsFor.mp h
  obtain ⟨d, -, hd⟩ := List.mem_filterMap.mp hmem
  obtain ⟨⟨side, name', type⟩, -, hcall⟩ := Option.bind_eq_some_iff.mp hd
  cases side with
  | publisher | subscriber => cases hcall
  | server | client =>
    obtain ⟨-, rfl⟩ := Prod.mk.inj (Option.some.inj hcall)
    rfl

theorem Chart.eq_name_of_mem {c : Chart} {flat a : String}
    (h : a ∈ Call.servers (c.callsFor flat) ∨ a ∈ Call.clients (c.callsFor flat)) : a = c.name := by
  obtain ⟨call, hcall, rfl⟩ := Call.exists_automaton h
  exact c.automaton_of_mem_callsFor hcall

/-- A chart registers under its own name, so that a second time would be a repetition. -/
theorem Chart.nodup_clients_iff {c : Chart} {flat : String} :
    (Call.clients (c.callsFor flat)).Nodup ↔ (Call.clients (c.callsFor flat)).length ≤ 1 := by
  constructor
  · intro h
    have hsub : Call.clients (c.callsFor flat) ⊆ [c.name] := fun a ha =>
      List.mem_singleton.mpr (c.eq_name_of_mem (.inr ha))
    exact (h.subperm hsub).length_le
  · intro h
    match hclients : Call.clients (c.callsFor flat) with
    | [] => exact List.nodup_nil
    | [a] => exact List.nodup_singleton a
    | a :: b :: l => rw [hclients] at h; simp at h

/-- Given different names, whether calls are compatible can be seen chart by chart, but for types
and servers. Only a chart itself can register its name twice, or on both sides. -/
theorem compatible_declaredCalls {charts : List Chart} (hnames : (charts.map (·.name)).Nodup)
    {flat : String} :
    Call.Compatible (declaredCalls flat charts) ↔
      (∀ d ∈ declaredCalls flat charts, ∀ d' ∈ declaredCalls flat charts, d.type = d'.type) ∧
      (Call.servers (declaredCalls flat charts)).length ≤ 1 ∧
      (∀ c ∈ charts, (Call.clients (c.callsFor flat)).length ≤ 1) ∧
      ∀ c ∈ charts, Call.servers (c.callsFor flat) = [] ∨ Call.clients (c.callsFor flat) = [] := by
  have hclients : Call.clients (declaredCalls flat charts) =
      charts.flatMap fun c => Call.clients (c.callsFor flat) := Call.clients_flatMap _ _
  have hservers : Call.servers (declaredCalls flat charts) =
      charts.flatMap fun c => Call.servers (c.callsFor flat) := Call.servers_flatMap _ _
  -- two charts never register the same name
  have hapart : charts.Pairwise (Function.onFun List.Disjoint fun c =>
      Call.clients (c.callsFor flat)) := by
    refine (List.pairwise_map.mp hnames).imp fun hne a ha hb => hne ?_
    exact (Chart.eq_name_of_mem (.inr ha)).symm.trans (Chart.eq_name_of_mem (.inr hb))
  constructor
  · rintro ⟨htype, hserver, hnodup, hside⟩
    rw [hclients, List.nodup_flatMap] at hnodup
    refine ⟨htype, hserver, fun c hc => Chart.nodup_clients_iff.mp (hnodup.1 c hc), ?_⟩
    intro c hc
    by_contra hboth
    obtain ⟨hs, hcl⟩ := not_or.mp hboth
    obtain ⟨a, ha⟩ := List.exists_mem_of_ne_nil _ hs
    obtain ⟨b, hb⟩ := List.exists_mem_of_ne_nil _ hcl
    obtain rfl : a = b :=
      (Chart.eq_name_of_mem (.inl ha)).trans (Chart.eq_name_of_mem (.inr hb)).symm
    refine hside a ?_ ?_
    · rw [hservers]
      exact List.mem_flatMap.mpr ⟨c, hc, ha⟩
    · rw [hclients]
      exact List.mem_flatMap.mpr ⟨c, hc, hb⟩
  · rintro ⟨htype, hserver, honce, hside⟩
    refine ⟨htype, hserver, ?_, ?_⟩
    · rw [hclients, List.nodup_flatMap]
      exact ⟨fun c hc => Chart.nodup_clients_iff.mpr (honce c hc), hapart⟩
    · intro a ha hmem
      rw [hservers] at ha
      rw [hclients] at hmem
      obtain ⟨c, hc, ha⟩ := List.mem_flatMap.mp ha
      obtain ⟨c', hc', hmem⟩ := List.mem_flatMap.mp hmem
      obtain rfl : c = c' := List.inj_on_of_nodup_map hnames hc hc'
        ((Chart.eq_name_of_mem (.inl ha)).symm.trans (Chart.eq_name_of_mem (.inr hmem)))
      rcases hside c hc with hnil | hnil
      · rw [hnil] at ha
        cases ha
      · rw [hnil] at hmem
        cases hmem

/-! ### Arbiters for the services of a directory -/

section Arbiters

variable {interpret : Interpreter} {name flat : String} {calls : List Call} {a : Chart}

theorem Service.arbiter_name {s : Service} (h : s.arbiter interpret = .ok a)
    (hflat : Wire.flatName s.name = .ok flat) : a.name = "srv_handler_" ++ flat := by
  obtain ⟨-, schema, flat', -, hflat', -, -, rfl⟩ := Service.arbiter_eq_ok.mp h
  obtain rfl := Except.ok.inj (hflat.symm.trans hflat')
  rfl

/-- The type is the one that all calls name. -/
theorem Service.type?_enrol {c : Call} (hcalls : Call.Compatible calls) (hc : c ∈ calls) :
    ((Service.named name).enrol calls).type? = some c.type := by
  have hne : calls ≠ [] := List.ne_nil_of_mem hc
  rw [Service.enrol_named, List.getLast?_eq_some_getLast hne, Option.map_some,
    hcalls.one_type _ (List.getLast_mem hne) c hc]

/-- With parties on both sides the contract is complete: calls always bring a type with them. -/
theorem Service.checkContract_enrol (hservers : Call.servers calls ≠ [])
    (hclients : Call.clients calls ≠ []) :
    ((Service.named name).enrol calls).checkContract = .ok () := by
  have hne : calls ≠ [] := by
    rintro rfl
    exact hservers rfl
  rw [Service.enrol_named, Service.checkContract_eq_ok]
  refine ⟨⟨(calls.getLast hne).type, ?_⟩, ⟨_, List.getLast?_eq_some_getLast hservers⟩, hclients⟩
  rw [List.getLast?_eq_some_getLast hne]
  rfl

/-- When compatible calls have an arbiter, and what it is. Of their order, only that of the clients
can be seen in it. -/
theorem Service.arbiter_enrol_eq_ok (hflat : Wire.flatName name = .ok flat)
    (hcalls : Call.Compatible calls) :
    ((Service.named name).enrol calls).arbiter interpret = .ok a ↔
      Call.servers calls ≠ [] ∧ Call.clients calls ≠ [] ∧ '\\' ∉ flat.toList ∧
      ∃ schema, (∃ c ∈ calls, Catalogue.service? c.type = some schema) ∧
        (∀ f ∈ Arbiter.fields schema, f.type.DefaultOk interpret) ∧
        a = Arbiter.chart flat schema (Call.clients calls) := by
  rw [Service.enrol_named, Service.arbiter_eq_ok]
  constructor
  · rintro ⟨hcontract, schema, flat', hschema, hflat', hdefaults, hcheck, rfl⟩
    obtain rfl := Except.ok.inj (hflat.symm.trans hflat')
    obtain ⟨-, ⟨server, hserver⟩, hclients⟩ := Service.checkContract_eq_ok.mp hcontract
    obtain ⟨type, htype, hservice⟩ := Option.bind_eq_some_iff.mp hschema
    obtain ⟨c, hc, rfl⟩ := Option.map_eq_some_iff.mp htype
    exact ⟨List.ne_nil_of_mem (List.mem_of_getLast? hserver), hclients,
      (Arbiter.check_chart hflat hservice hcalls.clients_nodup).mp hcheck, schema,
      ⟨c, List.mem_of_getLast? hc, hservice⟩, hdefaults, rfl⟩
  · rintro ⟨hservers, hclients, hbackslash, schema, ⟨c, hc, hservice⟩, hdefaults, rfl⟩
    refine ⟨Service.enrol_named name calls ▸ Service.checkContract_enrol hservers hclients, schema,
      flat, ?_, hflat, hdefaults,
      (Arbiter.check_chart hflat hservice hcalls.clients_nodup).mpr hbackslash, rfl⟩
    rw [← Service.enrol_named name, Service.type?_enrol hcalls hc]
    exact hservice

/-- Compatible calls need a server, a client and a name that an automaton may have. Their type is
known and its default values are accepted; both are conditions here, and both hold in a network. -/
theorem Service.exists_arbiter_iff (hdefaults : ∀ t : FieldType, t.DefaultOk interpret)
    (hflat : Wire.flatName name = .ok flat) (hcalls : Call.Compatible calls)
    (htypes : ∀ c ∈ calls, ∃ schema, Catalogue.service? c.type = some schema) :
    (∃ a, ((Service.named name).enrol calls).arbiter interpret = .ok a) ↔
      Call.servers calls ≠ [] ∧ Call.clients calls ≠ [] ∧ '\\' ∉ flat.toList := by
  simp only [Service.arbiter_enrol_eq_ok hflat hcalls]
  constructor
  · rintro ⟨a, hservers, hclients, hbackslash, -⟩
    exact ⟨hservers, hclients, hbackslash⟩
  · rintro ⟨hservers, hclients, hbackslash⟩
    have hne : calls ≠ [] := by
      rintro rfl
      exact hservers rfl
    obtain ⟨c, hc⟩ := List.exists_mem_of_ne_nil _ hne
    obtain ⟨schema, hschema⟩ := htypes c hc
    exact ⟨_, hservers, hclients, hbackslash, schema, ⟨c, hc, hschema⟩,
      fun f _ => hdefaults f.type, rfl⟩

end Arbiters

/-- What is gathered from the plain forms is what the charts declare. The conditions of
`compile_eq_ok` are turned into conditions on declarations by this. -/
theorem gathered_eq {charts : List Chart} {parts : List (Chart × Registry)}
    (h : List.Forall₂ (fun c part => c.toPlain = .ok part) charts parts) :
    parts.map (·.1.name) = charts.map (·.name) ∧
      (parts.flatMap (·.2.timers)).map (·.name) = charts.flatMap Chart.timerNames ∧
      (parts.flatMap fun part => part.2.calls part.1.name).Perm
        (charts.flatMap Chart.serviceCalls) ∧
      ∀ e ∈ charts.flatMap Chart.serviceCalls, (∃ flat, Wire.flatName e.1 = .ok flat) ∧
        ∃ schema, Catalogue.service? e.2.type = some schema := by
  induction h with
  | nil => simp
  | @cons c part charts parts hplain _ ih =>
    obtain ⟨hnames, htimers, hcalls, hsound⟩ := ih
    obtain ⟨hname, htimers', hcalls', hsound'⟩ := Chart.declared_of_toPlain hplain
    refine ⟨?_, ?_, ?_, ?_⟩
    · rw [List.map_cons, List.map_cons, hname, hnames]
    · rw [List.flatMap_cons, List.map_append, htimers', htimers, List.flatMap_cons]
    · rw [List.flatMap_cons, List.flatMap_cons, hname]
      exact hcalls'.append hcalls
    · rw [List.flatMap_cons]
      exact List.forall_mem_append.mpr ⟨hsound', hsound⟩

/-! ### The conditions are what a compilation checks -/

section Conditions

variable {charts : List Chart} {entries : List (String × Call)}
  {services : List (String × Service)}

/-- The calls for a service, in the order in which they are made. -/
theorem callsFor_perm_declaredCalls (hperm : entries.Perm (charts.flatMap Chart.serviceCalls))
    (flat : String) : (Network.callsFor flat entries).Perm (declaredCalls flat charts) := by
  rw [declaredCalls]
  unfold Chart.callsFor
  rw [← callsFor_flatMap]
  exact callsFor_perm flat hperm

/-- A service whose calls are compatible and that has an arbiter is as it should be. The conditions
on charts are read off the conditions on calls, one by one. -/
theorem ServiceOk.of_arbiter {flat : String} (hnames : (charts.map (·.name)).Nodup)
    (hcompatible : Call.Compatible (declaredCalls flat charts))
    (hservers : Call.servers (declaredCalls flat charts) ≠ [])
    (hclients : Call.clients (declaredCalls flat charts) ≠ []) (hbackslash : '\\' ∉ flat.toList)
    (hfree : ∀ c ∈ charts, c.name ≠ "srv_handler_" ++ flat) : ServiceOk charts flat := by
  obtain ⟨htype, hserver, honce, hside⟩ := (compatible_declaredCalls hnames).mp hcompatible
  exact ⟨htype, Nat.le_antisymm hserver (List.length_pos_iff.mpr hservers), hclients, honce, hside,
    hbackslash, hfree⟩

/-- The calls of acceptable charts are consonant. A service that nobody calls for has no calls that
could disagree. -/
theorem Acceptable.consonant (h : Acceptable charts)
    (hflat : ∀ e ∈ charts.flatMap Chart.serviceCalls, ∃ flat, Wire.flatName e.1 = .ok flat) :
    Consonant (charts.flatMap Chart.serviceCalls) where
  flat := hflat
  compatible := by
    intro flat
    by_cases hnil : Network.callsFor flat (charts.flatMap Chart.serviceCalls) = []
    · rw [hnil]
      exact Call.compatible_nil
    · obtain ⟨call, hcall⟩ := List.exists_mem_of_ne_nil _ hnil
      obtain ⟨name, hmem, hname⟩ := mem_callsFor.mp hcall
      obtain ⟨c, hc, he⟩ := List.mem_flatMap.mp hmem
      have hok := h.services flat ⟨c, hc, _, he, hname⟩
      rw [callsFor_flatMap]
      exact (compatible_declaredCalls h.names_nodup).mpr
        ⟨hok.one_type, Nat.le_of_eq hok.one_server, hok.client_once, hok.one_side⟩

theorem Network.Directory.flatName_eq (h : Directory entries services) :
    ∀ e ∈ services, Wire.flatName e.2.name = .ok e.1 := by
  intro e he
  obtain ⟨name, hname, heq⟩ := h.service_eq e he
  rw [heq, Service.enrol_named]
  exact hname

/-- Arbiters are called after their services. -/
theorem arbiter_names {interpret : Interpreter} {arbiters : List Chart}
    (hflat : ∀ e ∈ services, Wire.flatName e.2.name = .ok e.1)
    (h : List.Forall₂ (fun e c => e.2.arbiter interpret = .ok c) services arbiters) :
    arbiters.map (·.name) = services.map fun e => "srv_handler_" ++ e.1 := by
  induction h with
  | nil => rfl
  | cons ha _ ih =>
    obtain ⟨hhead, htail⟩ := List.forall_mem_cons.mp hflat
    rw [List.map_cons, List.map_cons, ih htail, Service.arbiter_name ha hhead]

/-- There is room for all arbiters if no chart has the name of one. -/
theorem fresh_arbiters {known : List String} (hkeys : (services.map (·.1)).Nodup) :
    Fresh known (services.map fun e => "srv_handler_" ++ e.1) ↔
      ∀ flat ∈ services.map (·.1), "srv_handler_" ++ flat ∉ known := by
  have hnodup : (services.map fun e => "srv_handler_" ++ e.1).Nodup := by
    have hinj : Function.Injective fun flat : String => "srv_handler_" ++ flat :=
      fun a b h => (String.append_right_inj _).mp h
    simpa [Function.comp_def] using hkeys.map hinj
  rw [Fresh, and_iff_right hnodup, List.forall_mem_map, List.forall_mem_map]

/-- Which services of a directory have an arbiter, in terms of the calls for them. The order of the
calls plays no part in it. -/
theorem Network.Directory.exists_arbiter_iff (h : Directory entries services)
    {interpret : Interpreter} (hdefaults : ∀ t : FieldType, t.DefaultOk interpret)
    (hconsonant : Consonant entries) (hperm : entries.Perm (charts.flatMap Chart.serviceCalls))
    (htypes : ∀ e ∈ charts.flatMap Chart.serviceCalls,
      ∃ schema, Catalogue.service? e.2.type = some schema)
    {e : String × Service} (he : e ∈ services) :
    (∃ a, e.2.arbiter interpret = .ok a) ↔ Call.servers (declaredCalls e.1 charts) ≠ [] ∧
      Call.clients (declaredCalls e.1 charts) ≠ [] ∧ '\\' ∉ e.1.toList := by
  obtain ⟨name, hname, heq⟩ := h.service_eq e he
  have hcalls := callsFor_perm_declaredCalls hperm e.1
  have hservers := (hcalls.filterMap Call.server?).length_eq
  have hclients := (hcalls.filterMap Call.client?).length_eq
  rw [heq, Service.exists_arbiter_iff hdefaults hname (hconsonant.compatible e.1) ?_]
  · simp only [← List.length_pos_iff, Call.servers, Call.clients, hservers, hclients]
  · intro call hcall
    obtain ⟨name', hmem, -⟩ := mem_callsFor.mp hcall
    exact htypes (name', call) (hperm.mem_iff.mp hmem)

end Conditions

/-- **Which networks can be compiled**, given that the interpreter finds default values to be of
their types. The condition on the interpreter is needed for the services in use only through their
fields, and the interpreter of scripts meets it (`FieldType.defaultOk_script`). -/
theorem compile_accepts_iff {interpret : Interpreter}
    (hdefaults : ∀ t : FieldType, t.DefaultOk interpret) (charts : List Chart) :
    (∃ out, Network.compile interpret charts = .ok out) ↔ Acceptable charts := by
  constructor
  · rintro ⟨out, hout⟩
    obtain ⟨parts, services, arbiters, hparts, hnames, htimers, hservices, harbiters, hfresh, -⟩ :=
      compile_eq_ok.mp hout
    obtain ⟨hnames', htimers', hperm, hsound⟩ := gathered_eq hparts
    obtain ⟨hconsonant, hdirectory⟩ := (enlistCalls_spec _).1 services hservices
    rw [List.forall₂_map_left_iff] at harbiters
    rw [hnames'] at hnames hfresh
    rw [arbiter_names hdirectory.flatName_eq harbiters, fresh_arbiters hdirectory.keys_nodup]
      at hfresh
    refine ⟨exists_forall₂.mp ⟨parts, hparts⟩, hnames, htimers' ▸ htimers, ?_⟩
    rintro flat ⟨c, hc, e, he, hflat⟩
    have hkey : flat ∈ services.map (·.1) := (hdirectory.mem_keys flat).mpr
      ⟨e, hperm.mem_iff.mpr (List.mem_flatMap.mpr ⟨c, hc, he⟩), hflat⟩
    -- the service is in the directory, and has got its arbiter
    have hfree := hfresh flat hkey
    obtain ⟨s, hs, rfl⟩ := List.mem_map.mp hkey
    obtain ⟨hservers, hclients, hbackslash⟩ :=
      (hdirectory.exists_arbiter_iff hdefaults hconsonant hperm (fun e he => (hsound e he).2) hs).mp
        (exists_forall₂.mp ⟨arbiters, harbiters⟩ s hs)
    have hcompatible := (hconsonant.compatible s.1).perm (callsFor_perm_declaredCalls hperm s.1)
    refine .of_arbiter hnames hcompatible hservers hclients hbackslash fun c hc heq => hfree ?_
    exact List.mem_map.mpr ⟨c, hc, heq⟩
  · intro h
    obtain ⟨parts, hparts⟩ := exists_forall₂.mpr h.plain
    obtain ⟨hnames, htimers, hperm, hsound⟩ := gathered_eq hparts
    -- calls are made in another order than they are declared in, which does not matter to them
    have hconsonant := (h.consonant fun e he => (hsound e he).1).perm hperm.symm
    obtain ⟨services, hservices⟩ := (enlistCalls_spec _).2 hconsonant
    have hdirectory := ((enlistCalls_spec _).1 services hservices).2
    have hok : ∀ flat ∈ services.map (·.1), ServiceOk charts flat := by
      intro flat hkey
      obtain ⟨e, he, hflat⟩ := (hdirectory.mem_keys flat).mp hkey
      obtain ⟨c, hc, he⟩ := List.mem_flatMap.mp (hperm.mem_iff.mp he)
      exact h.services flat ⟨c, hc, e, he, hflat⟩
    obtain ⟨arbiters, harbiters⟩ : ∃ arbiters,
        List.Forall₂ (fun e c => e.2.arbiter interpret = .ok c) services arbiters := by
      refine exists_forall₂.mpr fun s hs => ?_
      have hs' := hok s.1 (List.mem_map_of_mem hs)
      refine (hdirectory.exists_arbiter_iff hdefaults hconsonant hperm
        (fun e he => (hsound e he).2) hs).mpr ⟨?_, hs'.some_client, hs'.no_backslash⟩
      exact List.length_pos_iff.mp (Nat.lt_of_lt_of_eq Nat.zero_lt_one hs'.one_server.symm)
    refine ⟨_, compile_eq_ok.mpr ⟨parts, services, arbiters, hparts, hnames ▸ h.names_nodup,
      htimers ▸ h.timers_nodup, hservices, List.forall₂_map_left_iff.mpr harbiters, ?_, rfl⟩⟩
    rw [arbiter_names hdirectory.flatName_eq harbiters, fresh_arbiters hdirectory.keys_nodup,
      hnames]
    intro flat hkey hmem
    obtain ⟨c, hc, heq⟩ := List.mem_map.mp hmem
    exact (hok flat hkey).name_free c hc heq

namespace Sample

/-- A chart that serves a service. -/
def serving (name : String) : Chart where
  name := name
  initial := "idle"
  data := []
  declarations := [.endpoint .server "/set_bool" "std_srvs/SetBool"]
  states := [⟨"idle", [], [], [⟨"idle", .reception .request "/set_bool", none,
    [.emit .response "/set_bool" [⟨"success", "true"⟩, ⟨"message", "''"⟩]]⟩]⟩]

/-- A chart that asks for the same service, under another name. -/
def asking (name : String) : Chart where
  name := name
  initial := "start"
  data := []
  declarations := [.timer "tick" 1.0, .endpoint .client "set_bool" "std_srvs/SetBool"]
  states := [⟨"start", [], [], [⟨"start", .events [], none,
    [.emit .request "set_bool" [⟨"data", "true"⟩]]⟩]⟩]

end Sample

open Sample in
/-- One of the networks can be compiled, and so its conditions hold; of the other one a condition
fails, and so it cannot be compiled: its two clients have a timer of the same name. -/
theorem compile_accepts_iff_sample :
    Acceptable [serving "a", asking "b"] ∧
      ¬ ∃ out, Network.compile scriptInterpreter [serving "a", asking "b", asking "c"] =
        .ok out := by
  refine ⟨(compile_accepts_iff FieldType.defaultOk_script _).mp ?_, fun hout => ?_⟩
  · have hcompiled : (Network.compile scriptInterpreter
        [serving "a", asking "b"]).toOption.isSome = true := by decide +kernel
    rcases hout : Network.compile scriptInterpreter [serving "a", asking "b"] with e | out
    · rw [hout] at hcompiled
      cases hcompiled
    · exact ⟨out, rfl⟩
  · have htimers := ((compile_accepts_iff FieldType.defaultOk_script _).mp hout).timers_nodup
    revert htimers
    decide

end ChartNet
