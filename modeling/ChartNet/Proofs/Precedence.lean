import ChartNet.Proofs.Breaches

/-!
# Which fault is reported

The fault that a compilation reports is the first one in the order of the charts. What is wrong with
a chart, `Chart.Faulty`, is said about the chart and those before it, and `Chart.Reported` says
which fault that is if several things are wrong at once. Only if nothing is wrong with any chart do
the arbiters matter, and then the first service with an `Offence` is the one that is reported.

Charts, registrations and arbiters are each gone through by a run of their own, and in each of the
runs a step can be foretold: `foretold_enlistCall`, `foretold_add` and `foretold_addArbiter`.
-/

namespace ChartNet

namespace Chart

/-- Something is wrong with the chart, given those before it: it has no plain form, its name or the
name of a timer is taken, or one of its registrations is at odds with those before it. -/
def Faulty (earlier : List Chart) (c : Chart) : Prop :=
  (∃ f, c.toPlain = .error f) ∨ c.name ∈ earlier.map (·.name) ∨
  (∃ timer ∈ c.timerNames, timer ∈ earlier.flatMap timerNames) ∨
  ∃ before e after, c.registrations = before ++ e :: after ∧
    Network.Violating (earlier.flatMap registrations ++ before) e

/-- What is reported of a chart with which something is wrong. The constructors are in the order in
which things are checked, and each of them says that what is checked before it is in order. -/
inductive Reported (earlier : List Chart) (c : Chart) : Fault → Prop
  /-- it has no plain form -/
  | plain {f : Fault} (h : c.toPlain = .error f) : Reported earlier c f
  /-- its name is taken -/
  | name {form : Chart × Registry} (hplain : c.toPlain = .ok form)
    (h : c.name ∈ earlier.map (·.name)) : Reported earlier c (.duplicateAutomaton c.name)
  /-- its name is new, and this is the first of its timers that is not -/
  | timer {form : Chart × Registry} {before after : List String} {timer : String}
    (hplain : c.toPlain = .ok form) (hname : c.name ∉ earlier.map (·.name))
    (htimers : c.timerNames = before ++ timer :: after)
    (hbefore : ∀ t ∈ before, t ∉ earlier.flatMap timerNames)
    (h : timer ∈ earlier.flatMap timerNames) : Reported earlier c (.duplicateTimer timer)
  /-- its name and its timers are new, and this is the first of its registrations that is at odds
  with those before it -/
  | registration {form : Chart × Registry} {before after : List (String × Call)}
    {e : String × Call} {f : Fault} (hplain : c.toPlain = .ok form)
    (hname : c.name ∉ earlier.map (·.name))
    (htimers : ∀ t ∈ c.timerNames, t ∉ earlier.flatMap timerNames)
    (hregistrations : c.registrations = before ++ e :: after)
    (hbefore : Unfailing (fun before => Network.Violating (earlier.flatMap registrations ++ before))
      before)
    (h : Network.Refused (earlier.flatMap registrations ++ before) e f) : Reported earlier c f

variable {earlier : List Chart} {c plain : Chart} {r : Registry}

/-- Of a chart with which something is wrong, one of the things comes first, and it is this one that
is reported. -/
theorem faulty_iff : c.Faulty earlier ↔ ∃ f, c.Reported earlier f := by
  refine ⟨fun h => ?_, ?_⟩
  · rcases hplain : c.toPlain with f | form
    · exact ⟨f, .plain hplain⟩
    by_cases hname : c.name ∈ earlier.map (·.name)
    · exact ⟨_, .name hplain hname⟩
    -- in each list the first one that fails is picked, so that all before it are in order
    rcases unfailing_or_first (fun _ t => t ∈ earlier.flatMap timerNames) c.timerNames with
      htimers | ⟨before, timer, after, htimers, hbefore, ht⟩
    · rcases unfailing_or_first
        (fun before => Network.Violating (earlier.flatMap registrations ++ before)) c.registrations
        with hall | ⟨before, e, after, hsplit, hbefore, he⟩
      · rcases h with ⟨f, hf⟩ | h | ⟨timer, hmem, ht⟩ | ⟨before, e, after, hsplit, he⟩
        · cases hplain.symm.trans hf
        · exact absurd h hname
        · exact absurd ht (unfailing_iff_forall.mp htimers timer hmem)
        · exact absurd he (hall before e after hsplit)
      · obtain ⟨f, hf⟩ := Network.violating_iff.mp he
        exact ⟨f, .registration hplain hname (unfailing_iff_forall.mp htimers) hsplit hbefore hf⟩
    · exact ⟨_, .timer hplain hname htimers (unfailing_iff_forall.mp hbefore) ht⟩
  · rintro ⟨f, h⟩
    cases h with
    | plain h => exact .inl ⟨f, h⟩
    | name _ h => exact .inr (.inl h)
    | timer _ _ htimers _ h => exact .inr (.inr (.inl ⟨_, by simp [htimers], h⟩))
    | registration _ _ _ hsplit _ h =>
      exact .inr (.inr (.inr ⟨_, _, _, hsplit, Network.violating_iff.mpr ⟨f, h⟩⟩))

theorem timerNames_nodup (h : Registry.ofChart c = .ok r) : c.timerNames.Nodup := by
  refine List.pairwise_filterMap.mpr ((Registry.not_clashes h).imp ?_)
  intro d d' hclash name hname name' hname' heq
  cases d with
  | endpoint side name type => cases hname
  | timer t rate =>
    cases d' with
    | endpoint side name type => cases hname'
    | timer t' rate' =>
      refine hclash ?_
      exact (Option.some.inj hname).trans (heq.trans (Option.some.inj hname').symm)

/-- What a chart with a plain form registers has a flat name and a known type. -/
theorem registrations_of_toPlain (h : c.toPlain = .ok (plain, r)) :
    ∀ e ∈ c.registrations, (∃ flat, Wire.flatName e.1 = .ok flat) ∧
      ∃ schema, Catalogue.service? e.2.type = some schema := by
  obtain ⟨hr, -⟩ := toPlain_eq_ok.mp h
  obtain ⟨-, -, hperm, hsound⟩ := declared_of_toPlain h
  rw [calls_eq_registrations hr] at hperm
  exact fun e he => hsound e (hperm.mem_iff.mp he)

end Chart

namespace Network

/-! ### Charts -/

/-- The network is what the charts make of it, as far as it matters to the charts that come next:
their names, their timers and their registrations. -/
structure Gathers (charts : List Chart) (n : Network) : Prop where
  /-- the charts, by their names -/
  names : n.charts.map (·.name) = charts.map (·.name)
  /-- their timers, by their names -/
  timers : n.timers.map (·.name) = charts.flatMap Chart.timerNames
  /-- the services that their registrations make -/
  services : (charts.flatMap Chart.registrations).foldlM enlistCall [] = .ok n.services
  /-- the types in the registrations are known -/
  known : ∀ e ∈ charts.flatMap Chart.registrations,
    ∃ schema, Catalogue.service? e.2.type = some schema

theorem gathers_empty : Gathers [] empty := ⟨rfl, rfl, rfl, by simp⟩

section Charts

variable {n : Network} {earlier : List Chart} {c : Chart}

/-- A chart that is not at fault is added, and the network then is what the charts make of it
together with this one. This is the step of the invariant. -/
theorem Gathers.add_ok (h : Gathers earlier n) (hc : ¬ ∃ f, c.Reported earlier f) :
    ∃ n', n.add c = .ok n' ∧ Gathers (earlier ++ [c]) n' := by
  rw [← Chart.faulty_iff] at hc
  rcases hplain : c.toPlain with f | ⟨plain, r⟩
  · exact absurd (.inl ⟨f, hplain⟩) hc
  obtain ⟨hr, -⟩ := Chart.toPlain_eq_ok.mp hplain
  obtain ⟨hname, htimers, -⟩ := Chart.declared_of_toPlain hplain
  have hregistrations := Chart.registrations_of_toPlain hplain
  have hnew : plain.name ∉ n.charts.map (·.name) := by
    rw [hname, h.names]
    exact fun hmem => hc (.inr (.inl hmem))
  have hfresh : Fresh (n.timers.map (·.name)) (r.timers.map (·.name)) := by
    rw [htimers, h.timers]
    exact ⟨Chart.timerNames_nodup hr, fun t ht hmem => hc (.inr (.inr (.inl ⟨t, ht, hmem⟩)))⟩
  have hunfailing : Unfailing (fun before e =>
      ∃ f, Refused (earlier.flatMap Chart.registrations ++ before) e f) c.registrations := by
    intro before e after hsplit he
    exact hc (.inr (.inr (.inr ⟨before, e, after, hsplit, violating_iff.mpr he⟩)))
  -- the registrations of the chart go on from where those of the earlier charts have led
  have hforetold := foretold_enlistCall (earlier.flatMap Chart.registrations)
    fun e he => (hregistrations e he).1
  obtain ⟨services, hservices, hgood⟩ :=
    hforetold.foldlM_ok (by simpa using h.services) (List.append_nil _).symm hunfailing
  refine ⟨⟨n.charts ++ [plain], n.timers ++ r.timers, services⟩, ?_, ?_, ?_, ?_, ?_⟩
  · rw [add, hplain]
    refine addPlain_eq_ok.mpr ⟨hnew, hfresh, services, ?_, rfl⟩
    rw [hname, Chart.calls_eq_registrations hr]
    exact hservices
  · simp [h.names, hname]
  · simp [h.timers, htimers]
  · simpa using hgood
  · simp only [List.flatMap_append, List.flatMap_singleton]
    exact List.forall_mem_append.mpr ⟨h.known, fun e he => (hregistrations e he).2⟩

/-- A chart that is at fault fails as is reported of it. What is reported is told in terms of the
charts before it, and `Gathers` turns it into what the network knows of them. -/
theorem Gathers.add_error (h : Gathers earlier n) {f : Fault} (hc : c.Reported earlier f) :
    n.add c = .error f := by
  cases hc with
  | plain hplain => rw [add, hplain, error_bind]
  | @name form hplain hmem =>
    obtain ⟨plain, r⟩ := form
    obtain ⟨hname, -⟩ := Chart.declared_of_toPlain hplain
    rw [add, hplain, ← hname]
    apply addPlain_of_name
    rwa [hname, h.names]
  | @timer form before after timer hplain hnew htimers hbefore hmem =>
    obtain ⟨plain, r⟩ := form
    obtain ⟨hr, -⟩ := Chart.toPlain_eq_ok.mp hplain
    obtain ⟨hname, htimers', -⟩ := Chart.declared_of_toPlain hplain
    have hnodup := Chart.timerNames_nodup hr
    rw [htimers] at htimers' hnodup
    -- the names were split at the clash, and the timers are split at the same place
    obtain ⟨first, rest, hsplit, rfl, hrest⟩ := List.map_eq_append_iff.mp htimers'
    obtain ⟨t, last, rfl, rfl, -⟩ := List.map_eq_cons_iff.mp hrest
    rw [add, hplain]
    refine addPlain_of_timers_error (by rwa [hname, h.names]) ?_
    rw [hsplit]
    refine addTimers_of_clash ⟨hnodup.of_append_left, ?_⟩ ?_
    · rw [h.timers]
      exact hbefore
    · rw [h.timers]
      exact hmem
  | @registration form before after e f hplain hnew htimers hsplit hbefore he =>
    obtain ⟨plain, r⟩ := form
    obtain ⟨hr, -⟩ := Chart.toPlain_eq_ok.mp hplain
    obtain ⟨hname, htimers', -⟩ := Chart.declared_of_toPlain hplain
    have hforetold := foretold_enlistCall (earlier.flatMap Chart.registrations)
      fun e he => (Chart.registrations_of_toPlain hplain e he).1
    rw [add, hplain]
    refine addPlain_of_calls_error (by rwa [hname, h.names]) ?_ ?_
    · rw [htimers', h.timers]
      exact ⟨Chart.timerNames_nodup hr, htimers⟩
    · rw [hname, Chart.calls_eq_registrations hr]
      refine hforetold.foldlM_error (by simpa using h.services) hsplit ?_ he
      exact hbefore.mono fun _ _ => violating_iff.mpr

/-- Adding charts goes on until something is wrong with one. What is wrong is judged by the charts
before it, not by what has become of them. -/
theorem foretold_add (charts : List Chart) :
    Foretold add Gathers (fun earlier c => c.Reported earlier) charts where
  ok := fun _ h hc => h.add_ok hc
  error := fun _ h hc => h.add_error hc

end Charts

/-! ### Arbiters -/

/-- What is reported of a service, given all charts: it has no arbiter, or the name of its arbiter
is taken. The first comes before the second, since an arbiter is made before it is added. -/
inductive Offence (interpret : Interpreter) (charts : List Chart) (flat : String) : Fault → Prop
  /-- the service lacks something that its arbiter needs -/
  | arbiter {service : String} {f : Fault}
    (hname : nameOf? flat (charts.flatMap Chart.registrations) = some service)
    (h : Service.Lacks interpret service flat
      (callsFor flat (charts.flatMap Chart.registrations)) f) : Offence interpret charts flat f
  /-- it lacks nothing, but a chart has the name of its arbiter -/
  | name {service : String}
    (hname : nameOf? flat (charts.flatMap Chart.registrations) = some service)
    (hnone : ¬ ∃ f, Service.Lacks interpret service flat
      (callsFor flat (charts.flatMap Chart.registrations)) f)
    (h : "srv_handler_" ++ flat ∈ charts.map (·.name)) :
    Offence interpret charts flat (.duplicateAutomaton ("srv_handler_" ++ flat))

section Arbiters

variable {interpret : Interpreter} {n : Network} {charts : List Chart} {e : String × Service}
  {service : String} {f : Fault}

/-- The services are kept in the order in which they were first registered. -/
theorem Gathers.keys (h : Gathers charts n) : n.services.map (·.1) = servicesInOrder charts := by
  rw [enlistCalls_keys h.services, List.filterMap_flatMap, servicesInOrder]
  simp only [Chart.filterMap_registrations]

theorem Gathers.compatible (h : Gathers charts n) (flat : String) :
    Call.Compatible (callsFor flat (charts.flatMap Chart.registrations)) :=
  ((enlistCalls_spec _).1 n.services h.services).1.compatible flat

theorem Gathers.directory (h : Gathers charts n) :
    Directory (charts.flatMap Chart.registrations) n.services :=
  ((enlistCalls_spec _).1 n.services h.services).2

/-- A service has taken the registrations for it, and goes by the first name that was used for
it. -/
theorem Gathers.service_eq (h : Gathers charts n) (he : e ∈ n.services)
    (hname : nameOf? e.1 (charts.flatMap Chart.registrations) = some service) :
    Wire.flatName service = .ok e.1 ∧ e.2 =
      (Service.named service).enrol (callsFor e.1 (charts.flatMap Chart.registrations)) := by
  obtain ⟨name, hflat, heq⟩ := h.directory.service_eq e he
  have hsame : e.2.name = service :=
    Option.some.inj ((enlistCalls_names h.services e he).symm.trans hname)
  obtain rfl : name = service := by
    rw [← hsame, heq, Service.enrol_named]
  exact ⟨hflat, heq⟩

/-- A service that lacks nothing has an arbiter. -/
theorem Gathers.exists_arbiter (h : Gathers charts n) (he : e ∈ n.services)
    (hname : nameOf? e.1 (charts.flatMap Chart.registrations) = some service)
    (hnone : ¬ ∃ f, Service.Lacks interpret service e.1
      (callsFor e.1 (charts.flatMap Chart.registrations)) f) :
    ∃ a, e.2.arbiter interpret = .ok a ∧ a.name = "srv_handler_" ++ e.1 := by
  obtain ⟨hflat, heq⟩ := h.service_eq he hname
  have hknown : ∀ c ∈ callsFor e.1 (charts.flatMap Chart.registrations),
      ∃ schema, Catalogue.service? c.type = some schema := by
    intro c hc
    obtain ⟨name, hmem, -⟩ := mem_callsFor.mp hc
    exact h.known (name, c) hmem
  obtain ⟨a, ha⟩ := Service.exists_arbiter_of_lacks_nothing hflat (h.compatible e.1) hknown hnone
  rw [← heq] at ha
  refine ⟨a, ha, Service.arbiter_name ha ?_⟩
  rw [heq, Service.enrol_named]
  exact hflat

/-- A service that lacks something has no arbiter, for the reason that is reported. -/
theorem Gathers.arbiter_error (h : Gathers charts n) (he : e ∈ n.services)
    (hname : nameOf? e.1 (charts.flatMap Chart.registrations) = some service)
    (hlacks : Service.Lacks interpret service e.1
      (callsFor e.1 (charts.flatMap Chart.registrations)) f) :
    e.2.arbiter interpret = .error f := by
  obtain ⟨hflat, heq⟩ := h.service_eq he hname
  rw [heq]
  refine Service.arbiter_of_lacks hflat (h.compatible e.1) ?_ hlacks
  obtain ⟨entry, hentry, hflat'⟩ :=
    (h.directory.mem_keys e.1).mp (List.mem_map_of_mem (f := Prod.fst) he)
  exact fun hnil => callsFor_eq_nil.mp hnil entry hentry hflat'

/-- The arbiters are added until a service has none, or the name of its arbiter is taken. Names of
earlier arbiters do not matter, since services have different flat names. -/
theorem Gathers.foretold_addArbiter (interpret : Interpreter) (h : Gathers charts n) :
    Foretold (fun known e => addArbiter interpret known e.2)
      (fun before known => known.map (·.name) =
        charts.map (·.name) ++ before.map fun e => "srv_handler_" ++ e.1)
      (fun _ e => Offence interpret charts e.1) n.services where
  ok := by
    intro before e after known hsplit hknown hnone
    have he : e ∈ n.services := by simp [hsplit]
    have hname := enlistCalls_names h.services e he
    have hlacks : ¬ ∃ f, Service.Lacks interpret e.2.name e.1
        (callsFor e.1 (charts.flatMap Chart.registrations)) f :=
      fun ⟨f, hf⟩ => hnone ⟨f, .arbiter hname hf⟩
    obtain ⟨a, ha, haname⟩ := h.exists_arbiter he hname hlacks
    refine ⟨known ++ [a], addArbiter_eq_ok.mpr ⟨a, ha, ?_, rfl⟩, by simp [hknown, haname]⟩
    rw [hknown, haname, List.mem_append, not_or]
    refine ⟨fun hmem => hnone ⟨_, .name hname hlacks hmem⟩, fun hmem => ?_⟩
    -- arbiters of different services have different names
    obtain ⟨e', he', heq⟩ := List.mem_map.mp hmem
    have hnodup := h.directory.keys_nodup
    rw [hsplit, List.map_append, List.map_cons] at hnodup
    exact (List.nodup_append.mp hnodup).2.2 e'.1 (List.mem_map_of_mem he') e.1
      (List.mem_cons_self ..) ((String.append_right_inj _).mp heq)
  error := by
    intro before e after known f hsplit hknown hoffence
    have he : e ∈ n.services := by simp [hsplit]
    cases hoffence with
    | arbiter hname hlacks => rw [addArbiter, h.arbiter_error he hname hlacks, error_bind]
    | name hname hnone hmem =>
      obtain ⟨a, ha, haname⟩ := h.exists_arbiter he hname hnone
      rw [← haname] at hmem ⊢
      apply addArbiter_of_name ha
      rw [hknown]
      exact List.mem_append_left _ hmem

end Arbiters

/-! ### Whole networks -/

section Compiling

variable {interpret : Interpreter} {charts before after : List Chart} {c : Chart} {f : Fault}

/-- Nothing is wrong with any of the charts, each of them judged by those before it. -/
def Faultless (charts : List Chart) : Prop := Unfailing (fun earlier c => c.Faulty earlier) charts

theorem faultless_iff : Faultless charts ↔
    Unfailing (fun earlier c => ∃ f, c.Reported earlier f) charts :=
  ⟨fun h => h.mono fun _ _ => Chart.faulty_iff.mpr, fun h => h.mono fun _ _ => Chart.faulty_iff.mp⟩

/-- All charts can be gathered exactly if nothing is wrong with any of them. -/
theorem exists_gathered_iff : (∃ n, charts.foldlM add empty = .ok n) ↔ Faultless charts := by
  rw [(foretold_add charts).exists_foldlM_ok_iff gathers_empty, faultless_iff]

/-- What is reported of the first chart with which something is wrong is what stops the compilation.
The charts after it, and the services, are not looked at. -/
theorem compile_of_reported (hbefore : Faultless before) (hc : c.Reported before f) :
    compile interpret (before ++ c :: after) = .error f := by
  have hgather : (before ++ c :: after).foldlM add empty = .error f :=
    (foretold_add _).foldlM_error gathers_empty rfl (faultless_iff.mp hbefore) hc
  rw [compile, hgather, error_bind]

/-- If nothing is wrong with the charts, it is the services in order that can stop the
compilation. -/
theorem Faultless.compile_eq_error_iff (h : Faultless charts) :
    compile interpret charts = .error f ↔ ∃ before flat after,
      servicesInOrder charts = before ++ flat :: after ∧
      (∀ flat' ∈ before, ¬ ∃ f', Offence interpret charts flat' f') ∧
      Offence interpret charts flat f := by
  obtain ⟨n, hn, hgathers⟩ :=
    (foretold_add charts).foldlM_ok gathers_empty (List.append_nil _).symm (faultless_iff.mp h)
  -- all charts are gathered, and only arbiters can still fail
  have hcompile : compile interpret charts = .error f ↔
      n.services.foldlM (fun known e => addArbiter interpret known e.2) n.charts = .error f := by
    rw [compile, hn, ok_bind, List.foldlM_map, bind_eq_error]
    refine or_iff_left ?_
    rintro ⟨known, -, hpure⟩
    cases hpure
  rw [hcompile, (hgathers.foretold_addArbiter interpret).foldlM_eq_error_iff
    (by simp [hgathers.names]), ← hgathers.keys]
  refine ⟨?_, ?_⟩
  · rintro ⟨before, e, after, hsplit, hbefore, he⟩
    refine ⟨before.map (·.1), e.1, after.map (·.1), by simp [hsplit], ?_, he⟩
    exact List.forall_mem_map.mpr (unfailing_iff_forall.mp hbefore)
  · rintro ⟨before, flat, after, hsplit, hbefore, hflat⟩
    obtain ⟨first, rest, hservices, rfl, hrest⟩ := List.map_eq_append_iff.mp hsplit
    obtain ⟨e, last, rfl, rfl, rfl⟩ := List.map_eq_cons_iff.mp hrest
    refine ⟨first, e, last, hservices, unfailing_iff_forall.mpr fun e' he' => ?_, hflat⟩
    exact hbefore e'.1 (List.mem_map_of_mem he')

end Compiling

end Network

open Network

/-- **The first fault is reported.** If something is wrong with a chart and with none before it, the
compilation stops with what is reported of that chart, whatever charts come after it and whatever
the interpreter. If nothing is wrong with any chart, it stops with what is reported of the first
service, in the order in which they were registered, of which something is reported. -/
theorem first_fault_reported (interpret : Interpreter) :
    (∀ before c after, Faultless before → c.Faulty before →
      (∃ f, c.Reported before f) ∧ ∀ f, c.Reported before f →
        Network.compile interpret (before ++ c :: after) = .error f) ∧
    ∀ charts, Faultless charts → ∀ f, Network.compile interpret charts = .error f ↔
      ∃ before flat after, servicesInOrder charts = before ++ flat :: after ∧
        (∀ flat' ∈ before, ¬ ∃ f', Offence interpret charts flat' f') ∧
        Offence interpret charts flat f := by
  refine ⟨fun before c after hbefore hc => ⟨Chart.faulty_iff.mp hc, fun f hf => ?_⟩, ?_⟩
  · exact compile_of_reported hbefore hf
  · exact fun charts h f => h.compile_eq_error_iff

namespace Sample

/-- A chart that serves a service. -/
def provider : Chart := party "p" [.endpoint .server "/s" "std_srvs/Empty"]

/-- A chart that serves it, too, and asks for another one first. -/
def rival : Chart :=
  party "q" [.endpoint .client "/t" "std_srvs/Empty", .endpoint .server "s" "std_srvs/Empty"]

/-- A chart that asks for two services that nobody serves. -/
def deserted : Chart :=
  party "p" [.endpoint .client "/t" "std_srvs/Empty", .endpoint .client "a" "std_srvs/Empty"]

end Sample

open Sample in
/-- There is a second server, a chart after it that has no plain form, and a service that nobody
serves; it is the second server that is reported. -/
theorem first_fault_reported_sample :
    Network.compile scriptInterpreter [provider, rival, party "r" [.timer "tick" 0.0]] =
      .error (.contract "/s" (.multipleServers "p" "q")) ∧
    Network.compile scriptInterpreter [deserted] = .error (.contract "/t" .noServer) := by
  have hprovider : (([provider].foldlM add Network.empty).toOption.any fun _ => true) = true := by
    decide +kernel
  have hrival : (rival.toPlain.toOption.any fun _ => true) = true := by decide +kernel
  have hdeserted : (([deserted].foldlM add Network.empty).toOption.any fun _ => true) = true := by
    decide +kernel
  obtain ⟨n, hn, -⟩ := exists_of_any hprovider
  obtain ⟨form, hform, -⟩ := exists_of_any hrival
  obtain ⟨n', hn', -⟩ := exists_of_any hdeserted
  obtain ⟨hcharts, hservices⟩ := first_fault_reported scriptInterpreter
  have hregistrations : rival.registrations = [] ++ ("s", .server "std_srvs/Empty" "q") ::
      [("/t", .client "std_srvs/Empty" "q")] := rfl
  have hreported : rival.Reported [provider] (.contract "/s" (.multipleServers "p" "q")) := by
    have hflat : Wire.flatName "s" = .ok "s" := by decide
    refine .registration hform (by decide) (by decide) hregistrations (unfailing_nil _)
      (.breach hflat (.second ?_ ?_))
    · decide
    · decide
  refine ⟨?_, ?_⟩
  · have hfaulty : rival.Faulty [provider] := Chart.faulty_iff.mpr ⟨_, hreported⟩
    exact (hcharts [provider] rival [party "r" [.timer "tick" 0.0]]
      (exists_gathered_iff.mp ⟨n, hn⟩) hfaulty).2 _ hreported
  · refine (hservices _ (exists_gathered_iff.mp ⟨n', hn'⟩) _).mpr ⟨[], "t", ["a"], ?_, by simp, ?_⟩
    · decide
    · exact .arbiter (by decide) (.server (by decide))

end ChartNet
