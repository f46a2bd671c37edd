import ChartNet.Proofs.Registries

/-!
# Resources that are declared twice

A registry refuses a declaration if the same name is there with the same role, or on the other side
of a service (`Registry.not_clashes`). It compares names as they are written, while everything after
it goes by flat names; so a chart that spells a resource in two ways can declare it twice.

* `Chart.FlatOnce` is what a registry would make sure of if it compared flat names, and
  `Chart.SpelledOnce` is what it leaves to the chart: each follows from the other, given a registry.
* For services the network makes up for it, because registering the second declaration fails
  (`Network.flatOnce_of_compile`). For topics nothing does.
-/

namespace ChartNet

namespace Chart

/-- No resource is declared twice with one role, nor on both sides of a service, where names count
as the same if their flat forms are. -/
structure FlatOnce (c : Chart) : Prop where
  /-- no flat name is declared twice on a side -/
  once : ∀ side, (c.flatNames side).Nodup
  /-- no service is both served and asked for -/
  one_side : ∀ flat ∈ c.flatNames .server, flat ∉ c.flatNames .client

/-- Declarations that exclude each other do not spell the same resource differently. It is a
condition on the names in a chart alone, and easy to keep. -/
def SpelledOnce (c : Chart) : Prop :=
  ∀ side name type side' name' type', .endpoint side name type ∈ c.declarations →
    .endpoint side' name' type' ∈ c.declarations → side.Excludes side' →
    Wire.flatName name = Wire.flatName name' → name = name'

variable {c : Chart} {r : Registry}

/-- Two declarations on one side under different names stand at different places. If their flat
names were the same, there would be a repetition in the list of flat names. -/
theorem FlatOnce.spelledOnce (hr : Registry.ofChart c = .ok r) (h : c.FlatOnce) :
    c.SpelledOnce := by
  intro side name type side' name' type' hd hd' hside hflat
  obtain ⟨-, flat, -, -, hname⟩ := Declares.sound hr ⟨_, hd, rfl, rfl⟩
  have hname' : Wire.flatName name' = .ok flat := hflat.symm.trans hname
  have hmem : flat ∈ c.flatNames side := mem_flatNames.mpr ⟨name, type, hd, hname⟩
  have hmem' : flat ∈ c.flatNames side' := mem_flatNames.mpr ⟨name', type', hd', hname'⟩
  rcases hside with rfl | hrival
  · by_contra hne
    have hapart := List.pairwise_filterMap.mp (h.once side)
    have : Std.Symm fun d d' : Declaration => ∀ flat, d.flatName? side = some flat →
        ∀ flat', d'.flatName? side = some flat' → flat ≠ flat' :=
      ⟨fun d d' hdd' flat hflat flat' hflat' heq => hdd' flat' hflat' flat hflat heq.symm⟩
    have hdiffer : Declaration.endpoint side name type ≠ .endpoint side name' type' :=
      fun heq => hne (Declaration.endpoint.inj heq).2.1
    refine hapart.forall hd hd' hdiffer flat ?_ flat ?_ rfl
    · exact Declaration.flatName?_eq_some.mpr ⟨name, type, rfl, hname⟩
    · exact Declaration.flatName?_eq_some.mpr ⟨name', type', rfl, hname'⟩
  · cases side <;> cases hrival
    · exact absurd hmem' (h.one_side flat hmem)
    · exact absurd hmem (h.one_side flat hmem')

/-- With one spelling for each resource, comparing names is comparing flat names, and the registry
has compared names. -/
theorem SpelledOnce.flatOnce (hr : Registry.ofChart c = .ok r) (h : c.SpelledOnce) :
    c.FlatOnce where
  once := by
    intro side
    refine List.pairwise_filterMap.mpr ((Registry.not_clashes hr).imp_of_mem ?_)
    intro d d' hd hd' hclash flat hflat flat' hflat' heq
    obtain ⟨name, type, rfl, hname⟩ := Declaration.flatName?_eq_some.mp hflat
    obtain ⟨name', type', rfl, hname'⟩ := Declaration.flatName?_eq_some.mp hflat'
    have hsame : Wire.flatName name = Wire.flatName name' := by rw [hname, hname', heq]
    exact hclash ⟨.inl rfl, h _ _ _ _ _ _ hd hd' (.inl rfl) hsame⟩
  one_side := by
    intro flat hserver hclient
    obtain ⟨name, type, hd, hname⟩ := mem_flatNames.mp hserver
    obtain ⟨name', type', hd', hname'⟩ := mem_flatNames.mp hclient
    have hsame := h _ _ _ _ _ _ hd hd' (.inr rfl) (hname.trans hname'.symm)
    refine (Registry.not_clashes hr).forall hd hd' ?_ ⟨.inr rfl, hsame⟩
    intro heq
    cases (Declaration.endpoint.inj heq).1

end Chart

/-- What a chart declares about services has no doubles once the network is compiled. A double would
be a second registration of the same automaton, which is refused. -/
theorem Network.flatOnce_of_compile {interpret : Interpreter} {charts : List Chart}
    {out : Compiled} (h : compile interpret charts = .ok out) {c : Chart} (hc : c ∈ charts) :
    (∀ side ∈ [Endpoint.server, .client], (c.flatNames side).Nodup) ∧
      ∀ flat ∈ c.flatNames .server, flat ∉ c.flatNames .client := by
  obtain ⟨parts, services, -, hparts, -, -, hservices, -⟩ := compile_eq_ok.mp h
  obtain ⟨hconsonant, -⟩ := (enlistCalls_spec (callsOf parts)).1 services hservices
  -- a chart that declares a service twice would be registered twice
  have hregistered : ∀ flat side, (charts.flatMap fun c =>
      List.replicate ((c.flatNames side).count flat) c.name).Nodup →
        (c.flatNames side).count flat ≤ 1 := by
    intro flat side hnodup
    exact List.nodup_replicate.mp ((List.nodup_flatMap.mp hnodup).1 c hc)
  refine ⟨List.forall_mem_cons.mpr ⟨?_, List.forall_mem_singleton.mpr ?_⟩, ?_⟩
  · refine List.nodup_iff_count_le_one.mpr fun flat => hregistered flat .server ?_
    rw [← ((parties_callsOf hparts).2 flat).1]
    exact List.nodup_iff_count_le_one.mpr fun a =>
      Nat.le_trans List.count_le_length (hconsonant.compatible flat).one_server
  · refine List.nodup_iff_count_le_one.mpr fun flat => hregistered flat .client ?_
    rw [← ((parties_callsOf hparts).2 flat).2]
    exact (hconsonant.compatible flat).clients_nodup
  · intro flat hserver hclient
    obtain ⟨hservers, hclients⟩ := (parties_callsOf hparts).2 flat
    refine (hconsonant.compatible flat).apart c.name ?_ ?_
    · rw [hservers]
      exact List.mem_flatMap.mpr
        ⟨c, hc, List.mem_replicate.mpr ⟨Nat.ne_of_gt (List.count_pos_iff.mpr hserver), rfl⟩⟩
    · rw [hclients]
      exact List.mem_flatMap.mpr
        ⟨c, hc, List.mem_replicate.mpr ⟨Nat.ne_of_gt (List.count_pos_iff.mpr hclient), rfl⟩⟩

/-- **Which charts declare each resource once.** Of the charts that have a registry, it is those
that do not spell a resource in two ways. A network that was compiled has no chart that declares a
service twice or on both sides, however it is spelled, so that only topics are left. -/
theorem declared_once_iff {c : Chart} {r : Registry} (hr : Registry.ofChart c = .ok r) :
    (c.FlatOnce ↔ c.SpelledOnce) ∧
    ∀ interpret charts out, c ∈ charts → Network.compile interpret charts = .ok out →
      (∀ side ∈ [Endpoint.server, .client], (c.flatNames side).Nodup) ∧
        ∀ flat ∈ c.flatNames .server, flat ∉ c.flatNames .client := by
  refine ⟨⟨Chart.FlatOnce.spelledOnce hr, Chart.SpelledOnce.flatOnce hr⟩, ?_⟩
  intro interpret charts out hc hout
  exact Network.flatOnce_of_compile hout hc

namespace Sample

/-- A chart that publishes on one topic under two names and with two types. -/
def publishing : Chart :=
  party "n" [.endpoint .publisher "/x" "std_msgs/Bool", .endpoint .publisher "x" "std_msgs/String"]

/-- A chart that serves a service and asks for it under another name. -/
def conversing : Chart :=
  party "m" [.endpoint .server "/y" "std_srvs/Empty", .endpoint .client "y" "std_srvs/Empty"]

end Sample

open Sample in
/-- A registry takes a resource twice, or on both sides, if it is spelled in two ways, and a topic
goes through the whole compilation like that. -/
theorem redeclared_unnoticed :
    publishing.check = .ok () ∧ (∃ r, Registry.ofChart publishing = .ok r) ∧
    publishing.flatNames .publisher = ["x", "x"] ∧
    (∃ out, Network.compile scriptInterpreter [publishing] = .ok out) ∧
    conversing.check = .ok () ∧ (∃ r, Registry.ofChart conversing = .ok r) ∧
    conversing.flatNames .server = ["y"] ∧ conversing.flatNames .client = ["y"] := by
  have hpublishing : (Registry.ofChart publishing).toOption.any (fun _ => true) = true := by
    decide +kernel
  have hconversing : (Registry.ofChart conversing).toOption.any (fun _ => true) = true := by
    decide +kernel
  have hcompiled : (Network.compile scriptInterpreter [publishing]).toOption.any
      (fun _ => true) = true := by decide +kernel
  obtain ⟨r, hr, -⟩ := exists_of_any hpublishing
  obtain ⟨r', hr', -⟩ := exists_of_any hconversing
  obtain ⟨out, hout, -⟩ := exists_of_any hcompiled
  exact ⟨by decide +kernel, ⟨r, hr⟩, by decide +kernel, ⟨out, hout⟩, by decide +kernel, ⟨r', hr'⟩,
    by decide +kernel, by decide +kernel⟩

/-- A chart on both sides of a topic that asks for a service of the same name, with one spelling for
each. -/
def Sample.coherent : Chart :=
  party "n" [.endpoint .publisher "/x" "std_msgs/Bool", .endpoint .subscriber "/x" "std_msgs/Bool",
    .endpoint .client "x" "std_srvs/Empty"]

open Sample in
/-- The chart of the sample declares a topic on both sides and a service, all under one name. With
one spelling, that counts as one resource each. -/
theorem declared_once_iff_sample :
    ∃ r out, Registry.ofChart coherent = .ok r ∧ Network.compile scriptInterpreter
        [coherent, party "m" [.endpoint .server "/x" "std_srvs/Empty"]] = .ok out ∧
      coherent.FlatOnce ∧ coherent.SpelledOnce ∧ (coherent.flatNames .client).Nodup := by
  have hregistered : (Registry.ofChart coherent).toOption.any (fun _ => true) = true := by
    decide +kernel
  have hcompiled : (Network.compile scriptInterpreter
      [coherent, party "m" [.endpoint .server "/x" "std_srvs/Empty"]]).toOption.any
        (fun _ => true) = true := by decide +kernel
  obtain ⟨r, hr, -⟩ := exists_of_any hregistered
  obtain ⟨out, hout, -⟩ := exists_of_any hcompiled
  have hservers : coherent.flatNames .server = [] := by decide +kernel
  have hflat : coherent.FlatOnce :=
    ⟨fun side => by cases side <;> decide +kernel, hservers ▸ List.forall_mem_nil _⟩
  obtain ⟨hiff, hcompile⟩ := declared_once_iff hr
  obtain ⟨honce, -⟩ := hcompile _ _ out (List.mem_cons_self ..) hout
  exact ⟨r, out, hr, hout, hflat, hiff.mp hflat, honce .client (by simp)⟩

end ChartNet
