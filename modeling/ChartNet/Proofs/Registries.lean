import ChartNet.Proofs.Contents
import ChartNet.Proofs.Resolution
import Mathlib.Data.List.Pairwise

/-!
# Registries and the declarations they stand for

Which charts have a registry, and what the registry then says about the chart.

* `Chart.Registrable` is said about the declarations as a whole. The registry looks at one
  declaration after the other and compares it with those before it; `Registry.add_ok_iff` says what
  it asks of the next one, and since clashing goes both ways it does not matter which of two
  declarations comes first (`Registry.exists_ofChart_iff`).
* `Registry.Represents` says what can be read off the registry. Timers and endpoints are kept apart
  and looked up in different ways, and still every lookup is one of declarations.
-/

namespace ChartNet

/-! ### Which charts have a registry -/

/-- The chart may not declare a resource both ways: once more on the same side, or on the other side
of a service. -/
def Endpoint.Excludes (side side' : Endpoint) : Prop :=
  side = side' ∨ Registry.rival? side = some side'

instance (side side' : Endpoint) : Decidable (side.Excludes side') :=
  inferInstanceAs (Decidable (_ ∨ _))

theorem Endpoint.Excludes.symm {side side' : Endpoint} (h : side.Excludes side') :
    side'.Excludes side := by
  revert h
  cases side <;> cases side' <;> decide

/-- A registry does not take both declarations: of two timers the names must differ, of two sides
the names must differ or the sides go together. Names are compared as they are spelled. -/
def Declaration.Clashes : Declaration → Declaration → Prop
  | endpoint side name _, endpoint side' name' _ => side.Excludes side' ∧ name = name'
  | timer name _, timer name' _ => name = name'
  | _, _ => False

theorem Declaration.Clashes.symm {d d' : Declaration} (h : d.Clashes d') : d'.Clashes d := by
  cases d with
  | timer name rate =>
    cases d' with
    | timer name' rate' => exact Eq.symm h
    | endpoint side' name' type' => exact h
  | endpoint side name type =>
    cases d' with
    | timer name' rate' => exact h
    | endpoint side' name' type' => exact ⟨h.1.symm, h.2.symm⟩

instance : Std.Symm fun d d' : Declaration => ¬ d.Clashes d' :=
  ⟨fun _ _ h h' => h h'.symm⟩

/-- What is asked of a declaration by itself: a timer has a positive rate, a side of a topic or
service has a name with a flat form and a type that is known. -/
def Declaration.Usable : Declaration → Prop
  | timer _ rate => rate.isFinite = true ∧ 0.0 < rate
  | endpoint side name type =>
    (∃ flat, Wire.flatName name = .ok flat) ∧ Registry.knowsType side type = true

/-- Declarations clash if they are of one resource and have the same role or the two roles of a
service. -/
theorem Declaration.clashes_iff {d d' : Declaration} :
    d.Clashes d' ↔ d.resource = d'.resource ∧ (d.role = d'.role ∨
      d.role = .endpoint .server ∧ d'.role = .endpoint .client ∨
      d.role = .endpoint .client ∧ d'.role = .endpoint .server) := by
  cases d with
  | timer name rate =>
    cases d' with
    | timer name' rate' => simp [Clashes, role, resource]
    | endpoint side' name' type' => simp [Clashes, role]
  | endpoint side name type =>
    cases d' with
    | timer name' rate' => simp [Clashes, role]
    | endpoint side' name' type' =>
      cases side <;> cases side' <;>
        simp [Clashes, role, resource, Endpoint.Excludes, Registry.rival?]

namespace Registry

variable {c : Chart} {r : Registry}

/-- Topics have message types, services have service types. -/
theorem knowsType_iff {side : Endpoint} {type : String} : knowsType side type = true ↔
    (side ∈ [Endpoint.publisher, .subscriber] → ∃ fields, Catalogue.message? type = some fields) ∧
    (side ∈ [Endpoint.server, .client] → ∃ schema, Catalogue.service? type = some schema) := by
  cases side <;> simp [knowsType, Option.isSome_iff_exists]

/-- A declaration that is taken does not clash with one before it. The registry looks for one of the
same role and name, and for one on the other side. -/
theorem not_clashes_of_add {c : Chart} {r r' : Registry} (h : ofChart c = .ok r) {d : Declaration}
    (hadd : r.add d = .ok r') : ∀ e ∈ c.declarations, ¬ e.Clashes d := by
  obtain ⟨hnew, hadmits, -⟩ := add_eq_ok.mp hadd
  intro e he hclash
  have hdeclared : r.contains e.role e.resource = true := (contains_iff h).mpr ⟨e, he, rfl, rfl⟩
  cases d with
  | timer name rate =>
    cases e with
    | timer name' rate' =>
      obtain rfl : name' = name := hclash
      cases hdeclared.symm.trans hnew
    | endpoint side' name' type' => exact hclash
  | endpoint side name type =>
    cases e with
    | timer name' rate' => exact hclash
    | endpoint side' name' type' =>
      obtain ⟨hside, rfl⟩ := hclash
      rcases hside.symm with rfl | hrival
      · cases hdeclared.symm.trans hnew
      · obtain ⟨-, -, hfree⟩ := hadmits
        have hnone : (r.type? side' name').isSome = false := by rw [hfree side' hrival]; rfl
        cases hdeclared.symm.trans hnone

/-- A registry takes a declaration that is usable and does not clash with one before it. What was
taken before is known from the registry only by its lists. -/
theorem add_ok_iff (h : ofChart c = .ok r) {d : Declaration} :
    (∃ r', r.add d = .ok r') ↔ d.Usable ∧ ∀ e ∈ c.declarations, ¬ e.Clashes d := by
  refine ⟨fun ⟨r', hadd⟩ => ⟨?_, not_clashes_of_add h hadd⟩, fun ⟨husable, hclash⟩ => ?_⟩
  · obtain ⟨-, hadmits, -⟩ := add_eq_ok.mp hadd
    cases d with
    | timer name rate => simpa [Admits, Declaration.Usable] using hadmits
    | endpoint side name type => exact ⟨hadmits.1, hadmits.2.1⟩
  · have hnew : r.contains d.role d.resource = false := by
      apply Bool.eq_false_iff.mpr
      intro hcontains
      obtain ⟨e, he, hrole, hresource⟩ := (contains_iff h).mp hcontains
      exact hclash e he (Declaration.clashes_iff.mpr ⟨hresource, .inl hrole⟩)
    refine ⟨_, add_eq_ok.mpr ⟨hnew, ?_, rfl⟩⟩
    cases d with
    | timer name rate => simpa [Admits, Declaration.Usable] using husable
    | endpoint side name type =>
      refine ⟨husable.1, husable.2, fun other hother => Option.eq_none_iff_forall_ne_some.mpr ?_⟩
      intro type' htype
      have hrival : other.Excludes side := Endpoint.Excludes.symm (.inr hother)
      exact hclash _ ((type?_eq_some_iff h).mp htype) ⟨hrival, rfl⟩

/-- **Which charts have a registry**, in terms of single declarations and pairs of them. The
induction is on the declarations from the end, as they are taken. -/
theorem exists_ofChart_iff : (∃ r, ofChart c = .ok r) ↔ (∀ d ∈ c.declarations, d.Usable) ∧
    c.declarations.Pairwise fun d d' => ¬ d.Clashes d' := by
  obtain ⟨name, initial, data, declarations, states⟩ := c
  -- by the last declaration: those before it belong to a chart that has a registry of its own
  induction declarations using List.reverseRecOn with
  | nil => exact ⟨fun _ => ⟨by simp, .nil⟩, fun _ => ⟨empty name, rfl⟩⟩
  | append_singleton ds d ih =>
    have hstep : (∃ r, ofChart ⟨name, initial, data, ds ++ [d], states⟩ = .ok r) ↔
        ∃ r, ofChart ⟨name, initial, data, ds, states⟩ = .ok r ∧ ∃ r', r.add d = .ok r' := by
      simp only [ofChart, List.foldlM_append, List.foldlM_cons, List.foldlM_nil, bind_pure,
        bind_eq_ok]
      refine ⟨?_, ?_⟩
      · rintro ⟨r', r, hr, hadd⟩
        exact ⟨r, hr, r', hadd⟩
      · rintro ⟨r, hr, r', hadd⟩
        exact ⟨r', r, hr, hadd⟩
    have hpairs : (ds ++ [d]).Pairwise (fun d d' => ¬ d.Clashes d') ↔
        ds.Pairwise (fun d d' => ¬ d.Clashes d') ∧ ∀ e ∈ ds, ¬ e.Clashes d := by
      simp [List.pairwise_append]
    rw [hstep]
    simp only [hpairs, List.forall_mem_append, List.forall_mem_singleton]
    refine ⟨?_, ?_⟩
    · rintro ⟨r, hr, hadd⟩
      obtain ⟨husable, hclash⟩ := (add_ok_iff hr).mp hadd
      obtain ⟨hall, hpairwise⟩ := ih.mp ⟨r, hr⟩
      exact ⟨⟨hall, husable⟩, hpairwise, hclash⟩
    · rintro ⟨⟨hall, husable⟩, hpairwise, hclash⟩
      obtain ⟨r, hr⟩ := ih.mpr ⟨hall, hpairwise⟩
      exact ⟨r, hr, (add_ok_iff hr).mpr ⟨husable, hclash⟩⟩

/-- **What a registry makes sure of**: no declaration clashes with another one. Where the two stand
in the chart does not matter, since clashing is symmetric. -/
theorem not_clashes (h : ofChart c = .ok r) :
    c.declarations.Pairwise fun d d' => ¬ d.Clashes d' :=
  (exists_ofChart_iff.mp ⟨r, h⟩).2

end Registry

namespace Chart

/-- The declarations of the chart can be registered. These are the conditions in the terms in which
a chart is described, without pairs of declarations. -/
structure Registrable (c : Chart) : Prop where
  /-- no resource is declared twice with the same role -/
  once : (c.declarations.map fun d => (d.role, d.resource)).Nodup
  /-- timers have rates that are positive and finite -/
  rates : ∀ name rate, .timer name rate ∈ c.declarations → rate.isFinite = true ∧ 0.0 < rate
  /-- names of topics and services have a flat form -/
  names : ∀ side name type, .endpoint side name type ∈ c.declarations →
    ∃ flat, Wire.flatName name = .ok flat
  /-- topics have message types that are known -/
  messages : ∀ side ∈ [Endpoint.publisher, .subscriber], ∀ name type,
    .endpoint side name type ∈ c.declarations → ∃ fields, Catalogue.message? type = some fields
  /-- services have service types that are known -/
  services : ∀ side ∈ [Endpoint.server, .client], ∀ name type,
    .endpoint side name type ∈ c.declarations → ∃ schema, Catalogue.service? type = some schema
  /-- no service is declared on both sides -/
  one_side : ∀ name, c.Declares (.endpoint .server) name → ¬ c.Declares (.endpoint .client) name

variable {c : Chart}

/-- No two declarations clash if no role is taken twice and no service has the chart on both
sides. -/
theorem pairwise_not_clashes_iff :
    (c.declarations.Pairwise fun d d' => ¬ d.Clashes d') ↔
      (c.declarations.map fun d => (d.role, d.resource)).Nodup ∧
      ∀ name, c.Declares (.endpoint .server) name → ¬ c.Declares (.endpoint .client) name := by
  refine ⟨fun h => ⟨?_, ?_⟩, fun ⟨honce, hside⟩ => ?_⟩
  · refine List.pairwise_map.mpr (h.imp fun hclash heq => hclash ?_)
    obtain ⟨hrole, hresource⟩ := Prod.mk.inj heq
    exact Declaration.clashes_iff.mpr ⟨hresource, .inl hrole⟩
  · rintro name ⟨d, hd, hrole, rfl⟩ ⟨d', hd', hrole', hresource⟩
    have hclash : d.Clashes d' :=
      Declaration.clashes_iff.mpr ⟨hresource.symm, .inr (.inl ⟨hrole, hrole'⟩)⟩
    refine h.forall hd hd' ?_ hclash
    rintro rfl
    simp [hrole] at hrole'
  · refine (List.pairwise_map.mp honce).imp_of_mem ?_
    intro d d' hd hd' hne hclash
    obtain ⟨hresource, hroles⟩ := Declaration.clashes_iff.mp hclash
    rcases hroles with hroles | ⟨hrole, hrole'⟩ | ⟨hrole, hrole'⟩
    · exact hne (Prod.ext hroles hresource)
    · exact hside d.resource ⟨d, hd, hrole, rfl⟩ ⟨d', hd', hrole', hresource.symm⟩
    · exact hside d'.resource ⟨d', hd', hrole', rfl⟩ ⟨d, hd, hrole, hresource⟩

/-- The conditions on a chart are those on its single declarations and on pairs of them. -/
theorem registrable_iff : c.Registrable ↔ (∀ d ∈ c.declarations, d.Usable) ∧
    c.declarations.Pairwise fun d d' => ¬ d.Clashes d' := by
  rw [pairwise_not_clashes_iff]
  refine ⟨fun h => ⟨fun d hd => ?_, h.once, h.one_side⟩, fun ⟨husable, honce, hside⟩ => ?_⟩
  · cases d with
    | timer name rate => exact h.rates name rate hd
    | endpoint side name type =>
      refine ⟨h.names side name type hd, Registry.knowsType_iff.mpr ⟨?_, ?_⟩⟩
      · exact fun hmem => h.messages side hmem name type hd
      · exact fun hmem => h.services side hmem name type hd
  · refine ⟨honce, fun name rate hd => husable _ hd, fun side name type hd => (husable _ hd).1,
      ?_, ?_, hside⟩
    · intro side hmem name type hd
      exact (Registry.knowsType_iff.mp (husable _ hd).2).1 hmem
    · intro side hmem name type hd
      exact (Registry.knowsType_iff.mp (husable _ hd).2).2 hmem

end Chart

/-! ### What a registry says -/

namespace Registry

/-- Whatever can be asked of the registry is answered by the chart's declarations. So the registry
can be forgotten once this is known. -/
structure Represents (r : Registry) (c : Chart) : Prop where
  /-- it contains what is declared -/
  contains : ∀ role name, r.contains role name = true ↔ c.Declares role name
  /-- it finds the type that is declared -/
  type : ∀ role name type, r.roleType? role name = some type ↔
    ∃ side, role = .endpoint side ∧ .endpoint side name type ∈ c.declarations
  /-- what is declared is there when it is required -/
  required : ∀ role name, c.Declares role name → r.require role name = .ok ()
  /-- what is not declared is reported when it is required -/
  missed : ∀ role name, ¬ c.Declares role name →
    r.require role name = .error (.unresolved c.name role name)
  /-- it lists the timers in the order of declaration -/
  timers : r.timers = c.declarations.filterMap Declaration.timer?
  /-- it lists each side in the order of declaration -/
  sides : ∀ side, r.onSide side = c.declarations.filterMap (Declaration.on? side)
  /-- it is empty if nothing is declared -/
  empty : r.isEmpty = true ↔ c.declarations = []

variable {c : Chart} {r : Registry}

/-- The type of a resource is the one that is declared for it. A timer has none. -/
theorem roleType?_eq_some_iff (h : ofChart c = .ok r) {role : Role} {name type : String} :
    r.roleType? role name = some type ↔
      ∃ side, role = .endpoint side ∧ .endpoint side name type ∈ c.declarations := by
  cases role with
  | timer => simp [roleType?]
  | endpoint side => simp [roleType?, type?_eq_some_iff h]

/-- Every declaration ends up on one of the two lists. -/
theorem isEmpty_iff (h : ofChart c = .ok r) : r.isEmpty = true ↔ c.declarations = [] := by
  obtain ⟨-, htimers, hendpoints, -⟩ := ofChart_eq_ok h
  rw [isEmpty, htimers, hendpoints]
  rcases c.declarations with _ | ⟨d, ds⟩
  · simp
  · cases d <;> simp [Declaration.timer?, Declaration.endpoint?]

/-- The registry of a chart says what the chart declares. -/
theorem represents_of_ofChart (h : ofChart c = .ok r) : r.Represents c where
  contains role name := contains_iff h
  type role name type := roleType?_eq_some_iff h
  required role name hd := if_pos ((contains_iff h).mpr hd)
  missed role name hd := by
    obtain ⟨hautomaton, -⟩ := ofChart_eq_ok h
    rw [← hautomaton]
    exact if_neg (mt (contains_iff h).mp hd)
  timers := (ofChart_eq_ok h).2.1
  sides := onSide_of_ofChart h
  empty := isEmpty_iff h

end Registry

/-- **A registry stands for the declarations of its chart.** There is one exactly if the
declarations can be registered, and then it answers as the declarations do. -/
theorem registry_represents (c : Chart) :
    ((∃ r, Registry.ofChart c = .ok r) ↔ c.Registrable) ∧
      ∀ r, Registry.ofChart c = .ok r → r.Represents c :=
  ⟨Registry.exists_ofChart_iff.trans Chart.registrable_iff.symm,
    fun _ => Registry.represents_of_ofChart⟩

/-- A chart with a timer and a topic of the same name, on both sides of the topic, that serves one
service and asks for another. -/
def Sample.equipped : Chart :=
  party "n" [.endpoint .server "/s" "std_srvs/Empty", .timer "x" 2.0,
    .endpoint .publisher "x" "std_msgs/Bool", .endpoint .client "s/" "std_srvs/srv/Trigger",
    .endpoint .subscriber "x" "std_msgs/Bool"]

open Sample in
/-- The chart of the sample has two names that differ in a slash, and a timer and a topic that share
one. Each of them is found under its own spelling, and with its own role. -/
theorem registry_represents_sample :
    equipped.Registrable ∧ ∃ r, Registry.ofChart equipped = .ok r ∧
      r.roleType? (.endpoint .client) "s/" = some "std_srvs/srv/Trigger" ∧
      r.roleType? .timer "x" = none ∧
      r.require (.endpoint .client) "/s" = .error (.unresolved "n" (.endpoint .client) "/s") ∧
      r.timers.map (·.name) = ["x"] ∧ r.onSide .server = [("/s", "std_srvs/Empty")] := by
  have hregistered : (Registry.ofChart equipped).toOption.any (fun _ => true) = true := by
    decide +kernel
  obtain ⟨r, hr, -⟩ := exists_of_any hregistered
  obtain ⟨hiff, hrepresents⟩ := registry_represents equipped
  have h := hrepresents r hr
  refine ⟨hiff.mp ⟨r, hr⟩, r, hr, ?_, rfl, h.missed _ _ ?_, ?_, ?_⟩
  · exact (h.type _ _ _).mpr ⟨.client, rfl, by simp [equipped, party]⟩
  · simp [Chart.Declares, equipped, party, Declaration.role, Declaration.resource]
  · rw [h.timers]
    rfl
  · rw [h.sides]
    rfl

end ChartNet
