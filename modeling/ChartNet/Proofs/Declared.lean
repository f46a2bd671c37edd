import ChartNet.Plain
import ChartNet.Proofs.Outcome
import ChartNet.Proofs.Registration
import ChartNet.Proofs.WellFormed
import Mathlib.Data.List.Perm.Basic

/-!
# What a chart declares

A registry goes through the declarations of a chart one by one. `Registry.add_eq_ok` says when one
of them is taken and what it adds; a whole registry then holds the declarations themselves, each on
its list and in its order (`Registry.ofChart_eq_ok`).

The services that a chart declares are also written as calls, `Chart.serviceCalls`: a network
registers just these, only in another order.
-/

namespace ChartNet

namespace Declaration

/-- The timer that is declared. -/
def timer? : Declaration → Option Timer
  | timer name rate => some ⟨name, rate⟩
  | endpoint .. => none

/-- The side of a topic or service that is declared. -/
def endpoint? : Declaration → Option Registered
  | timer .. => none
  | endpoint side name type => some ⟨side, name, type⟩

/-- Name and type of what is declared on the given side; nothing, if it is a timer or another
side. -/
def on? (side : Endpoint) : Declaration → Option (String × String)
  | timer .. => none
  | endpoint side' name type => if side' = side then some (name, type) else none

end Declaration

namespace Registry

/-- The registry with a further declaration, at the end of the list that it belongs to. Nothing is
checked. -/
def extend (r : Registry) (d : Declaration) : Registry :=
  { r with timers := r.timers ++ d.timer?.toList, endpoints := r.endpoints ++ d.endpoint?.toList }

/-- What is asked of a declaration besides not being there already: a rate for a timer, a name and a
type for a side, and for a service that the other side is not there under the same name. -/
def Admits (r : Registry) : Declaration → Prop
  | .timer _ rate => (rate.isFinite && decide (0.0 < rate)) = true
  | .endpoint side name type => (∃ flat, Wire.flatName name = .ok flat) ∧
      knowsType side type = true ∧ ∀ other ∈ rival? side, r.type? other name = none

/-- One side of a topic or service is taken if it is admitted, and then goes to the end of its list.
The four sides are treated alike, which is why the side is a parameter here. -/
theorem addEndpoint_eq_ok {r r' : Registry} {side : Endpoint} {name type : String} :
    r.addEndpoint side name type = .ok r' ↔
      r.Admits (.endpoint side name type) ∧ r.extend (.endpoint side name type) = r' := by
  have hextend : r.extend (.endpoint side name type) =
      { r with endpoints := r.endpoints ++ [⟨side, name, type⟩] } := by
    simp [extend, Declaration.timer?, Declaration.endpoint?]
  rw [addEndpoint, Admits, hextend]
  rcases hflat : Wire.flatName name with e | flat
  · simp [usedBy]
  · by_cases htype : knowsType side type = true
    · rcases rival? side with _ | other
      · simp [usedBy, htype]
      · by_cases hother : r.type? other name = none
        · simp [usedBy, htype, hother]
        · simp [usedBy, htype, hother, Option.isSome_iff_ne_none]
    · simp [usedBy, htype]

/-- When a declaration is taken, and what it adds. Whether it is there already is looked up by role
and name, and the rest is `Admits`. -/
theorem add_eq_ok {r r' : Registry} {d : Declaration} :
    r.add d = .ok r' ↔ r.contains d.role d.resource = false ∧ r.Admits d ∧ r.extend d = r' := by
  unfold add
  by_cases hcontains : r.contains d.role d.resource = true
  · simp [hcontains]
  · rw [if_neg hcontains]
    simp only [Bool.not_eq_true] at hcontains
    cases d with
    | timer name rate =>
      have hextend : r.extend (.timer name rate) =
          { r with timers := r.timers ++ [⟨name, rate⟩] } := by
        simp [extend, Declaration.timer?, Declaration.endpoint?]
      rw [hextend, Admits]
      by_cases hrate : (rate.isFinite && decide (0.0 < rate)) = true
      · simp [hrate, hcontains]
      · simp only [hrate]
        simp
    | endpoint side name type => simp [addEndpoint_eq_ok, hcontains]

/-- A side of a topic or service has a name and a type that can be used. The rest of the program
relies on this without checking it again. -/
def Registered.Sound (e : Registered) : Prop :=
  (∃ flat, Wire.flatName e.name = .ok flat) ∧ knowsType e.side e.type = true

/-- Declarations that are all taken end up on their lists. The list is taken from the front, and
what is there already stays in front of what is added. -/
theorem foldlM_add {ds : List Declaration} {r r' : Registry} (h : ds.foldlM add r = .ok r') :
    r'.automaton = r.automaton ∧ r'.timers = r.timers ++ ds.filterMap Declaration.timer? ∧
      r'.endpoints = r.endpoints ++ ds.filterMap Declaration.endpoint? ∧
      ∀ e ∈ ds.filterMap Declaration.endpoint?, Registered.Sound e := by
  induction ds generalizing r with
  | nil =>
    obtain rfl := pure_eq_ok.mp h
    simp
  | cons d ds ih =>
    rw [List.foldlM_cons, bind_eq_ok] at h
    obtain ⟨r₁, hadd, h⟩ := h
    obtain ⟨-, hadmits, rfl⟩ := add_eq_ok.mp hadd
    obtain ⟨hautomaton, htimers, hendpoints, hsound⟩ := ih h
    refine ⟨hautomaton, ?_, ?_, ?_⟩
    · rw [htimers, extend, List.append_assoc]
      cases d <;> simp [Declaration.timer?, List.filterMap_cons]
    · rw [hendpoints, extend, List.append_assoc]
      cases d <;> simp [Declaration.endpoint?, List.filterMap_cons]
    · cases d with
      | timer name rate => exact hsound
      | endpoint side name type =>
        exact List.forall_mem_cons.mpr ⟨⟨hadmits.1, hadmits.2.1⟩, hsound⟩

/-- A registry holds the declarations of its chart. The conditions are those of each single
declaration, against the ones that come before it. -/
theorem ofChart_eq_ok {c : Chart} {r : Registry} (h : ofChart c = .ok r) :
    r.automaton = c.name ∧ r.timers = c.declarations.filterMap Declaration.timer? ∧
      r.endpoints = c.declarations.filterMap Declaration.endpoint? ∧
      ∀ e ∈ r.endpoints, Registered.Sound e := by
  obtain ⟨hautomaton, htimers, hendpoints, hsound⟩ := foldlM_add h
  simp only [empty, List.nil_append] at hautomaton htimers hendpoints
  exact ⟨hautomaton, htimers, hendpoints, hendpoints ▸ hsound⟩

/-- A registry lists what is declared on a side in the order of declaration. This is how a later
stage sees the declarations of a chart, without the registry. -/
theorem onSide_of_ofChart {c : Chart} {r : Registry} (h : ofChart c = .ok r) (side : Endpoint) :
    r.onSide side = c.declarations.filterMap (Declaration.on? side) := by
  obtain ⟨-, -, hendpoints, -⟩ := ofChart_eq_ok h
  rw [onSide, hendpoints, ← List.filterMap_eq_filter, List.map_filterMap, List.filterMap_filterMap]
  congr 1
  funext d
  cases d with
  | timer name rate => rfl
  | endpoint side' name type =>
    by_cases hside : side' = side <;> simp [Declaration.endpoint?, Declaration.on?, hside]

end Registry

/-! ### Services as calls -/

/-- The call that a declared side of a service stands for. -/
def Registered.call? (automaton : String) (e : Registered) : Option (String × Call) :=
  match e.side with
  | .server => some (e.name, .server e.type automaton)
  | .client => some (e.name, .client e.type automaton)
  | _ => none

/-- The calls of a registry in the order in which they are made: first those of a server, then those
of a client. -/
def Registry.calls (r : Registry) (automaton : String) : List (String × Call) :=
  (r.onSide .server).map (fun e => (e.1, .server e.2 automaton)) ++
    (r.onSide .client).map (fun e => (e.1, .client e.2 automaton))

/-- Making the calls of servers first only changes their order. So the calls can be counted without
minding in which order they are made. -/
theorem Registry.calls_perm (r : Registry) (automaton : String) :
    (r.calls automaton).Perm (r.endpoints.filterMap (Registered.call? automaton)) := by
  unfold calls onSide
  induction r.endpoints with
  | nil => simp
  | cons e es ih =>
    obtain ⟨side, name, type⟩ := e
    cases side with
    | publisher | subscriber => exact ih
    | server => exact ih.cons _
    | client => exact List.perm_middle.trans (ih.cons _)

namespace Chart

/-- The names of the timers that the chart declares, in order. -/
def timerNames (c : Chart) : List String :=
  c.declarations.filterMap fun d => d.timer?.map (·.name)

/-- The services that the chart declares, as calls, in the order of declaration. -/
def serviceCalls (c : Chart) : List (String × Call) :=
  c.declarations.filterMap fun d => d.endpoint?.bind (Registered.call? c.name)

/-- Inversion for plain forms: either nothing is declared and the chart is its own plain form, or
the states are taken one by one. -/
theorem toPlain_eq_ok {c plain : Chart} {r : Registry} :
    c.toPlain = .ok (plain, r) ↔ Registry.ofChart c = .ok r ∧ r.checkUses c = .ok () ∧
      (c.declarations = [] ∧ plain = c ∨
        c.declarations ≠ [] ∧ ∃ states, c.states.mapM (Plain.state r) = .ok states ∧
          plain = ⟨c.name, c.initial, c.data, [], states⟩ ∧ plain.check = .ok ()) := by
  rw [toPlain, isPlain]
  -- without declarations the registry is empty, and only the uses are checked
  rcases hdecl : c.declarations with _ | ⟨d, ds⟩
  · have hregistry : Registry.ofChart c = .ok (Registry.empty c.name) := by
      rw [Registry.ofChart, hdecl]
      rfl
    rw [hregistry]
    simp only [List.isEmpty_nil, if_true, seq_eq_ok, pure_eq_ok, Prod.mk.injEq, Except.ok.injEq]
    constructor
    · rintro ⟨huses, rfl, rfl⟩
      exact ⟨rfl, huses, .inl ⟨trivial, rfl⟩⟩
    · rintro ⟨rfl, huses, ⟨-, rfl⟩ | ⟨hne, -⟩⟩
      · exact ⟨huses, rfl, rfl⟩
      · exact absurd rfl hne
  · simp only [List.isEmpty_cons, Bool.false_eq_true, if_false, bind_eq_ok, pure_eq_ok,
      Builder.build_eq_ok]
    constructor
    · rintro ⟨r', hr', ⟨⟩, huses, states, hstates, plain', ⟨hcheck, rfl⟩, h⟩
      obtain ⟨rfl, rfl⟩ := Prod.mk.inj h
      exact ⟨hr', huses, .inr ⟨by simp, states, hstates, rfl, hcheck⟩⟩
    · rintro ⟨hr, huses, ⟨hnil, -⟩ | ⟨-, states, hstates, rfl, hcheck⟩⟩
      · cases hnil
      · exact ⟨r, hr, ⟨⟩, huses, states, hstates, _, ⟨hcheck, rfl⟩, rfl⟩

/-- Either the chart is its own plain form, or the plain form was checked when it was built. A chart
without declarations is passed on without a check of its own. -/
theorem check_toPlain {c plain : Chart} {r : Registry} (h : c.toPlain = .ok (plain, r))
    (hc : c.check = .ok ()) : plain.check = .ok () := by
  obtain ⟨-, -, ⟨-, rfl⟩ | ⟨-, states, -, -, hcheck⟩⟩ := toPlain_eq_ok.mp h
  · exact hc
  · exact hcheck

/-- Whatever a chart with a plain form takes part in has a flat name. -/
theorem flatName_of_declared {c plain : Chart} {r : Registry} (h : c.toPlain = .ok (plain, r))
    {side : Endpoint} {name type : String} (hd : .endpoint side name type ∈ c.declarations) :
    ∃ flat, Wire.flatName name = .ok flat := by
  obtain ⟨hr, -⟩ := toPlain_eq_ok.mp h
  obtain ⟨-, -, hendpoints, hsound⟩ := Registry.ofChart_eq_ok hr
  have hmem : ⟨side, name, type⟩ ∈ r.endpoints := by
    rw [hendpoints]
    exact List.mem_filterMap.mpr ⟨_, hd, rfl⟩
  exact (hsound _ hmem).1

/-- What compiling a network takes over from a chart that has a plain form: its name, its timers and
its calls. All three can be read off the declarations. -/
theorem declared_of_toPlain {c plain : Chart} {r : Registry} (h : c.toPlain = .ok (plain, r)) :
    plain.name = c.name ∧ r.timers.map (·.name) = c.timerNames ∧
      (r.calls c.name).Perm c.serviceCalls ∧
      ∀ e ∈ c.serviceCalls, (∃ flat, Wire.flatName e.1 = .ok flat) ∧
        ∃ schema, Catalogue.service? e.2.type = some schema := by
  obtain ⟨hr, -, hplain⟩ := toPlain_eq_ok.mp h
  obtain ⟨-, htimers, hendpoints, hsound⟩ := Registry.ofChart_eq_ok hr
  have hcalls : r.endpoints.filterMap (Registered.call? c.name) = c.serviceCalls := by
    rw [hendpoints, List.filterMap_filterMap, serviceCalls]
  refine ⟨?_, ?_, hcalls ▸ r.calls_perm c.name, ?_⟩
  · rcases hplain with ⟨-, rfl⟩ | ⟨-, states, -, rfl, -⟩ <;> rfl
  · rw [htimers, List.map_filterMap, timerNames]
  · rw [← hcalls]
    intro e he
    obtain ⟨e', he', heq⟩ := List.mem_filterMap.mp he
    obtain ⟨hflat, htype⟩ := hsound e' he'
    obtain ⟨side, name, type⟩ := e'
    cases side with
    | publisher | subscriber => cases heq
    | server | client =>
      obtain rfl := Option.some.inj heq
      exact ⟨hflat, Option.isSome_iff_exists.mp htype⟩

end Chart

end ChartNet
