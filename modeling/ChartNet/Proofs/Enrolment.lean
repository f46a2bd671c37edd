import ChartNet.Proofs.Acceptance

/-!
# Calls on a service in any order

A service is called again and again, and some of the calls fail. Each call first fixes the type and
then looks for a place, so that a call could fail with the type already fixed; it does not, because
whoever takes the place has fixed the type before (`Service.Consistent`).

* `Service.Extends`: what later calls may change. The step lemma is `Consistent.extends_after`, and
  `Consistent.extends_afterCalls` is the same for a run.
* `Service.Takes`: all calls of a list succeed. For a fresh service this does not depend on their
  order (`takes_named_iff`), and neither does what they leave (`enrol_perm`).
-/

namespace ChartNet

namespace Service

/-- The second service may have come out of the first by further calls: what was fixed stays as it
is, and clients are only added behind the others. -/
structure Extends (s s' : Service) : Prop where
  /-- the name is still the same -/
  name : s'.name = s.name
  /-- the type stays once it is agreed -/
  type : ∀ type, s.type? = some type → s'.type? = some type
  /-- the server stays once it is there -/
  server : ∀ automaton, s.server? = some automaton → s'.server? = some automaton
  /-- clients stay, in the order in which they came -/
  clients : s.clients <+: s'.clients

theorem Extends.refl (s : Service) : s.Extends s :=
  ⟨rfl, fun _ h => h, fun _ h => h, List.prefix_rfl⟩

theorem Extends.trans {s s' s'' : Service} (h : s.Extends s') (h' : s'.Extends s'') :
    s.Extends s'' where
  name := h'.name.trans h.name
  type type ht := h'.type type (h.type type ht)
  server automaton ha := h'.server automaton (h.server automaton ha)
  clients := h.clients.trans h'.clients

/-- A call that fits adds something and takes nothing away: a type, once it is fixed, stays fixed,
and so does the server. -/
theorem extends_record {s : Service} {c : Call} (h : c.Fits s) : s.Extends (c.record s) := by
  have hagreed : ∀ {type}, Call.Agrees s type → ∀ type', s.type? = some type' → type = type' := by
    rintro type (hnone | hsome) type' htype'
    · rw [hnone] at htype'
      cases htype'
    · exact Option.some.inj (hsome.symm.trans htype')
  cases c with
  | server type automaton =>
    obtain ⟨hagree, hserver, -⟩ := h
    refine ⟨rfl, fun type' ht => congrArg some (hagreed hagree type' ht), ?_, List.prefix_rfl⟩
    intro a ha
    rw [hserver] at ha
    cases ha
  | client type automaton =>
    obtain ⟨hagree, -⟩ := h
    exact ⟨rfl, fun type' ht => congrArg some (hagreed hagree type' ht), fun _ ha => ha,
      List.prefix_append ..⟩

/-- One call, whether or not it succeeds. What fails leaves the service as it was, and so this is a
matter of the calls that fit. -/
theorem Consistent.extends_after {s : Service} (hs : s.Consistent) (c : Call) :
    s.Extends (s.after c.step).2 := by
  by_cases h : c.Fits s
  · rw [after_of_fits h]
    exact extends_record h
  · obtain ⟨e, he⟩ := after_of_not_fits hs h
    rw [he]
    exact .refl s

/-- Any number of calls. -/
theorem Consistent.extends_afterCalls {s : Service} (hs : s.Consistent) (calls : List Call) :
    s.Extends (s.afterCalls calls) := by
  induction calls generalizing s with
  | nil => exact .refl s
  | cons c calls ih => exact (hs.extends_after c).trans (ih (hs.after c))

/-- A call that fails changes nothing. -/
theorem Consistent.eq_of_after_error {s s' : Service} (hs : s.Consistent) {c : Call}
    {e : ContractFault} (h : s.after c.step = (.error e, s')) : s' = s := by
  by_cases hfits : c.Fits s
  · rw [after_of_fits hfits] at h
    cases h
  · obtain ⟨e', he⟩ := after_of_not_fits hs hfits
    rw [he] at h
    exact (Prod.mk.inj h).2.symm

/-! ### Calls that all succeed -/

/-- The calls, made one after the other, all succeed. Each of them is made on what the others have
left. -/
def Takes (s : Service) : List Call → Prop
  | [] => True
  | c :: calls => (s.after c.step).1 = .ok () ∧ Takes (s.after c.step).2 calls

/-- Calls that are made one after the other succeed if each fits what those before it have left. -/
theorem Consistent.takes_iff {s : Service} (hs : s.Consistent) {calls : List Call} :
    s.Takes calls ↔ s.Admits calls := by
  induction calls generalizing s with
  | nil => rfl
  | cons c calls ih =>
    rw [Takes, Admits]
    by_cases h : c.Fits s
    · rw [after_of_fits h, ih (hs.record h)]
      simp [h]
    · obtain ⟨e, he⟩ := after_of_not_fits hs h
      rw [he]
      simp [h]

/-- On a fresh service calls succeed if and only if they are compatible. The right hand side says
nothing of their order. -/
theorem takes_named_iff {name : String} {calls : List Call} :
    (named name).Takes calls ↔ Call.Compatible calls :=
  (consistent_named name).takes_iff.trans admits_named_iff

/-- Calls that all succeed leave what they record. -/
theorem Consistent.afterCalls_of_takes {s : Service} (hs : s.Consistent) {calls : List Call}
    (h : s.Takes calls) : s.afterCalls calls = s.enrol calls := by
  induction calls generalizing s with
  | nil => rfl
  | cons c calls ih =>
    have hfits : c.Fits s := (hs.takes_iff.mp h).1
    have hrest : Takes (s.after c.step).2 calls := h.2
    change ((s.after c.step).2).afterCalls calls = (c.record s).enrol calls
    rw [after_of_fits hfits] at hrest ⊢
    exact ih (hs.record hfits) hrest

/-- The services have the same type and the same parties; the clients may have come in another
order. -/
structure SameParties (s s' : Service) : Prop where
  /-- the services agree on the type -/
  type : s'.type? = s.type?
  /-- they have the same server -/
  server : s'.server? = s.server?
  /-- they have the same clients, in some order -/
  clients : s'.clients.Perm s.clients

/-- What compatible calls leave does not depend on their order, but for the order of the clients.
Type and server are determined as there is only one of each. -/
theorem sameParties_enrol {name : String} {calls calls' : List Call} (h : Call.Compatible calls)
    (hperm : calls.Perm calls') :
    ((named name).enrol calls).SameParties ((named name).enrol calls') := by
  simp only [enrol_named]
  refine ⟨?_, ?_, (hperm.filterMap Call.client?).symm⟩
  · -- all calls name one type, so that the last one of either order names it
    rcases hlast : calls.getLast? with _ | c
    · obtain rfl := List.getLast?_eq_none_iff.mp hlast
      rw [hperm.nil_eq.symm]
      rfl
    · have hc : c ∈ calls := List.mem_of_getLast? hlast
      rcases hlast' : calls'.getLast? with _ | c'
      · obtain rfl := List.getLast?_eq_none_iff.mp hlast'
        exact absurd (hperm.mem_iff.mp hc) List.not_mem_nil
      · have hc' : c' ∈ calls := hperm.mem_iff.mpr (List.mem_of_getLast? hlast')
        exact congrArg some (h.one_type c' hc' c hc)
  · -- there is at most one server, and a list of one element has one order
    have hservers : (Call.servers calls).Perm (Call.servers calls') := hperm.filterMap Call.server?
    rcases hcalls : Call.servers calls with _ | ⟨a, as⟩
    · rw [hcalls] at hservers
      rw [hservers.nil_eq.symm]
    · have hone : Call.servers calls = [a] := h.servers_eq_singleton (by simp [hcalls])
      rw [hone] at hservers hcalls
      rw [hservers.singleton_eq.symm, hcalls]

/-- The same for calls that are made one after the other and all succeed. -/
theorem sameParties_afterCalls {name : String} {calls calls' : List Call}
    (h : (named name).Takes calls) (hperm : calls.Perm calls') :
    ((named name).afterCalls calls).SameParties ((named name).afterCalls calls') := by
  have hcompatible := takes_named_iff.mp h
  have h' : (named name).Takes calls' := takes_named_iff.mpr (hcompatible.perm hperm)
  rw [(consistent_named name).afterCalls_of_takes h, (consistent_named name).afterCalls_of_takes h']
  exact sameParties_enrol hcompatible hperm

/-- **Registering with a service.** Take any calls on a fresh service, failing ones among them. The
service is then consistent: no client is there twice, the server is no client, and where there is
no type there is nobody. Later calls change nothing that was fixed, and a call that fails changes
nothing at all. The calls all succeed exactly if they do in every order, and then every order leaves
the same type, server and clients. -/
theorem registration_any_order (name : String) (calls : List Call) :
    ((named name).afterCalls calls).Consistent ∧
    (∀ more, ((named name).afterCalls calls).Extends ((named name).afterCalls (calls ++ more))) ∧
    (∀ (c : Call) (e : ContractFault) (s' : Service),
      ((named name).afterCalls calls).after c.step = (.error e, s') →
        s' = (named name).afterCalls calls) ∧
    ((named name).Takes calls ↔ ∀ calls', calls.Perm calls' → (named name).Takes calls') ∧
    ((named name).Takes calls → ∀ calls', calls.Perm calls' →
      ((named name).afterCalls calls).SameParties ((named name).afterCalls calls')) := by
  have hconsistent := (consistent_named name).afterCalls calls
  refine ⟨hconsistent, ?_, ?_, ?_, ?_⟩
  · intro more
    have hsplit : (named name).afterCalls (calls ++ more) =
        ((named name).afterCalls calls).afterCalls more := List.foldl_append
    rw [hsplit]
    exact hconsistent.extends_afterCalls more
  · intro c e s' h
    exact hconsistent.eq_of_after_error h
  · simp only [takes_named_iff]
    exact ⟨fun h calls' hperm => h.perm hperm, fun h => h calls (.refl calls)⟩
  · intro h calls' hperm
    exact sameParties_afterCalls h hperm

/-- Of three calls the second fails, and so does a fourth one of the server as a client; without the
second the calls succeed in either order. -/
theorem registration_any_order_sample :
    (named "x").afterCalls [.client "T" "a", .client "U" "b", .server "T" "s"] =
      ⟨"x", some "T", some "s", ["a"]⟩ ∧
    (∃ e s', Service.after ⟨"x", some "T", some "s", ["a"]⟩ (Call.client "T" "s").step =
      (.error e, s') ∧ s' = ⟨"x", some "T", some "s", ["a"]⟩) ∧
    (named "x").Takes [.client "T" "a", .server "T" "s"] ∧
    ((named "x").afterCalls [.client "T" "a", .server "T" "s"]).SameParties
      ((named "x").afterCalls [.server "T" "s", .client "T" "a"]) := by
  have hafter : (named "x").afterCalls [.client "T" "a", .client "U" "b", .server "T" "s"] =
      ⟨"x", some "T", some "s", ["a"]⟩ := by decide
  have hfails : Service.after ⟨"x", some "T", some "s", ["a"]⟩ (Call.client "T" "s").step =
      (.error (.clientAndServer "s"), ⟨"x", some "T", some "s", ["a"]⟩) := rfl
  have htakes : (named "x").Takes [.client "T" "a", .server "T" "s"] := ⟨rfl, rfl, trivial⟩
  obtain ⟨-, -, hatomic, -⟩ :=
    registration_any_order "x" [.client "T" "a", .client "U" "b", .server "T" "s"]
  obtain ⟨-, -, -, -, hsame⟩ := registration_any_order "x" [.client "T" "a", .server "T" "s"]
  rw [hafter] at hatomic
  exact ⟨hafter, ⟨_, _, hfails, hatomic _ _ _ hfails⟩, htakes, hsame htakes _ (.swap ..)⟩

end Service

end ChartNet
