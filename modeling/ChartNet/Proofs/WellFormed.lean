import ChartNet.Chart.Builder
import ChartNet.Proofs.Outcome
import Mathlib.Data.List.Nodup

/-!
# What a chart's check asks for

`Chart.check` goes through a chart and stops at the first fault. Here each of its parts is read as a
condition on the part alone, so that a chart can be shown to pass without following the order of the
checks. `Chart.check_eq_ok` puts the parts together.
-/

namespace ChartNet

theorem ensure_eq_ok {holds : Bool} {fault : ChartFault} :
    ensure holds fault = .ok () ↔ holds = true := by
  cases holds <;> simp [ensure]

/-- Identifiers pass if none is empty and none occurs twice, also counting those seen before. The
induction is on the identifiers, each of which is seen by those after it. -/
theorem checkIds_eq_ok {empty : ChartFault} {duplicate : String → ChartFault}
    {seen ids : List String} :
    checkIds empty duplicate seen ids = .ok () ↔
      (∀ id ∈ ids, id ≠ "" ∧ id ∉ seen) ∧ ids.Nodup := by
  induction ids generalizing seen with
  | nil => simp [checkIds]
  | cons id ids ih =>
    rw [checkIds]
    by_cases hempty : id = ""
    · simp [hempty]
    by_cases hseen : id ∈ seen
    · simp [hempty, hseen]
    rw [if_neg (by simpa using hempty), if_neg (by simpa using hseen), ih, List.nodup_cons]
    constructor
    · rintro ⟨hall, hnodup⟩
      refine ⟨?_, ?_, hnodup⟩
      · intro x hx
        rcases List.mem_cons.mp hx with rfl | hx
        · exact ⟨hempty, hseen⟩
        · exact ⟨(hall x hx).1, fun hmem => (hall x hx).2 (List.mem_cons_of_mem _ hmem)⟩
      · exact fun hmem => (hall id hmem).2 (List.mem_cons_self ..)
    · rintro ⟨hall, hnew, hnodup⟩
      refine ⟨fun x hx => ⟨(hall x (List.mem_cons_of_mem _ hx)).1, fun hmem => ?_⟩, hnodup⟩
      rcases List.mem_cons.mp hmem with rfl | hmem
      · exact hnew hx
      · exact (hall x (List.mem_cons_of_mem _ hx)).2 hmem

theorem usedBy_eq_ok {automaton name : String} {result : Except NameFault String} :
    usedBy automaton result = .ok name ↔ result = .ok name := by
  cases result <;> simp [usedBy]

/-- A block passes its check if each of its actions does. -/
theorem Block.check_eq_ok {b : Block} :
    Block.check b = .ok () ↔ ∀ a ∈ b, Action.check a = .ok () := by
  induction b with
  | nil => simp [Block.check]
  | cons a b ih =>
    rw [Block.check, seq_eq_ok, ih]
    simp

/-- A transition passes its check if it leads somewhere, its trigger and its guard are all right,
and so is what it does. -/
theorem Transition.check_eq_ok {source : String} {ids : List String} {t : Transition} :
    t.check source ids = .ok () ↔
      t.target ∈ ids ∧ t.trigger.check = .ok () ∧ t.guard?.any Text.allBlank = false ∧
        ∀ a ∈ t.body, Action.check a = .ok () := by
  rw [Transition.check, seq_eq_ok, seq_eq_ok, seq_eq_ok, ensure_eq_ok, ensure_eq_ok,
    Block.check_eq_ok]
  simp

theorem State.check_eq_ok {ids : List String} {s : State} :
    s.check ids = .ok () ↔
      (∀ a ∈ s.entry ++ s.exit, Action.check a = .ok ()) ∧
        ∀ t ∈ s.transitions, t.check s.id ids = .ok () := by
  rw [State.check, seq_eq_ok, Block.check_eq_ok, forM_eq_ok]

/-- A chart passes its check if each of its parts does. The check stops at the first fault; where
there is none, it has seen everything, and the order no longer matters. -/
theorem Chart.check_eq_ok {c : Chart} :
    c.check = .ok () ↔
      (c.name ≠ "" ∧ ∀ ch ∈ c.name.toList, isForbiddenInName ch = false) ∧
      (c.states ≠ [] ∧ (∀ s ∈ c.states, s.id ≠ "") ∧ (c.states.map (·.id)).Nodup) ∧
      (∃ s ∈ c.states, s.id = c.initial) ∧
      ((∀ d ∈ c.data, d.id ≠ "") ∧ (c.data.map (·.id)).Nodup) ∧
      (∀ d ∈ c.declarations, d.resource ≠ "") ∧
      ∀ s ∈ c.states, s.check (c.states.map (·.id)) = .ok () := by
  rw [Chart.check]
  simp only [seq_eq_ok, ensure_eq_ok, checkIds_eq_ok, forM_eq_ok]
  simp [List.all_eq_true, and_assoc]

theorem Builder.build_eq_ok {b : Builder} {c : Chart} :
    b.build = .ok c ↔ b.draft.check = .ok () ∧ c = b.draft := by
  rw [Builder.build]
  rcases h : b.draft.check with e | u
  · simp
  · simp [eq_comm]

/-- A chart names its initial state, so the first state does not have to stand in for it. -/
theorem Chart.build_toBuilder {c : Chart} (h : c.check = .ok ()) : c.toBuilder.build = .ok c :=
  Builder.build_eq_ok.mpr ⟨h, rfl⟩

end ChartNet
