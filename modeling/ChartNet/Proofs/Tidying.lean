import ChartNet.Chart.Cleanup
import ChartNet.Proofs.WellFormed

/-!
# Charts without empty self loops

Dropping the empty self loops of a chart touches nothing but lists of transitions, and these only
get shorter. So a chart stays well formed (`Chart.check_withoutIdle`), does not come to use anything
(`Chart.uses_tidy`), and has nothing left to drop (`Chart.tidy_tidy`).
-/

namespace ChartNet

namespace State

/-- A state all of whose transitions do something stays as it is. -/
theorem withoutIdle_eq {s : State} (h : ∀ t ∈ s.transitions, t.body ≠ []) :
    s.withoutIdle = s := by
  have hfilter : s.transitions.filter (!·.isIdle s.id) = s.transitions := by
    refine List.filter_eq_self.mpr fun t ht => ?_
    have hbody : t.body.isEmpty = false := by simpa using h t ht
    simp [Transition.isIdle, hbody]
  rw [withoutIdle]
  split
  · rw [hfilter]
  · rfl

@[simp] theorem withoutIdle_id (s : State) : s.withoutIdle.id = s.id := by
  rw [withoutIdle]
  split <;> rfl

@[simp] theorem withoutIdle_entry (s : State) : s.withoutIdle.entry = s.entry := by
  rw [withoutIdle]
  split <;> rfl

@[simp] theorem withoutIdle_exit (s : State) : s.withoutIdle.exit = s.exit := by
  rw [withoutIdle]
  split <;> rfl

/-- In a state without content, the empty self loops are dropped and the order of the rest is
kept. -/
theorem transitions_withoutIdle {s : State} (hentry : s.entry = []) (hexit : s.exit = []) :
    s.withoutIdle.transitions = s.transitions.filter (!·.isIdle s.id) := by
  rw [withoutIdle, if_pos (by simp [hentry, hexit])]

/-- A state with content of its own is left alone: there a self loop runs that content again. -/
theorem withoutIdle_of_content {s : State} (h : ¬ (s.entry = [] ∧ s.exit = [])) :
    s.withoutIdle = s := by
  rw [withoutIdle, if_neg (by simpa using h)]

theorem mem_of_mem_withoutIdle {s : State} {t : Transition}
    (h : t ∈ s.withoutIdle.transitions) : t ∈ s.transitions := by
  rw [withoutIdle] at h
  split at h
  · exact List.mem_of_mem_filter h
  · exact h

/-- A state is still well formed, as it has the same content and fewer transitions. -/
theorem check_withoutIdle {s : State} {ids : List String} (h : s.check ids = .ok ()) :
    s.withoutIdle.check ids = .ok () := by
  obtain ⟨hblocks, htransitions⟩ := State.check_eq_ok.mp h
  rw [State.check_eq_ok, withoutIdle_id, withoutIdle_entry, withoutIdle_exit]
  exact ⟨hblocks, fun t ht => htransitions t (mem_of_mem_withoutIdle ht)⟩

theorem uses_withoutIdle {s : State} (h : s.uses = []) : s.withoutIdle.uses = [] := by
  obtain ⟨hcontent, htransitions⟩ := List.append_eq_nil_iff.mp h
  rw [uses, withoutIdle_entry, withoutIdle_exit, hcontent, List.nil_append]
  apply List.flatMap_eq_nil_iff.mpr
  intro t ht
  exact List.flatMap_eq_nil_iff.mp htransitions t (mem_of_mem_withoutIdle ht)

/-- Once the empty self loops are gone there is nothing more to drop. -/
theorem withoutIdle_withoutIdle (s : State) : s.withoutIdle.withoutIdle = s.withoutIdle := by
  by_cases hcontent : (s.entry.isEmpty && s.exit.isEmpty) = true
  · have honce : s.withoutIdle =
        { s with transitions := s.transitions.filter (!·.isIdle s.id) } := if_pos hcontent
    have htwice : (s.transitions.filter (!·.isIdle s.id)).filter (!·.isIdle s.id) =
        s.transitions.filter (!·.isIdle s.id) := by
      simp only [List.filter_filter, Bool.and_self]
    rw [honce, withoutIdle, if_pos hcontent, htwice]
  · have hself : s.withoutIdle = s := if_neg hcontent
    rw [hself, hself]

end State

namespace Chart

@[simp] theorem name_tidy (c : Chart) : c.tidy.name = c.name := by
  rw [tidy]
  split <;> rfl

@[simp] theorem declarations_tidy (c : Chart) : c.tidy.declarations = c.declarations := by
  rw [tidy]
  split <;> rfl

/-- Dropping empty self loops leaves a chart well formed. Its states have the same identifiers, and
those transitions that are left have the same targets. -/
theorem check_withoutIdle {c : Chart} (h : c.check = .ok ()) : c.withoutIdle.check = .ok () := by
  obtain ⟨hname, ⟨hne, hids, hnodup⟩, ⟨s, hs, hinitial⟩, hdata, hdeclarations, hstates⟩ :=
    Chart.check_eq_ok.mp h
  have hmap : c.withoutIdle.states.map (·.id) = c.states.map (·.id) := by
    simp [withoutIdle, Function.comp_def]
  refine Chart.check_eq_ok.mpr ⟨hname, ⟨?_, ?_, ?_⟩, ?_, hdata, hdeclarations, ?_⟩
  · simpa [withoutIdle] using hne
  · refine List.forall_mem_map.mpr fun s hs => ?_
    rw [State.withoutIdle_id]
    exact hids s hs
  · rw [hmap]
    exact hnodup
  · exact ⟨s.withoutIdle, List.mem_map_of_mem hs, s.withoutIdle_id.trans hinitial⟩
  · rw [hmap]
    exact List.forall_mem_map.mpr fun s hs => State.check_withoutIdle (hstates s hs)

theorem check_tidy {c : Chart} (h : c.check = .ok ()) : c.tidy.check = .ok () := by
  rw [tidy]
  split
  · exact check_withoutIdle h
  · exact h

/-- A chart that uses no resources uses none afterwards. -/
theorem uses_tidy {c : Chart} (h : c.uses = []) : c.tidy.uses = [] := by
  rw [tidy]
  split
  · apply List.flatMap_eq_nil_iff.mpr
    refine List.forall_mem_map.mpr ?_
    intro s hs
    exact State.uses_withoutIdle (List.flatMap_eq_nil_iff.mp h s hs)
  · exact h

theorem withoutIdle_withoutIdle (c : Chart) : c.withoutIdle.withoutIdle = c.withoutIdle := by
  simp only [withoutIdle, List.map_map, Function.comp_def, State.withoutIdle_withoutIdle]

/-- Whether there is something to drop is a matter of the name, which stays. -/
theorem tidy_tidy (c : Chart) : c.tidy.tidy = c.tidy := by
  by_cases harbiter : c.isArbiter = true
  · have honce : c.tidy = c.withoutIdle := if_pos harbiter
    have hsame : c.withoutIdle.isArbiter = true := harbiter
    rw [honce, tidy, if_pos hsame, withoutIdle_withoutIdle]
  · have hself : c.tidy = c := if_neg harbiter
    rw [hself, hself]

end Chart

end ChartNet
