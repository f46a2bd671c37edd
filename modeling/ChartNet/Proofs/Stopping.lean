import ChartNet.Proofs.Outcome
import Mathlib.Data.List.Induction

/-!
# Where a run stops

A compilation goes through a list and is stopped by the first element that fails. Whether an element
fails depends on the state that was reached before it; `Foretold` says that it can be told from the
elements before it instead. The run then stops at the first element that is told to fail, with the
fault that is told for it (`Foretold.foldlM_eq_error_iff`), and whatever comes after that element
does not matter (`Foretold.foldlM_error`).
-/

namespace ChartNet

variable {σ α β ε : Type}

/-- No element fails, each judged by those before it. The last element of a list is judged by all
others, the first one by none. -/
def Unfailing (Fails : List α → α → Prop) (l : List α) : Prop :=
  ∀ before a after, l = before ++ a :: after → ¬ Fails before a

section Unfailing

variable {Fails : List α → α → Prop} {l : List α} {a : α}

theorem unfailing_nil (Fails : List α → α → Prop) : Unfailing Fails [] := by
  intro before a after h
  simp at h

theorem Unfailing.mono {Fails' : List α → α → Prop} (h : Unfailing Fails l)
    (himp : ∀ before a, Fails' before a → Fails before a) : Unfailing Fails' l :=
  fun before a after hl ha => h before a after hl (himp before a ha)

/-- One more element does not fail after those before it. -/
theorem unfailing_concat : Unfailing Fails (l ++ [a]) ↔ Unfailing Fails l ∧ ¬ Fails l a := by
  refine ⟨fun h => ⟨?_, h l a [] rfl⟩, ?_⟩
  · rintro before b after rfl
    exact h before b (after ++ [a]) (by simp)
  · rintro ⟨hl, ha⟩ before b after heq
    rcases List.eq_nil_or_concat' after with rfl | ⟨after, c, rfl⟩
    · obtain ⟨rfl, hab⟩ := List.append_inj' heq rfl
      obtain rfl := List.singleton_inj.mp hab
      exact ha
    · rw [← List.cons_append, ← List.append_assoc] at heq
      obtain ⟨rfl, -⟩ := List.append_inj' heq rfl
      exact hl before b after rfl

/-- Unless no element fails, there is a first one. -/
theorem unfailing_or_first (Fails : List α → α → Prop) (l : List α) :
    Unfailing Fails l ∨ ∃ before a after, l = before ++ a :: after ∧ Unfailing Fails before ∧
      Fails before a := by
  induction l using List.reverseRecOn with
  | nil => exact .inl (unfailing_nil Fails)
  | append_singleton l a ih =>
    rcases ih with hl | ⟨before, b, after, rfl, hbefore, hb⟩
    · by_cases ha : Fails l a
      · exact .inr ⟨l, a, [], rfl, hl, ha⟩
      · exact .inl (unfailing_concat.mpr ⟨hl, ha⟩)
    · exact .inr ⟨before, b, after ++ [a], by simp, hbefore, hb⟩

/-- Where it does not matter what comes before, no element fails by itself. -/
theorem unfailing_iff_forall {Fails : α → Prop} :
    Unfailing (fun _ => Fails) l ↔ ∀ a ∈ l, ¬ Fails a := by
  refine ⟨fun h a ha => ?_, ?_⟩
  · obtain ⟨before, after, heq⟩ := List.append_of_mem ha
    exact h before a after heq
  · rintro h before a after rfl
    exact h a (by simp)

end Unfailing

/-- From the elements gone through it can be told whether the next one fails, and how. `Good` says
what state they lead to. The conditions are needed for the elements of one list only, where they are
reached. -/
structure Foretold (step : σ → α → Except ε σ) (Good : List α → σ → Prop)
    (Reports : List α → α → ε → Prop) (l : List α) : Prop where
  /-- an element of which nothing is told is taken, and the state afterwards is a good one -/
  ok : ∀ {before a after s}, l = before ++ a :: after → Good before s →
    (¬ ∃ e, Reports before a e) → ∃ s', step s a = .ok s' ∧ Good (before ++ [a]) s'
  /-- an element of which something is told fails with it -/
  error : ∀ {before a after s e}, l = before ++ a :: after → Good before s →
    Reports before a e → step s a = .error e

namespace Foretold

variable {step : σ → α → Except ε σ} {Good : List α → σ → Prop} {Reports : List α → α → ε → Prop}
  {l before after : List α} {a : α} {s : σ} {e : ε}

/-- As long as no element fails, the run goes on and its state is the one that is told. The
induction is on the elements from the end. -/
theorem foldlM_ok (h : Foretold step Good Reports l) (hs : Good [] s) (hl : l = before ++ after)
    (hbefore : Unfailing (fun before a => ∃ e, Reports before a e) before) :
    ∃ s', before.foldlM step s = .ok s' ∧ Good before s' := by
  induction before using List.reverseRecOn generalizing after with
  | nil => exact ⟨s, rfl, hs⟩
  | append_singleton before a ih =>
    obtain ⟨hbefore, ha⟩ := unfailing_concat.mp hbefore
    have hl' : l = before ++ a :: after := by simpa using hl
    obtain ⟨s₁, hs₁, hgood⟩ := ih hl' hbefore
    obtain ⟨s₂, hs₂, hgood'⟩ := h.ok hl' hgood ha
    refine ⟨s₂, ?_, hgood'⟩
    rw [List.foldlM_append, hs₁, ok_bind, List.foldlM_cons, hs₂]
    rfl

/-- The first element that fails stops the run, whatever comes after it. -/
theorem foldlM_error (h : Foretold step Good Reports l) (hs : Good [] s)
    (hl : l = before ++ a :: after)
    (hbefore : Unfailing (fun before a => ∃ e, Reports before a e) before)
    (ha : Reports before a e) : l.foldlM step s = .error e := by
  obtain ⟨s₁, hs₁, hgood⟩ := h.foldlM_ok hs hl hbefore
  rw [hl, List.foldlM_append, hs₁, ok_bind, List.foldlM_cons, h.error hl hgood ha, error_bind]

/-- A run comes to its end if no element fails. -/
theorem exists_foldlM_ok_iff (h : Foretold step Good Reports l) (hs : Good [] s) :
    (∃ s', l.foldlM step s = .ok s') ↔
      Unfailing (fun before a => ∃ e, Reports before a e) l := by
  refine ⟨?_, fun hall => ?_⟩
  · rintro ⟨s', hs'⟩ before a after hl ha
    rcases unfailing_or_first (fun before a => ∃ e, Reports before a e) l with hall | hfirst
    · exact hall before a after hl ha
    · obtain ⟨before, a, after, hl, hbefore, e, he⟩ := hfirst
      cases (h.foldlM_error hs hl hbefore he).symm.trans hs'
  · obtain ⟨s', hs', -⟩ := h.foldlM_ok hs (List.append_nil l).symm hall
    exact ⟨s', hs'⟩

/-- **A run fails** with what is told for the first element that fails. In one direction the run is
stopped there; in the other, a run without such an element would come to its end. -/
theorem foldlM_eq_error_iff (h : Foretold step Good Reports l) (hs : Good [] s) :
    l.foldlM step s = .error e ↔ ∃ before a after, l = before ++ a :: after ∧
      Unfailing (fun before a => ∃ e, Reports before a e) before ∧ Reports before a e := by
  refine ⟨fun he => ?_, fun ⟨before, a, after, hl, hbefore, ha⟩ => h.foldlM_error hs hl hbefore ha⟩
  rcases unfailing_or_first (fun before a => ∃ e, Reports before a e) l with hall | hfirst
  · obtain ⟨s', hs'⟩ := (h.exists_foldlM_ok_iff hs).mpr hall
    cases hs'.symm.trans he
  · obtain ⟨before, a, after, hl, hbefore, e', ha⟩ := hfirst
    cases (h.foldlM_error hs hl hbefore ha).symm.trans he
    exact ⟨before, a, after, hl, hbefore, ha⟩

end Foretold

/-- Stages in a row fail where the first of them does. -/
theorem mapM_error {f : α → Except ε β} {before after : List α} {a : α} {e : ε}
    (hbefore : ∀ b ∈ before, ∃ y, f b = .ok y) (ha : f a = .error e) :
    (before ++ a :: after).mapM f = .error e := by
  induction before with
  | nil => rw [List.nil_append, List.mapM_cons, ha, error_bind]
  | cons b before ih =>
    obtain ⟨⟨y, hy⟩, hbefore⟩ := List.forall_mem_cons.mp hbefore
    rw [List.cons_append, List.mapM_cons, hy, ok_bind, ih hbefore, error_bind]

/-- Stages in a row fail if one of them does after all before it have succeeded. No stage depends on
those before it here, other than in the runs above. -/
theorem mapM_eq_error_iff {f : α → Except ε β} {l : List α} {e : ε} :
    l.mapM f = .error e ↔ ∃ before a after, l = before ++ a :: after ∧
      (∀ b ∈ before, ∃ y, f b = .ok y) ∧ f a = .error e := by
  refine ⟨fun h => ?_, ?_⟩
  · induction l with
    | nil => cases h
    | cons a l ih =>
      rw [List.mapM_cons] at h
      rcases bind_eq_error.mp h with ha | ⟨y, hy, h⟩
      · exact ⟨[], a, l, rfl, by simp, ha⟩
      rcases bind_eq_error.mp h with hl | ⟨ys, -, h⟩
      · obtain ⟨before, b, after, rfl, hbefore, hb⟩ := ih hl
        exact ⟨a :: before, b, after, rfl, List.forall_mem_cons.mpr ⟨⟨y, hy⟩, hbefore⟩, hb⟩
      · cases h
  · rintro ⟨before, a, after, rfl, hbefore, ha⟩
    exact mapM_error hbefore ha

end ChartNet
