import ChartNet.Proofs.Resolution

/-!
# The fields that an emission supplies

An emission supplies names with expressions, and the type of its resource has names of its own.
`checkFields` goes through both lists, in three rounds, and stops at the first round that finds
something. `FieldsAmiss` says what there is to be found, and `checkFields_eq_error` that this is
what gets reported.

That nothing is found exactly if the names are those of the type in some order needs all three
rounds at once: without unknown and missing names the two lists have the same members, and without
repeated ones also the same number of each.
-/

namespace ChartNet

/-- The name stands behind an equal one, and is the first that does. So what is found is the second
occurrence of a name, wherever the first one is. -/
def FirstRepeated (names : List String) (name : String) : Prop :=
  ∃ before after, names = before ++ name :: after ∧ name ∈ before ∧ before.Nodup

/-- What is wrong with the names that are supplied where others are known, and how it is reported.
Unknown names are all reported, as often as they occur; if there are none, then the first repeated
name; and only if there is none either, the names that are missing. -/
inductive FieldsAmiss (automaton resource : String) (known supplied : List String) : Fault → Prop
  /-- some fields are not asked for; all of them are reported -/
  | unknown (h : ∃ name ∈ supplied, name ∉ known) :
      FieldsAmiss automaton resource known supplied
        (.unknownFields automaton resource (supplied.filter (· ∉ known)))
  /-- all fields are asked for, but one comes twice; the first such one is reported -/
  | repeated {name : String} (hknown : ∀ name ∈ supplied, name ∈ known)
      (h : FirstRepeated supplied name) :
      FieldsAmiss automaton resource known supplied (.duplicateField automaton resource name)
  /-- each field is asked for and comes once, but some are missing; all of them are reported -/
  | missing (hknown : ∀ name ∈ supplied, name ∈ known)
      (honce : ∀ name, ¬ FirstRepeated supplied name) (h : ∃ name ∈ known, name ∉ supplied) :
      FieldsAmiss automaton resource known supplied
        (.missingFields automaton resource (known.filter (· ∉ supplied)))

/-! ### Repeated names -/

/-- The same, where the names that were `seen` also count. -/
def FirstRepeatedAfter (seen names : List String) (name : String) : Prop :=
  ∃ before after, names = before ++ name :: after ∧ (name ∈ before ∨ name ∈ seen) ∧
    before.Nodup ∧ ∀ x ∈ before, x ∉ seen

section Repeated

variable {seen names : List String} {x name : String}

theorem firstRepeatedAfter_cons_of_mem (hseen : x ∈ seen) :
    FirstRepeatedAfter seen (x :: names) name ↔ x = name := by
  refine ⟨?_, ?_⟩
  · rintro ⟨before, after, heq, -, -, hnew⟩
    cases before with
    | nil => exact (List.cons.inj heq).1
    | cons y before =>
      obtain ⟨rfl, -⟩ := List.cons.inj heq
      exact absurd hseen (hnew x (List.mem_cons_self ..))
  · rintro rfl
    exact ⟨[], names, rfl, .inr hseen, List.nodup_nil, by simp⟩

/-- A name that was gone through counts as seen. This is the step by which the search goes on to the
next name. -/
theorem firstRepeatedAfter_cons_of_not_mem (hseen : x ∉ seen) :
    FirstRepeatedAfter seen (x :: names) name ↔ FirstRepeatedAfter (x :: seen) names name := by
  refine ⟨?_, ?_⟩
  · rintro ⟨before, after, heq, hname, hnodup, hnew⟩
    cases before with
    | nil =>
      -- the first name has nothing before it, and was not seen
      obtain ⟨rfl, -⟩ := List.cons.inj heq
      simp [hseen] at hname
    | cons y before =>
      obtain ⟨rfl, rfl⟩ := List.cons.inj heq
      obtain ⟨hx, hnodup⟩ := List.nodup_cons.mp hnodup
      obtain ⟨-, hnew⟩ := List.forall_mem_cons.mp hnew
      refine ⟨before, after, rfl, by simpa [or_assoc, or_left_comm] using hname, hnodup, ?_⟩
      intro y hy hmem
      rcases List.mem_cons.mp hmem with rfl | hmem
      · exact hx hy
      · exact hnew y hy hmem
  · rintro ⟨before, after, rfl, hname, hnodup, hnew⟩
    simp only [List.mem_cons, not_or] at hname hnew
    refine ⟨x :: before, after, rfl, ?_, ?_, ?_⟩
    · rcases hname with hname | rfl | hname
      · exact .inl (List.mem_cons_of_mem _ hname)
      · exact .inl (List.mem_cons_self ..)
      · exact .inr hname
    · exact List.nodup_cons.mpr ⟨fun hmem => (hnew x hmem).1 rfl, hnodup⟩
    · exact List.forall_mem_cons.mpr ⟨hseen, fun y hy => (hnew y hy).2⟩

/-- What is found is the first name that stands behind an equal one. The induction is on the names,
with those already gone through as seen. -/
theorem firstRepeated?_eq_some :
    firstRepeated? seen names = some name ↔ FirstRepeatedAfter seen names name := by
  induction names generalizing seen with
  | nil => simp [firstRepeated?, FirstRepeatedAfter]
  | cons x names ih =>
    rw [firstRepeated?]
    by_cases hseen : x ∈ seen
    · rw [if_pos (by simpa using hseen), firstRepeatedAfter_cons_of_mem hseen, Option.some_inj]
    · rw [if_neg (by simpa using hseen), ih, firstRepeatedAfter_cons_of_not_mem hseen]

end Repeated

theorem firstRepeated?_nil_eq_some {names : List String} {name : String} :
    firstRepeated? [] names = some name ↔ FirstRepeated names name := by
  simp [firstRepeated?_eq_some, FirstRepeatedAfter, FirstRepeated]

/-! ### The three rounds -/

section Rounds

variable {automaton resource : String} {schema : List Field} {fields : List Param}

theorem filter_not_contains_ne_nil {names others : List String}
    (h : ∃ name ∈ names, name ∉ others) :
    (names.filter (!others.contains ·)).isEmpty = false := by
  obtain ⟨name, hname, hnew⟩ := h
  rw [filter_not_contains, List.isEmpty_eq_false_iff]
  exact List.ne_nil_of_mem (List.mem_filter.mpr ⟨hname, by simpa using hnew⟩)

/-- The first round reports unknown fields, whatever else is amiss. -/
theorem checkFields_of_unknown (h : ∃ name ∈ fields.map (·.name), name ∉ Field.names schema) :
    checkFields automaton resource schema fields = .error (.unknownFields automaton resource
      ((fields.map (·.name)).filter (· ∉ Field.names schema))) := by
  have hunknown : ((fields.map (·.name)).filter
      (!(schema.map (·.name)).contains ·)).isEmpty = false := filter_not_contains_ne_nil h
  rw [← filter_not_contains]
  simp only [checkFields, hunknown]
  rfl

/-- The second round reports a repeated field, if all are known. -/
theorem checkFields_of_repeated {name : String}
    (hknown : ∀ name ∈ fields.map (·.name), name ∈ Field.names schema)
    (h : firstRepeated? [] (fields.map (·.name)) = some name) :
    checkFields automaton resource schema fields =
      .error (.duplicateField automaton resource name) := by
  have hunknown : (fields.map (·.name)).filter (!(schema.map (·.name)).contains ·) = [] :=
    filter_not_contains_eq_nil hknown
  simp only [checkFields, hunknown, h]
  rfl

/-- The third round reports missing fields, if all are known and none is repeated. -/
theorem checkFields_of_missing
    (hknown : ∀ name ∈ fields.map (·.name), name ∈ Field.names schema)
    (honce : firstRepeated? [] (fields.map (·.name)) = none)
    (h : ∃ name ∈ Field.names schema, name ∉ fields.map (·.name)) :
    checkFields automaton resource schema fields = .error (.missingFields automaton resource
      ((Field.names schema).filter (· ∉ fields.map (·.name)))) := by
  have hunknown : (fields.map (·.name)).filter (!(schema.map (·.name)).contains ·) = [] :=
    filter_not_contains_eq_nil hknown
  have hmissing : ((schema.map (·.name)).filter
      (!(fields.map (·.name)).contains ·)).isEmpty = false := filter_not_contains_ne_nil h
  rw [← filter_not_contains]
  simp only [checkFields, hunknown, honce, hmissing]
  rfl

/-- Either all names are known, or there is one that is not. -/
theorem forall_mem_or_exists (names others : List String) :
    (∀ name ∈ names, name ∈ others) ∨ ∃ name ∈ names, name ∉ others := by
  by_cases h : ∃ name ∈ names, name ∉ others
  · exact .inr h
  · exact .inl (by simpa using h)

/-- **A check of fields fails** with what is amiss. The three rounds exclude each other, in the
order in which they are made. -/
theorem checkFields_eq_error {f : Fault} :
    checkFields automaton resource schema fields = .error f ↔
      FieldsAmiss automaton resource (Field.names schema) (fields.map (·.name)) f := by
  refine ⟨?_, ?_⟩
  · intro h
    -- the checks are made in this order, and the first that fails is reported
    rcases forall_mem_or_exists (fields.map (·.name)) (Field.names schema) with hknown | hunknown
    · cases honce : firstRepeated? [] (fields.map (·.name)) with
      | some name =>
        rw [checkFields_of_repeated hknown honce] at h
        obtain rfl := Except.error.inj h
        exact .repeated hknown (firstRepeated?_nil_eq_some.mp honce)
      | none =>
        rcases forall_mem_or_exists (Field.names schema) (fields.map (·.name)) with hall | hmissing
        · cases (checkFields_of_nothing_missing hknown honce hall).symm.trans h
        · rw [checkFields_of_missing hknown honce hmissing] at h
          obtain rfl := Except.error.inj h
          refine .missing hknown (fun name hname => ?_) hmissing
          cases honce.symm.trans (firstRepeated?_nil_eq_some.mpr hname)
    · rw [checkFields_of_unknown hunknown] at h
      obtain rfl := Except.error.inj h
      exact .unknown hunknown
  · intro h
    cases h with
    | unknown h => exact checkFields_of_unknown h
    | repeated hknown h => exact checkFields_of_repeated hknown (firstRepeated?_nil_eq_some.mpr h)
    | missing hknown honce h =>
      have hnone : firstRepeated? [] (fields.map (·.name)) = none := by
        refine Option.eq_none_iff_forall_ne_some.mpr fun name hname => ?_
        exact honce name (firstRepeated?_nil_eq_some.mp hname)
      exact checkFields_of_missing hknown hnone h

end Rounds

/-- **The fields that are supplied have to be those of the type**, each once and in any order, and
otherwise it is reported what is amiss. This is so wherever the names of a type are all different,
as those of every type are that an emission can be checked against. What is reported is determined
by the names. -/
theorem checkFields_verdict :
    (∀ (r : Registry) (kind : Emission) (resource : String) (schema : List Field),
      r.schema? kind resource = some schema → (Field.names schema).Nodup) ∧
    ∀ (automaton resource : String) (schema : List Field) (fields : List Param),
      (Field.names schema).Nodup →
      (checkFields automaton resource schema fields = .ok () ↔
        (fields.map (·.name)).Perm (Field.names schema)) ∧
      ∀ f, checkFields automaton resource schema fields = .error f ↔
        FieldsAmiss automaton resource (Field.names schema) (fields.map (·.name)) f := by
  refine ⟨?_, ?_⟩
  · intro r kind resource schema h
    rw [Registry.schema?_eq] at h
    obtain ⟨type, -, hsent⟩ := Option.bind_eq_some_iff.mp h
    exact Catalogue.nodup_sent? hsent
  · intro automaton resource schema fields hnodup
    refine ⟨⟨fun h => (perm_of_checkFields hnodup h).symm, checkFields_of_perm hnodup⟩, ?_⟩
    intro f
    exact checkFields_eq_error

/-- A registry with a service that adds. -/
def Sample.adding : Registry := ⟨"n", [], [⟨.client, "/sum", "example_interfaces/AddTwoInts"⟩]⟩

/-- What the service asks for. -/
def Sample.addends : List Field := [⟨"a", .integer⟩, ⟨"b", .integer⟩]

open Sample in
/-- The fields may come in another order. With an unknown and a repeated field, it is the unknown
one that is reported, as often as it is supplied. -/
theorem checkFields_verdict_sample :
    adding.schema? .request "/sum" = some addends ∧ (Field.names addends).Nodup ∧
    checkFields "n" "/sum" addends [⟨"b", "2"⟩, ⟨"a", "1"⟩] = .ok () ∧
    checkFields "n" "/sum" addends [⟨"x", "0"⟩, ⟨"a", "1"⟩, ⟨"a", "1"⟩, ⟨"x", "0"⟩] =
      .error (.unknownFields "n" "/sum" ["x", "x"]) ∧
    checkFields "n" "/sum" addends [⟨"b", "2"⟩, ⟨"a", "1"⟩, ⟨"a", "3"⟩, ⟨"b", "2"⟩] =
      .error (.duplicateField "n" "/sum" "a") ∧
    checkFields "n" "/sum" addends [⟨"b", "2"⟩] = .error (.missingFields "n" "/sum" ["a"]) := by
  have hschema : adding.schema? .request "/sum" = some addends := by decide +kernel
  have hnodup := checkFields_verdict.1 _ _ _ _ hschema
  have hverdict := fun fields => checkFields_verdict.2 "n" "/sum" addends fields hnodup
  refine ⟨hschema, hnodup, (hverdict _).1.mpr (.swap _ _ _), ((hverdict _).2 _).mpr ?_,
    ((hverdict _).2 _).mpr ?_, ((hverdict _).2 _).mpr ?_⟩
  · exact .unknown ⟨"x", by decide, by decide⟩
  · exact .repeated (by decide) ⟨["b", "a"], ["b"], rfl, by decide, by decide⟩
  · refine .missing (by decide) (fun name hname => ?_) ⟨"a", by decide, by decide⟩
    cases firstRepeated?_nil_eq_some.mpr hname

end ChartNet
