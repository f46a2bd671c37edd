import ChartNet.Proofs.Agreement

/-!
# Which charts have a plain form

A chart is brought to its plain form in four passes: its declarations are registered, its uses are
looked up, its constructs are replaced one by one, and the outcome is checked again. Only the first
two and the fields of emissions decide whether there is a plain form. The passes that follow could
fail in other ways too, but never do:

* `Registry.type?_eq_some_iff` and `Registry.contains_iff`: the registry knows the declarations, so
  that a use which was looked up has a name and a schema (`Chart.Declares.trigger_ok`,
  `Chart.Declares.emission_eq`);
* `PlainForm.check`: what stands for a well formed chart is well formed.
-/

namespace ChartNet

/-! ### What stands for a well formed chart -/

theorem ServiceEvent.ne_empty_of_onWire {service event : String} {e : ServiceEvent}
    (h : e.onWire service = .ok event) : event ≠ "" := by
  rw [onWire_eq, map_eq_ok] at h
  obtain ⟨flat, -, rfl⟩ := h
  exact e.text_ne_empty flat

theorem Wire.ne_empty_of_topicMessage {topic event : String} (h : topicMessage topic = .ok event) :
    event ≠ "" := by
  obtain ⟨flat, -, rfl⟩ := map_eq_ok.mp h
  intro hempty
  have hchars := congrArg String.toList hempty
  simp [String.toList_append] at hchars

theorem Wire.timerTick_ne_empty (timer : String) : timerTick timer ≠ "" := by
  intro hempty
  have hchars : ("ros_time_rate." ++ timer).toList = [] := congrArg String.toList hempty
  simp [String.toList_append] at hchars

/-- A trigger that passes its check is replaced by one that does: the events that are put in have
names. -/
theorem Trigger.Image.check {automaton : String} {t t' : Trigger} (h : t.Image automaton t')
    (hcheck : t.check = .ok ()) : t'.check = .ok () := by
  have hsingle : ∀ {event : String}, event ≠ "" → (Trigger.events [event]).check = .ok () := by
    intro event hne
    simpa [Trigger.check, ensure_eq_ok] using hne
  cases h with
  | events names => exact hcheck
  | tick timer => exact hsingle (Wire.timerTick_ne_empty timer)
  | message h => exact hsingle (Wire.ne_empty_of_topicMessage h)
  | request h => exact hsingle (@ServiceEvent.ne_empty_of_onWire _ _ .serverRequest h)
  | response h => exact hsingle (@ServiceEvent.ne_empty_of_onWire _ _ (.clientResponse _) h)

theorem Action.check_send {event : String} (h : event ≠ "") (params : List Param) :
    Action.check (.send event params) = .ok () := by
  rw [Action.check, ensure_eq_ok]
  simpa using h

theorem Branches.Image.isEmpty_eq {automaton : String} {bs bs' : List (String × List Action)}
    (h : Branches.Image automaton bs bs') : bs'.isEmpty = bs.isEmpty := by
  cases h <;> rfl

mutual

/-- An action that passes its check is replaced by one that does. A choice keeps its branches, so
that it does not become empty. -/
theorem Action.Image.check {automaton : String} : ∀ {a a' : Action}, Action.Image automaton a a' →
    Action.check a = .ok () → Action.check a' = .ok ()
  | _, _, .assign _ _, hcheck => hcheck
  | _, _, .send _ _, hcheck => hcheck
  | _, _, .choose hbranches hotherwise, hcheck => by
    rw [Action.check, seq_eq_ok, seq_eq_ok] at hcheck ⊢
    obtain ⟨hne, hbs, ho⟩ := hcheck
    rw [hbranches.isEmpty_eq]
    exact ⟨hne, hbranches.check hbs, hotherwise.check ho⟩
  | _, _, .message fields h, _ => Action.check_send (Wire.ne_empty_of_topicMessage h) fields
  | _, _, .request fields h, _ =>
    Action.check_send (@ServiceEvent.ne_empty_of_onWire _ _ (.clientRequest _) h) fields
  | _, _, .response fields h, _ =>
    Action.check_send (@ServiceEvent.ne_empty_of_onWire _ _ .serverResponse h) fields

/-- The same for a block. -/
theorem Block.Image.check {automaton : String} :
    ∀ {b b' : List Action}, Block.Image automaton b b' →
      Block.check b = .ok () → Block.check b' = .ok ()
  | _, _, .nil, hcheck => hcheck
  | _, _, .cons ha has, hcheck => by
    rw [Block.check, seq_eq_ok] at hcheck ⊢
    exact ⟨ha.check hcheck.1, has.check hcheck.2⟩

/-- The same for the branches of a choice. -/
theorem Branches.Image.check {automaton : String} :
    ∀ {bs bs' : List (String × List Action)}, Branches.Image automaton bs bs' →
      Branches.check bs = .ok () → Branches.check bs' = .ok ()
  | _, _, .nil, hcheck => hcheck
  | _, _, .cons condition hbody hbs, hcheck => by
    rw [Branches.check, Branch.check, seq_eq_ok, seq_eq_ok] at hcheck ⊢
    obtain ⟨⟨hcondition, hb⟩, hrest⟩ := hcheck
    exact ⟨⟨hcondition, hbody.check hb⟩, hbs.check hrest⟩

end

/-- A transition that passes its check is replaced by one that does: its target is the same. -/
theorem Transition.Image.check {automaton source : String} {ids : List String} {t t' : Transition}
    (h : t.Image automaton t') (hcheck : t.check source ids = .ok ()) :
    t'.check source ids = .ok () := by
  obtain ⟨htarget, htrigger, hguard, hbody⟩ := Transition.check_eq_ok.mp hcheck
  refine Transition.check_eq_ok.mpr ⟨h.target ▸ htarget, h.trigger.check htrigger,
    h.guard ▸ hguard, ?_⟩
  exact Block.check_eq_ok.mp (h.body.check (Block.check_eq_ok.mpr hbody))

/-- A state that passes its check is replaced by one that does. -/
theorem State.Image.check {automaton : String} {ids : List String} {s s' : State}
    (h : s.Image automaton s') (hcheck : s.check ids = .ok ()) : s'.check ids = .ok () := by
  obtain ⟨hblocks, htransitions⟩ := State.check_eq_ok.mp hcheck
  obtain ⟨hentry, hexit⟩ := List.forall_mem_append.mp hblocks
  refine State.check_eq_ok.mpr ⟨List.forall_mem_append.mpr ⟨?_, ?_⟩, ?_⟩
  · exact Block.check_eq_ok.mp (h.entry.check (Block.check_eq_ok.mpr hentry))
  · exact Block.check_eq_ok.mp (h.exit.check (Block.check_eq_ok.mpr hexit))
  · intro t' ht'
    obtain ⟨t, ht, himage⟩ := exists_source h.transitions ht'
    rw [h.id]
    exact himage.check (htransitions t ht)

theorem PlainForm.ids {c plain : Chart} (h : PlainForm c plain) :
    plain.states.map (·.id) = c.states.map (·.id) := by
  have hids : List.Forall₂ (· = ·) (c.states.map (·.id)) (plain.states.map (·.id)) :=
    List.rel_map (fun _ _ hs => hs.id.symm) h.states
  exact (List.forall₂_eq_eq_eq ▸ hids).symm

/-- **What stands for a well formed chart is well formed.** So the check of the chart that is built
from replaced constructs cannot fail. -/
theorem PlainForm.check {c plain : Chart} (h : PlainForm c plain) (hcheck : c.check = .ok ()) :
    plain.check = .ok () := by
  obtain ⟨hname, ⟨hne, hids, hnodup⟩, ⟨s, hs, hinitial⟩, hdata, -, hstates⟩ :=
    Chart.check_eq_ok.mp hcheck
  refine Chart.check_eq_ok.mpr ⟨h.name ▸ hname, ⟨?_, ?_, ?_⟩, ?_, h.data ▸ hdata, ?_, ?_⟩
  · intro hnil
    -- states are replaced one by one, and no state goes missing
    have hlength := h.states.length_eq
    rw [hnil] at hlength
    exact hne (List.eq_nil_of_length_eq_zero hlength)
  · intro s' hs'
    obtain ⟨s, hs, himage⟩ := exists_source h.states hs'
    rw [himage.id]
    exact hids s hs
  · rw [h.ids]
    exact hnodup
  · have hmem : s.id ∈ plain.states.map (·.id) := h.ids ▸ List.mem_map_of_mem hs
    obtain ⟨s', hs', hid⟩ := List.mem_map.mp hmem
    exact ⟨s', hs', by rw [hid, hinitial, h.initial]⟩
  · rw [h.no_declarations]
    exact List.forall_mem_nil _
  · intro s' hs'
    obtain ⟨s, hs, himage⟩ := exists_source h.states hs'
    rw [h.ids]
    exact himage.check (hstates s hs)

/-! ### What a registry knows -/

/-- The chart declares the resource with the role. Names are compared as they are spelled, not by
their flat forms. -/
def Chart.Declares (c : Chart) (role : Role) (resource : String) : Prop :=
  ∃ d ∈ c.declarations, d.role = role ∧ d.resource = resource

namespace Registry

variable {c : Chart} {r : Registry}

/-- A registry lists the sides of topics and services that are declared, and no others. -/
theorem mem_endpoints_iff (h : ofChart c = .ok r) {side : Endpoint} {name type : String} :
    ⟨side, name, type⟩ ∈ r.endpoints ↔ .endpoint side name type ∈ c.declarations := by
  obtain ⟨-, -, hendpoints, -⟩ := ofChart_eq_ok h
  rw [hendpoints, List.mem_filterMap]
  constructor
  · rintro ⟨d, hd, hde⟩
    cases d with
    | timer name rate => cases hde
    | endpoint side name type =>
      obtain ⟨rfl, rfl, rfl⟩ := Registered.mk.inj (Option.some.inj hde)
      exact hd
  · exact fun hd => ⟨_, hd, rfl⟩

/-- Each side of a resource is found under its own type: an earlier declaration of the same side
does not hide it. -/
def Distinct (r : Registry) : Prop := ∀ e ∈ r.endpoints, r.type? e.side e.name = some e.type

theorem type?_extend {r : Registry} {d : Declaration} {side : Endpoint} {name type : String}
    (h : r.type? side name = some type) : (r.extend d).type? side name = some type := by
  obtain ⟨e, he, rfl⟩ := Option.map_eq_some_iff.mp h
  rw [type?, extend, List.find?_append, he]
  rfl

/-- A declaration is taken only if its resource is not there with its role. So no declaration hides
an earlier one, and each type is found. -/
theorem Distinct.extend {r : Registry} (hr : r.Distinct) {d : Declaration}
    (hnew : r.contains d.role d.resource = false) : (r.extend d).Distinct := by
  intro e he
  rcases List.mem_append.mp he with he | he
  · exact type?_extend (hr e he)
  · cases d with
    | timer name rate => cases he
    | endpoint side name type =>
      obtain rfl := List.mem_singleton.mp he
      have hnone : r.type? side name = none :=
        Option.isNone_iff_eq_none.mp (Option.isSome_eq_false_iff.mp hnew)
      have hfind : (r.endpoints.find? fun e => e.side == side && e.name == name) = none :=
        Option.map_eq_none_iff.mp hnone
      rw [type?, Registry.extend, List.find?_append, hfind]
      simp [Declaration.endpoint?]

/-- A registry stays distinct as declarations are taken. -/
theorem Distinct.foldlM {ds : List Declaration} {r r' : Registry} (hr : r.Distinct)
    (h : ds.foldlM add r = .ok r') : r'.Distinct := by
  induction ds generalizing r with
  | nil =>
    obtain rfl := pure_eq_ok.mp h
    exact hr
  | cons d ds ih =>
    rw [List.foldlM_cons, bind_eq_ok] at h
    obtain ⟨r₁, hadd, h⟩ := h
    obtain ⟨hnew, -, rfl⟩ := add_eq_ok.mp hadd
    exact ih (hr.extend hnew) h

/-- The type that is found for a resource is the one that is declared for it. -/
theorem type?_eq_some_iff (h : ofChart c = .ok r) {side : Endpoint} {name type : String} :
    r.type? side name = some type ↔ .endpoint side name type ∈ c.declarations := by
  rw [← mem_endpoints_iff h]
  constructor
  · intro htype
    obtain ⟨⟨side', name', type'⟩, he, rfl⟩ := Option.map_eq_some_iff.mp htype
    obtain ⟨rfl, rfl⟩ : side' = side ∧ name' = name := by simpa using List.find?_some he
    exact List.mem_of_find?_eq_some he
  · intro hmem
    have hempty : (empty c.name).Distinct := List.forall_mem_nil _
    exact hempty.foldlM h _ hmem

/-- A registry contains the resources that are declared, each with its role. -/
theorem contains_iff (h : ofChart c = .ok r) {role : Role} {resource : String} :
    r.contains role resource = true ↔ c.Declares role resource := by
  cases role with
  | timer =>
    obtain ⟨-, htimers, -⟩ := ofChart_eq_ok h
    rw [contains, htimers, List.any_filterMap, List.any_eq_true]
    refine exists_congr fun d => and_congr_right fun _ => ?_
    cases d with
    | timer name rate => simp [Declaration.timer?, Declaration.role, Declaration.resource]
    | endpoint side name type => simp [Declaration.timer?, Declaration.role]
  | endpoint side =>
    rw [contains, Option.isSome_iff_exists]
    simp only [type?_eq_some_iff h]
    constructor
    · rintro ⟨type, hd⟩
      exact ⟨_, hd, rfl, rfl⟩
    · rintro ⟨d, hd, hrole, rfl⟩
      cases d with
      | timer name rate => cases hrole
      | endpoint side' name type =>
        obtain rfl := Role.endpoint.inj hrole
        exact ⟨type, hd⟩

end Registry

/-! ### What a chart uses -/

namespace Chart

variable {c : Chart} {r : Registry}

theorem mem_uses_of_mem_triggers {t : Trigger} (ht : t ∈ c.triggers) {use : Role × String}
    (huse : use ∈ t.uses) : use ∈ c.uses := by
  obtain ⟨s, hs, ht⟩ := List.mem_flatMap.mp ht
  obtain ⟨u, hu, rfl⟩ := List.mem_map.mp ht
  refine List.mem_flatMap.mpr ⟨s, hs, List.mem_append_right _ ?_⟩
  exact List.mem_flatMap.mpr ⟨u, hu, List.mem_append_left _ huse⟩

/-- Whatever a chart uses, one of its triggers or actions uses. The chart is gone through state by
state for its uses, and this puts them into two lists. -/
theorem mem_uses_iff {use : Role × String} :
    use ∈ c.uses ↔ (∃ t ∈ c.triggers, use ∈ t.uses) ∨ ∃ l ∈ c.actions, l.use? = some use := by
  constructor
  · intro h
    obtain ⟨s, hs, h⟩ := List.mem_flatMap.mp h
    rcases List.mem_append.mp h with h | h
    · rw [Block.uses, Block.leaves_append] at h
      obtain ⟨l, hl, huse⟩ := List.mem_filterMap.mp h
      exact .inr ⟨l, List.mem_flatMap.mpr ⟨s, hs, List.mem_append_left _ hl⟩, huse⟩
    · obtain ⟨t, ht, h⟩ := List.mem_flatMap.mp h
      rcases List.mem_append.mp h with h | h
      · exact .inl ⟨t.trigger, List.mem_flatMap.mpr ⟨s, hs, List.mem_map_of_mem ht⟩, h⟩
      · obtain ⟨l, hl, huse⟩ := List.mem_filterMap.mp h
        refine .inr ⟨l, List.mem_flatMap.mpr ⟨s, hs, List.mem_append_right _ ?_⟩, huse⟩
        exact List.mem_flatMap.mpr ⟨t, ht, hl⟩
  · rintro (⟨t, ht, huse⟩ | ⟨l, hl, huse⟩)
    · exact mem_uses_of_mem_triggers ht huse
    · exact mem_uses_of_mem_actions hl huse

/-- The uses of a chart are in order if each construct names what is declared for it, with the role
that the construct gives it. -/
theorem checkUses_iff (h : Registry.ofChart c = .ok r) :
    r.checkUses c = .ok () ↔
      (∀ kind resource, .reception kind resource ∈ c.triggers → c.Declares kind.role resource) ∧
      ∀ kind resource fields, .emit kind resource fields ∈ c.actions →
        c.Declares (.endpoint kind.side) resource := by
  have hrequire : ∀ use : Role × String, r.require use.1 use.2 = .ok () ↔
      c.Declares use.1 use.2 := by
    intro use
    rw [← Registry.contains_iff h, Registry.require]
    split <;> simp_all
  rw [Registry.checkUses, forM_eq_ok]
  simp only [hrequire]
  constructor
  · intro hall
    constructor
    · intro kind resource ht
      exact hall (kind.role, resource) (mem_uses_of_mem_triggers ht (List.mem_singleton_self _))
    · intro kind resource fields hl
      exact hall (.endpoint kind.side, resource) (mem_uses_of_mem_actions hl rfl)
  · rintro ⟨htriggers, hactions⟩ use huse
    rcases mem_uses_iff.mp huse with ⟨t, ht, huse⟩ | ⟨l, hl, huse⟩
    · cases t with
      | events names => cases huse
      | reception kind resource =>
        obtain rfl := List.mem_singleton.mp huse
        exact htriggers kind resource ht
    · cases l with
      | emit kind resource fields =>
        obtain rfl := Option.some.inj huse
        exact hactions kind resource fields hl
      | _ => cases huse

end Chart

/-! ### The fields of an emission -/

/-- The fields that go along with an emission through a resource of the type: those of a message, a
request or a response. There are none if the type is not known. -/
def Catalogue.sent? : Emission → String → Option (List Field)
  | .message, type => message? type
  | .request, type => (service? type).map (·.request)
  | .response, type => (service? type).map (·.response)

/-- The fields that go along with an emission have different names. -/
theorem Catalogue.nodup_sent? {kind : Emission} {type : String} {schema : List Field}
    (h : sent? kind type = some schema) : (Field.names schema).Nodup := by
  cases kind with
  | message =>
    change message? type = some schema at h
    unfold message? standardMessage? at h
    split at h
    · split at h <;> cases h <;> decide
    · cases h
  | request =>
    obtain ⟨service, hservice, rfl⟩ := Option.map_eq_some_iff.mp h
    exact nodup_sentWith hservice .request
  | response =>
    obtain ⟨service, hservice, rfl⟩ := Option.map_eq_some_iff.mp h
    exact nodup_sentWith hservice .response

/-- A type that is known has fields for every emission through it. -/
theorem Catalogue.exists_sent? {kind : Emission} {type : String}
    (h : Registry.knowsType kind.side type = true) : ∃ schema, sent? kind type = some schema := by
  cases kind with
  | message => exact Option.isSome_iff_exists.mp h
  | request =>
    obtain ⟨schema, hschema⟩ := Option.isSome_iff_exists.mp h
    exact ⟨schema.request, Option.map_eq_some_iff.mpr ⟨schema, hschema, rfl⟩⟩
  | response =>
    obtain ⟨schema, hschema⟩ := Option.isSome_iff_exists.mp h
    exact ⟨schema.response, Option.map_eq_some_iff.mpr ⟨schema, hschema, rfl⟩⟩

/-- The fields that are asked for are those of the type that is found on the side of the
emission. -/
theorem Registry.schema?_eq (r : Registry) (kind : Emission) (resource : String) :
    r.schema? kind resource = (r.type? kind.side resource).bind (Catalogue.sent? kind) := by
  cases kind with
  | message => rfl
  | request => exact Option.map_bind
  | response => exact Option.map_bind

/-- The fault is one of the fields that an emission supplies. -/
def Fault.IsOfFields : Fault → Prop
  | .missingFields .. | .unknownFields .. | .duplicateField .. => True
  | _ => False

/-- The names of one list that are not in the other, as a round gathers them. -/
theorem filter_not_contains (names others : List String) :
    names.filter (!others.contains ·) = names.filter (· ∉ others) :=
  List.filter_congr fun name _ => by simp

theorem filter_not_contains_eq_nil {names others : List String}
    (h : ∀ name ∈ names, name ∈ others) : names.filter (!others.contains ·) = [] := by
  rw [filter_not_contains, List.filter_eq_nil_iff]
  simpa using h

section

variable {automaton resource : String} {schema : List Field} {fields : List Param}

/-- A check of fields finds nothing in any of its rounds. -/
theorem checkFields_of_nothing_missing
    (hknown : ∀ name ∈ fields.map (·.name), name ∈ Field.names schema)
    (honce : firstRepeated? [] (fields.map (·.name)) = none)
    (h : ∀ name ∈ Field.names schema, name ∈ fields.map (·.name)) :
    checkFields automaton resource schema fields = .ok () := by
  have hunknown : (fields.map (·.name)).filter (!(schema.map (·.name)).contains ·) = [] :=
    filter_not_contains_eq_nil hknown
  have hmissing : (schema.map (·.name)).filter (!(fields.map (·.name)).contains ·) = [] :=
    filter_not_contains_eq_nil h
  simp only [checkFields, hunknown, honce, hmissing]
  rfl

/-- The fields of the type in any order are right. -/
theorem checkFields_of_perm (hnodup : (Field.names schema).Nodup)
    (h : (fields.map (·.name)).Perm (Field.names schema)) :
    checkFields automaton resource schema fields = .ok () := by
  have honce : firstRepeated? [] (fields.map (·.name)) = none :=
    firstRepeated?_eq_none.mpr ⟨h.nodup_iff.mpr hnodup, fun _ _ => List.not_mem_nil⟩
  exact checkFields_of_nothing_missing (fun _ => h.mem_iff.mp) honce fun _ => h.mem_iff.mpr

end

/-- A check of fields reports nothing but fields. -/
theorem isOfFields_of_checkFields {automaton resource : String} {schema : List Field}
    {fields : List Param} {f : Fault}
    (h : checkFields automaton resource schema fields = .error f) : f.IsOfFields := by
  rw [checkFields] at h
  split at h
  · obtain rfl := Except.error.inj h
    trivial
  · split at h
    · obtain rfl := Except.error.inj h
      trivial
    · split at h
      · obtain rfl := Except.error.inj h
        trivial
      · cases h

/-! ### Where replacing constructs fails -/

namespace Plain

/-- One of the actions is an emission that cannot be replaced, and this is how it fails. -/
def Fails (r : Registry) (f : Fault) (actions : List Action) : Prop :=
  ∃ kind resource fields, .emit kind resource fields ∈ actions ∧
    emission r kind resource fields = .error f

theorem Fails.mono {r : Registry} {f : Fault} {l l' : List Action} (h : Fails r f l)
    (hsub : l ⊆ l') : Fails r f l' := by
  obtain ⟨kind, resource, fields, hmem, hfails⟩ := h
  exact ⟨kind, resource, fields, hsub hmem, hfails⟩

mutual

/-- Only emissions fail, at any depth. What fails first is not told, but that there is an emission
which fails in this way. -/
theorem fails_action {r : Registry} {f : Fault} :
    ∀ {a : Action}, action r a = .error f → Fails r f (Action.leaves a)
  | .assign location expr, h => by
    rw [action] at h
    cases h
  | .send event params, h => by
    rw [action] at h
    cases h
  | .choose bs otherwise, h => by
    rw [action] at h
    rw [Action.leaves]
    rcases bind_eq_error.mp h with hbs | ⟨bs', -, h⟩
    · exact (fails_branches hbs).mono (List.subset_append_left ..)
    · rcases bind_eq_error.mp h with hotherwise | ⟨otherwise', -, h⟩
      · exact (fails_block hotherwise).mono (List.subset_append_right ..)
      · cases h
  | .emit kind resource fields, h => by
    rw [action] at h
    exact ⟨kind, resource, fields, by simp [Action.leaves], h⟩

theorem fails_block {r : Registry} {f : Fault} :
    ∀ {b : List Action}, block r b = .error f → Fails r f (Block.leaves b)
  | [], h => by
    rw [block] at h
    cases h
  | a :: as, h => by
    rw [block] at h
    rw [Block.leaves]
    rcases bind_eq_error.mp h with ha | ⟨a', -, h⟩
    · exact (fails_action ha).mono (List.subset_append_left ..)
    · rcases bind_eq_error.mp h with has | ⟨as', -, h⟩
      · exact (fails_block has).mono (List.subset_append_right ..)
      · cases h

theorem fails_branches {r : Registry} {f : Fault} :
    ∀ {bs : List (String × List Action)}, branches r bs = .error f →
      Fails r f (Branches.leaves bs)
  | [], h => by
    rw [branches] at h
    cases h
  | (condition, body) :: bs, h => by
    rw [branches, branch] at h
    rw [Branches.leaves, Branch.leaves]
    rcases bind_eq_error.mp h with hb | ⟨b', -, h⟩
    · rcases bind_eq_error.mp hb with hbody | ⟨body', -, hb⟩
      · exact (fails_block hbody).mono (List.subset_append_left ..)
      · cases hb
    · rcases bind_eq_error.mp h with hbs | ⟨bs', -, h⟩
      · exact (fails_branches hbs).mono (List.subset_append_right ..)
      · cases h

end

theorem fails_transition {r : Registry} {f : Fault} {t : Transition}
    (h : transition r t = .error f) :
    trigger r t.trigger = .error f ∨ Fails r f (Block.leaves t.body) := by
  rcases bind_eq_error.mp h with htrigger | ⟨t', -, h⟩
  · exact .inl htrigger
  · rcases bind_eq_error.mp h with hbody | ⟨b', -, h⟩
    · exact .inr (fails_block hbody)
    · cases h

theorem fails_state {r : Registry} {f : Fault} {s : State} (h : state r s = .error f) :
    (∃ t ∈ s.transitions, trigger r t.trigger = .error f) ∨ Fails r f s.actions := by
  rcases bind_eq_error.mp h with hentry | ⟨entry', -, h⟩
  · exact .inr ((fails_block hentry).mono fun _ hl =>
      List.mem_append_left _ (List.mem_append_left _ hl))
  rcases bind_eq_error.mp h with hexit | ⟨exit', -, h⟩
  · exact .inr ((fails_block hexit).mono fun _ hl =>
      List.mem_append_left _ (List.mem_append_right _ hl))
  rcases bind_eq_error.mp h with htransitions | ⟨transitions', -, h⟩
  · obtain ⟨t, ht, htransition⟩ := exists_of_mapM_eq_error htransitions
    rcases fails_transition htransition with htrigger | hbody
    · exact .inl ⟨t, ht, htrigger⟩
    · exact .inr (hbody.mono fun _ hl =>
        List.mem_append_right _ (List.mem_flatMap.mpr ⟨t, ht, hl⟩))
  · cases h

/-- Where the states of a chart cannot be replaced, it is a trigger or an emission that cannot. -/
theorem fails_states {r : Registry} {f : Fault} {c : Chart}
    (h : c.states.mapM (state r) = .error f) :
    (∃ t ∈ c.triggers, trigger r t = .error f) ∨ Fails r f c.actions := by
  obtain ⟨s, hs, hstate⟩ := exists_of_mapM_eq_error h
  rcases fails_state hstate with ⟨t, ht, htrigger⟩ | hactions
  · exact .inl ⟨t.trigger, List.mem_flatMap.mpr ⟨s, hs, List.mem_map_of_mem ht⟩, htrigger⟩
  · exact .inr (hactions.mono fun _ hl => List.mem_flatMap.mpr ⟨s, hs, hl⟩)

end Plain

/-! ### Constructs whose resources are declared -/

theorem Wire.exists_reception {resource flat : String} (h : flatName resource = .ok flat)
    (automaton : String) (kind : Reception) :
    ∃ event, reception automaton kind resource = .ok event := by
  cases kind with
  | tick => exact ⟨_, rfl⟩
  | message => exact ⟨_, map_eq_ok.mpr ⟨flat, h, rfl⟩⟩
  | request => exact ⟨_, map_eq_ok.mpr ⟨flat, h, rfl⟩⟩
  | response => exact ⟨_, map_eq_ok.mpr ⟨flat, h, rfl⟩⟩

theorem Wire.exists_emission {resource flat : String} (h : flatName resource = .ok flat)
    (automaton : String) (kind : Emission) :
    ∃ event, emission automaton kind resource = .ok event := by
  cases kind with
  | message => exact ⟨_, map_eq_ok.mpr ⟨flat, h, rfl⟩⟩
  | request => exact ⟨_, map_eq_ok.mpr ⟨flat, h, rfl⟩⟩
  | response => exact ⟨_, map_eq_ok.mpr ⟨flat, h, rfl⟩⟩

namespace Chart

variable {c : Chart} {r : Registry}

/-- A side of a resource that is declared has a flat name and a type that is known. -/
theorem Declares.sound (hr : Registry.ofChart c = .ok r) {side : Endpoint} {resource : String}
    (h : c.Declares (.endpoint side) resource) :
    ∃ type flat, .endpoint side resource type ∈ c.declarations ∧
      Registry.knowsType side type = true ∧ Wire.flatName resource = .ok flat := by
  obtain ⟨d, hd, hrole, rfl⟩ := h
  cases d with
  | timer name rate => cases hrole
  | endpoint side' name type =>
    obtain rfl := Role.endpoint.inj hrole
    obtain ⟨-, -, -, hsound⟩ := Registry.ofChart_eq_ok hr
    obtain ⟨⟨flat, hflat⟩, hknown⟩ := hsound _ ((Registry.mem_endpoints_iff hr).mpr hd)
    exact ⟨type, flat, hd, hknown, hflat⟩

/-- A trigger whose resource is declared can be replaced, since what is declared has a flat name. -/
theorem Declares.trigger_ok (hr : Registry.ofChart c = .ok r) {kind : Reception}
    {resource : String} (h : c.Declares kind.role resource) :
    ∃ t, Plain.trigger r (.reception kind resource) = .ok t := by
  have hevent : ∃ event, Wire.reception r.automaton kind resource = .ok event := by
    cases kind with
    | tick => exact ⟨_, rfl⟩
    | message | request | response =>
      obtain ⟨type, flat, -, -, hflat⟩ := h.sound hr
      exact Wire.exists_reception hflat _ _
  obtain ⟨event, hevent⟩ := hevent
  refine ⟨.events [event], ?_⟩
  rw [Plain.trigger, hevent]
  rfl

/-- An emission whose resource is declared has a schema, and its fields decide the rest: neither the
lookup nor the event's name can fail. -/
theorem Declares.emission_eq (hr : Registry.ofChart c = .ok r) {kind : Emission}
    {resource : String} (h : c.Declares (.endpoint kind.side) resource) (fields : List Param) :
    ∃ type schema event, .endpoint kind.side resource type ∈ c.declarations ∧
      Catalogue.sent? kind type = some schema ∧
      Plain.emission r kind resource fields =
        (checkFields c.name resource schema fields).map fun _ => .send event fields := by
  obtain ⟨type, flat, hd, hknown, hflat⟩ := h.sound hr
  obtain ⟨schema, hschema⟩ := Catalogue.exists_sent? hknown
  obtain ⟨event, hevent⟩ := Wire.exists_emission hflat c.name kind
  obtain ⟨hautomaton, -⟩ := Registry.ofChart_eq_ok hr
  have hfound : r.schema? kind resource = some schema := by
    rw [Registry.schema?_eq, (Registry.type?_eq_some_iff hr).mpr hd]
    exact hschema
  refine ⟨type, schema, event, hd, hschema, ?_⟩
  simp only [Plain.emission, hautomaton, hevent, hfound, usedBy, ok_bind]
  cases checkFields c.name resource schema fields <;> rfl

/-- The plain form of a chart with declarations: its constructs are replaced, and the chart is built
anew. -/
theorem toPlain_of_declarations (hne : c.declarations ≠ []) (hr : Registry.ofChart c = .ok r)
    (huses : r.checkUses c = .ok ()) :
    c.toPlain = c.states.mapM (Plain.state r) >>= fun states =>
      Builder.build ⟨c.name, some c.initial, c.data, [], states⟩ >>= fun plain =>
        pure (plain, r) := by
  rw [toPlain, isPlain, if_neg (by simpa using hne), hr, ok_bind, huses, ok_bind]

/-- The charts that are built from replaced constructs pass their check. -/
theorem build_of_mapM_state (hcheck : c.check = .ok ()) (hr : Registry.ofChart c = .ok r)
    {states : List State} (h : c.states.mapM (Plain.state r) = .ok states) :
    Builder.build ⟨c.name, some c.initial, c.data, [], states⟩ =
      .ok ⟨c.name, c.initial, c.data, [], states⟩ := by
  obtain ⟨hautomaton, -⟩ := Registry.ofChart_eq_ok hr
  have himages : List.Forall₂ (State.Image c.name) c.states states := by
    rw [← hautomaton]
    exact (mapM_eq_ok.mp h).imp fun _ _ => Plain.state_image
  have hplain : PlainForm c ⟨c.name, c.initial, c.data, [], states⟩ :=
    .of_states rfl rfl rfl rfl himages
  exact Builder.build_eq_ok.mpr ⟨hplain.check hcheck, rfl⟩

/-- Once the declarations are registered and the uses looked up, only the fields of an emission can
stop a well formed chart. -/
theorem exists_of_toPlain_error (hcheck : c.check = .ok ()) (hr : Registry.ofChart c = .ok r)
    (huses : r.checkUses c = .ok ()) {f : Fault} (h : c.toPlain = .error f) :
    ∃ kind resource fields type schema, .emit kind resource fields ∈ c.actions ∧
      .endpoint kind.side resource type ∈ c.declarations ∧
      Catalogue.sent? kind type = some schema ∧
      checkFields c.name resource schema fields = .error f := by
  -- without declarations the chart is its own plain form
  by_cases hnil : c.declarations = []
  · rw [toPlain_eq_ok.mpr ⟨hr, huses, .inl ⟨hnil, rfl⟩⟩] at h
    cases h
  rw [toPlain_of_declarations hnil hr huses] at h
  rcases bind_eq_error.mp h with hstates | ⟨states, hstates, hbuild⟩
  · obtain ⟨htriggers, hactions⟩ := (checkUses_iff hr).mp huses
    rcases Plain.fails_states hstates with ⟨t, ht, htrigger⟩ | ⟨kind, resource, fields, hl, hfails⟩
    · -- every trigger can be replaced
      cases t with
      | events names => cases htrigger
      | reception kind resource =>
        obtain ⟨t', ht'⟩ := (htriggers kind resource ht).trigger_ok hr
        rw [ht'] at htrigger
        cases htrigger
    · obtain ⟨type, schema, event, hd, hschema, heq⟩ :=
        (hactions kind resource fields hl).emission_eq hr fields
      refine ⟨kind, resource, fields, type, schema, hl, hd, hschema, ?_⟩
      rw [heq] at hfails
      cases hfields : checkFields c.name resource schema fields with
      | ok u =>
        rw [hfields] at hfails
        cases hfails
      | error f' =>
        rw [hfields] at hfails
        exact congrArg Except.error (Except.error.inj hfails)
  · rw [build_of_mapM_state hcheck hr hstates] at hbuild
    cases hbuild

/-- The emissions of a chart with a plain form have the fields of the types that are declared. -/
theorem fields_of_toPlain {plain : Chart} (h : c.toPlain = .ok (plain, r)) {kind : Emission}
    {resource : String} {fields : List Param} (hl : .emit kind resource fields ∈ c.actions) :
    ∃ type schema, .endpoint kind.side resource type ∈ c.declarations ∧
      Catalogue.sent? kind type = some schema ∧
      (fields.map (·.name)).Perm (Field.names schema) := by
  obtain ⟨type, htype, hd⟩ := declared_of_mem_uses h (mem_uses_of_mem_actions hl rfl)
  obtain ⟨schema, hschema, hfields⟩ := supplied_of_mem_actions h hl
  rw [Registry.schema?_eq, htype] at hschema
  exact ⟨type, schema, hd, hschema,
    (perm_of_checkFields (Catalogue.nodup_sent? hschema) hfields).symm⟩

/-- The chart contains no communication construct at all. -/
theorem uses_eq_nil_iff :
    c.uses = [] ↔ ∀ s ∈ c.states, Block.communicates s.entry = false ∧
      Block.communicates s.exit = false ∧
      ∀ t ∈ s.transitions, t.trigger.communicates = false ∧ Block.communicates t.body = false := by
  have hblock : ∀ b : Block, Block.communicates b = false ↔ Block.uses b = [] := by
    intro b
    rw [Block.communicates, Bool.not_eq_false', List.isEmpty_iff]
  have htrigger : ∀ t : Trigger, t.communicates = false ↔ t.uses = [] := by
    intro t
    cases t <;> simp [Trigger.communicates, Trigger.uses]
  simp only [uses, State.uses, Transition.uses, List.flatMap_eq_nil_iff, List.append_eq_nil_iff,
    Block.uses_append, hblock, htrigger, and_assoc]

end Chart

/-- **Which charts have a plain form.** A chart that was built has one exactly if its declarations
can be registered, each of its constructs names what the chart declares for it, and each emission
supplies the fields of the declared type, in any order. Once the first two passes are through,
nothing but the fields of an emission can be at fault; and a chart without declarations has a plain
form exactly if it does not communicate. -/
theorem toPlain_resolves_iff {b : Builder} {c : Chart} (hbuilt : b.build = .ok c) :
    ((∃ plain r, c.toPlain = .ok (plain, r)) ↔
      (∃ r, Registry.ofChart c = .ok r) ∧
      (∀ kind resource, .reception kind resource ∈ c.triggers → c.Declares kind.role resource) ∧
      ∀ kind resource fields, .emit kind resource fields ∈ c.actions →
        ∃ type schema, .endpoint kind.side resource type ∈ c.declarations ∧
          Catalogue.sent? kind type = some schema ∧
          (fields.map (·.name)).Perm (Field.names schema)) ∧
    (∀ r f, Registry.ofChart c = .ok r → r.checkUses c = .ok () → c.toPlain = .error f →
      f.IsOfFields) ∧
    (c.declarations = [] → ((∃ plain r, c.toPlain = .ok (plain, r)) ↔
      ∀ s ∈ c.states, Block.communicates s.entry = false ∧ Block.communicates s.exit = false ∧
        ∀ t ∈ s.transitions,
          t.trigger.communicates = false ∧ Block.communicates t.body = false)) := by
  obtain ⟨hcheck, rfl⟩ := Builder.build_eq_ok.mp hbuilt
  refine ⟨⟨?_, ?_⟩, ?_, ?_⟩
  · rintro ⟨plain, r, h⟩
    obtain ⟨hr, huses, -⟩ := Chart.toPlain_eq_ok.mp h
    exact ⟨⟨r, hr⟩, ((Chart.checkUses_iff hr).mp huses).1,
      fun kind resource fields hl => Chart.fields_of_toPlain h hl⟩
  · rintro ⟨⟨r, hr⟩, htriggers, hactions⟩
    have huses : r.checkUses b.draft = .ok () := by
      refine (Chart.checkUses_iff hr).mpr ⟨htriggers, fun kind resource fields hl => ?_⟩
      obtain ⟨type, schema, hd, -⟩ := hactions kind resource fields hl
      exact ⟨_, hd, rfl, rfl⟩
    cases h : b.draft.toPlain with
    | ok p => exact ⟨p.1, p.2, rfl⟩
    | error f =>
      obtain ⟨kind, resource, fields, type, schema, hl, hd, hschema, hfails⟩ :=
        Chart.exists_of_toPlain_error hcheck hr huses h
      obtain ⟨type', schema', hd', hschema', hperm⟩ := hactions kind resource fields hl
      -- a side of a resource is declared once, so that it has one type
      have htype := (Registry.type?_eq_some_iff hr).mpr hd
      rw [(Registry.type?_eq_some_iff hr).mpr hd'] at htype
      obtain rfl := Option.some.inj htype
      obtain rfl := Option.some.inj (hschema'.symm.trans hschema)
      rw [checkFields_of_perm (Catalogue.nodup_sent? hschema) hperm] at hfails
      cases hfails
  · intro r f hr huses h
    obtain ⟨_, _, _, _, _, _, _, _, hfails⟩ := Chart.exists_of_toPlain_error hcheck hr huses h
    exact isOfFields_of_checkFields hfails
  · intro hnil
    rw [← Chart.uses_eq_nil_iff]
    have hr : Registry.ofChart b.draft = .ok (.empty b.draft.name) := by
      rw [Registry.ofChart, hnil]
      rfl
    constructor
    · rintro ⟨plain, r, h⟩
      obtain ⟨hr', huses, -⟩ := Chart.toPlain_eq_ok.mp h
      obtain rfl := Except.ok.inj (hr.symm.trans hr')
      exact Registry.uses_eq_nil_of_checkUses huses
    · intro hnone
      have huses : (Registry.empty b.draft.name).checkUses b.draft = .ok () := by
        rw [Registry.checkUses, hnone]
        rfl
      exact ⟨_, _, Chart.toPlain_eq_ok.mpr ⟨hr, huses, .inl ⟨hnil, rfl⟩⟩⟩

/-- A chart that supplies a field which the declared type does not have. -/
def Sample.misfit : Chart :=
  ⟨"misfit", "idle", [], [.endpoint .publisher "/out" "std_msgs/Int32"],
    [⟨"idle", [.emit .message "/out" [⟨"value", "1"⟩]], [], []⟩]⟩

open Sample in
/-- A chart whose emissions have the right fields has a plain form. Of the other chart only the
fields are wrong, and it has none. -/
theorem toPlain_resolves_iff_sample :
    talking.toBuilder.build = .ok talking ∧ (∃ plain r, talking.toPlain = .ok (plain, r)) ∧
    .emit .request "/set_bool" [⟨"data", "true"⟩] ∈ talking.actions ∧
    (∃ type schema, .endpoint .client "/set_bool" type ∈ talking.declarations ∧
      Catalogue.sent? .request type = some schema ∧ ["data"].Perm (Field.names schema)) ∧
    misfit.toBuilder.build = .ok misfit ∧
    ∃ r f, Registry.ofChart misfit = .ok r ∧ r.checkUses misfit = .ok () ∧
      misfit.toPlain = .error f ∧ f.IsOfFields := by
  have hbuilt : talking.toBuilder.build = .ok talking :=
    Builder.build_eq_ok.mpr ⟨by decide +kernel, rfl⟩
  have hplain : talking.toPlain.toOption.any (fun _ => true) = true := by decide +kernel
  obtain ⟨⟨plain, r⟩, hplain, -⟩ := exists_of_any hplain
  have hl : .emit .request "/set_bool" [⟨"data", "true"⟩] ∈ talking.actions := by
    simp [talking, Chart.actions, State.actions, Block.leaves, Action.leaves, Branches.leaves,
      Branch.leaves]
  obtain ⟨-, -, hfields⟩ := (toPlain_resolves_iff hbuilt).1.mp ⟨plain, r, hplain⟩
  have hmisfit : misfit.toBuilder.build = .ok misfit :=
    Builder.build_eq_ok.mpr ⟨by decide +kernel, rfl⟩
  have hregistered : (Registry.ofChart misfit).toOption.any
      (fun r => (r.checkUses misfit).toOption.isSome) = true := by decide +kernel
  obtain ⟨r', hr', huses⟩ := exists_of_any hregistered
  have hfails : misfit.toPlain.toOption.isNone = true := by decide +kernel
  refine ⟨hbuilt, ⟨plain, r, hplain⟩, hl, hfields _ _ _ hl, hmisfit, r', ?_⟩
  cases huses' : r'.checkUses misfit with
  | error f =>
    rw [huses'] at huses
    cases huses
  | ok u =>
    cases hf : misfit.toPlain with
    | ok p =>
      rw [hf] at hfails
      cases hfails
    | error f => exact ⟨f, hr', rfl, rfl, (toPlain_resolves_iff hmisfit).2.1 r' f hr' huses' hf⟩

end ChartNet
