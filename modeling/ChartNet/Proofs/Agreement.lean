import ChartNet.Proofs.Alternation
import ChartNet.Proofs.Contents
import ChartNet.Proofs.Images

/-!
# Charts and arbiters agree on the wire

A chart and the arbiter of a service are made apart from each other: the chart by replacing its own
constructs one by one, the arbiter from what all charts have declared, under the spelling and the
type of whoever came first. `Agreement` says that the two fit together, event by event and field by
field.

What a chart supplies with an emission was checked against the fields of the type that the chart
itself declares (`Chart.perm_of_mem_actions`); that the arbiter has the same type is a matter of the
service.
-/

namespace ChartNet

/-! ### The fields that are supplied -/

/-- No repetition is found if the entries differ from each other and from what was seen before. -/
theorem firstRepeated?_eq_none {seen xs : List String} :
    firstRepeated? seen xs = none ↔ xs.Nodup ∧ ∀ x ∈ xs, x ∉ seen := by
  induction xs generalizing seen with
  | nil => simp [firstRepeated?]
  | cons x xs ih =>
    rw [firstRepeated?]
    by_cases hseen : x ∈ seen
    · simp [hseen]
    · rw [if_neg (by simpa using hseen), ih, List.nodup_cons, List.forall_mem_cons]
      constructor
      · rintro ⟨hnodup, hnew⟩
        exact ⟨⟨fun hmem => hnew x hmem (List.mem_cons_self ..), hnodup⟩, hseen,
          fun y hy hmem => hnew y hy (List.mem_cons_of_mem _ hmem)⟩
      · rintro ⟨⟨hx, hnodup⟩, -, hnew⟩
        refine ⟨hnodup, fun y hy hmem => ?_⟩
        rcases List.mem_cons.mp hmem with rfl | hmem
        · exact hx hy
        · exact hnew y hy hmem

/-- Fields that pass the check are those of the schema, in some order. None is missing, none is
unknown and none comes twice, so that the two lists have the same entries. -/
theorem perm_of_checkFields {automaton resource : String} {schema : List Field}
    {fields : List Param} (hnodup : (Field.names schema).Nodup)
    (h : checkFields automaton resource schema fields = .ok ()) :
    (Field.names schema).Perm (fields.map (·.name)) := by
  rw [checkFields] at h
  split at h
  · cases h
  · rename_i hunknown
    split at h
    · cases h
    · rename_i hrepeated
      split at h
      · cases h
      · rename_i hmissing
        obtain ⟨hsupplied, -⟩ := firstRepeated?_eq_none.mp hrepeated
        simp only [Bool.not_eq_true', Bool.not_eq_false, List.isEmpty_iff,
          List.filter_eq_nil_iff, List.contains_eq_mem, decide_eq_false_iff_not, not_not]
          at hunknown hmissing
        exact (List.perm_ext_iff_of_nodup hnodup hsupplied).mpr fun name =>
          ⟨hmissing name, hunknown name⟩

/-- The emission supplies the fields that its resource asks for. Other actions supply nothing and
are asked for nothing. -/
def Action.Supplied (r : Registry) : Action → Prop
  | .emit kind resource fields => ∃ schema, r.schema? kind resource = some schema ∧
      checkFields r.automaton resource schema fields = .ok ()
  | _ => True

mutual

/-- An action that was translated supplies what its resource asks for, and so do all actions inside
it. The three statements follow the mutual recursion of the translation. -/
theorem Plain.supplied_action {r : Registry} : ∀ {a a' : Action}, Plain.action r a = .ok a' →
    ∀ l ∈ Action.leaves a, l.Supplied r
  | .assign location expr, _, _ => by simp [Action.leaves, Action.Supplied]
  | .send event params, _, _ => by simp [Action.leaves, Action.Supplied]
  | .choose bs otherwise, _, h => by
    rw [Plain.action, bind_eq_ok] at h
    obtain ⟨bs', hbs, h⟩ := h
    obtain ⟨otherwise', hotherwise, -⟩ := bind_eq_ok.mp h
    rw [Action.leaves]
    exact List.forall_mem_append.mpr
      ⟨Plain.supplied_branches hbs, Plain.supplied_block hotherwise⟩
  | .emit kind resource fields, _, h => by
    rw [Plain.action, Plain.emission, bind_eq_ok] at h
    obtain ⟨event, -, h⟩ := h
    have hleaves : Action.leaves (.emit kind resource fields) = [.emit kind resource fields] := by
      simp [Action.leaves]
    rw [hleaves]
    refine List.forall_mem_singleton.mpr ?_
    -- without a schema the emission would not have been replaced
    cases hschema : r.schema? kind resource with
    | none =>
      rw [hschema] at h
      cases h
    | some schema =>
      rw [hschema] at h
      exact ⟨schema, hschema, (seq_eq_ok.mp h).1⟩

/-- The same for a block, action by action. -/
theorem Plain.supplied_block {r : Registry} : ∀ {b b' : List Action}, Plain.block r b = .ok b' →
    ∀ l ∈ Block.leaves b, l.Supplied r
  | [], _, _ => by simp [Block.leaves]
  | a :: as, _, h => by
    rw [Plain.block, bind_eq_ok] at h
    obtain ⟨a', ha, h⟩ := h
    obtain ⟨as', has, -⟩ := bind_eq_ok.mp h
    rw [Block.leaves]
    exact List.forall_mem_append.mpr ⟨Plain.supplied_action ha, Plain.supplied_block has⟩

/-- The same for the branches of a choice, block by block. -/
theorem Plain.supplied_branches {r : Registry} :
    ∀ {bs bs' : List (String × List Action)}, Plain.branches r bs = .ok bs' →
      ∀ l ∈ Branches.leaves bs, l.Supplied r
  | [], _, _ => by simp [Branches.leaves]
  | (condition, body) :: bs, _, h => by
    rw [Plain.branches, Plain.branch, bind_eq_ok] at h
    obtain ⟨b', hb, h⟩ := h
    obtain ⟨body', hbody, -⟩ := bind_eq_ok.mp hb
    obtain ⟨bs', hbs, -⟩ := bind_eq_ok.mp h
    rw [Branches.leaves, Branch.leaves]
    exact List.forall_mem_append.mpr ⟨Plain.supplied_block hbody, Plain.supplied_branches hbs⟩

end

/-! ### The resources that are used -/

namespace Chart

variable {c plain : Chart} {r : Registry}

/-- What an action of the chart uses, the chart uses. -/
theorem mem_uses_of_mem_actions {l : Action} (hl : l ∈ c.actions) {use : Role × String}
    (huse : l.use? = some use) : use ∈ c.uses := by
  have hblock : ∀ {b : Block}, l ∈ Block.leaves b → use ∈ Block.uses b := fun hb =>
    List.mem_filterMap.mpr ⟨l, hb, huse⟩
  obtain ⟨s, hs, hl⟩ := List.mem_flatMap.mp hl
  refine List.mem_flatMap.mpr ⟨s, hs, ?_⟩
  rcases List.mem_append.mp hl with hl | hl
  · rw [← Block.leaves_append] at hl
    exact List.mem_append_left _ (hblock hl)
  · obtain ⟨t, ht, hl⟩ := List.mem_flatMap.mp hl
    exact List.mem_append_right _
      (List.mem_flatMap.mpr ⟨t, ht, List.mem_append_right _ (hblock hl)⟩)

/-- What a chart uses, it declares. A chart that declares nothing uses nothing either, so both ways
in which a plain form comes about are covered. -/
theorem declared_of_mem_uses (h : c.toPlain = .ok (plain, r)) {side : Endpoint} {resource : String}
    (huse : (.endpoint side, resource) ∈ c.uses) :
    ∃ type, r.type? side resource = some type ∧
      .endpoint side resource type ∈ c.declarations := by
  obtain ⟨hr, huses, -⟩ := toPlain_eq_ok.mp h
  obtain ⟨-, -, hendpoints, -⟩ := Registry.ofChart_eq_ok hr
  have hrequire : r.require (.endpoint side) resource = .ok () := forM_eq_ok.mp huses _ huse
  have hcontains : (r.type? side resource).isSome = true := by
    by_contra hnot
    rw [Registry.require, Registry.contains, if_neg hnot] at hrequire
    cases hrequire
  obtain ⟨type, htype⟩ := Option.isSome_iff_exists.mp hcontains
  refine ⟨type, htype, ?_⟩
  -- what the registry has found comes from a declaration
  obtain ⟨e, he, rfl⟩ := Option.map_eq_some_iff.mp htype
  have hfound := List.find?_some he
  have hmem := List.mem_of_find?_eq_some he
  rw [hendpoints] at hmem
  obtain ⟨d, hd, hde⟩ := List.mem_filterMap.mp hmem
  cases d with
  | timer name rate => cases hde
  | endpoint side' name type =>
    obtain rfl := Option.some.inj hde
    obtain ⟨rfl, rfl⟩ : side' = side ∧ name = resource := by simpa using hfound
    exact hd

/-- What an emission supplies was checked. It was looked up in the registry of the chart, which says
what the chart declares. -/
theorem supplied_of_mem_actions (h : c.toPlain = .ok (plain, r)) {kind : Emission}
    {resource : String} {fields : List Param} (hl : .emit kind resource fields ∈ c.actions) :
    Action.Supplied r (.emit kind resource fields) := by
  obtain ⟨-, -, ⟨hnil, -⟩ | ⟨-, states, hstates, -⟩⟩ := toPlain_eq_ok.mp h
  · -- nothing is declared, and so nothing can be emitted
    obtain ⟨type, -, hd⟩ := declared_of_mem_uses h (mem_uses_of_mem_actions hl rfl)
    rw [hnil] at hd
    cases hd
  · -- the state was replaced, and so was each of its blocks
    obtain ⟨s, hs, hl⟩ := List.mem_flatMap.mp hl
    obtain ⟨s', -, hstate⟩ := exists_source (mapM_eq_ok.mp hstates).flip hs
    rw [Plain.state, bind_eq_ok] at hstate
    obtain ⟨entry', hentry, hstate⟩ := hstate
    obtain ⟨exit', hexit, hstate⟩ := bind_eq_ok.mp hstate
    obtain ⟨transitions', htransitions, -⟩ := bind_eq_ok.mp hstate
    rcases List.mem_append.mp hl with hl | hl
    · rcases List.mem_append.mp hl with hl | hl
      · exact Plain.supplied_block hentry _ hl
      · exact Plain.supplied_block hexit _ hl
    · obtain ⟨t, ht, hl⟩ := List.mem_flatMap.mp hl
      obtain ⟨t', -, htransition⟩ := exists_source (mapM_eq_ok.mp htransitions).flip ht
      rw [Plain.transition, bind_eq_ok] at htransition
      obtain ⟨trigger', -, htransition⟩ := htransition
      obtain ⟨body', hbody, -⟩ := bind_eq_ok.mp htransition
      exact Plain.supplied_block hbody _ hl

end Chart

/-- The fields that go along with an emission through a service: those of the request or those of
the response. A message is none of a service. -/
def ServiceSchema.sentWith (schema : ServiceSchema) : Emission → List Field
  | .message => []
  | .request => schema.request
  | .response => schema.response

theorem Catalogue.nodup_sentWith {type : String} {schema : ServiceSchema}
    (h : service? type = some schema) (kind : Emission) :
    (Field.names (schema.sentWith kind)).Nodup := by
  unfold service? at h
  split at h <;> cases h <;> cases kind <;> decide

/-- What is emitted through a service has the fields of the type that is declared for it. The order
is the one in which they are written, not that of the type. -/
theorem Chart.perm_of_mem_actions {c plain : Chart} {r : Registry}
    (h : c.toPlain = .ok (plain, r)) {kind : Emission} (hkind : kind ≠ .message)
    {service : String} {fields : List Param} (hl : .emit kind service fields ∈ c.actions) :
    ∃ type schema, .endpoint kind.side service type ∈ c.declarations ∧
      Catalogue.service? type = some schema ∧
      (Field.names (schema.sentWith kind)).Perm (fields.map (·.name)) := by
  obtain ⟨type, htype, hdeclared⟩ := declared_of_mem_uses h (mem_uses_of_mem_actions hl rfl)
  obtain ⟨fs, hfs, hcheck⟩ := supplied_of_mem_actions h hl
  -- a request is looked up on the client's side, a response on the server's
  have hschema : r.schema? kind service =
      (Catalogue.service? type).map (·.sentWith kind) := by
    cases kind with
    | message => exact absurd rfl hkind
    | request =>
      change (r.type? .client service >>= Catalogue.service?).map _ = _
      rw [show r.type? .client service = some type from htype]
      rfl
    | response =>
      change (r.type? .server service >>= Catalogue.service?).map _ = _
      rw [show r.type? .server service = some type from htype]
      rfl
  rw [hschema] at hfs
  obtain ⟨schema, hservice, rfl⟩ := Option.map_eq_some_iff.mp hfs
  exact ⟨type, schema, hdeclared, hservice,
    perm_of_checkFields (Catalogue.nodup_sentWith hservice kind) hcheck⟩

/-! ### The events that constructs have become -/

namespace Chart

variable {c plain : Chart} {r : Registry} {flat service : String} {i : Nat}

/-- A request has become the event that the arbiter takes from this client. -/
theorem request_sent (h : c.toPlain = .ok (plain, r)) (hflat : Wire.flatName service = .ok flat)
    {fields : List Param} (hi : c.actions[i]? = some (.emit .request service fields)) :
    plain.actions[i]? = some (.send ((ServiceEvent.clientRequest c.name).text flat) fields) := by
  obtain ⟨a, ha, himage⟩ := exists_image (actions_image h) hi
  cases himage with
  | request _ hevent =>
    rw [ha, (ServiceEvent.onWire_eq_ok hflat (.clientRequest c.name)).mp hevent]

theorem response_sent (h : c.toPlain = .ok (plain, r)) (hflat : Wire.flatName service = .ok flat)
    {fields : List Param} (hi : c.actions[i]? = some (.emit .response service fields)) :
    plain.actions[i]? = some (.send (ServiceEvent.serverResponse.text flat) fields) := by
  obtain ⟨a, ha, himage⟩ := exists_image (actions_image h) hi
  cases himage with
  | response _ hevent => rw [ha, (ServiceEvent.onWire_eq_ok hflat .serverResponse).mp hevent]

theorem request_heard (h : c.toPlain = .ok (plain, r)) (hflat : Wire.flatName service = .ok flat)
    (hi : c.triggers[i]? = some (.reception .request service)) :
    plain.triggers[i]? = some (.events [ServiceEvent.serverRequest.text flat]) := by
  obtain ⟨t, ht, himage⟩ := exists_image (triggers_image h) hi
  cases himage with
  | request hevent => rw [ht, (ServiceEvent.onWire_eq_ok hflat .serverRequest).mp hevent]

/-- Who receives responses waits for the event with which the arbiter hands them back to this
client. -/
theorem response_heard (h : c.toPlain = .ok (plain, r)) (hflat : Wire.flatName service = .ok flat)
    (hi : c.triggers[i]? = some (.reception .response service)) :
    plain.triggers[i]? = some (.events [(ServiceEvent.clientResponse c.name).text flat]) := by
  obtain ⟨t, ht, himage⟩ := exists_image (triggers_image h) hi
  cases himage with
  | response hevent =>
    rw [ht, (ServiceEvent.onWire_eq_ok hflat (.clientResponse c.name)).mp hevent]

end Chart

/-- Empty self loops have no actions, so that no action is lost with them. The places of all other
actions stay the same, and constructs can be told by their place in the output as well. -/
theorem State.actions_withoutIdle (s : State) : s.withoutIdle.actions = s.actions := by
  rw [withoutIdle]
  split
  · -- a transition is dropped only if its body is empty
    have hkept : ∀ ts : List Transition,
        ((ts.filter (!·.isIdle s.id)).flatMap fun t => Block.leaves t.body) =
          ts.flatMap fun t => Block.leaves t.body := by
      intro ts
      induction ts with
      | nil => rfl
      | cons t ts ih =>
        by_cases hidle : t.isIdle s.id = true
        · have hbody : t.body = [] := by
            simp only [Transition.isIdle, Bool.and_eq_true, List.isEmpty_iff] at hidle
            exact hidle.2
          rw [List.filter_cons_of_neg (by simpa using hidle), ih, List.flatMap_cons, hbody]
          rfl
        · rw [List.filter_cons_of_pos (by simpa using hidle), List.flatMap_cons, ih,
            List.flatMap_cons]
    rw [State.actions, State.actions, hkept]
  · rfl

/-- Tidying a chart up keeps its actions and their places. -/
theorem Chart.actions_tidy (c : Chart) : c.tidy.actions = c.actions := by
  rw [tidy]
  split
  · rw [actions, withoutIdle, List.flatMap_map]
    simp only [State.actions_withoutIdle]
    rfl
  · rfl

/-! ### Agreement -/

/-- The transition takes the named fields of its event over, and sends them on with another one. The
values on the one side are those on the other, since nothing happens in between. -/
def Transition.Relays (t : Transition) (names : List String) (event : String) : Prop :=
  t.body = names.map (fun n => .assign n ("_event." ++ n)) ++
    [.send event (names.map fun n => ⟨n, n⟩)]

/-- Wherever the chart receives something of this kind from the service, its plain form waits for
the event and nothing else. -/
def Chart.Hears (c : Chart) (kind : Reception) (flat event : String) : Prop :=
  ∀ plain r, c.toPlain = .ok (plain, r) → ∀ (i : Nat) service,
    c.triggers[i]? = some (.reception kind service) → Wire.flatName service = .ok flat →
      plain.triggers[i]? = some (.events [event])

/-- All charts that take part in the service declare a type with this schema for it, on whichever
side and under whichever spelling. -/
def SchemaOf (charts : List Chart) (flat : String) (schema : ServiceSchema) : Prop :=
  ∀ c ∈ charts, ∀ side ∈ [Endpoint.server, .client], ∀ name type,
    .endpoint side name type ∈ c.declarations → Wire.flatName name = .ok flat →
      Catalogue.service? type = some schema

/-- The charts of a network and the arbiter of a service agree on the events of the service and on
the fields that go along with them. Constructs are told by their place; how they spell the service
does not matter. -/
structure Agreement (charts : List Chart) (flat : String) (schema : ServiceSchema)
    (server arbiter : Chart) : Prop where
  /-- all charts that take part mean the same fields -/
  schema_eq : SchemaOf charts flat schema
  /-- a request is taken by exactly one transition out of the waiting state, which takes over what
  was supplied and passes it on to the server -/
  requests : ∀ a ∈ charts, ∀ plain r, a.toPlain = .ok (plain, r) → ∀ (i : Nat) service fields,
    a.actions[i]? = some (.emit .request service fields) → Wire.flatName service = .ok flat →
      ∃ event waiting accept passed,
        plain.tidy.actions[i]? = some (.send event fields) ∧
        arbiter.state? "waiting" = some waiting ∧
        waiting.transitions.filter (·.trigger.accepts event) = [accept] ∧
        accept.trigger = .events [event] ∧
        accept.target = "processing_client_" ++ a.name ∧
        accept.Relays (Field.names schema.request) passed ∧
        (Field.names schema.request).Perm (fields.map (·.name)) ∧
        server.Hears .request flat passed
  /-- an answer is taken by the one transition of every other state -/
  responses : ∀ plain r, server.toPlain = .ok (plain, r) → ∀ (i : Nat) service fields,
    server.actions[i]? = some (.emit .response service fields) → Wire.flatName service = .ok flat →
      ∃ event, plain.tidy.actions[i]? = some (.send event fields) ∧
        (Field.names schema.response).Perm (fields.map (·.name)) ∧
        ∀ s ∈ arbiter.states, s.id ≠ "waiting" → ∃ t passed, s.transitions = [t] ∧
          t.trigger = .events [event] ∧ t.Relays (Field.names schema.response) passed
  /-- from the state of a client, an answer is passed on to that client -/
  returns : ∀ a ∈ partiesOf .client flat charts, ∃ s t passed,
    arbiter.state? ("processing_client_" ++ a.name) = some s ∧ s.transitions = [t] ∧
      t.Relays (Field.names schema.response) passed ∧ a.Hears .response flat passed

namespace Arbiter

theorem relays_relay (target trigger event : String) (fs : List Field) :
    (relay target trigger fs event).Relays (Field.names fs) event := by
  simp [Transition.Relays, relay, keep, Field.names, Function.comp_def]

/-- A client's request is taken by its own transition only. The names of clients are told apart by
the ends of their events. -/
theorem filter_accepts {flat client : String} {clients : List String} (schema : ServiceSchema)
    (hnodup : clients.Nodup) (hclient : client ∈ clients) :
    (waitingState flat schema clients).transitions.filter
      (·.trigger.accepts ((ServiceEvent.clientRequest client).text flat)) =
        [accept flat schema client] := by
  have hown : ∀ client', (accept flat schema client').trigger.accepts
      ((ServiceEvent.clientRequest client).text flat) = (client' == client) := by
    intro client'
    rw [Bool.eq_iff_iff, accepts_accept, ServiceEvent.text_inj, beq_iff_eq]
    exact ⟨fun h => (ServiceEvent.clientRequest.inj h).symm, fun h => by rw [h]⟩
  have hone : clients.filter (· == client) = [client] := by
    rw [List.filter_beq, List.count_eq_one_of_mem hnodup hclient]
    rfl
  rw [waitingState, List.filter_map]
  simp only [Function.comp_def, hown, hone]
  rfl

end Arbiter

/-- Who emits something through a service has declared it, and supplies the fields of its type. As
all parties declare the same type, these are the fields that the arbiter takes over. -/
theorem SchemaOf.supplied {charts : List Chart} {flat : String} {schema : ServiceSchema}
    (h : SchemaOf charts flat schema) {c plain : Chart} {r : Registry} (hc : c ∈ charts)
    (hplain : c.toPlain = .ok (plain, r)) {kind : Emission} (hkind : kind ≠ .message)
    {service : String} (hflat : Wire.flatName service = .ok flat) {fields : List Param}
    (hl : .emit kind service fields ∈ c.actions) :
    flat ∈ c.flatNames kind.side ∧
      (Field.names (schema.sentWith kind)).Perm (fields.map (·.name)) := by
  obtain ⟨type, schema', hdeclared, hservice, hperm⟩ :=
    Chart.perm_of_mem_actions hplain hkind hl
  have hside : kind.side ∈ [Endpoint.server, .client] := by
    cases kind with
    | message => exact absurd rfl hkind
    | request => decide
    | response => decide
  obtain rfl : schema' = schema := Option.some.inj
    (hservice.symm.trans (h c hc kind.side hside service type hdeclared hflat))
  exact ⟨Chart.mem_flatNames.mpr ⟨service, type, hdeclared, hflat⟩, hperm⟩

/-- The arbiter of a service agrees with the charts that the service has its parties from. Each part
compares what a construct of a chart has become with a transition of the arbiter. -/
theorem Service.HasParties.agreement {charts : List Chart} {flat : String} {s : Service}
    (hs : s.HasParties charts flat) (hnames : (charts.map (·.name)).Nodup)
    {interpret : Interpreter} {arbiter server : Chart} (h : s.arbiter interpret = .ok arbiter)
    (hserver : server ∈ charts) : ∃ schema, Agreement charts flat schema server arbiter := by
  obtain ⟨-, schema, flat', hschema, hflat', -, -, rfl⟩ := Service.arbiter_eq_ok.mp h
  obtain rfl := Except.ok.inj (hs.name.symm.trans hflat')
  have hnodup : s.clients.Nodup := by
    rw [hs.clients]
    exact hnames.sublist ((List.filter_sublist).map _)
  have hclient : ∀ {a : Chart}, a ∈ partiesOf .client flat charts → a.name ∈ s.clients := by
    intro a ha
    rw [hs.clients]
    exact List.mem_map_of_mem ha
  have hsame : SchemaOf charts flat schema := by
    intro c hc side hside name type hdeclared hflat
    rw [hs.type c hc side hside name type hdeclared hflat] at hschema
    exact hschema
  refine ⟨schema, hsame, ?_, ?_, ?_⟩
  · -- who asks has declared it, and so is one of the clients that the arbiter knows
    intro a ha plain r hplain i service fields hi hflat
    obtain ⟨hmem, hperm⟩ := hsame.supplied ha hplain (by decide) hflat (List.mem_of_getElem? hi)
    have hparty : a ∈ partiesOf .client flat charts :=
      List.mem_filter.mpr ⟨ha, decide_eq_true hmem⟩
    refine ⟨(ServiceEvent.clientRequest a.name).text flat, _, Arbiter.accept flat schema a.name,
      ServiceEvent.serverRequest.text flat, ?_, Arbiter.state?_waiting,
      Arbiter.filter_accepts schema hnodup (hclient hparty), rfl, rfl,
      Arbiter.relays_relay _ _ _ _, hperm, ?_⟩
    · rw [Chart.actions_tidy]
      exact Chart.request_sent hplain hflat hi
    · exact fun _ _ hplain' _ _ hj hflat' => Chart.request_heard hplain' hflat' hj
  · -- all states but the first one wait for the server's answer
    intro plain r hplain i service fields hi hflat
    obtain ⟨-, hperm⟩ := hsame.supplied hserver hplain (by decide) hflat (List.mem_of_getElem? hi)
    refine ⟨ServiceEvent.serverResponse.text flat, ?_, hperm, fun s' hs' hid => ?_⟩
    · rw [Chart.actions_tidy]
      exact Chart.response_sent hplain hflat hi
    · rcases List.mem_cons.mp hs' with rfl | hs'
      · exact absurd rfl hid
      · obtain ⟨client, -, rfl⟩ := List.mem_map.mp hs'
        exact ⟨Arbiter.answer flat schema client, _, rfl, rfl, Arbiter.relays_relay _ _ _ _⟩
  · -- each client has its own state, and gets the answer from there
    intro a ha
    refine ⟨Arbiter.servingState flat schema a.name, Arbiter.answer flat schema a.name, _,
      Arbiter.state?_processing (hclient ha), rfl, Arbiter.relays_relay _ _ _ _, ?_⟩
    exact fun _ _ hplain _ _ hj hflat => Chart.response_heard hplain hflat hj

/-- Who emits something through a service takes part in it: a request is one of a client, a response
is one of a server. -/
theorem Chart.mem_partiesOf {charts : List Chart} {c plain : Chart} {r : Registry}
    (hc : c ∈ charts) (h : c.toPlain = .ok (plain, r)) {kind : Emission} (hkind : kind ≠ .message)
    {service : String} {fields : List Param} (hl : .emit kind service fields ∈ c.actions) :
    ∃ flat ∈ servicesInOrder charts, Wire.flatName service = .ok flat ∧
      c ∈ partiesOf kind.side flat charts := by
  obtain ⟨type, -, hdeclared, -⟩ := perm_of_mem_actions h hkind hl
  obtain ⟨flat, hflat⟩ := flatName_of_declared h hdeclared
  have hmem : flat ∈ c.flatNames kind.side := mem_flatNames.mpr ⟨service, type, hdeclared, hflat⟩
  have hboth : flat ∈ c.flatNames .server ++ c.flatNames .client := by
    cases kind with
    | message => exact absurd rfl hkind
    | request => exact List.mem_append_right _ hmem
    | response => exact List.mem_append_left _ hmem
  exact ⟨flat, List.mem_eraseDups.mpr (List.mem_flatMap.mpr ⟨c, hc, hboth⟩), hflat,
    List.mem_filter.mpr ⟨hc, decide_eq_true hmem⟩⟩

/-- **Charts and arbiters agree on the wire.** Every chart comes out with its own events, what it
emits through a service it emits as a party of that service, and for every service there is an
arbiter that agrees with the charts, between its one server and its clients. So an event that one of
them sends with some fields is an event that the other one waits for, and takes just these fields
from. -/
theorem wire_agrees {interpret : Interpreter} {charts : List Chart} {out : Compiled}
    (h : Network.compile interpret charts = .ok out) :
    (∀ a ∈ charts, ∃ plain r, a.toPlain = .ok (plain, r) ∧ plain.tidy ∈ out.charts) ∧
    (∀ a ∈ charts, ∀ kind ≠ .message, ∀ service fields, .emit kind service fields ∈ a.actions →
      ∃ flat ∈ servicesInOrder charts, Wire.flatName service = .ok flat ∧
        a ∈ partiesOf kind.side flat charts) ∧
    ∀ flat ∈ servicesInOrder charts, ∃ schema server arbiter,
      partiesOf .server flat charts = [server] ∧
      arbiter ∈ out.charts ∧ arbiter.name = "srv_handler_" ++ flat ∧
      Agreement charts flat schema server arbiter := by
  obtain ⟨parts, arbiters, hparts, harbiters, hnodup, rfl⟩ := Network.compile_parts h
  have hplain : ∀ a ∈ charts, ∃ plain r, a.toPlain = .ok (plain, r) ∧ (plain, r) ∈ parts := by
    intro a ha
    obtain ⟨⟨plain, r⟩, hpart, hplain⟩ := exists_source hparts.flip ha
    exact ⟨plain, r, hplain, hpart⟩
  refine ⟨fun a ha => ?_, fun a ha kind hkind service fields hl => ?_, fun flat hservice => ?_⟩
  · obtain ⟨plain, r, hplain, hpart⟩ := hplain a ha
    refine ⟨plain, r, hplain, List.mem_append_left _ ?_⟩
    exact List.mem_map_of_mem (List.mem_map_of_mem hpart)
  · obtain ⟨plain, r, hplain, -⟩ := hplain a ha
    exact Chart.mem_partiesOf ha hplain hkind hl
  · -- the service of the arbiter has its parties from the charts
    obtain ⟨arbiter, harbiter, s, hs, hmade⟩ := exists_source harbiters.flip hservice
    obtain ⟨server, hserver, -⟩ := hs.server
    have hserver' : server ∈ charts := List.mem_of_mem_filter
      (show server ∈ partiesOf .server flat charts from hserver ▸ List.mem_singleton_self server)
    obtain ⟨schema, hagree⟩ := hs.agreement (List.nodup_append.mp hnodup).1 hmade hserver'
    exact ⟨schema, server, arbiter, hserver, List.mem_append_right _ harbiter,
      Service.arbiter_name hmade hs.name, hagree⟩

/-- A chart that asks inside a choice, and waits for the answer. -/
def Sample.calling (name service : String) : Chart where
  name := name
  initial := "start"
  data := [⟨"x", some "2", none⟩]
  declarations := [.endpoint .client service "std_srvs/SetBool"]
  states := [
    ⟨"start", [], [], [⟨"asked", .events [], none, [.choose [("x > 0", [.choose [("x > 1",
      [.emit .request service [⟨"data", "true"⟩]])] []])] []]⟩]⟩,
    ⟨"asked", [], [], [⟨"start", .reception .response service, none, []⟩]⟩]

/-- One server and two clients, with both spellings of the service. -/
def Sample.callers : List Chart :=
  [serving "a", calling "b" "set_bool", calling "c" "/set_bool"]

open Sample in
/-- The client of the sample asks inside a choice, and with another spelling than the server. There
is an arbiter for its request, and the parties are those of the one service. -/
theorem wire_agrees_sample :
    .emit .request "set_bool" [⟨"data", "true"⟩] ∈ (calling "b" "set_bool").actions ∧
    ∃ out flat schema server arbiter,
      Network.compile scriptInterpreter callers = .ok out ∧
      Wire.flatName "set_bool" = .ok flat ∧
      calling "b" "set_bool" ∈ partiesOf .client flat callers ∧
      partiesOf .server flat callers = [server] ∧
      arbiter ∈ out.charts ∧ arbiter.name = "srv_handler_" ++ flat ∧
      Agreement callers flat schema server arbiter := by
  have hask : .emit .request "set_bool" [⟨"data", "true"⟩] ∈ (calling "b" "set_bool").actions := by
    simp [Chart.actions, State.actions, calling, Block.leaves, Action.leaves, Branches.leaves,
      Branch.leaves]
  have hcompiled : (Network.compile scriptInterpreter callers).toOption.any
      (fun _ => true) = true := by decide +kernel
  obtain ⟨out, hout, -⟩ := exists_of_any hcompiled
  obtain ⟨-, hparty, hagree⟩ := wire_agrees hout
  obtain ⟨flat, hservice, hflat, hclient⟩ :=
    hparty (calling "b" "set_bool") (by simp [callers]) .request (by decide) _ _ hask
  obtain ⟨schema, server, arbiter, hserver, harbiter, hname, hagree⟩ := hagree flat hservice
  exact ⟨hask, out, flat, schema, server, arbiter, hout, hflat, hclient, hserver, harbiter, hname,
    hagree⟩

end ChartNet
