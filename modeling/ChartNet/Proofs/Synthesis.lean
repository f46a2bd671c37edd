import ChartNet.Proofs.Agreement
import ChartNet.Proofs.Enrolment
import ChartNet.Proofs.Merging

/-!
# Which services have an arbiter, and what it looks like

An arbiter is put together in stages, each of which may fail, and the chart that comes out is
checked at the end. Of the things that could go wrong there only one can: the service may have a
backslash in its name, which no stage before the check minds.

* `Service.Arbitrable` is what it takes for a service to have an arbiter.
* `Arbiter.Form` describes the arbiter by its parts. The clients are those whose registration has
  succeeded, in order (`Service.accepted`), and of the service's name only the flat form is left.
-/

namespace ChartNet

/-! ### Registrations that succeed -/

namespace Service

/-- The calls that succeed when all are made one after the other. Calls that fail leave the service
as it was, and so can be left out. -/
def accepted (s : Service) : List Call → List Call
  | [] => []
  | c :: calls =>
    match s.after c.step with
    | (.ok (), s') => c :: accepted s' calls
    | (.error _, s') => accepted s' calls

variable {s : Service} {c : Call}

theorem accepted_of_fits (h : c.Fits s) (calls : List Call) :
    s.accepted (c :: calls) = c :: (c.record s).accepted calls := by
  rw [accepted, after_of_fits h]

/-- A call that does not fit leaves the service as it is. -/
theorem Consistent.accepted_of_not_fits (hs : s.Consistent) (h : ¬ c.Fits s) (calls : List Call) :
    s.accepted (c :: calls) = s.accepted calls := by
  obtain ⟨e, he⟩ := after_of_not_fits hs h
  rw [accepted, he]

/-- A service is what the calls that have succeeded have made of it. -/
theorem Consistent.afterCalls_eq (hs : s.Consistent) (calls : List Call) :
    s.afterCalls calls = s.enrol (s.accepted calls) := by
  induction calls generalizing s with
  | nil => rfl
  | cons c calls ih =>
    have hcons : s.afterCalls (c :: calls) = (s.after c.step).2.afterCalls calls := rfl
    by_cases h : c.Fits s
    · rw [hcons, after_of_fits h, accepted_of_fits h]
      exact ih (hs.record h)
    · obtain ⟨e, he⟩ := after_of_not_fits hs h
      rw [hcons, he, hs.accepted_of_not_fits h]
      exact ih hs

/-- What a service is called does not matter to a call. -/
theorem fits_renamed (name : String) : c.Fits { s with name } ↔ c.Fits s := by
  cases c <;> rfl

theorem Consistent.renamed (hs : s.Consistent) (name : String) :
    ({ s with name } : Service).Consistent :=
  ⟨hs.clients_nodup, hs.server_apart, hs.typed⟩

/-- The same calls succeed on a service of another name. -/
theorem Consistent.accepted_renamed (hs : s.Consistent) (name : String) (calls : List Call) :
    ({ s with name } : Service).accepted calls = s.accepted calls := by
  induction calls generalizing s with
  | nil => rfl
  | cons c calls ih =>
    by_cases h : c.Fits s
    · have hrecord : c.record { s with name } = { c.record s with name } := by cases c <;> rfl
      rw [accepted_of_fits h, accepted_of_fits ((fits_renamed name).mpr h), hrecord,
        ih (hs.record h)]
    · rw [hs.accepted_of_not_fits h,
        (hs.renamed name).accepted_of_not_fits (mt (fits_renamed name).mp h), ih hs]

/-- The same calls on a fresh service of another name leave the same parties. -/
theorem afterCalls_renamed (name name' : String) (calls : List Call) :
    (named name').afterCalls calls = { (named name).afterCalls calls with name := name' } := by
  have hsame : (named name').accepted calls = (named name).accepted calls :=
    (consistent_named name).accepted_renamed name' calls
  rw [(consistent_named name').afterCalls_eq, (consistent_named name).afterCalls_eq, hsame,
    enrol_named, enrol_named]

end Service

/-! ### Names of services -/

namespace Wire

theorem mem_bareName {name : String} {ch : Char} (h : ch ≠ '/') :
    ch ∈ bareName name ↔ ch ∈ name.toList := by
  unfold bareName
  split
  · simp_all
  · rfl

/-- Besides slashes and underscores, flattening keeps all characters and adds none. -/
theorem mem_flatten {cs : List Char} {ch : Char} (hslash : ch ≠ '/') (hunderscore : ch ≠ '_') :
    ch ∈ flatten cs ↔ ch ∈ cs := by
  rw [flatten, List.mem_flatMap]
  refine ⟨?_, fun h => ⟨ch, h, by simp [hslash]⟩⟩
  rintro ⟨d, hd, hmem⟩
  split_ifs at hmem
  · simp [hunderscore] at hmem
  · rwa [List.mem_singleton.mp hmem]

/-- Flattening only touches slashes, so that a backslash in a name is in its flat form as well. -/
theorem mem_of_flatName {name flat : String} (h : flatName name = .ok flat) {ch : Char}
    (hslash : ch ≠ '/') (hunderscore : ch ≠ '_') : ch ∈ flat.toList ↔ ch ∈ name.toList := by
  rw [eq_of_flatName h, String.toList_ofList, mem_flatten hslash hunderscore, mem_bareName hslash]

end Wire

/-! ### The form of an arbiter -/

/-- The transition takes one event, without a guard, and relays it as another one. -/
structure Transition.RelaysTo (t : Transition) (target trigger : String) (fields : List Field)
    (event : String) : Prop where
  /-- where the transition leads -/
  target : t.target = target
  /-- it takes one event -/
  trigger : t.trigger = .events [trigger]
  /-- it takes the event in any case -/
  unguarded : t.guard? = none
  /-- it keeps the fields of the event and sends them on -/
  relays : t.Relays (Field.names fields) event

namespace Arbiter

/-- The state takes a request of each of the clients, in their order, and of nobody else. -/
structure TakesRequests (flat : String) (schema : ServiceSchema) (clients : List String)
    (s : State) : Prop where
  /-- the state is the one that waits -/
  id : s.id = "waiting"
  /-- nothing is done on entering or leaving it -/
  no_content : s.entry = [] ∧ s.exit = []
  /-- one transition per client, in the order of the clients, passes the request on to the server -/
  requests : List.Forall₂ (fun client t => t.RelaysTo ("processing_client_" ++ client)
    ((ServiceEvent.clientRequest client).text flat) schema.request
    (ServiceEvent.serverRequest.text flat)) clients s.transitions

/-- The state takes the answer for the client, and nothing else. -/
structure TakesAnswer (flat : String) (schema : ServiceSchema) (client : String) (s : State) :
    Prop where
  /-- the state is that of the client -/
  id : s.id = "processing_client_" ++ client
  /-- nothing is done on entering or leaving it -/
  no_content : s.entry = [] ∧ s.exit = []
  /-- its only transition passes the answer on to the client -/
  answer : ∃ t, s.transitions = [t] ∧ t.RelaysTo "waiting" (ServiceEvent.serverResponse.text flat)
    schema.response ((ServiceEvent.clientResponse client).text flat)

/-- The parts of the arbiter of a service with the given flat name, fields and clients. Names are
written out, so that what the arbiter looks like can be read off without further definitions. -/
structure Form (flat : String) (schema : ServiceSchema) (clients : List String) (c : Chart) :
    Prop where
  /-- the chart is called after the service -/
  name : c.name = "srv_handler_" ++ flat
  /-- it starts by waiting -/
  initial : c.initial = "waiting"
  /-- it declares nothing -/
  plain : c.declarations = []
  /-- a variable for each field, with its type and its default value -/
  data : c.data = (schema.request ++ schema.response).map fun f =>
    ⟨f.name, some f.type.defaultExpr, some f.type.typeName⟩
  /-- no variable is there twice -/
  data_once : (c.data.map (·.id)).Nodup
  /-- a state that waits and then one for each client -/
  states : ∃ first serving, c.states = first :: serving ∧ TakesRequests flat schema clients first ∧
    List.Forall₂ (TakesAnswer flat schema) clients serving
  /-- no state is there twice -/
  states_once : (c.states.map (·.id)).Nodup
  /-- there are no other states -/
  count : c.states.length = 1 + clients.length
  /-- no transition is an empty self loop -/
  no_idle : ∀ s ∈ c.states, ∀ t ∈ s.transitions, ¬ (t.target = s.id ∧ t.body = [])

end Arbiter

/-- The request and the response of a known service share no field. The catalogue is gone through
entry by entry. -/
theorem Catalogue.nodup_fields {type : String} {schema : ServiceSchema}
    (h : service? type = some schema) :
    (Field.names (schema.request ++ schema.response)).Nodup := by
  unfold service? at h
  split at h <;> cases h <;> decide

namespace Arbiter

/-- Where the names differ there are no repetitions to leave out. -/
theorem distinct_eq_self {seen : List String} {fs : List Field} (hnodup : (Field.names fs).Nodup)
    (hnew : ∀ name ∈ Field.names fs, name ∉ seen) : distinct seen fs = fs := by
  induction fs generalizing seen with
  | nil => rfl
  | cons f fs ih =>
    obtain ⟨hf, hfs⟩ := List.nodup_cons.mp hnodup
    obtain ⟨hhead, htail⟩ := List.forall_mem_cons.mp hnew
    rw [distinct, if_neg (by simpa using hhead), ih hfs]
    intro name hname hmem
    rcases List.mem_cons.mp hmem with rfl | hmem
    · exact hf hname
    · exact htail name hname hmem

/-- No known service has a field of the same name in its request and its response. -/
theorem fields_eq {type : String} {schema : ServiceSchema}
    (h : Catalogue.service? type = some schema) :
    fields schema = schema.request ++ schema.response :=
  distinct_eq_self (Catalogue.nodup_fields h) fun _ _ => List.not_mem_nil

theorem relaysTo_relay (target trigger event : String) (fs : List Field) :
    (relay target trigger fs event).RelaysTo target trigger fs event :=
  ⟨rfl, rfl, rfl, relays_relay target trigger event fs⟩

/-- The first state of an arbiter takes the requests of all clients. -/
theorem takesRequests_waitingState (flat : String) (schema : ServiceSchema)
    (clients : List String) :
    TakesRequests flat schema clients (waitingState flat schema clients) where
  id := rfl
  no_content := ⟨rfl, rfl⟩
  requests := by
    rw [waitingState, List.forall₂_map_right_iff, List.forall₂_same]
    exact fun client _ => relaysTo_relay ..

theorem takesAnswer_servingState (flat : String) (schema : ServiceSchema) (client : String) :
    TakesAnswer flat schema client (servingState flat schema client) :=
  ⟨rfl, ⟨rfl, rfl⟩, _, rfl, relaysTo_relay ..⟩

/-- The arbiter in one piece has the parts that it should have. That no field is repeated is what
keeps a variable for each field. -/
theorem form_chart {flat type : String} {schema : ServiceSchema} {clients : List String}
    (hschema : Catalogue.service? type = some schema) (hclients : clients.Nodup) :
    Form flat schema clients (chart flat schema clients) where
  name := rfl
  initial := rfl
  plain := rfl
  data := by
    rw [chart, fields_eq hschema]
    rfl
  data_once := by
    have hnodup := distinct_nodup [] (schema.request ++ schema.response)
    simpa [chart, fields, fieldDatum, Function.comp_def] using hnodup
  states := by
    refine ⟨_, _, rfl, takesRequests_waitingState flat schema clients, ?_⟩
    rw [List.forall₂_map_right_iff, List.forall₂_same]
    exact fun client _ => takesAnswer_servingState flat schema client
  states_once := by
    rw [chart_ids]
    exact ids_nodup hclients
  count := by simp [chart, Nat.add_comm]
  no_idle := by
    rintro s hs t ht ⟨-, hbody⟩
    -- every transition ends with sending something
    rcases List.mem_cons.mp hs with rfl | hs
    · obtain ⟨client, -, rfl⟩ := List.mem_map.mp ht
      exact body_relay _ _ _ _ hbody
    · obtain ⟨client, -, rfl⟩ := List.mem_map.mp hs
      obtain rfl := List.mem_singleton.mp ht
      exact body_relay _ _ _ _ hbody

end Arbiter

/-! ### Which services have an arbiter -/

namespace Service

/-- What it takes for a service to have an arbiter: parties on both sides, a type with known fields
whose default values the interpreter accepts, and a name that an automaton may be called after. -/
structure Arbitrable (interpret : Interpreter) (s : Service) : Prop where
  /-- somebody has registered as the server -/
  server : ∃ automaton, s.server? = some automaton
  /-- somebody has registered as a client -/
  client : s.clients ≠ []
  /-- the type is known, and the interpreter agrees with the default values of its fields -/
  fields : ∃ type schema, s.type? = some type ∧ Catalogue.service? type = some schema ∧
    ∀ f ∈ schema.request ++ schema.response, f.type.DefaultOk interpret
  /-- the name has a flat form -/
  flat : ∃ flat, Wire.flatName s.name = .ok flat
  /-- the name can be a part of a chart's name -/
  no_backslash : '\\' ∉ s.name.toList

variable {interpret : Interpreter} {s : Service} {c : Chart}

/-- A consistent service has an arbiter under exactly these conditions. Consistency is needed for
the states: clients that were there twice would make two states of one name. -/
theorem Consistent.arbiter_iff (hs : s.Consistent) :
    (∃ c, s.arbiter interpret = .ok c) ↔ s.Arbitrable interpret := by
  refine ⟨fun ⟨c, hc⟩ => ?_, fun h => ?_⟩
  · obtain ⟨hcontract, schema, flat, hschema, hflat, hdefaults, hcheck, rfl⟩ := arbiter_eq_ok.mp hc
    obtain ⟨type, htype, hservice⟩ := Option.bind_eq_some_iff.mp hschema
    obtain ⟨-, hserver, hclient⟩ := checkContract_eq_ok.mp hcontract
    rw [Arbiter.fields_eq hservice] at hdefaults
    rw [Arbiter.check_chart hflat hservice hs.clients_nodup,
      Wire.mem_of_flatName hflat (by decide) (by decide)] at hcheck
    exact ⟨hserver, hclient, ⟨type, schema, htype, hservice, hdefaults⟩, ⟨flat, hflat⟩, hcheck⟩
  · obtain ⟨type, schema, htype, hservice, hdefaults⟩ := h.fields
    obtain ⟨flat, hflat⟩ := h.flat
    refine ⟨_, arbiter_eq_ok.mpr ⟨checkContract_eq_ok.mpr ⟨⟨type, htype⟩, h.server, h.client⟩,
      schema, flat, Option.bind_eq_some_iff.mpr ⟨type, htype, hservice⟩, hflat, ?_, ?_, rfl⟩⟩
    · rw [Arbiter.fields_eq hservice]
      exact hdefaults
    · rw [Arbiter.check_chart hflat hservice hs.clients_nodup,
        Wire.mem_of_flatName hflat (by decide) (by decide)]
      exact h.no_backslash

theorem Consistent.form_arbiter (hs : s.Consistent) (h : s.arbiter interpret = .ok c) :
    ∃ flat schema, Wire.flatName s.name = .ok flat ∧
      s.type?.bind Catalogue.service? = some schema ∧ Arbiter.Form flat schema s.clients c := by
  obtain ⟨-, schema, flat, hschema, hflat, -, -, rfl⟩ := arbiter_eq_ok.mp h
  obtain ⟨type, -, hservice⟩ := Option.bind_eq_some_iff.mp hschema
  exact ⟨flat, schema, hflat, hschema, Arbiter.form_chart hservice hs.clients_nodup⟩

/-- Services that are called alike, but for the spelling, have the same arbiter. -/
theorem arbiter_renamed {name : String} (h : Wire.flatName name = Wire.flatName s.name) :
    ({ s with name } : Service).arbiter interpret = .ok c ↔ s.arbiter interpret = .ok c := by
  simp only [arbiter_eq_ok, checkContract_eq_ok, h]

/-- **The arbiter of a service.** After any calls on a fresh service, failing ones among them, the
service has an arbiter exactly if it is arbitrable. The arbiter then has a state that takes the
requests of the clients, in the order in which they have registered, and for each client a state
that takes the answer; and a service whose name has the same flat form has the same one. -/
theorem arbiter_synthesis (interpret : Interpreter) (name : String) (calls : List Call) :
    ((∃ c, ((named name).afterCalls calls).arbiter interpret = .ok c) ↔
      ((named name).afterCalls calls).Arbitrable interpret) ∧
    (∀ c, ((named name).afterCalls calls).arbiter interpret = .ok c →
      ∃ flat schema, Wire.flatName name = .ok flat ∧
        ((named name).afterCalls calls).type?.bind Catalogue.service? = some schema ∧
        Arbiter.Form flat schema (Call.clients ((named name).accepted calls)) c) ∧
    ∀ name', Wire.flatName name' = Wire.flatName name → ∀ c,
      ((named name').afterCalls calls).arbiter interpret = .ok c ↔
        ((named name).afterCalls calls).arbiter interpret = .ok c := by
  have hs : ((named name).afterCalls calls).Consistent := (consistent_named name).afterCalls calls
  have hname : ((named name).afterCalls calls).name = name ∧
      ((named name).afterCalls calls).clients = Call.clients ((named name).accepted calls) := by
    rw [(consistent_named name).afterCalls_eq, enrol_named]
    exact ⟨rfl, rfl⟩
  refine ⟨hs.arbiter_iff, fun c hc => ?_, fun name' hflat c => ?_⟩
  · obtain ⟨flat, schema, hflat, hschema, hform⟩ := hs.form_arbiter hc
    rw [hname.1] at hflat
    rw [hname.2] at hform
    exact ⟨flat, schema, hflat, hschema, hform⟩
  · rw [afterCalls_renamed name name']
    apply arbiter_renamed
    rw [hflat, hname.1]

end Service

/-- Registrations of which every other one fails: they name another type, come second as a server,
or come twice as a client. -/
def Sample.contested : List Call :=
  [.client "std_srvs/SetBool" "b", .server "std_srvs/Empty" "a", .server "std_srvs/SetBool" "a",
    .server "std_srvs/SetBool" "c", .client "std_srvs/SetBool" "c", .client "std_srvs/SetBool" "b"]

open Service Sample in
/-- The second name is another spelling of the first, and so has the same arbiter; the third has a
backslash, and so has none. -/
theorem Service.arbiter_synthesis_sample :
    ∃ c, ((named "/s").afterCalls contested).arbiter scriptInterpreter = .ok c ∧
      Arbiter.Form "s" ⟨Catalogue.datum .boolean, Catalogue.outcome⟩ ["b", "c"] c ∧
      ((named "s").afterCalls contested).arbiter scriptInterpreter = .ok c ∧
      ∀ c', ((named "\\s").afterCalls contested).arbiter scriptInterpreter ≠ .ok c' := by
  have hservice : (named "/s").afterCalls contested =
      ⟨"/s", some "std_srvs/SetBool", some "a", ["b", "c"]⟩ := by decide
  have haccepted : Call.clients ((named "/s").accepted contested) = ["b", "c"] := by decide
  have hflat : Wire.flatName "/s" = .ok "s" := by decide
  have hknown : Catalogue.service? "std_srvs/SetBool" =
      some ⟨Catalogue.datum .boolean, Catalogue.outcome⟩ := by decide
  obtain ⟨hiff, hform, hrespelled⟩ := arbiter_synthesis scriptInterpreter "/s" contested
  have harbitrable : ((named "/s").afterCalls contested).Arbitrable scriptInterpreter := by
    rw [hservice]
    exact ⟨⟨"a", rfl⟩, by simp, ⟨_, _, rfl, hknown, fun f _ => f.type.defaultOk_script⟩,
      ⟨"s", hflat⟩, by decide⟩
  obtain ⟨c, hc⟩ := hiff.mpr harbitrable
  obtain ⟨flat, schema, hflat', hschema, hparts⟩ := hform c hc
  obtain rfl := Except.ok.inj (hflat.symm.trans hflat')
  rw [hservice] at hschema
  obtain rfl := Option.some.inj (hknown.symm.trans hschema)
  rw [haccepted] at hparts
  refine ⟨c, hc, hparts, (hrespelled "s" (by decide) c).mpr hc, fun c' hc' => ?_⟩
  obtain ⟨hiff', -⟩ := arbiter_synthesis scriptInterpreter "\\s" contested
  have hbackslash := (hiff'.mp ⟨c', hc'⟩).no_backslash
  revert hbackslash
  decide

end ChartNet
