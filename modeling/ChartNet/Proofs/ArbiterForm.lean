import ChartNet.Arbiter
import ChartNet.Proofs.EventNames
import ChartNet.Proofs.Registration
import ChartNet.Proofs.WellFormed

/-!
# The form of an arbiter

`Service.arbiter` puts an arbiter together step by step, and each step may fail. `Arbiter.chart` is
the chart that comes out, written down in one piece: it is given by the flat name of the service,
the fields of its type and its clients, and by nothing else.

`Service.arbiter_eq_ok` says when there is an arbiter, and that it is that chart;
`Arbiter.check_chart` says when that chart is well formed.
-/

namespace ChartNet

namespace Arbiter

/-- The transition that takes a client's request and asks the server. -/
def accept (flat : String) (schema : ServiceSchema) (client : String) : Transition :=
  relay (processing client) ((ServiceEvent.clientRequest client).text flat) schema.request
    (ServiceEvent.serverRequest.text flat)

/-- The transition that takes the server's answer and hands it to a client. -/
def answer (flat : String) (schema : ServiceSchema) (client : String) : Transition :=
  relay waiting (ServiceEvent.serverResponse.text flat) schema.response
    ((ServiceEvent.clientResponse client).text flat)

/-- The state in which requests are taken, with one transition for each client. -/
def waitingState (flat : String) (schema : ServiceSchema) (clients : List String) : State :=
  ⟨waiting, [], [], clients.map (accept flat schema)⟩

/-- The state in which a client is served. Its only transition leads back. -/
def servingState (flat : String) (schema : ServiceSchema) (client : String) : State :=
  ⟨processing client, [], [], [answer flat schema client]⟩

/-- The variable for a field. -/
def fieldDatum (f : Field) : Datum := ⟨f.name, some f.type.defaultExpr, some f.type.typeName⟩

/-- The fields of a service without repeated names, as the arbiter needs a variable for each name
only once. -/
def fields (schema : ServiceSchema) : List Field := distinct [] (schema.request ++ schema.response)

/-- An arbiter in one piece. The arbiter of a service is put together step by step, and each step
can fail; here nothing can fail any more, and `arbiter_eq_ok` says when the two are the same. -/
def chart (flat : String) (schema : ServiceSchema) (clients : List String) : Chart where
  name := Wire.arbiterPrefix ++ flat
  initial := waiting
  data := (fields schema).map fieldDatum
  declarations := []
  states := waitingState flat schema clients :: clients.map (servingState flat schema)

end Arbiter

/-- The interpreter finds the type's default value to be of the type. Nothing else is asked of an
interpreter by the making of arbiters. -/
def FieldType.DefaultOk (interpret : Interpreter) (t : FieldType) : Prop :=
  ∃ v, interpret t.defaultExpr [] = .ok v ∧ t.admits v = true

/-- Default values are scripts, and of their types. -/
theorem FieldType.defaultOk_script (t : FieldType) : t.DefaultOk scriptInterpreter := by
  have hvalue : ((scriptInterpreter t.defaultExpr []).toOption.map t.admits) = some true := by
    cases t <;> decide +kernel
  obtain ⟨v, hv, hadmits⟩ := Option.map_eq_some_iff.mp hvalue
  refine ⟨v, ?_, hadmits⟩
  rcases h : scriptInterpreter t.defaultExpr [] with e | v'
  · rw [h] at hv
    cases hv
  · rw [h] at hv
    rw [Option.some.inj hv]

namespace Arbiter

/-- A field gets a variable if its default value is of its type. -/
theorem variableOf_eq_ok {interpret : Interpreter} {f : Field} {d : Datum} :
    variableOf interpret f = .ok d ↔ f.type.DefaultOk interpret ∧ fieldDatum f = d := by
  rw [variableOf, FieldType.DefaultOk]
  rcases interpret f.type.defaultExpr [] with e | v
  · simp
  · by_cases h : f.type.admits v = true
    · simp [h, fieldDatum]
    · simp [h]

/-- The fields get their variables if all default values are of their types, and in the order of the
fields. -/
theorem mapM_variableOf_eq_ok {interpret : Interpreter} {fs : List Field} {ds : List Datum} :
    fs.mapM (variableOf interpret) = .ok ds ↔
      (∀ f ∈ fs, f.type.DefaultOk interpret) ∧ fs.map fieldDatum = ds := by
  rw [mapM_eq_ok]
  simp only [variableOf_eq_ok]
  induction fs generalizing ds with
  | nil => cases ds <;> simp
  | cons f fs ih => cases ds <;> simp [ih, and_assoc, and_left_comm]

/-- Every client gets a transition out of the waiting state. With the flat name known, none of the
event names can fail any more. -/
theorem mapM_requestRelay {service flat : String} (h : Wire.flatName service = .ok flat)
    (automaton : String) (schema : ServiceSchema) (clients : List String) :
    clients.mapM (requestRelay service automaton schema) =
      .ok (clients.map (accept flat schema)) := by
  have hrelay : requestRelay service automaton schema = fun c => .ok (accept flat schema c) := by
    funext client
    have hasked : Wire.clientRequest service client = _ :=
      ServiceEvent.onWire_of_flatName h (.clientRequest client)
    have hpassed : Wire.serverRequest service = _ :=
      ServiceEvent.onWire_of_flatName h .serverRequest
    rw [requestRelay, hasked, hpassed]
    rfl
  rw [hrelay]
  exact List.mapM_pure

/-- Every client gets a state in which it is served, again with the flat name known. -/
theorem mapM_processingState {service flat : String} (h : Wire.flatName service = .ok flat)
    (automaton : String) (schema : ServiceSchema) (clients : List String) :
    clients.mapM (processingState service automaton schema) =
      .ok (clients.map (servingState flat schema)) := by
  have hstate : processingState service automaton schema =
      fun c => .ok (servingState flat schema c) := by
    funext client
    have hanswered : Wire.serverResponse service = _ :=
      ServiceEvent.onWire_of_flatName h .serverResponse
    have hpassed : Wire.clientResponse service client = _ :=
      ServiceEvent.onWire_of_flatName h (.clientResponse client)
    rw [processingState, hanswered, hpassed]
    rfl
  rw [hstate]
  exact List.mapM_pure

end Arbiter

namespace Service

/-- A contract is complete if it has a type, a server and at least one client. -/
theorem checkContract_eq_ok {s : Service} :
    s.checkContract = .ok () ↔ (∃ type, s.type? = some type) ∧ (∃ a, s.server? = some a) ∧
      s.clients ≠ [] := by
  obtain ⟨name, type?, server?, clients⟩ := s
  rw [checkContract]
  rcases type? with _ | type <;> rcases server? with _ | server <;> rcases clients with _ | _ <;>
    simp

/-- With the parties complete, the fields known and a name to go by, only the data model and the
final check are left to fail. -/
theorem arbiter_of_contract {interpret : Interpreter} {s : Service} {type flat : String}
    {schema : ServiceSchema} (hcontract : s.checkContract = .ok ()) (htype : s.type? = some type)
    (hschema : Catalogue.service? type = some schema) (hflat : Wire.flatName s.name = .ok flat) :
    s.arbiter interpret =
      (Arbiter.fields schema).mapM (Arbiter.variableOf interpret) >>= fun data =>
        Builder.build { (Arbiter.chart flat schema s.clients).toBuilder with data } := by
  rw [arbiter, hcontract]
  simp only [htype, Option.getD_some, hschema, Wire.arbiterName, hflat]
  change ((Arbiter.fields schema).mapM (Arbiter.variableOf interpret) >>= fun data => _) = _
  rw [Arbiter.mapM_requestRelay hflat, Arbiter.mapM_processingState hflat]
  rfl

/-- When a service has an arbiter, and what it is. Everything that can fail on the way is a
condition; the arbiter itself is the chart in one piece, of which all other statements are made. -/
theorem arbiter_eq_ok {interpret : Interpreter} {s : Service} {c : Chart} :
    s.arbiter interpret = .ok c ↔ s.checkContract = .ok () ∧
      ∃ schema flat, s.type?.bind Catalogue.service? = some schema ∧
        Wire.flatName s.name = .ok flat ∧
        (∀ f ∈ Arbiter.fields schema, f.type.DefaultOk interpret) ∧
        (Arbiter.chart flat schema s.clients).check = .ok () ∧
        c = Arbiter.chart flat schema s.clients := by
  -- each stage that fails makes both sides false; after the last one the arbiter is in one piece
  rcases hcontract : s.checkContract with e | u
  · rw [arbiter, hcontract]
    change Except.error _ = _ ↔ _
    simp
  obtain ⟨⟨type, htype⟩, -, -⟩ := checkContract_eq_ok.mp hcontract
  rcases hschema : Catalogue.service? type with _ | schema
  · rw [arbiter, hcontract]
    simp only [htype, Option.getD_some, Option.bind_some, hschema]
    change Except.error _ = _ ↔ _
    simp
  rcases hflat : Wire.flatName s.name with e | flat
  · rw [arbiter, hcontract]
    simp only [htype, Option.getD_some, Option.bind_some, hschema, Wire.arbiterName, hflat]
    change Except.error _ = _ ↔ _
    simp
  rw [arbiter_of_contract hcontract htype hschema hflat, bind_eq_ok, htype, Option.bind_some]
  simp only [Builder.build_eq_ok, Arbiter.mapM_variableOf_eq_ok]
  constructor
  · rintro ⟨data, ⟨hdefaults, rfl⟩, hcheck, rfl⟩
    exact ⟨trivial, schema, flat, hschema, rfl, hdefaults, hcheck, rfl⟩
  · rintro ⟨-, schema', flat', hs, hf, hdefaults, hcheck, rfl⟩
    obtain rfl := Option.some.inj (hschema.symm.trans hs)
    obtain rfl := Except.ok.inj hf
    exact ⟨_, ⟨hdefaults, rfl⟩, hcheck, rfl⟩

end Service

/-! ### Well-formed arbiters -/

namespace Catalogue

/-- The names of all fields of known services. There are few enough of them to be looked at one by
one. -/
def serviceFieldNames : List String := ["data", "success", "message", "a", "b", "sum"]

/-- The fields of a known service have names out of a fixed list. What the list tells about names,
it tells about all known services. -/
theorem service?_fields {type : String} {schema : ServiceSchema}
    (h : service? type = some schema) :
    ∀ f ∈ schema.request ++ schema.response, f.name ∈ serviceFieldNames := by
  unfold service? at h
  split at h <;> cases h <;> decide

end Catalogue

namespace Arbiter

/-- Leaving out repetitions adds no fields. -/
theorem mem_of_mem_distinct {seen : List String} {fs : List Field} {f : Field}
    (h : f ∈ distinct seen fs) : f ∈ fs := by
  induction fs generalizing seen with
  | nil => cases h
  | cons g fs ih =>
    rw [distinct] at h
    split at h
    · exact List.mem_cons_of_mem _ (ih h)
    · rcases List.mem_cons.mp h with rfl | h
      · exact List.mem_cons_self ..
      · exact List.mem_cons_of_mem _ (ih h)

/-- The fields that are left have names that were not seen before. -/
theorem not_mem_seen_of_mem_distinct {seen : List String} {fs : List Field} {f : Field}
    (h : f ∈ distinct seen fs) : f.name ∉ seen := by
  induction fs generalizing seen with
  | nil => cases h
  | cons g fs ih =>
    rw [distinct] at h
    split_ifs at h with hseen
    · exact ih h
    · rcases List.mem_cons.mp h with rfl | h
      · simpa using hseen
      · exact fun hmem => ih h (List.mem_cons_of_mem _ hmem)

/-- The fields that are left have different names. -/
theorem distinct_nodup (seen : List String) (fs : List Field) :
    ((distinct seen fs).map (·.name)).Nodup := by
  induction fs generalizing seen with
  | nil => exact List.nodup_nil
  | cons g fs ih =>
    rw [distinct]
    split
    · exact ih seen
    · rw [List.map_cons, List.nodup_cons]
      refine ⟨?_, ih _⟩
      intro hmem
      obtain ⟨f, hf, hname⟩ := List.mem_map.mp hmem
      exact not_mem_seen_of_mem_distinct hf (by rw [hname]; exact List.mem_cons_self ..)

theorem processing_injective : Function.Injective processing := fun _ _ h =>
  (String.append_right_inj _).mp h

theorem toList_processing (client : String) :
    (processing client).toList = "processing_client_".toList ++ client.toList :=
  String.toList_append

/-- The waiting state is none of those in which a client is served, whatever the client is
called. -/
theorem waiting_ne_processing (client : String) : waiting ≠ processing client := by
  intro h
  have hchars : "waiting".toList = (processing client).toList := congrArg String.toList h
  rw [toList_processing] at hchars
  simp at hchars

@[simp] theorem chart_ids (flat : String) (schema : ServiceSchema) (clients : List String) :
    (chart flat schema clients).states.map (·.id) = waiting :: clients.map processing := by
  simp [chart, waitingState, servingState, Function.comp_def]

/-- A relay is well formed if its target is a state and it names events and fields. Both transitions
of an arbiter are of this form. -/
theorem check_relay {source target trigger event : String} {ids : List String}
    {fs : List Field} (htarget : target ∈ ids) (htrigger : trigger ≠ "") (hevent : event ≠ "")
    (hfields : ∀ f ∈ fs, f.name ≠ "") :
    (relay target trigger fs event).check source ids = .ok () := by
  rw [Transition.check_eq_ok]
  refine ⟨htarget, ?_, rfl, ?_⟩
  · simp [relay, Trigger.check, ensure_eq_ok, htrigger]
  · intro a ha
    rcases List.mem_append.mp ha with ha | ha
    · obtain ⟨f, hf, rfl⟩ := List.mem_map.mp ha
      simp [keep, Action.check, ensure_eq_ok, hfields f hf]
    · obtain rfl := List.mem_singleton.mp ha
      simp [Action.check, ensure_eq_ok, hevent]

/-- Of the characters that a chart's name may not have, a flat name can only have a backslash. The
others cannot stand in a name that has a flat form at all. -/
theorem name_clean_iff {service flat : String} (hflat : Wire.flatName service = .ok flat) :
    (∀ ch ∈ (Wire.arbiterPrefix ++ flat).toList, isForbiddenInName ch = false) ↔
      '\\' ∉ flat.toList := by
  have hprefix : ∀ ch ∈ Wire.arbiterPrefix.toList, isForbiddenInName ch = false := by
    have hall : (Wire.arbiterPrefix.toList.all fun ch => !isForbiddenInName ch) = true := by decide
    simpa only [List.all_eq_true, Bool.not_eq_true'] using hall
  rw [String.toList_append]
  constructor
  · intro hclean hmem
    have hfalse : isForbiddenInName '\\' = false := hclean '\\' (List.mem_append_right _ hmem)
    cases hfalse
  · intro hbackslash ch hch
    rcases List.mem_append.mp hch with hch | hch
    · exact hprefix ch hch
    · obtain ⟨hblank, hslash⟩ := Wire.flatName_clean hflat hch
      have hne : ch ≠ '\\' := fun he => hbackslash (he ▸ hch)
      simp [isForbiddenInName, hblank, hslash, hne]

/-- No state of an arbiter has an empty identifier. -/
theorem ids_ne_empty {clients : List String} {id : String}
    (h : id ∈ waiting :: clients.map processing) : id ≠ "" := by
  intro hempty
  rcases List.mem_cons.mp h with rfl | h
  · exact absurd hempty (by decide)
  · obtain ⟨client, -, rfl⟩ := List.mem_map.mp h
    have hchars := congrArg String.toList hempty
    rw [toList_processing] at hchars
    simp at hchars

/-- Different clients make different states. That clients differ is known of every service in
use. -/
theorem ids_nodup {clients : List String} (h : clients.Nodup) :
    (waiting :: clients.map processing).Nodup := by
  refine List.nodup_cons.mpr ⟨?_, h.map processing_injective⟩
  intro hmem
  obtain ⟨client, -, he⟩ := List.mem_map.mp hmem
  exact waiting_ne_processing client he.symm

/-- The states of an arbiter are well formed whatever its clients are called. The targets of its
transitions are among its states, and the events and fields have names. -/
theorem check_states {flat : String} {schema : ServiceSchema} {clients : List String}
    (hnames : ∀ f ∈ schema.request ++ schema.response, f.name ≠ "") :
    ∀ s ∈ (chart flat schema clients).states,
      s.check (waiting :: clients.map processing) = .ok () := by
  intro s hs
  rw [State.check_eq_ok]
  rcases List.mem_cons.mp hs with rfl | hs
  · refine ⟨by simp [waitingState], ?_⟩
    intro t ht
    obtain ⟨client, hclient, rfl⟩ := List.mem_map.mp ht
    refine check_relay ?_ (ServiceEvent.text_ne_empty _ _) (ServiceEvent.text_ne_empty _ _) ?_
    · exact List.mem_cons_of_mem _ (List.mem_map_of_mem hclient)
    · exact fun f hf => hnames f (List.mem_append_left _ hf)
  · obtain ⟨client, -, rfl⟩ := List.mem_map.mp hs
    refine ⟨by simp [servingState], ?_⟩
    intro t ht
    obtain rfl := List.mem_singleton.mp ht
    refine check_relay ?_ (ServiceEvent.text_ne_empty _ _) (ServiceEvent.text_ne_empty _ _) ?_
    · exact List.mem_cons_self ..
    · exact fun f hf => hnames f (List.mem_append_right _ hf)

/-- The only thing that can be wrong with an arbiter is a backslash in its name. So the final check
of an arbiter comes down to a condition on the service's name. -/
theorem check_chart {service flat type : String} {schema : ServiceSchema} {clients : List String}
    (hflat : Wire.flatName service = .ok flat) (hschema : Catalogue.service? type = some schema)
    (hclients : clients.Nodup) :
    (chart flat schema clients).check = .ok () ↔ '\\' ∉ flat.toList := by
  have hnames : ∀ f ∈ schema.request ++ schema.response, f.name ≠ "" := by
    intro f hf hempty
    have hname := Catalogue.service?_fields hschema f hf
    rw [hempty] at hname
    revert hname
    decide
  rw [Chart.check_eq_ok, ← name_clean_iff hflat, chart_ids]
  constructor
  · rintro ⟨⟨-, hname⟩, -⟩
    exact hname
  · intro hname
    -- left are the name, the identifiers, the initial state and the variables
    refine ⟨⟨?_, hname⟩, ⟨by simp [chart], ?_, ids_nodup hclients⟩, ?_, ⟨?_, ?_⟩,
      by simp [chart], check_states hnames⟩
    · intro hempty
      have hchars : (Wire.arbiterPrefix ++ flat).toList = "".toList :=
        congrArg String.toList hempty
      simp [String.toList_append, Wire.arbiterPrefix] at hchars
    · intro s hs
      have hid : s.id ∈ waiting :: clients.map processing := by
        rw [← chart_ids flat schema clients]
        exact List.mem_map_of_mem hs
      exact ids_ne_empty hid
    · exact ⟨waitingState flat schema clients, List.mem_cons_self .., rfl⟩
    · intro d hd
      obtain ⟨f, hf, rfl⟩ := List.mem_map.mp hd
      exact hnames f (mem_of_mem_distinct hf)
    · have hnodup := distinct_nodup [] (schema.request ++ schema.response)
      simpa [chart, fields, fieldDatum, Function.comp_def] using hnodup

end Arbiter

end ChartNet
