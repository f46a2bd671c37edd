import ChartNet.Proofs.Registries
import ChartNet.Proofs.Stopping
import ChartNet.Proofs.Synthesis

/-!
# What can be wrong with a service

A service can go wrong in two ways. A registration may be at odds with those before it, or the
parties that have registered in the end may have no arbiter. Here both are read off the
registrations, together with the fault that is reported.

* `Call.Violates` says that a call is at odds with earlier ones, and `Call.Breach` which of the
  rules is named if it breaks several of them. Calls for one service are found among those for all
  services by their flat names, and a service is called what it was called first (`nameOf?`).
* `Service.Lacks` says why there is no arbiter.
-/

namespace ChartNet

/-! ### Registrations -/

namespace Call

/-- The call is at odds with those before it: it names another type, registers a second server, a
client once more, or the same automaton on both sides. Which of these comes first does not matter
here. -/
def Violates (calls : List Call) (c : Call) : Prop :=
  (∃ d ∈ calls, d.type ≠ c.type) ∨ ((∃ a, c.server? = some a) ∧ servers calls ≠ []) ∨
  (∃ a, c.client? = some a ∧ a ∈ clients calls) ∨
  (∃ a, c.server? = some a ∧ a ∈ clients calls) ∨ ∃ a, c.client? = some a ∧ a ∈ servers calls

/-- The rule that a call breaks, the first one if it breaks several, and how it is reported. The
conditions of each rule say that the rules before it are kept. -/
inductive Breach (calls : List Call) : Call → ContractFault → Prop
  /-- it names another type than a call before it -/
  | type {c d : Call} (hd : d ∈ calls) (h : d.type ≠ c.type) :
    Breach calls c (.typeMismatch d.type c.type)
  /-- there is a server already -/
  | second {type a first : String} (htype : ∀ d ∈ calls, d.type = type)
    (h : first ∈ servers calls) : Breach calls (.server type a) (.multipleServers first a)
  /-- the client is there already -/
  | again {type a : String} (htype : ∀ d ∈ calls, d.type = type) (h : a ∈ clients calls) :
    Breach calls (.client type a) (.duplicateClient a)
  /-- who would serve is a client already -/
  | serving {type a : String} (htype : ∀ d ∈ calls, d.type = type) (hserver : servers calls = [])
    (h : a ∈ clients calls) : Breach calls (.server type a) (.clientAndServer a)
  /-- who would ask is the server already -/
  | asking {type a : String} (htype : ∀ d ∈ calls, d.type = type) (hclient : a ∉ clients calls)
    (h : a ∈ servers calls) : Breach calls (.client type a) (.clientAndServer a)

variable {calls : List Call} {c : Call} {cause : ContractFault}

theorem violates_server {type a : String} : Violates calls (server type a) ↔
    (∃ d ∈ calls, d.type ≠ type) ∨ servers calls ≠ [] ∨ a ∈ clients calls := by
  simp [Violates, Call.type, server?, client?]

theorem violates_client {type a : String} : Violates calls (client type a) ↔
    (∃ d ∈ calls, d.type ≠ type) ∨ a ∈ clients calls ∨ a ∈ servers calls := by
  simp [Violates, Call.type, server?, client?]

/-- A call that is at odds with earlier ones breaks some rule first. The constructors of `Breach`
are in the order in which the rules are checked. -/
theorem violates_iff : Violates calls c ↔ ∃ cause, Breach calls c cause := by
  refine ⟨fun h => ?_, ?_⟩
  · by_cases htype : ∃ d ∈ calls, d.type ≠ c.type
    · obtain ⟨d, hd, hne⟩ := htype
      exact ⟨_, .type hd hne⟩
    -- from here on types agree, and the parties are looked at in the order of the checks
    have hagree : ∀ d ∈ calls, d.type = c.type := by simpa using htype
    cases c with
    | server type a =>
      have hparty := (violates_server.mp h).resolve_left htype
      by_cases hserver : servers calls = []
      · exact ⟨_, .serving hagree hserver (hparty.resolve_left (not_not.mpr hserver))⟩
      · obtain ⟨first, hfirst⟩ := List.exists_mem_of_ne_nil _ hserver
        exact ⟨_, .second hagree hfirst⟩
    | client type a =>
      have hparty := (violates_client.mp h).resolve_left htype
      by_cases hclient : a ∈ clients calls
      · exact ⟨_, .again hagree hclient⟩
      · exact ⟨_, .asking hagree hclient (hparty.resolve_left hclient)⟩
  · rintro ⟨cause, hbreach⟩
    cases hbreach with
    | type hd hne => exact .inl ⟨_, hd, hne⟩
    | second _ h => exact .inr (.inl ⟨⟨_, rfl⟩, List.ne_nil_of_mem h⟩)
    | again _ h => exact .inr (.inr (.inl ⟨_, rfl, h⟩))
    | serving _ _ h => exact .inr (.inr (.inr (.inl ⟨_, rfl, h⟩)))
    | asking _ _ h => exact .inr (.inr (.inr (.inr ⟨_, rfl, h⟩)))

/-- Calls stay compatible as long as none is at odds with those before it. So the first call that is
refused is also the first that makes them incompatible. -/
theorem Compatible.concat_iff (h : Compatible calls) :
    Compatible (calls ++ [c]) ↔ ¬ Violates calls c := by
  cases c with
  | server type a =>
    rw [compatible_concat_server h, violates_server]
    simp
  | client type a =>
    rw [compatible_concat_client h, violates_client]
    simp

/-- The rule that is broken is the one that the service names. The service has taken the calls
before, so what it knows of its parties is what the calls tell. -/
theorem Compatible.after_of_breach (h : Compatible calls) (hbreach : Breach calls c cause)
    (name : String) : ((Service.named name).enrol calls).after c.step =
      (.error cause, (Service.named name).enrol calls) := by
  have hs := h.consistent name
  have hagrees : ∀ {type}, (∀ d ∈ calls, d.type = type) →
      Agrees ((Service.named name).enrol calls) type := (Service.agrees_enrol_named h.one_type).mpr
  have hserver : ∀ {a}, a ∈ servers calls →
      ((Service.named name).enrol calls).server? = some a := by
    intro a ha
    rw [Service.enrol_named, h.servers_eq_singleton ha]
    rfl
  have hclients : ((Service.named name).enrol calls).clients = clients calls := by
    rw [Service.enrol_named]
  cases hbreach with
  | @type _ d hd hne =>
    have hdisagrees : ¬ Agrees ((Service.named name).enrol calls) c.type :=
      fun hagree => hne ((Service.agrees_enrol_named h.one_type).mp hagree d hd)
    obtain ⟨expected, hexpected, -, hafter⟩ := Service.after_of_disagree hdisagrees
    -- the type that was agreed on is that of any earlier call
    obtain rfl := Option.some.inj ((Service.type?_enrol h hd).symm.trans hexpected)
    exact hafter
  | second htype hfirst => exact hs.after_second_server (hagrees htype) (hserver hfirst)
  | again htype hclient => exact hs.after_client_again (hagrees htype) (hclients ▸ hclient)
  | serving htype hnone hclient =>
    refine hs.after_client_serving (hagrees htype) ?_ (hclients ▸ hclient)
    rw [Service.enrol_named, hnone]
    rfl
  | asking htype hnone hfirst =>
    exact hs.after_server_asking (hagrees htype) (hclients ▸ hnone) (hserver hfirst)

end Call

namespace Network

/-- What the service with the given flat name is called by the first who registers with it. Faults
are reported under this name, even if the one at fault spells it differently. -/
def nameOf? (flat : String) (entries : List (String × Call)) : Option String :=
  (entries.find? fun e => Wire.flatName e.1 = .ok flat).map (·.1)

/-- The registration is at odds with those before it that are for the same service. -/
def Violating (prior : List (String × Call)) (e : String × Call) : Prop :=
  ∃ flat, Wire.flatName e.1 = .ok flat ∧ Call.Violates (callsFor flat prior) e.2

/-- What is reported of a registration that is at odds with those before it. -/
inductive Refused (prior : List (String × Call)) : String × Call → Fault → Prop
  /-- the breach is reported under the name that the service was first given -/
  | breach {name flat : String} {call : Call} {cause : ContractFault}
    (hflat : Wire.flatName name = .ok flat) (h : Call.Breach (callsFor flat prior) call cause) :
    Refused prior (name, call) (.contract ((nameOf? flat prior).getD name) cause)

section Calls

variable {entries : List (String × Call)} {services : List (String × Service)}
  {flat name : String} {call : Call}

/-- A registration at odds with those before it is refused for some reason. -/
theorem violating_iff {prior : List (String × Call)} {e : String × Call} :
    Violating prior e ↔ ∃ f, Refused prior e f := by
  refine ⟨?_, ?_⟩
  · rintro ⟨flat, hflat, h⟩
    obtain ⟨cause, hbreach⟩ := Call.violates_iff.mp h
    exact ⟨_, .breach hflat hbreach⟩
  · rintro ⟨f, hflat, hbreach⟩
    exact ⟨_, hflat, Call.violates_iff.mpr ⟨_, hbreach⟩⟩

theorem nameOf?_eq_none (h : ∀ e ∈ entries, Wire.flatName e.1 ≠ .ok flat) :
    nameOf? flat entries = none := by
  simpa [nameOf?, List.find?_eq_none] using h

theorem nameOf?_concat_self (h : Wire.flatName name = .ok flat) :
    nameOf? flat (entries ++ [(name, call)]) = some ((nameOf? flat entries).getD name) := by
  rw [nameOf?, nameOf?, List.find?_append]
  cases entries.find? fun e => Wire.flatName e.1 = .ok flat <;> simp [h]

theorem nameOf?_concat_other (h : Wire.flatName name ≠ .ok flat) :
    nameOf? flat (entries ++ [(name, call)]) = nameOf? flat entries := by
  rw [nameOf?, nameOf?, List.find?_append]
  cases entries.find? fun e => Wire.flatName e.1 = .ok flat <;> simp [h]

/-- If the services so far go by their first names, so does the one that is called next. -/
theorem Directory.serviceFor_name (h : Directory entries services)
    (hnames : ∀ e ∈ services, nameOf? e.1 entries = some e.2.name) :
    (serviceFor flat name services).name = (nameOf? flat entries).getD name := by
  rcases hfind : services.find? (·.1 = flat) with _ | e
  · rw [serviceFor, hfind, nameOf?_eq_none (h.not_called hfind)]
    rfl
  · have hkey : e.1 = flat := by simpa using List.find?_some hfind
    rw [serviceFor, hfind, ← hkey, hnames e (List.mem_of_find?_eq_some hfind)]
    rfl

/-- Every service goes by its first name. Later registrations may spell it differently, but do not
rename it. -/
theorem enlistCalls_names (h : entries.foldlM enlistCall [] = .ok services) :
    ∀ e ∈ services, nameOf? e.1 entries = some e.2.name := by
  induction entries using List.reverseRecOn generalizing services with
  | nil =>
    obtain rfl : [] = services := Except.ok.inj h
    simp
  | append_singleton entries entry ih =>
    obtain ⟨name, call⟩ := entry
    rw [List.foldlM_append, bind_eq_ok] at h
    obtain ⟨before, hbefore, h⟩ := h
    simp only [List.foldlM_cons, List.foldlM_nil, bind_pure] at h
    obtain ⟨flat, hflat, -, rfl⟩ := enlistCall_step hbefore h
    obtain ⟨-, hdirectory⟩ := (enlistCalls_spec entries).1 before hbefore
    intro e he
    rcases (mem_put hdirectory.keys_nodup).mp he with rfl | ⟨he, hne⟩
    · -- a registration does not rename the service
      have hname : (call.record (serviceFor flat name before)).name =
          (serviceFor flat name before).name := by cases call <;> rfl
      rw [nameOf?_concat_self hflat, hname, hdirectory.serviceFor_name (ih hbefore)]
    · rw [nameOf?_concat_other fun heq => hne (Except.ok.inj (hflat.symm.trans heq)).symm]
      exact ih hbefore e he

/-- A registration that is at odds with those before it fails as is reported of it. The directory
stands for the registrations before it, and the service goes by its first name. -/
theorem enlistCall_of_refused {e : String × Call} {f : Fault}
    (h : entries.foldlM enlistCall [] = .ok services) (hrefused : Refused entries e f) :
    enlistCall services e = .error f := by
  obtain @⟨name, flat, call, cause, hflat, hbreach⟩ := hrefused
  obtain ⟨hconsonant, hdirectory⟩ := (enlistCalls_spec entries).1 services h
  obtain ⟨name', -, hservice⟩ := hdirectory.serviceFor_eq hflat
  have hname : (serviceFor flat name services).name = (nameOf? flat entries).getD name :=
    hdirectory.serviceFor_name (enlistCalls_names h)
  have hafter := (hconsonant.compatible flat).after_of_breach hbreach name'
  rw [← hservice] at hafter
  rw [enlistCall, hflat, ← hname]
  change enlist flat name call.step services = _
  rw [enlist_eq, registered, hafter]
  rfl

/-- Registering goes on until a registration is at odds with those before it. What is told of a
registration depends on those before it only, so that the lemmas about runs that stop apply. -/
theorem foretold_enlistCall (prior : List (String × Call)) {l : List (String × Call)}
    (hl : ∀ e ∈ l, ∃ flat, Wire.flatName e.1 = .ok flat) :
    Foretold enlistCall
      (fun before services => (prior ++ before).foldlM enlistCall [] = .ok services)
      (fun before => Refused (prior ++ before)) l where
  ok := by
    rintro before ⟨name, call⟩ after services rfl hgood hnone
    obtain ⟨flat, hflat⟩ := hl (name, call) (by simp)
    obtain ⟨hconsonant, -⟩ := (enlistCalls_spec _).1 services hgood
    have hcompatible : Call.Compatible (callsFor flat ((prior ++ before) ++ [(name, call)])) := by
      rw [callsFor_append, callsFor_singleton, if_pos hflat,
        (hconsonant.compatible flat).concat_iff]
      exact fun hviolates => hnone (violating_iff.mp ⟨flat, hflat, hviolates⟩)
    obtain ⟨services', h⟩ := (enlistCalls_spec _).2 (hconsonant.concat hflat hcompatible)
    refine ⟨services', ?_, by rw [← List.append_assoc, h]⟩
    rw [List.foldlM_append, hgood, ok_bind] at h
    simpa using h
  error := fun _ hgood hrefused => enlistCall_of_refused hgood hrefused

end Calls

end Network

/-! ### Arbiters -/

/-- What is reported of a default value that the interpreter does not find to be of its type. -/
def FieldType.DefaultFault (interpret : Interpreter) (t : FieldType) (cause : ExprError) : Prop :=
  interpret t.defaultExpr [] = .error cause ∨
    ∃ v, interpret t.defaultExpr [] = .ok v ∧ t.admits v = false ∧ cause = ⟨t.defaultExpr, .type⟩

theorem FieldType.exists_defaultFault {interpret : Interpreter} {t : FieldType}
    (h : ¬ t.DefaultOk interpret) : ∃ cause, t.DefaultFault interpret cause := by
  rcases hvalue : interpret t.defaultExpr [] with cause | v
  · exact ⟨cause, .inl hvalue⟩
  · refine ⟨_, .inr ⟨v, hvalue, ?_, rfl⟩⟩
    exact Bool.eq_false_iff.mpr fun hadmits => h ⟨v, hvalue, hadmits⟩

/-- A field whose default value is not of its type gets no variable, and the report is passed on. -/
theorem Arbiter.variableOf_of_fault {interpret : Interpreter} {f : Field} {cause : ExprError}
    (h : f.type.DefaultFault interpret cause) :
    variableOf interpret f = .error (.expression cause) := by
  rw [variableOf]
  rcases h with h | ⟨v, h, hadmits, rfl⟩
  · simp [h]
  · simp [h, hadmits]

/-- A forbidden character in the name is what is found first. -/
theorem Chart.check_of_forbidden {c : Chart} {ch : Char} (hch : ch ∈ c.name.toList)
    (h : isForbiddenInName ch = true) : c.check = .error (.invalidName c.name) := by
  have hname : c.name.isEmpty = false := by
    apply Bool.eq_false_iff.mpr
    intro hempty
    rw [String.isEmpty_iff.mp hempty] at hch
    cases hch
  have hforbidden : c.name.toList.any isForbiddenInName = true := List.any_eq_true.mpr ⟨ch, hch, h⟩
  rw [Chart.check, hname, hforbidden]
  rfl

/-- A chart with such a name cannot be built, whatever its parts are. -/
theorem Builder.build_of_forbidden {b : Builder} {ch : Char} (hch : ch ∈ b.name.toList)
    (h : isForbiddenInName ch = true) :
    b.build = .error (.malformed b.name (.invalidName b.name)) := by
  have hcheck : b.draft.check = .error (.invalidName b.name) := Chart.check_of_forbidden hch h
  rw [build, hcheck]

namespace Service

/-- Why the calls for a service do not make up an arbiter, given what the service is called and its
flat name. The constructors are in the order in which the reasons are looked for, and each of them
excludes those before it. -/
inductive Lacks (interpret : Interpreter) (service flat : String) (calls : List Call) : Fault → Prop
  /-- nobody serves -/
  | server (h : Call.servers calls = []) :
    Lacks interpret service flat calls (.contract service .noServer)
  /-- somebody serves, but nobody asks -/
  | client (hserver : Call.servers calls ≠ []) (h : Call.clients calls = []) :
    Lacks interpret service flat calls (.contract service .noClients)
  /-- the parties are there, but the interpreter does not agree with a default value; it is the
  first such one that is reported -/
  | value {c : Call} {schema : ServiceSchema} {before after : List Field} {f : Field}
    {cause : ExprError} (hserver : Call.servers calls ≠ []) (hclient : Call.clients calls ≠ [])
    (hc : c ∈ calls) (hschema : Catalogue.service? c.type = some schema)
    (hfields : schema.request ++ schema.response = before ++ f :: after)
    (hbefore : ∀ g ∈ before, g.type.DefaultOk interpret) (h : f.type.DefaultFault interpret cause) :
    Lacks interpret service flat calls (.expression cause)
  /-- all the rest is there, but the arbiter cannot have its name -/
  | name {c : Call} {schema : ServiceSchema} (hserver : Call.servers calls ≠ [])
    (hclient : Call.clients calls ≠ []) (hc : c ∈ calls)
    (hschema : Catalogue.service? c.type = some schema)
    (hdefaults : ∀ f ∈ schema.request ++ schema.response, f.type.DefaultOk interpret)
    (h : '\\' ∈ flat.toList) :
    Lacks interpret service flat calls
      (.malformed ("srv_handler_" ++ flat) (.invalidName ("srv_handler_" ++ flat)))

variable {interpret : Interpreter} {service flat : String} {calls : List Call} {f : Fault}

theorem arbiter_of_contract_error {s : Service} {cause : ContractFault}
    (h : s.checkContract = .error cause) :
    s.arbiter interpret = .error (.contract s.name cause) := by
  rw [arbiter, h]
  rfl

/-- An arbiter is not to be had for the reason that is reported. Each stage of making it is taken up
to the one that fails. -/
theorem arbiter_of_lacks (hflat : Wire.flatName service = .ok flat) (hcalls : Call.Compatible calls)
    (hne : calls ≠ []) (h : Lacks interpret service flat calls f) :
    ((named service).enrol calls).arbiter interpret = .error f := by
  have hname : ((named service).enrol calls).name = service := by rw [enrol_named]
  obtain ⟨c₀, hc₀⟩ := List.exists_mem_of_ne_nil _ hne
  have htype : ((named service).enrol calls).type? = some c₀.type := type?_enrol hcalls hc₀
  -- the first two are found by the contract, the others once it is complete
  cases h with
  | server hserver =>
    have hcontract : ((named service).enrol calls).checkContract = .error .noServer := by
      rw [checkContract, htype, enrol_named, hserver]
      rfl
    rw [arbiter_of_contract_error hcontract, hname]
  | client hserver hclient =>
    have hcontract : ((named service).enrol calls).checkContract = .error .noClients := by
      rw [checkContract, htype, enrol_named, hclient, List.getLast?_eq_some_getLast hserver]
      rfl
    rw [arbiter_of_contract_error hcontract, hname]
  | value hserver hclient hc hschema hfields hbefore hf =>
    rw [arbiter_of_contract (checkContract_enrol hserver hclient) (type?_enrol hcalls hc) hschema
      (hname ▸ hflat), Arbiter.fields_eq hschema, hfields,
      mapM_error (fun g hg => ⟨_, Arbiter.variableOf_eq_ok.mpr ⟨hbefore g hg, rfl⟩⟩)
        (Arbiter.variableOf_of_fault hf), error_bind]
  | name hserver hclient hc hschema hdefaults hbackslash =>
    have hmem : '\\' ∈ ("srv_handler_" ++ flat).toList := by
      rw [String.toList_append]
      exact List.mem_append_right _ hbackslash
    rw [arbiter_of_contract (checkContract_enrol hserver hclient) (type?_enrol hcalls hc) hschema
      (hname ▸ hflat), Arbiter.fields_eq hschema,
      Arbiter.mapM_variableOf_eq_ok.mpr ⟨hdefaults, rfl⟩, ok_bind]
    exact Builder.build_of_forbidden hmem rfl

/-- Calls that lack nothing have an arbiter. The reasons in `Lacks` are thereby all reasons there
are. -/
theorem exists_arbiter_of_lacks_nothing (hflat : Wire.flatName service = .ok flat)
    (hcalls : Call.Compatible calls)
    (hknown : ∀ c ∈ calls, ∃ schema, Catalogue.service? c.type = some schema)
    (h : ¬ ∃ f, Lacks interpret service flat calls f) :
    ∃ a, ((named service).enrol calls).arbiter interpret = .ok a := by
  have hserver : Call.servers calls ≠ [] := fun hnil => h ⟨_, .server hnil⟩
  have hclient : Call.clients calls ≠ [] := fun hnil => h ⟨_, .client hserver hnil⟩
  have hne : calls ≠ [] := by
    rintro rfl
    exact hserver rfl
  obtain ⟨c, hc⟩ := List.exists_mem_of_ne_nil _ hne
  obtain ⟨schema, hschema⟩ := hknown c hc
  have hdefaults : ∀ f ∈ schema.request ++ schema.response, f.type.DefaultOk interpret := by
    rcases unfailing_or_first (fun _ f => ¬ f.type.DefaultOk interpret)
      (schema.request ++ schema.response) with hall | ⟨before, f, after, hfields, hbefore, hf⟩
    · exact fun f hf => not_not.mp (unfailing_iff_forall.mp hall f hf)
    · obtain ⟨cause, hfault⟩ := FieldType.exists_defaultFault hf
      refine absurd ⟨_, .value hserver hclient hc hschema hfields (fun g hg => ?_) hfault⟩ h
      exact not_not.mp (unfailing_iff_forall.mp hbefore g hg)
  have hbackslash : '\\' ∉ flat.toList := fun hmem =>
    h ⟨_, .name hserver hclient hc hschema hdefaults hmem⟩
  exact ⟨_, (arbiter_enrol_eq_ok hflat hcalls).mpr ⟨hserver, hclient, hbackslash, schema,
    ⟨c, hc, hschema⟩, by rw [Arbiter.fields_eq hschema]; exact hdefaults, rfl⟩⟩

end Service

end ChartNet
