import ChartNet.Proofs.ArbiterForm
import ChartNet.Proofs.Run

/-!
# An arbiter alternates

An arbiter is run on events that anybody may have sent: requests of several clients at once, answers
that nobody has asked for, events it has never heard of. Whatever comes, it passes on a request and
then an answer, in turn, and the answer goes to the client whose request came before.

* `relay_run` is what a relay does; `react_waiting` and `react_processing` are what an arbiter does
  on one event, in each of its states.
* `Rounds` says that steps come in rounds. A run is followed from either kind of state: from a
  processing state on, the rounds start in the middle (`rounds_run`).
-/

namespace ChartNet

variable {V : Type}

/-- The names of fields. -/
def Field.names (fs : List Field) : List String := fs.map (·.name)

namespace Arbiter

/-! ### One step -/

/-- Taking over fields stores their values and sends nothing. -/
theorem run_keep (holds : Condition V) (payload vars : Valuation V) (fs : List Field) :
    Block.run holds payload vars (fs.map keep) = (payload.over (Field.names fs) vars, []) := by
  induction fs generalizing vars with
  | nil => simp [Block.run, Field.names]
  | cons f fs ih =>
    rw [List.map_cons, Block.run_cons, keep, Action.run, ih, readExpr_field]
    refine Prod.ext (funext fun g => ?_) rfl
    by_cases hg : g ∈ Field.names fs
    · simp_all [Valuation.over, Field.names]
    · by_cases hf : g = f.name
      · simp_all [Valuation.over, Field.names]
      · simp_all [Valuation.over, Field.names]

/-- The values that a relay sends are those that it has just taken over. It reads them from its
variables, by names that are not taken for fields of the event. -/
theorem readParams_relay (payload vars : Valuation V) {fs : List Field}
    (hfs : ∀ f ∈ fs, IsVariable f.name) :
    readParams payload (payload.over (Field.names fs) vars) (fs.map fun f => ⟨f.name, f.name⟩) =
      payload.only (Field.names fs) := by
  funext g
  rw [readParams]
  by_cases hg : g ∈ Field.names fs
  · obtain ⟨f, hf, hname⟩ := List.mem_map.mp hg
    have hfind : (fs.map fun f => (⟨f.name, f.name⟩ : Param)).find? (·.name == g) =
        some ⟨g, g⟩ := by
      refine find?_eq_some_of_unique (List.mem_map.mpr ⟨f, hf, by rw [← hname]⟩) (by simp) ?_
      intro p hp hpg
      obtain ⟨f', -, rfl⟩ := List.mem_map.mp hp
      have hf' : f'.name = g := by simpa using hpg
      rw [hf']
    rw [hfind, Option.bind_some, readExpr_variable _ _ (hname ▸ hfs f hf)]
    simp [Valuation.over, Valuation.only, hg]
  · have hfind : (fs.map fun f => (⟨f.name, f.name⟩ : Param)).find? (·.name == g) = none := by
      refine List.find?_eq_none.mpr fun p hp hpg => hg ?_
      obtain ⟨f, hf, rfl⟩ := List.mem_map.mp hp
      exact List.mem_map.mpr ⟨f, hf, by simpa using hpg⟩
    rw [hfind]
    simp [Valuation.only, hg]

/-- A relay sends one event, with the fields that it has taken over from the one at hand. -/
theorem relay_run (holds : Condition V) (payload vars : Valuation V)
    (target trigger event : String) {fs : List Field} (hfs : ∀ f ∈ fs, IsVariable f.name) :
    Block.run holds payload vars (relay target trigger fs event).body =
      (payload.over (Field.names fs) vars, [⟨event, payload.only (Field.names fs)⟩]) := by
  rw [relay, Block.run_append, run_keep]
  simp [Block.run, Action.run, readParams_relay payload vars hfs]

/-- Field names of known services are not taken for fields of an event. So the parameters of a relay
are read from the variables that it has just set. -/
theorem isVariable_of_service? {type : String} {schema : ServiceSchema}
    (h : Catalogue.service? type = some schema) :
    ∀ f ∈ schema.request ++ schema.response, IsVariable f.name := by
  have hall : ∀ name ∈ Catalogue.serviceFieldNames, IsVariable name := by decide
  exact fun f hf => hall f.name (Catalogue.service?_fields h f hf)

section Step

variable {flat : String} {schema : ServiceSchema} {clients : List String}

/-- The waiting state is the first one, and so it is found. -/
theorem state?_waiting :
    (chart flat schema clients).state? waiting = some (waitingState flat schema clients) := by
  simp [Chart.state?, chart, waitingState]

/-- The state in which a client is served is found under its identifier: no other client has the
same. -/
theorem state?_processing {client : String} (h : client ∈ clients) :
    (chart flat schema clients).state? (processing client) =
      some (servingState flat schema client) := by
  refine find?_eq_some_of_unique ?_ (by simp [servingState]) ?_
  · exact List.mem_cons_of_mem _ (List.mem_map_of_mem h)
  · intro s hs hid
    rcases List.mem_cons.mp hs with rfl | hs
    · exact absurd (by simpa [waitingState] using hid) (waiting_ne_processing client)
    · obtain ⟨client', -, rfl⟩ := List.mem_map.mp hs
      have hid' : processing client' = processing client := by simpa [servingState] using hid
      rw [processing_injective hid']

/-- Arbiters have neither entry nor exit content. -/
theorem effect_eq (s : State) (hs : s.exit = []) (t : Transition)
    (ht : t.target ∈ waiting :: clients.map processing) :
    (chart flat schema clients).effect s t = t.body := by
  have hentry : (((chart flat schema clients).state? t.target).map (·.entry)).getD [] = [] := by
    rcases List.mem_cons.mp ht with ht | ht
    · rw [ht, state?_waiting]
      rfl
    · obtain ⟨client, hclient, ht⟩ := List.mem_map.mp ht
      rw [← ht, state?_processing hclient]
      rfl
  rw [Chart.effect, hs, hentry, List.nil_append, List.append_nil]

/-- The transition of a client takes the request of that client and nothing else. -/
theorem accepts_accept {client event : String} :
    (accept flat schema client).trigger.accepts event = true ↔
      event = (ServiceEvent.clientRequest client).text flat := by
  simp [accept, relay, Trigger.accepts]

theorem accepts_answer {client event : String} :
    (answer flat schema client).trigger.accepts event = true ↔
      event = ServiceEvent.serverResponse.text flat := by
  simp [answer, relay, Trigger.accepts]

variable (holds : Condition V) {m : Machine V}

/-- While it waits, an arbiter passes the request of any of its clients on to the server. It goes
over to the state of that client, and has kept the fields of the request in its variables. -/
theorem react_waiting (hvars : ∀ f ∈ schema.request ++ schema.response, IsVariable f.name)
    (hm : m.state = waiting) {client : String} (hclient : client ∈ clients)
    (payload : Valuation V) :
    (chart flat schema clients).react holds m
        ⟨(ServiceEvent.clientRequest client).text flat, payload⟩ =
      some (⟨processing client, payload.over (Field.names schema.request) m.vars⟩,
        [⟨ServiceEvent.serverRequest.text flat,
          payload.only (Field.names schema.request)⟩]) := by
  -- no other transition takes the request, so it does not matter that the first one is taken
  have hfind : (waitingState flat schema clients).transitions.find? (fun t =>
      t.trigger.accepts ((ServiceEvent.clientRequest client).text flat) &&
        t.guard?.all (holds payload m.vars)) = some (accept flat schema client) := by
    refine find?_eq_some_of_unique (List.mem_map_of_mem hclient) ?_ ?_
    · exact Bool.and_eq_true_iff.mpr ⟨accepts_accept.mpr rfl, rfl⟩
    · intro t ht hp
      obtain ⟨client', -, rfl⟩ := List.mem_map.mp ht
      have hevent := accepts_accept.mp (Bool.and_eq_true_iff.mp hp).1
      obtain rfl : client = client' := by simpa using hevent
      rfl
  have htarget : (accept flat schema client).target ∈ waiting :: clients.map processing :=
    List.mem_cons_of_mem _ (List.mem_map_of_mem hclient)
  rw [Chart.react, hm, state?_waiting]
  simp only [Option.bind_eq_bind, Option.bind_some, hfind]
  rw [effect_eq _ rfl _ htarget, accept,
    relay_run holds _ _ _ _ _ fun f hf => hvars f (List.mem_append_left _ hf)]
  rfl

/-- While it waits, an arbiter takes nothing but requests of its clients. -/
theorem react_waiting_eq_none (hm : m.state = waiting) {msg : Message V}
    (h : ∀ client ∈ clients, msg.event ≠ (ServiceEvent.clientRequest client).text flat) :
    (chart flat schema clients).react holds m msg = none := by
  have hfind : (waitingState flat schema clients).transitions.find? (fun t =>
      t.trigger.accepts msg.event && t.guard?.all (holds msg.payload m.vars)) = none := by
    refine List.find?_eq_none.mpr fun t ht hp => ?_
    obtain ⟨client, hclient, rfl⟩ := List.mem_map.mp ht
    exact h client hclient (accepts_accept.mp (Bool.and_eq_true_iff.mp hp).1)
  rw [Chart.react, hm, state?_waiting]
  simp only [Option.bind_eq_bind, Option.bind_some, hfind, Option.bind_none]

/-- While it serves a client, an arbiter passes the server's answer on to that client, and waits
again. -/
theorem react_processing (hvars : ∀ f ∈ schema.request ++ schema.response, IsVariable f.name)
    {client : String} (hclient : client ∈ clients) (hm : m.state = processing client)
    (payload : Valuation V) :
    (chart flat schema clients).react holds m
        ⟨ServiceEvent.serverResponse.text flat, payload⟩ =
      some (⟨waiting, payload.over (Field.names schema.response) m.vars⟩,
        [⟨(ServiceEvent.clientResponse client).text flat,
          payload.only (Field.names schema.response)⟩]) := by
  have hfind : (servingState flat schema client).transitions.find? (fun t =>
      t.trigger.accepts (ServiceEvent.serverResponse.text flat) &&
        t.guard?.all (holds payload m.vars)) = some (answer flat schema client) := by
    rw [servingState, List.find?_cons_of_pos]
    exact Bool.and_eq_true_iff.mpr ⟨accepts_answer.mpr rfl, rfl⟩
  rw [Chart.react, hm, state?_processing hclient]
  simp only [Option.bind_eq_bind, Option.bind_some, hfind]
  rw [effect_eq _ rfl _ (List.mem_cons_self ..), answer,
    relay_run holds _ _ _ _ _ fun f hf => hvars f (List.mem_append_right _ hf)]
  rfl

/-- While it serves a client, an arbiter takes nothing but the server's answer. -/
theorem react_processing_eq_none {client : String} (hclient : client ∈ clients)
    (hm : m.state = processing client) {msg : Message V}
    (h : msg.event ≠ ServiceEvent.serverResponse.text flat) :
    (chart flat schema clients).react holds m msg = none := by
  have hfind : (servingState flat schema client).transitions.find? (fun t =>
      t.trigger.accepts msg.event && t.guard?.all (holds msg.payload m.vars)) = none := by
    refine List.find?_eq_none.mpr fun t ht hp => ?_
    obtain rfl := List.mem_singleton.mp ht
    exact h (accepts_answer.mp (Bool.and_eq_true_iff.mp hp).1)
  rw [Chart.react, hm, state?_processing hclient]
  simp only [Option.bind_eq_bind, Option.bind_some, hfind, Option.bind_none]

/-- The machine is in a state of the arbiter: it waits, or it serves one of the clients. -/
def InPhase (clients : List String) (m : Machine V) : Prop :=
  m.state = waiting ∨ ∃ client ∈ clients, m.state = processing client

/-- All that an arbiter can do on an event: open a round for a client, or close the round of the
client that it serves. -/
theorem react_cases (hvars : ∀ f ∈ schema.request ++ schema.response, IsVariable f.name)
    (hm : InPhase clients m) {msg : Message V} {m' : Machine V} {sent : List (Message V)}
    (h : (chart flat schema clients).react holds m msg = some (m', sent)) :
    (∃ client ∈ clients, m.state = waiting ∧
      msg.event = (ServiceEvent.clientRequest client).text flat ∧ m'.state = processing client ∧
      sent = [⟨ServiceEvent.serverRequest.text flat,
        msg.payload.only (Field.names schema.request)⟩]) ∨
    (∃ client ∈ clients, m.state = processing client ∧
      msg.event = ServiceEvent.serverResponse.text flat ∧ m'.state = waiting ∧
      sent = [⟨(ServiceEvent.clientResponse client).text flat,
        msg.payload.only (Field.names schema.response)⟩]) := by
  -- in either phase, an event is the one that is waited for, or nothing happens
  obtain ⟨event, payload⟩ := msg
  rcases hm with hm | ⟨client, hclient, hm⟩
  · by_cases hreq : ∃ client ∈ clients, event = (ServiceEvent.clientRequest client).text flat
    · obtain ⟨client, hclient, rfl⟩ := hreq
      rw [react_waiting holds hvars hm hclient] at h
      obtain ⟨rfl, rfl⟩ := Prod.mk.inj (Option.some.inj h)
      exact .inl ⟨client, hclient, hm, rfl, rfl, rfl⟩
    · rw [react_waiting_eq_none holds hm fun c hc he => hreq ⟨c, hc, he⟩] at h
      cases h
  · by_cases hresp : event = ServiceEvent.serverResponse.text flat
    · subst hresp
      rw [react_processing holds hvars hclient hm] at h
      obtain ⟨rfl, rfl⟩ := Prod.mk.inj (Option.some.inj h)
      exact .inr ⟨client, hclient, hm, rfl, rfl, rfl⟩
    · rw [react_processing_eq_none holds hclient hm hresp] at h
      cases h

/-- **Step lemma**: after a transition an arbiter is in one of its states again. -/
theorem InPhase.react (hvars : ∀ f ∈ schema.request ++ schema.response, IsVariable f.name)
    (hm : InPhase clients m) {msg : Message V} {m' : Machine V} {sent : List (Message V)}
    (h : (chart flat schema clients).react holds m msg = some (m', sent)) :
    InPhase clients m' := by
  rcases react_cases holds hvars hm h with
    ⟨client, hclient, -, -, hm', -⟩ | ⟨client, -, -, -, hm', -⟩
  · exact .inr ⟨client, hclient, hm'⟩
  · exact .inl hm'

end Step

/-! ### Whole runs -/

/-- The step takes the request of a client and asks the server. What is sent has the fields of the
request and no others, with the values that came along. -/
def Opens (service client : String) (r : Reaction V) : Prop :=
  Wire.clientRequest service client = .ok r.taken.event ∧
    ∃ msg, r.sent = [msg] ∧ Wire.serverRequest service = .ok msg.event

/-- The step takes the answer of the server and hands it to a client, again with the fields of the
answer and no others. -/
def Closes (service client : String) (r : Reaction V) : Prop :=
  Wire.serverResponse service = .ok r.taken.event ∧
    ∃ msg, r.sent = [msg] ∧ Wire.clientResponse service client = .ok msg.event

mutual

/-- The steps come in rounds: one that opens the round of a client, then one that closes the round
of the same client. The last round need not be over. -/
def Rounds (service : String) (clients : List String) : List (Reaction V) → Prop
  | [] => True
  | r :: rs => ∃ client ∈ clients, Opens service client r ∧ RoundOf service clients client rs

/-- The steps come in rounds, from the middle of the round of a client on. It is defined together
with `Rounds`, as each of the two goes over into the other. -/
def RoundOf (service : String) (clients : List String) (client : String) :
    List (Reaction V) → Prop
  | [] => True
  | r :: rs => Closes service client r ∧ Rounds service clients rs

end

section Run

variable {service flat : String} {schema : ServiceSchema} {clients : List String}
variable (holds : Condition V)

/-- Steps come in rounds, whether the run starts between two rounds or within one. The induction is
on the events; both statements are needed since a step leads from one to the other. -/
theorem rounds_run (hflat : Wire.flatName service = .ok flat)
    (hvars : ∀ f ∈ schema.request ++ schema.response, IsVariable f.name)
    (msgs : List (Message V)) (m : Machine V) :
    (m.state = waiting →
      Rounds service clients ((chart flat schema clients).run holds m msgs).2) ∧
    ∀ client ∈ clients, m.state = processing client →
      RoundOf service clients client ((chart flat schema clients).run holds m msgs).2 := by
  induction msgs generalizing m with
  | nil => exact ⟨fun _ => trivial, fun _ _ _ => trivial⟩
  | cons msg msgs ih =>
    rw [Chart.run]
    rcases hreact : (chart flat schema clients).react holds m msg with _ | ⟨m', sent⟩
    · exact ih m
    · -- the machine goes over to the other kind of state, where the induction hypothesis is about
      -- the other half of a round
      refine ⟨fun hm => ?_, fun client hclient hm => ?_⟩
      · rcases react_cases holds hvars (.inl hm) hreact with
          ⟨client, hclient, -, hevent, hm', rfl⟩ | ⟨client, -, hm', -⟩
        · refine ⟨client, hclient, ⟨?_, _, rfl, ?_⟩, (ih m').2 client hclient hm'⟩
          · rw [hevent]
            exact ServiceEvent.onWire_of_flatName hflat (.clientRequest client)
          · exact ServiceEvent.onWire_of_flatName hflat .serverRequest
        · exact absurd (hm.symm.trans hm') (waiting_ne_processing client)
      · rcases react_cases holds hvars (.inr ⟨client, hclient, hm⟩) hreact with
          ⟨client', -, hm', -⟩ | ⟨client', -, hm'', hevent, hm', rfl⟩
        · exact absurd (hm'.symm.trans hm) (waiting_ne_processing client)
        · obtain rfl := processing_injective (hm.symm.trans hm'')
          refine ⟨⟨?_, _, rfl, ?_⟩, (ih m').1 hm'⟩
          · rw [hevent]
            exact ServiceEvent.onWire_of_flatName hflat .serverResponse
          · exact ServiceEvent.onWire_of_flatName hflat (.clientResponse client)

/-- **Run lemma**: an arbiter never leaves its states, whatever events it is given. -/
theorem InPhase.run (hvars : ∀ f ∈ schema.request ++ schema.response, IsVariable f.name)
    (msgs : List (Message V)) {m : Machine V} (hm : InPhase clients m) :
    InPhase clients ((chart flat schema clients).run holds m msgs).1 := by
  induction msgs generalizing m with
  | nil => exact hm
  | cons msg msgs ih =>
    rw [Chart.run]
    rcases hreact : (chart flat schema clients).react holds m msg with _ | ⟨m', sent⟩
    · exact ih hm
    · exact ih (hm.react holds hvars hreact)

/-- In every state, an event has at most one transition. So it makes no difference which of the
enabled transitions is preferred. -/
theorem length_filter_accepts_le_one (hclients : clients.Nodup) {m : Machine V}
    (hm : InPhase clients m) :
    ∃ st, (chart flat schema clients).state? m.state = some st ∧
      ∀ event, (st.transitions.filter (·.trigger.accepts event)).length ≤ 1 := by
  rcases hm with hm | ⟨client, hclient, hm⟩
  · refine ⟨_, by rw [hm, state?_waiting], fun event => ?_⟩
    have hevent : ∀ client, (accept flat schema client).trigger.accepts event = true →
        event = (ServiceEvent.clientRequest client).text flat := fun _ => accepts_accept.mp
    rw [waitingState, List.filter_map, List.length_map]
    refine length_le_one_of_nodup (hclients.filter _) fun a ha b hb => ?_
    have ha' := hevent a (List.mem_filter.mp ha).2
    have hb' := hevent b (List.mem_filter.mp hb).2
    simpa using ha'.symm.trans hb'
  · refine ⟨_, by rw [hm, state?_processing hclient], fun event => ?_⟩
    exact List.length_filter_le _ _

end Run

end Arbiter

/-! ### Arbiters of services in use -/

/-- What an arbiter is made from, and what is known about it. -/
theorem Service.InUse.arbiter_form {interpret : Interpreter} {s : Service} (hs : s.InUse)
    {c : Chart} (hc : s.arbiter interpret = .ok c) :
    ∃ flat schema, Wire.flatName s.name = .ok flat ∧ s.type?.bind Catalogue.service? = some schema ∧
      c = Arbiter.chart flat schema s.clients ∧ s.clients.Nodup ∧
      ∀ f ∈ schema.request ++ schema.response, IsVariable f.name := by
  obtain ⟨-, schema, flat, hschema, hflat, -, -, rfl⟩ := Service.arbiter_eq_ok.mp hc
  obtain ⟨type, -, htype⟩ := Option.bind_eq_some_iff.mp hschema
  exact ⟨flat, schema, hflat, hschema, rfl, hs.consistent.clients_nodup,
    Arbiter.isVariable_of_service? htype⟩

open Arbiter in
/-- **An arbiter alternates**, whatever events it is given. Its steps come in rounds; it is always
in one of its states, and there an event has at most one transition; while it serves a client it
takes no request, and while it waits it takes no answer. Events that it does not take are lost, as a
chart has no memory for them. -/
theorem arbiter_alternates {interpret : Interpreter} {s : Service} (hs : s.InUse) {c : Chart}
    (hc : s.arbiter interpret = .ok c) (holds : Condition V) (vars : Valuation V)
    (inputs : List (Message V)) :
    Rounds s.name s.clients (c.steps holds vars inputs) ∧
    InPhase s.clients (c.reached holds vars inputs) ∧
    (∃ st, c.state? (c.reached holds vars inputs).state = some st ∧
      ∀ event, (st.transitions.filter (·.trigger.accepts event)).length ≤ 1) ∧
    (∀ client ∈ s.clients, (c.reached holds vars inputs).state = processing client →
      ∀ client' ∈ s.clients, ∀ event, Wire.clientRequest s.name client' = .ok event →
        ∀ payload, c.react holds (c.reached holds vars inputs) ⟨event, payload⟩ = none) ∧
    ((c.reached holds vars inputs).state = waiting →
      ∀ event, Wire.serverResponse s.name = .ok event →
        ∀ payload, c.react holds (c.reached holds vars inputs) ⟨event, payload⟩ = none) := by
  obtain ⟨flat, schema, hflat, -, rfl, hclients, hvars⟩ := hs.arbiter_form hc
  have hphase : InPhase s.clients ((chart flat schema s.clients).reached holds vars inputs) :=
    InPhase.run holds hvars inputs (.inl rfl)
  -- what is not taken follows from the phase: the event is of the other kind
  refine ⟨(rounds_run holds hflat hvars inputs _).1 rfl, hphase,
    length_filter_accepts_le_one hclients hphase, ?_, ?_⟩
  · intro client hclient hm client' hclient' event hevent payload
    refine react_processing_eq_none holds hclient hm ?_
    obtain rfl := (ServiceEvent.onWire_eq_ok hflat (.clientRequest client')).mp hevent
    simp
  · intro hm event hevent payload
    refine react_waiting_eq_none holds hm fun client hclient => ?_
    obtain rfl := (ServiceEvent.onWire_eq_ok hflat .serverResponse).mp hevent
    simp

/-! ### A service with two clients

The second client is called like a part of an event of the first one. -/

namespace Sample

/-- The registrations of the parties. -/
def calls : List Call :=
  [.client "std_srvs/SetBool" "b", .server "std_srvs/SetBool" "a",
    .client "std_srvs/SetBool" "b_response_client_b"]

/-- The service after these registrations, of which none fails. -/
def service : Service := (Service.named "/set_bool").afterCalls calls

/-- The fields of the service. -/
def schema : ServiceSchema := ⟨Catalogue.datum .boolean, Catalogue.outcome⟩

/-- The arbiter of the service. -/
def arbiter : Chart := Arbiter.chart "set_bool" schema ["b", "b_response_client_b"]

/-- The service of the sample is reached by registrations that all succeed. -/
theorem inUse_service : service.InUse := ⟨_, _, rfl⟩

/-- What the registrations have made of the service. The name of the second client is chosen to look
like an event of the first one. -/
theorem service_eq :
    service = ⟨"/set_bool", some "std_srvs/SetBool", some "a", ["b", "b_response_client_b"]⟩ := by
  decide

/-- The service has an arbiter. It is given in one piece, so that the sample can be evaluated. -/
theorem arbiter_service : service.arbiter scriptInterpreter = .ok arbiter := by
  have hflat : Wire.flatName "/set_bool" = .ok "set_bool" := by decide
  have hschema : Catalogue.service? "std_srvs/SetBool" = some schema := by decide
  rw [service_eq]
  refine Service.arbiter_eq_ok.mpr ⟨by decide, schema, "set_bool", hschema, hflat, ?_, ?_, rfl⟩
  · exact fun f _ => f.type.defaultOk_script
  · exact (Arbiter.check_chart hflat hschema (by decide)).mpr (by decide)

/-- Requests of both clients at once, then two answers of the server. -/
def inputs : List (Message Nat) :=
  ["srv_set_bool_req_client_b", "srv_set_bool_req_client_b_response_client_b",
    "srv_set_bool_response", "srv_set_bool_response"].map fun event => ⟨event, fun _ => some 1⟩

end Sample

/-- Of the four events, the first request and the first answer make a round. -/
theorem arbiter_alternates_sample :
    Arbiter.Rounds Sample.service.name Sample.service.clients
      (Sample.arbiter.steps (fun _ _ _ => true) (fun _ => none) Sample.inputs) ∧
    (Sample.arbiter.steps (fun _ _ _ => true) (fun _ => none) Sample.inputs).length = 2 :=
  ⟨(arbiter_alternates Sample.inUse_service Sample.arbiter_service _ _ _).1, by decide⟩

end ChartNet
