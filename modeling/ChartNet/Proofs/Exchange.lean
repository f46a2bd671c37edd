import ChartNet.Proofs.Alternation
import Mathlib.Algebra.BigOperators.Group.Finset.Basic
import Mathlib.Algebra.Order.Group.Multiset
import Mathlib.Algebra.BigOperators.Group.Multiset.Basic
import Mathlib.Logic.Relation
import Mathlib.Tactic.Abel

/-!
# Exchanges through an arbiter

An arbiter is put between the clients of its service and its server. Each client asks, waits for the
answer, and asks again; the server answers every request once. Messages are delivered in any order,
and one for which its receiver has no transition may be dropped.

* `Exchange` is the state of all parties and of the messages between them, and `Exchange.Step` what
  can happen to it. Clients and server keep a record of what they have seen.
* `Place` is where the request of a client has got to. `Tracks` ties an exchange to the places of
  all clients: every message and every piece of work belongs to exactly one client, and at most one
  client is being served. It is kept by every step (`Tracks.step`).
* `exists_round` is the other direction: a client can be taken from one place to the next until it
  has its answer.
-/

namespace ChartNet

variable {V : Type}

/-- A request together with its answer. -/
abbrev Dialogue (V : Type) := Valuation V × Valuation V

/-- The values are for these fields and for no others. Which values they are is left open. -/
def Carries (fs : List Field) (v : Valuation V) : Prop := ∀ f, (v f).isSome ↔ f ∈ Field.names fs

/-- Nothing is lost when such values are cut down to the fields. -/
theorem Carries.only_eq {fs : List Field} {v : Valuation V} (h : Carries fs v) :
    v.only (Field.names fs) = v := by
  funext f
  by_cases hf : f ∈ Field.names fs
  · simp [Valuation.only, hf]
  · have hnone : v f = none := by simpa using mt (h f).mp hf
    simp [Valuation.only, hf, hnone]

namespace Service

/-- The fields of a request. -/
def requestFields (s : Service) : List Field :=
  ((s.type?.bind Catalogue.service?).map (·.request)).getD []

/-- The fields of an answer. -/
def responseFields (s : Service) : List Field :=
  ((s.type?.bind Catalogue.service?).map (·.response)).getD []

end Service

/-- The parties of a service, its arbiter, and the messages between them. -/
structure Exchange (V : Type) where
  /-- the arbiter -/
  arbiter : Machine V
  /-- the request that a client waits for an answer to, if it does -/
  pending : String → Option (Valuation V)
  /-- the requests that the server works on -/
  working : Multiset (Valuation V)
  /-- the messages that are on their way -/
  pool : Multiset (Message V)
  /-- the requests that the server has answered, with its answers, in order -/
  answered : List (Dialogue V)
  /-- the requests for which a client has got an answer, with the answers, in order -/
  received : String → List (Dialogue V)

namespace Exchange

/-- Nobody has asked anything, and the arbiter is in its initial state. Its variables may have any
values, as they are set before they are used. -/
def start (c : Chart) (vars : Valuation V) : Exchange V :=
  ⟨c.start vars, fun _ => none, 0, 0, [], fun _ => []⟩

/-- What can happen, in the presence of the arbiter `c` of the service `s`. Messages are on their
way in a multiset, so that they may arrive in any order and after any delay. Server and clients are
free in when and what they ask and answer, but a client asks only if it does not wait for an
answer. -/
inductive Step (s : Service) (c : Chart) (holds : Condition V) : Exchange V → Exchange V → Prop
  /-- a client that does not wait for an answer asks -/
  | ask (g : Exchange V) (client event : String) (p : Valuation V) (hclient : client ∈ s.clients)
      (hpending : g.pending client = none) (hevent : Wire.clientRequest s.name client = .ok event)
      (hp : Carries s.requestFields p) :
      Step s c holds g
        { g with
          pending := Function.update g.pending client (some p)
          pool := ⟨event, p⟩ ::ₘ g.pool }
  /-- the arbiter takes a message -/
  | arbitrate (g : Exchange V) (msg : Message V) (rest : Multiset (Message V)) (m : Machine V)
      (sent : List (Message V)) (hpool : g.pool = msg ::ₘ rest)
      (hreact : c.react holds g.arbiter msg = some (m, sent)) :
      Step s c holds g { g with arbiter := m, pool := (sent : Multiset (Message V)) + rest }
  /-- the server takes a request -/
  | serve (g : Exchange V) (event : String) (p : Valuation V) (rest : Multiset (Message V))
      (hevent : Wire.serverRequest s.name = .ok event) (hpool : g.pool = ⟨event, p⟩ ::ₘ rest) :
      Step s c holds g { g with working := p ::ₘ g.working, pool := rest }
  /-- the server answers a request that it works on -/
  | answer (g : Exchange V) (event : String) (p q : Valuation V) (others : Multiset (Valuation V))
      (hevent : Wire.serverResponse s.name = .ok event) (hworking : g.working = p ::ₘ others)
      (hq : Carries s.responseFields q) :
      Step s c holds g
        { g with
          working := others
          pool := ⟨event, q⟩ ::ₘ g.pool
          answered := g.answered ++ [(p, q)] }
  /-- a client that waits for an answer gets one -/
  | receive (g : Exchange V) (client event : String) (p q : Valuation V)
      (rest : Multiset (Message V)) (hclient : client ∈ s.clients)
      (hpending : g.pending client = some p)
      (hevent : Wire.clientResponse s.name client = .ok event)
      (hpool : g.pool = ⟨event, q⟩ ::ₘ rest) :
      Step s c holds g
        { g with
          pending := Function.update g.pending client none
          pool := rest
          received := Function.update g.received client (g.received client ++ [(p, q)]) }
  /-- a message that nobody has a transition for is dropped -/
  | drop (g : Exchange V) (msg : Message V) (rest : Multiset (Message V))
      (hpool : g.pool = msg ::ₘ rest) (harbiter : c.react holds g.arbiter msg = none)
      (hserver : Wire.serverRequest s.name ≠ .ok msg.event)
      (hclients : ∀ client ∈ s.clients, Wire.clientResponse s.name client = .ok msg.event →
        g.pending client = none) :
      Step s c holds g { g with pool := rest }

/-- The exchange has come about from the start, by any number of steps. -/
def Reachable (s : Service) (c : Chart) (holds : Condition V) (vars : Valuation V)
    (g : Exchange V) : Prop :=
  Relation.ReflTransGen (Step s c holds) (start c vars) g

/-- How many messages with the given event are on their way. -/
def count (g : Exchange V) (event : Except NameFault String) : Nat :=
  g.pool.countP fun msg => event = .ok msg.event

end Exchange

/-- The part of a record that is due to a client, when the entries have the given owners. The order
of the record is kept. -/
def share (owners : List String) (record : List (Dialogue V)) (client : String) :
    List (Dialogue V) :=
  ((owners.zip record).filter (·.1 == client)).map (·.2)

/-! ### Where a request has got to -/

/-- Where the request of a client has got to. A client has at most one request at a time, and the
request, or its answer, is in one place. -/
inductive Place (V : Type) where
  /-- the client has not asked -/
  | idle
  /-- the request `p` is on its way to the arbiter -/
  | asking (p : Valuation V)
  /-- the request `p` was dropped -/
  | lost (p : Valuation V)
  /-- the request `p` is on its way to the server -/
  | forwarded (p : Valuation V)
  /-- the server works on the request `p` -/
  | worked (p : Valuation V)
  /-- the answer `q` to the request `p` is on its way to the arbiter -/
  | answered (p q : Valuation V)
  /-- the answer `q` to the request `p` is on its way to the client -/
  | returned (p q : Valuation V)

namespace Place

/-- The request itself. -/
def request? : Place V → Option (Valuation V)
  | idle => none
  | asking p | lost p | forwarded p | worked p | answered p _ | returned p _ => some p

/-- The answer to the request. -/
def response? : Place V → Option (Valuation V)
  | answered _ q | returned _ q => some q
  | _ => none

/-- The message that the request, or its answer, travels in. -/
def messages (flat client : String) : Place V → Multiset (Message V)
  | idle | lost _ | worked _ => 0
  | asking p => {⟨(ServiceEvent.clientRequest client).text flat, p⟩}
  | forwarded p => {⟨ServiceEvent.serverRequest.text flat, p⟩}
  | answered _ q => {⟨ServiceEvent.serverResponse.text flat, q⟩}
  | returned _ q => {⟨(ServiceEvent.clientResponse client).text flat, q⟩}

/-- What the server has to do for it. -/
def work : Place V → Multiset (Valuation V)
  | worked p => {p}
  | _ => 0

/-- The arbiter serves the client. -/
def served : Place V → Bool
  | forwarded _ | worked _ | answered _ _ => true
  | _ => false

/-- The answered request that the client has not heard of. -/
def unheard : Place V → List (Dialogue V)
  | answered p q | returned p q => [(p, q)]
  | _ => []

/-- The message tells the place. -/
theorem mem_messages {flat client : String} {place : Place V} {msg : Message V} :
    msg ∈ place.messages flat client ↔
      place = asking msg.payload ∧ msg.event = (ServiceEvent.clientRequest client).text flat ∨
      place = forwarded msg.payload ∧ msg.event = ServiceEvent.serverRequest.text flat ∨
      (∃ p, place = answered p msg.payload) ∧ msg.event = ServiceEvent.serverResponse.text flat ∨
      (∃ p, place = returned p msg.payload) ∧
        msg.event = (ServiceEvent.clientResponse client).text flat := by
  obtain ⟨event, payload⟩ := msg
  cases place with
  | idle | lost | worked => simp [messages]
  | asking | forwarded | answered | returned => simp [messages, and_comm, eq_comm]

/-- A client's request on its way to the arbiter comes from that client, which is at the stage of
asking. -/
theorem eq_asking {flat client client' : String} {place : Place V} {msg : Message V}
    (h : msg ∈ place.messages flat client)
    (hevent : msg.event = (ServiceEvent.clientRequest client').text flat) :
    client' = client ∧ place = asking msg.payload := by
  simpa [mem_messages, hevent, and_comm] using h

theorem eq_forwarded {flat client : String} {place : Place V} {msg : Message V}
    (h : msg ∈ place.messages flat client)
    (hevent : msg.event = ServiceEvent.serverRequest.text flat) :
    place = forwarded msg.payload := by
  simpa [mem_messages, hevent] using h

theorem eq_answered {flat client : String} {place : Place V} {msg : Message V}
    (h : msg ∈ place.messages flat client)
    (hevent : msg.event = ServiceEvent.serverResponse.text flat) :
    ∃ p, place = answered p msg.payload := by
  simpa [mem_messages, hevent] using h

theorem eq_returned {flat client client' : String} {place : Place V} {msg : Message V}
    (h : msg ∈ place.messages flat client)
    (hevent : msg.event = (ServiceEvent.clientResponse client').text flat) :
    client' = client ∧ ∃ p, place = returned p msg.payload := by
  simpa [mem_messages, hevent, and_comm] using h

/-- Nothing but the message is on its way for the client. -/
theorem messages_eq_singleton {flat client : String} {place : Place V} {msg : Message V}
    (h : msg ∈ place.messages flat client) : place.messages flat client = {msg} := by
  cases place with
  | idle | lost | worked => simp [messages] at h
  | asking | forwarded | answered | returned =>
    rw [messages, Multiset.mem_singleton] at h
    rw [messages, h]

theorem request?_eq_none {place : Place V} : place.request? = none ↔ place = idle := by
  cases place with
  | idle => simp [request?]
  | asking | lost | forwarded | worked | answered | returned => simp [request?]

theorem mem_work {place : Place V} {p : Valuation V} : p ∈ place.work ↔ place = worked p := by
  cases place with
  | worked p' => simp [work, eq_comm]
  | idle | asking | lost | forwarded | answered | returned => simp [work]

end Place

open Arbiter

/-- The arbiter waits and no client is served, or exactly the client is served that it is in the
state for. -/
def Phase (clients : List String) (place : String → Place V) (m : Machine V) : Prop :=
  m.state = waiting ∧ (∀ client ∈ clients, (place client).served = false) ∨
  ∃ client ∈ clients, m.state = processing client ∧
    ∀ other ∈ clients, (place other).served = true ↔ other = client

/-- The places account for all messages, for all work, and for the state of the arbiter. It is the
invariant of an exchange: whatever is on its way is on its way for one client, and each step moves
one client from its place to another. -/
structure Tracks (s : Service) (flat : String) (place : String → Place V) (g : Exchange V) :
    Prop where
  /-- each message is on its way for one of the clients, as its place says -/
  pool_eq : g.pool = ∑ client ∈ s.clients.toFinset, (place client).messages flat client
  /-- the server works for the clients whose place says so -/
  working_eq : g.working = ∑ client ∈ s.clients.toFinset, (place client).work
  /-- a client waits for the answer to the request at its place -/
  pending_eq : ∀ client ∈ s.clients, g.pending client = (place client).request?
  /-- the arbiter serves the client whose place says so, and waits if there is none -/
  phase : Phase s.clients place g.arbiter
  /-- requests have the fields of a request -/
  request_carries : ∀ client ∈ s.clients, ∀ p ∈ (place client).request?,
    Carries s.requestFields p
  /-- answers have the fields of an answer -/
  response_carries : ∀ client ∈ s.clients, ∀ q ∈ (place client).response?,
    Carries s.responseFields q

/-- The places account for the records: the server's record is shared out among the clients, and
what a client has not heard of is where its place says. -/
structure Accounts (s : Service) (place : String → Place V) (owners : List String)
    (g : Exchange V) : Prop where
  /-- each answer of the server has an owner -/
  length_eq : owners.length = g.answered.length
  /-- the owners are clients -/
  owners_mem : ∀ owner ∈ owners, owner ∈ s.clients
  /-- a client has received the answers that it owns, but for one that is still on its way -/
  share_eq : ∀ client ∈ s.clients, share owners g.answered client =
    g.received client ++ (place client).unheard

section Move

variable {s : Service} {flat : String} {place : String → Place V} {owners : List String}
  {g g' : Exchange V} {client : String} {x : Place V}

/-- A sum over all clients, after one of them has moved. What the others contribute is the same as
before. -/
theorem sum_update {M : Type} [AddCommMonoid M] {clients : List String} (f : String → Place V → M)
    (hclient : client ∈ clients) :
    (∑ c ∈ clients.toFinset, f c (Function.update place client x c)) + f client (place client) =
      f client x + ∑ c ∈ clients.toFinset, f c (place c) := by
  have hmem : client ∈ clients.toFinset := List.mem_toFinset.mpr hclient
  have hrest : ∑ c ∈ clients.toFinset.erase client, f c (Function.update place client x c) =
      ∑ c ∈ clients.toFinset.erase client, f c (place c) :=
    Finset.sum_congr rfl fun c hc => by rw [Function.update_of_ne (Finset.ne_of_mem_erase hc)]
  rw [← Finset.add_sum_erase _ _ hmem, hrest, Function.update_self,
    ← Finset.add_sum_erase _ (fun c => f c (place c)) hmem]
  abel

/-- The arbiter is not concerned when a client moves without its being served or not. -/
theorem Phase.update {clients : List String} {m : Machine V} (h : Phase clients place m)
    (hserved : x.served = (place client).served) :
    Phase clients (Function.update place client x) m := by
  have hplace : ∀ c, (Function.update place client x c).served = (place c).served := by
    intro c
    by_cases hc : c = client
    · rw [hc, Function.update_self, hserved]
    · rw [Function.update_of_ne hc]
  simpa only [Phase, hplace] using h

/-- A step that moves one client: what is gained and lost on the way and at the server is the
client's. All steps are cases of this. -/
theorem Tracks.move (h : Tracks s flat place g) (hclient : client ∈ s.clients)
    (hpool : g'.pool + (place client).messages flat client = x.messages flat client + g.pool)
    (hworking : g'.working + (place client).work = x.work + g.working)
    (hpending : g'.pending = Function.update g.pending client x.request?)
    (hphase : Phase s.clients (Function.update place client x) g'.arbiter)
    (hrequest : ∀ p ∈ x.request?, Carries s.requestFields p)
    (hresponse : ∀ q ∈ x.response?, Carries s.responseFields q) :
    Tracks s flat (Function.update place client x) g' where
  pool_eq := by
    -- what the client had on its way is taken from both sides
    rw [h.pool_eq, ← sum_update (fun c y => y.messages flat c) hclient] at hpool
    exact add_right_cancel hpool
  working_eq := by
    rw [h.working_eq, ← sum_update (fun _ y => y.work) hclient] at hworking
    exact add_right_cancel hworking
  pending_eq := by
    intro c hc
    rw [hpending]
    by_cases heq : c = client
    · rw [heq, Function.update_self, Function.update_self]
    · rw [Function.update_of_ne heq, Function.update_of_ne heq, h.pending_eq c hc]
  phase := hphase
  request_carries := by
    intro c hc
    by_cases heq : c = client
    · rwa [heq, Function.update_self]
    · rw [Function.update_of_ne heq]
      exact h.request_carries c hc
  response_carries := by
    intro c hc
    by_cases heq : c = client
    · rwa [heq, Function.update_self]
    · rw [Function.update_of_ne heq]
      exact h.response_carries c hc

/-- A step that takes the request of a client, or its answer, to the next place. -/
theorem Tracks.advance (h : Tracks s flat place g) (hclient : client ∈ s.clients)
    (hrequest : x.request? = (place client).request?)
    (hpool : g'.pool + (place client).messages flat client = x.messages flat client + g.pool)
    (hworking : g'.working + (place client).work = x.work + g.working)
    (hpending : g'.pending = g.pending)
    (hphase : Phase s.clients (Function.update place client x) g'.arbiter)
    (hresponse : ∀ q ∈ x.response?, Carries s.responseFields q) :
    Tracks s flat (Function.update place client x) g' := by
  refine h.move hclient hpool hworking ?_ hphase ?_ hresponse
  · rw [hrequest, ← h.pending_eq client hclient, Function.update_eq_self, hpending]
  · rw [hrequest]
    exact h.request_carries client hclient

/-- Nobody's record changes, and the client hears of nothing. -/
theorem Accounts.move (h : Accounts s place owners g) (hanswered : g'.answered = g.answered)
    (hreceived : g'.received = g.received) (hunheard : x.unheard = (place client).unheard) :
    Accounts s (Function.update place client x) owners g' where
  length_eq := hanswered ▸ h.length_eq
  owners_mem := h.owners_mem
  share_eq := by
    intro c hc
    rw [hanswered, hreceived, h.share_eq c hc]
    by_cases heq : c = client
    · rw [heq, Function.update_self, hunheard]
    · rw [Function.update_of_ne heq]

/-- A message on its way is on its way for one of the clients. -/
theorem Tracks.exists_client (h : Tracks s flat place g) {msg : Message V} (hmsg : msg ∈ g.pool) :
    ∃ client ∈ s.clients, msg ∈ (place client).messages flat client := by
  rw [h.pool_eq, Multiset.mem_sum] at hmsg
  simpa using hmsg

/-- The server works for one of the clients. -/
theorem Tracks.exists_worked (h : Tracks s flat place g) {p : Valuation V} (hp : p ∈ g.working) :
    ∃ client ∈ s.clients, place client = .worked p := by
  rw [h.working_eq, Multiset.mem_sum] at hp
  simpa [Place.mem_work] using hp

end Move

/-! ### What each step does to the places -/

/-- One message takes the place of another one. -/
theorem swap_message (new old : Message V) (rest : Multiset (Message V)) :
    (new ::ₘ rest) + {old} = {new} + (old ::ₘ rest) := by
  rw [← Multiset.singleton_add, ← Multiset.singleton_add, add_assoc, add_comm rest]

/-- A message is taken off the way. -/
theorem take_message (old : Message V) (rest : Multiset (Message V)) :
    rest + {old} = 0 + (old ::ₘ rest) := by
  rw [zero_add, ← Multiset.singleton_add, add_comm]

/-- Some places account for everything. Which client an answer of the server is due to is not
written on the answer; it is the one that the arbiter serves at that time. -/
def Followed (s : Service) (flat : String) (g : Exchange V) : Prop :=
  ∃ place owners, Tracks s flat place g ∧ Accounts s place owners g

section Steps

variable {s : Service} {flat : String} {schema : ServiceSchema} {place : String → Place V}
  {owners : List String} {g : Exchange V}

/-- A client that waits for nothing asks. It was idle, and its request is now on its way to the
arbiter. -/
theorem Tracks.ask (h : Tracks s flat place g) (ha : Accounts s place owners g) {client : String}
    (hclient : client ∈ s.clients) (hpending : g.pending client = none) {p : Valuation V}
    (hp : Carries s.requestFields p) :
    Followed s flat
      { g with
        pending := Function.update g.pending client (some p)
        pool := ⟨(ServiceEvent.clientRequest client).text flat, p⟩ ::ₘ g.pool } := by
  have hplace : place client = .idle :=
    Place.request?_eq_none.mp ((h.pending_eq client hclient).symm.trans hpending)
  refine ⟨Function.update place client (.asking p), owners,
    h.move hclient ?_ ?_ rfl ?_ ?_ ?_, ha.move rfl rfl ?_⟩
  · simp [hplace, Place.messages]
  · simp [hplace, Place.work]
  · exact h.phase.update (by simp [hplace, Place.served])
  · simpa [Place.request?] using hp
  · simp [Place.response?]
  · simp [hplace, Place.unheard]

/-- The arbiter passes a request on. Before, nobody was served, and now the client is. The message
that comes in and the one that goes out carry the same values, since a request has the fields of a
request and no others. -/
theorem Tracks.forward (h : Tracks s flat place g) (ha : Accounts s place owners g)
    {client : String} (hwaiting : g.arbiter.state = waiting) {msg : Message V}
    {rest : Multiset (Message V)} (hpool : g.pool = msg ::ₘ rest)
    (hevent : msg.event = (ServiceEvent.clientRequest client).text flat) {m : Machine V}
    (hm : m.state = processing client) :
    Followed s flat
      { g with
        arbiter := m
        pool := ⟨ServiceEvent.serverRequest.text flat,
          msg.payload.only (Field.names s.requestFields)⟩ ::ₘ rest } := by
  obtain ⟨c, hc, hmem⟩ := h.exists_client (hpool ▸ Multiset.mem_cons_self msg rest)
  have hmessages := Place.messages_eq_singleton hmem
  obtain ⟨rfl, hplace⟩ := Place.eq_asking hmem hevent
  have hcarries : Carries s.requestFields msg.payload :=
    h.request_carries client hc _ (by simp [hplace, Place.request?])
  refine ⟨Function.update place client (.forwarded msg.payload), owners,
    h.advance hc ?_ ?_ ?_ rfl ?_ ?_, ha.move rfl rfl ?_⟩
  · simp [hplace, Place.request?]
  · rw [hmessages, hpool, hcarries.only_eq]
    exact swap_message _ _ _
  · simp [hplace, Place.work]
  · refine .inr ⟨client, hc, hm, fun other hother => ?_⟩
    by_cases heq : other = client
    · simp [heq, Place.served]
    · -- the arbiter has been waiting, so nobody else is served
      rcases h.phase with ⟨-, hnone⟩ | ⟨c', -, hm', -⟩
      · simp [hnone other hother, heq]
      · exact absurd (hwaiting.symm.trans hm') (waiting_ne_processing c')
  · simp [Place.response?]
  · simp [hplace, Place.unheard]

/-- The server takes a request. It is the request of the client that is served, as no other can be
on its way to the server. -/
theorem Tracks.serve (h : Tracks s flat place g) (ha : Accounts s place owners g)
    {p : Valuation V} {rest : Multiset (Message V)}
    (hpool : g.pool = ⟨ServiceEvent.serverRequest.text flat, p⟩ ::ₘ rest) :
    Followed s flat { g with working := p ::ₘ g.working, pool := rest } := by
  obtain ⟨client, hc, hmem⟩ := h.exists_client (hpool ▸ Multiset.mem_cons_self _ rest)
  have hmessages := Place.messages_eq_singleton hmem
  have hplace : place client = .forwarded p := Place.eq_forwarded hmem rfl
  refine ⟨Function.update place client (.worked p), owners,
    h.advance hc ?_ ?_ ?_ rfl ?_ ?_, ha.move rfl rfl ?_⟩
  · simp [hplace, Place.request?]
  · rw [hmessages, hpool]
    exact take_message _ _
  · simp [hplace, Place.work]
  · exact h.phase.update (by simp [hplace, Place.served])
  · simp [Place.response?]
  · simp [hplace, Place.unheard]

/-- The server answers. The client that it has worked for becomes the owner of the answer. -/
theorem Tracks.answer (h : Tracks s flat place g) (ha : Accounts s place owners g)
    {p q : Valuation V} {others : Multiset (Valuation V)} (hworking : g.working = p ::ₘ others)
    (hq : Carries s.responseFields q) :
    Followed s flat
      { g with
        working := others
        pool := ⟨ServiceEvent.serverResponse.text flat, q⟩ ::ₘ g.pool
        answered := g.answered ++ [(p, q)] } := by
  obtain ⟨client, hc, hplace⟩ := h.exists_worked (hworking ▸ Multiset.mem_cons_self p others)
  -- the answer is credited to the client that the server has worked for
  refine ⟨Function.update place client (.answered p q), owners ++ [client],
    h.advance hc ?_ ?_ ?_ rfl ?_ ?_, ?_, ?_, fun c hc' => ?_⟩
  · simp [hplace, Place.request?]
  · simp [hplace, Place.messages]
  · rw [hworking, hplace, Place.work, ← Multiset.singleton_add, add_comm]
    exact (zero_add _).symm
  · exact h.phase.update (by simp [hplace, Place.served])
  · simpa [Place.response?] using hq
  · simp [ha.length_eq]
  · intro owner howner
    rcases List.mem_append.mp howner with howner | howner
    · exact ha.owners_mem owner howner
    · rwa [List.mem_singleton.mp howner]
  · have hshare := ha.share_eq c hc'
    rw [share] at hshare ⊢
    rw [List.zip_append ha.length_eq, List.filter_append, List.map_append, hshare]
    by_cases heq : c = client
    · simp [heq, hplace, Place.unheard]
    · simp [heq, Ne.symm heq]

/-- The arbiter passes an answer on, to the client that it serves, which is the one that the answer
is for. -/
theorem Tracks.handBack (h : Tracks s flat place g) (ha : Accounts s place owners g)
    {client : String} (hprocessing : g.arbiter.state = processing client) {msg : Message V}
    {rest : Multiset (Message V)} (hpool : g.pool = msg ::ₘ rest)
    (hevent : msg.event = ServiceEvent.serverResponse.text flat) {m : Machine V}
    (hm : m.state = waiting) :
    Followed s flat
      { g with
        arbiter := m
        pool := ⟨(ServiceEvent.clientResponse client).text flat,
          msg.payload.only (Field.names s.responseFields)⟩ ::ₘ rest } := by
  obtain ⟨c, hc, hmem⟩ := h.exists_client (hpool ▸ Multiset.mem_cons_self msg rest)
  have hmessages := Place.messages_eq_singleton hmem
  obtain ⟨p, hplace⟩ := Place.eq_answered hmem hevent
  -- the answer is for the client that is served, and no other one is
  rcases h.phase with ⟨hwaiting, -⟩ | ⟨client', -, hm', hserved⟩
  · exact absurd (hwaiting.symm.trans hprocessing) (waiting_ne_processing client)
  obtain rfl := processing_injective (hm'.symm.trans hprocessing)
  obtain rfl : c = client' := (hserved c hc).mp (by simp [hplace, Place.served])
  have hcarries : Carries s.responseFields msg.payload :=
    h.response_carries c hc _ (by simp [hplace, Place.response?])
  refine ⟨Function.update place c (.returned p msg.payload), owners,
    h.advance hc ?_ ?_ ?_ rfl ?_ ?_, ha.move rfl rfl ?_⟩
  · simp [hplace, Place.request?]
  · rw [hmessages, hpool, hcarries.only_eq]
    exact swap_message _ _ _
  · simp [hplace, Place.work]
  · refine .inl ⟨hm, fun other hother => ?_⟩
    by_cases heq : other = c
    · simp [heq, Place.served]
    · rw [Function.update_of_ne heq]
      exact Bool.eq_false_iff.mpr (mt (hserved other hother).mp heq)
  · simpa [Place.response?] using hcarries
  · simp [hplace, Place.unheard]

/-- A client gets its answer. What it has received is then all that it owns of the server's record,
and it is idle again. -/
theorem Tracks.receive (h : Tracks s flat place g) (ha : Accounts s place owners g)
    {client : String} {p q : Valuation V} (hpending : g.pending client = some p)
    {rest : Multiset (Message V)}
    (hpool : g.pool = ⟨(ServiceEvent.clientResponse client).text flat, q⟩ ::ₘ rest) :
    Followed s flat
      { g with
        pending := Function.update g.pending client none
        pool := rest
        received := Function.update g.received client (g.received client ++ [(p, q)]) } := by
  obtain ⟨c, hc, hmem⟩ := h.exists_client (hpool ▸ Multiset.mem_cons_self _ rest)
  have hmessages := Place.messages_eq_singleton hmem
  obtain ⟨rfl, p', hplace⟩ := Place.eq_returned hmem rfl
  -- what the client waits for is the request that was answered
  obtain rfl : p = p' := by
    simpa [hpending, hplace, Place.request?] using h.pending_eq client hc
  refine ⟨Function.update place client .idle, owners,
    h.move hc ?_ ?_ rfl ?_ ?_ ?_, ha.length_eq, ha.owners_mem, fun c hc' => ?_⟩
  · rw [hmessages, hpool]
    exact take_message _ _
  · simp [hplace, Place.work]
  · exact h.phase.update (by simp [hplace, Place.served])
  · simp [Place.request?]
  · simp [Place.response?]
  · have hshare := ha.share_eq c hc'
    by_cases heq : c = client
    · subst heq
      simpa [hplace, Place.unheard] using hshare
    · simpa [heq] using hshare

/-- Only a request on its way to the arbiter can be dropped: all else has somebody who takes it. The
client then waits for an answer that will never come, but nobody else is concerned. -/
theorem Tracks.drop (hflat : Wire.flatName s.name = .ok flat)
    (hvars : ∀ f ∈ schema.request ++ schema.response, IsVariable f.name)
    (h : Tracks s flat place g) (ha : Accounts s place owners g) (holds : Condition V)
    {msg : Message V} {rest : Multiset (Message V)} (hpool : g.pool = msg ::ₘ rest)
    (harbiter : (chart flat schema s.clients).react holds g.arbiter msg = none)
    (hserver : Wire.serverRequest s.name ≠ .ok msg.event)
    (hclients : ∀ client ∈ s.clients, Wire.clientResponse s.name client = .ok msg.event →
      g.pending client = none) :
    Followed s flat { g with pool := rest } := by
  obtain ⟨client, hc, hmem⟩ := h.exists_client (hpool ▸ Multiset.mem_cons_self msg rest)
  have hmessages := Place.messages_eq_singleton hmem
  have hpending := h.pending_eq client hc
  -- of the four messages there are, all but the request have somebody who takes them
  rcases Place.mem_messages.mp hmem with
    ⟨hplace, -⟩ | ⟨-, he⟩ | ⟨⟨p, hplace⟩, he⟩ | ⟨⟨p, hplace⟩, he⟩
  · refine ⟨Function.update place client (.lost msg.payload), owners,
      h.advance hc ?_ ?_ ?_ rfl ?_ ?_, ha.move rfl rfl ?_⟩
    · simp [hplace, Place.request?]
    · rw [hmessages, hpool]
      exact take_message _ _
    · simp [hplace, Place.work]
    · exact h.phase.update (by simp [hplace, Place.served])
    · simp [Place.response?]
    · simp [hplace, Place.unheard]
  · exact absurd ((ServiceEvent.onWire_eq_ok hflat .serverRequest).mpr he) hserver
  · -- an answer on its way means that the arbiter is in a state that takes answers
    rcases h.phase with ⟨-, hnone⟩ | ⟨client', hclient', hm, -⟩
    · simpa [hplace, Place.served] using hnone client hc
    · obtain ⟨event, payload⟩ := msg
      obtain rfl : event = ServiceEvent.serverResponse.text flat := he
      rw [react_processing holds hvars hclient' hm] at harbiter
      cases harbiter
  · have hnone := hclients client hc
      ((ServiceEvent.onWire_eq_ok hflat (.clientResponse client)).mpr he)
    rw [hpending, hplace, Place.request?] at hnone
    cases hnone

end Steps

/-! ### Whole exchanges -/

section Reachable

variable {s : Service} {flat : String} {schema : ServiceSchema} (holds : Condition V)

/-- At the start all clients are idle, and nothing has to be accounted for. -/
theorem Followed.start (vars : Valuation V) :
    Followed s flat (Exchange.start (chart flat schema s.clients) vars) := by
  refine ⟨fun _ => .idle, [], ⟨?_, ?_, ?_, .inl ⟨rfl, ?_⟩, ?_, ?_⟩, rfl, ?_, ?_⟩
  · simp [Exchange.start, Place.messages]
  · simp [Exchange.start, Place.work]
  · simp [Exchange.start, Place.request?]
  · simp [Place.served]
  · simp [Place.request?]
  · simp [Place.response?]
  · simp
  · simp [Exchange.start, share, Place.unheard]

/-- **Step lemma**: every step leaves everything accounted for. There is one lemma above for each
kind of step; an arbiter's step is one of two. -/
theorem Followed.step (hflat : Wire.flatName s.name = .ok flat)
    (hschema : s.type?.bind Catalogue.service? = some schema)
    (hvars : ∀ f ∈ schema.request ++ schema.response, IsVariable f.name) {g g' : Exchange V}
    (hg : Followed s flat g) (hstep : Exchange.Step s (chart flat schema s.clients) holds g g') :
    Followed s flat g' := by
  have hrequest : s.requestFields = schema.request := by simp [Service.requestFields, hschema]
  have hresponse : s.responseFields = schema.response := by simp [Service.responseFields, hschema]
  obtain ⟨place, owners, h, ha⟩ := hg
  cases hstep with
  | ask client event p hclient hpending hevent hp =>
    obtain rfl := (ServiceEvent.onWire_eq_ok hflat (.clientRequest client)).mp hevent
    exact h.ask ha hclient hpending hp
  | arbitrate msg rest m sent hpool hreact =>
    have hphase : InPhase s.clients g.arbiter :=
      h.phase.imp (·.1) fun ⟨client, hclient, hm, _⟩ => ⟨client, hclient, hm⟩
    -- the arbiter opens a round or closes one
    rcases react_cases holds hvars hphase hreact with
      ⟨client, -, hwaiting, hevent, hm, rfl⟩ | ⟨client, -, hprocessing, hevent, hm, rfl⟩
    · exact hrequest ▸ h.forward ha hwaiting hpool hevent hm
    · exact hresponse ▸ h.handBack ha hprocessing hpool hevent hm
  | serve event p rest hevent hpool =>
    obtain rfl := (ServiceEvent.onWire_eq_ok hflat .serverRequest).mp hevent
    exact h.serve ha hpool
  | answer event p q others hevent hworking hq =>
    obtain rfl := (ServiceEvent.onWire_eq_ok hflat .serverResponse).mp hevent
    exact h.answer ha hworking hq
  | receive client event p q rest hclient hpending hevent hpool =>
    obtain rfl := (ServiceEvent.onWire_eq_ok hflat (.clientResponse client)).mp hevent
    exact h.receive ha hpending hpool
  | drop msg rest hpool harbiter hserver hclients =>
    exact h.drop hflat hvars ha holds hpool harbiter hserver hclients

/-- **Run lemma**: in every exchange that has come about, everything is accounted for. -/
theorem Followed.reachable (hflat : Wire.flatName s.name = .ok flat)
    (hschema : s.type?.bind Catalogue.service? = some schema)
    (hvars : ∀ f ∈ schema.request ++ schema.response, IsVariable f.name) {vars : Valuation V}
    {g : Exchange V} (hg : Exchange.Reachable s (chart flat schema s.clients) holds vars g) :
    Followed s flat g := by
  induction hg with
  | refl => exact Followed.start vars
  | tail _ hstep ih => exact ih.step holds hflat hschema hvars hstep

open Exchange in
/-- A client can always be served, given that the arbiter waits and the client does not wait for an
answer. The steps of the round are made one after the other: nothing that is on its way for other
clients has to move. -/
theorem exists_round (hflat : Wire.flatName s.name = .ok flat)
    (hschema : s.type?.bind Catalogue.service? = some schema)
    (hvars : ∀ f ∈ schema.request ++ schema.response, IsVariable f.name) {g : Exchange V}
    (hwaiting : g.arbiter.state = waiting) {client : String} (hclient : client ∈ s.clients)
    (hpending : g.pending client = none) {p q : Valuation V} (hp : Carries s.requestFields p)
    (hq : Carries s.responseFields q) :
    ∃ g', Relation.ReflTransGen (Step s (chart flat schema s.clients) holds) g g' ∧
      g'.arbiter.state = waiting ∧ g'.pending client = none ∧
      g'.received client = g.received client ++ [(p, q)] := by
  have hrequest : s.requestFields = schema.request := by simp [Service.requestFields, hschema]
  have hresponse : s.responseFields = schema.response := by simp [Service.responseFields, hschema]
  have hevent := ServiceEvent.onWire_of_flatName hflat
  obtain ⟨vars, hopen⟩ : ∃ vars, (chart flat schema s.clients).react holds g.arbiter
      ⟨(ServiceEvent.clientRequest client).text flat, p⟩ =
        some (⟨processing client, vars⟩, [⟨ServiceEvent.serverRequest.text flat, p⟩]) := by
    rw [react_waiting holds hvars hwaiting hclient, ← hrequest, hp.only_eq]
    exact ⟨_, rfl⟩
  obtain ⟨vars', hclose⟩ : ∃ vars', (chart flat schema s.clients).react holds
      ⟨processing client, vars⟩ ⟨ServiceEvent.serverResponse.text flat, q⟩ =
        some (⟨waiting, vars'⟩, [⟨(ServiceEvent.clientResponse client).text flat, q⟩]) := by
    rw [react_processing holds hvars hclient rfl, ← hresponse, hq.only_eq]
    exact ⟨_, rfl⟩
  -- the six steps of a round, the first one innermost
  refine ⟨_, .tail (.tail (.tail (.tail (.tail (.single
    (.ask g client _ p hclient hpending (hevent (.clientRequest client)) hp))
    (.arbitrate _ _ _ _ _ rfl hopen))
    (.serve _ _ p _ (hevent .serverRequest) (Multiset.singleton_add _ _)))
    (.answer _ _ p q _ (hevent .serverResponse) rfl hq))
    (.arbitrate _ _ _ _ _ rfl hclose))
    (.receive _ client _ p q _ hclient ?_ (hevent (.clientResponse client))
      (Multiset.singleton_add _ _)), rfl, ?_, ?_⟩
  · simp
  · simp
  · simp

end Reachable

end ChartNet
