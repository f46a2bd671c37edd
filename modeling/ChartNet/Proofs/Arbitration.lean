import ChartNet.Proofs.Exchange
import Mathlib.Algebra.BigOperators.Group.Finset.Piecewise

/-!
# What the parties of a service can rely on

The places of all clients account for everything in an exchange (`Tracks`, `Accounts`). Here this is
turned into what the parties see: counts of messages, requests and answers that belong together, and
records that agree. Counts are sums over the clients, to each of which a client contributes as its
place says (`Place.server_load`, `Place.client_load`).
-/

namespace ChartNet

open Arbiter

variable {V : Type}

open Exchange in
/-- What holds at any time between the parties of a service. The owners are the clients that the
entries of the server's record are due to. It is stated in terms of what the parties can see:
messages on their way, work of the server, and what each client waits for and has received. -/
structure Arbitrated (s : Service) (owners : List String) (g : Exchange V) : Prop where
  /-- the server has at most one request to deal with, and none while the arbiter waits -/
  exclusive : g.count (Wire.serverRequest s.name) + Multiset.card g.working +
    g.count (Wire.serverResponse s.name) = if g.arbiter.state = waiting then 0 else 1
  /-- what the server is asked is what the client that is being served has asked -/
  asked : ∀ msg ∈ g.pool, Wire.serverRequest s.name = .ok msg.event →
    ∃ client ∈ s.clients, g.arbiter.state = processing client ∧
      g.pending client = some msg.payload
  /-- and so is what the server works on -/
  worked : ∀ p ∈ g.working, ∃ client ∈ s.clients, g.arbiter.state = processing client ∧
    g.pending client = some p
  /-- what the server has said last is the answer to the client that is being served -/
  answered : ∀ msg ∈ g.pool, Wire.serverResponse s.name = .ok msg.event →
    ∃ client ∈ s.clients, ∃ p, g.arbiter.state = processing client ∧ g.pending client = some p ∧
      share owners g.answered client = g.received client ++ [(p, msg.payload)]
  /-- what is on its way to a client is what the server has said to the request of that client -/
  returned : ∀ client ∈ s.clients, ∀ msg ∈ g.pool,
    Wire.clientResponse s.name client = .ok msg.event →
      ∃ p, g.pending client = some p ∧
        share owners g.answered client = g.received client ++ [(p, msg.payload)]
  /-- a client has heard of all answers that are due to it and of no others, but for one that is on
  its way -/
  heard : ∀ client ∈ s.clients, share owners g.answered client = g.received client ∨
    ∃ p, g.pending client = some p ∧ ∃ msg ∈ g.pool,
      share owners g.answered client = g.received client ++ [(p, msg.payload)] ∧
      (Wire.serverResponse s.name = .ok msg.event ∧ g.arbiter.state = processing client ∨
        Wire.clientResponse s.name client = .ok msg.event)
  /-- a client is at one stage at a time, and at none if it has not asked -/
  single : ∀ client ∈ s.clients, g.count (Wire.clientRequest s.name client) +
    (if g.arbiter.state = processing client then 1 else 0) +
    g.count (Wire.clientResponse s.name client) ≤ if (g.pending client).isSome then 1 else 0
  /-- every answer of the server is due to one client -/
  credited : owners.length = g.answered.length ∧ ∀ owner ∈ owners, owner ∈ s.clients

section Consequences

variable {s : Service} {flat : String} {place : String → Place V} {owners : List String}
  {g : Exchange V}

theorem Tracks.served_iff (h : Tracks s flat place g) {client : String}
    (hclient : client ∈ s.clients) :
    (place client).served = true ↔ g.arbiter.state = processing client := by
  rcases h.phase with ⟨hm, hnone⟩ | ⟨client', -, hm, hserved⟩
  · simp [hnone client hclient, hm, waiting_ne_processing]
  · rw [hserved client hclient, hm, processing_injective.eq_iff, eq_comm]

/-- The messages with an event are counted client by client, since each of them is on its way for
one client. -/
theorem Tracks.count_eq (h : Tracks s flat place g) (hflat : Wire.flatName s.name = .ok flat)
    (e : ServiceEvent) :
    g.count (e.onWire s.name) = ∑ client ∈ s.clients.toFinset,
      ((place client).messages flat client).countP fun msg => msg.event = e.text flat := by
  have hcongr : g.count (e.onWire s.name) = g.pool.countP fun msg => msg.event = e.text flat :=
    Multiset.countP_congr rfl fun msg _ => propext (ServiceEvent.onWire_eq_ok hflat e)
  rw [hcongr, h.pool_eq, ← Multiset.coe_countPAddMonoidHom, map_sum]

/-- One message counts if it has the event. -/
theorem countP_message (event : String) (msg : Message V) :
    Multiset.countP (fun m : Message V => m.event = event) {msg} =
      if msg.event = event then 1 else 0 := by
  rw [← Multiset.cons_zero, Multiset.countP_cons, Multiset.countP_zero, zero_add]

namespace Place

/-- Being served is to take one of three things: a request on its way to the server, work of the
server, or an answer on its way back. -/
theorem server_load (flat client : String) (place : Place V) :
    (place.messages flat client).countP
        (fun msg => msg.event = ServiceEvent.serverRequest.text flat) +
      Multiset.card place.work +
      (place.messages flat client).countP
        (fun msg => msg.event = ServiceEvent.serverResponse.text flat) =
      if place.served = true then 1 else 0 := by
  cases place <;> simp [messages, work, served, countP_message]

/-- A client is at one stage at a time, so that it can have no more than one message on its way or
be served, and only if it has asked. -/
theorem client_load (flat client : String) (place : Place V) :
    (place.messages flat client).countP
        (fun msg => msg.event = (ServiceEvent.clientRequest client).text flat) +
      (if place.served = true then 1 else 0) +
      (place.messages flat client).countP
        (fun msg => msg.event = (ServiceEvent.clientResponse client).text flat) ≤
      if place.request?.isSome = true then 1 else 0 := by
  cases place <;> simp [messages, request?, served, countP_message]

/-- The messages of one client do not count for another one. -/
theorem countP_messages_of_ne {flat client other : String} (hne : other ≠ client)
    (place : Place V) {e : ServiceEvent}
    (he : e = .clientRequest client ∨ e = .clientResponse client) :
    (place.messages flat other).countP (fun msg => msg.event = e.text flat) = 0 := by
  rcases he with rfl | rfl <;> cases place <;> simp [messages, countP_message, hne]

end Place

/-- The server's load is that of the clients that are served: one, if the arbiter does not wait. The
sum over all clients has one term that is not zero, that of the client whose state the arbiter is
in. -/
theorem Tracks.exclusive (h : Tracks s flat place g) (hflat : Wire.flatName s.name = .ok flat) :
    g.count (ServiceEvent.serverRequest.onWire s.name) + Multiset.card g.working +
      g.count (ServiceEvent.serverResponse.onWire s.name) =
      if g.arbiter.state = waiting then 0 else 1 := by
  rw [h.count_eq hflat, h.count_eq hflat, h.working_eq, Multiset.card_sum, ← Finset.sum_add_distrib,
    ← Finset.sum_add_distrib]
  simp only [Place.server_load]
  -- a sum of ones over the clients that are served: none of them, or one
  rcases h.phase with ⟨hm, hnone⟩ | ⟨client, hclient, hm, hserved⟩
  · rw [if_pos hm]
    refine Finset.sum_eq_zero fun client hclient => ?_
    simp [hnone client (List.mem_toFinset.mp hclient)]
  · rw [if_neg fun hwaiting => waiting_ne_processing client (hwaiting.symm.trans hm)]
    have hone : ∀ other ∈ s.clients.toFinset,
        (if (place other).served = true then 1 else 0) = if other = client then 1 else 0 := by
      intro other hother
      simp only [hserved other (List.mem_toFinset.mp hother)]
    rw [Finset.sum_congr rfl hone, Finset.sum_ite_eq',
      if_pos (List.mem_toFinset.mpr hclient)]

/-- What counts for a client is its own. -/
theorem Tracks.count_client (h : Tracks s flat place g) (hflat : Wire.flatName s.name = .ok flat)
    {client : String} (hclient : client ∈ s.clients) {e : ServiceEvent}
    (he : e = .clientRequest client ∨ e = .clientResponse client) :
    g.count (e.onWire s.name) =
      ((place client).messages flat client).countP fun msg => msg.event = e.text flat := by
  rw [h.count_eq hflat]
  refine Finset.sum_eq_single client (fun other _ hne => ?_) fun hout => ?_
  · exact Place.countP_messages_of_ne hne _ he
  · exact absurd (List.mem_toFinset.mpr hclient) hout

/-- What is on its way for a client, on either side of the arbiter, is at most one thing, and
nothing if the client has not asked. -/
theorem Tracks.single (h : Tracks s flat place g) (hflat : Wire.flatName s.name = .ok flat)
    {client : String} (hclient : client ∈ s.clients) :
    g.count ((ServiceEvent.clientRequest client).onWire s.name) +
      (if g.arbiter.state = processing client then 1 else 0) +
      g.count ((ServiceEvent.clientResponse client).onWire s.name) ≤
      if (g.pending client).isSome then 1 else 0 := by
  rw [h.count_client hflat hclient (.inl rfl), h.count_client hflat hclient (.inr rfl),
    h.pending_eq client hclient]
  simpa only [h.served_iff hclient] using Place.client_load flat client (place client)

/-- If everything is accounted for, the parties can rely on it. Each of the fields is read off the
places where the requests have got to. -/
theorem Tracks.arbitrated (h : Tracks s flat place g) (ha : Accounts s place owners g)
    (hflat : Wire.flatName s.name = .ok flat) : Arbitrated s owners g where
  exclusive := h.exclusive hflat
  asked := by
    intro msg hmsg hevent
    obtain ⟨client, hc, hmem⟩ := h.exists_client hmsg
    have hplace := Place.eq_forwarded hmem
      ((ServiceEvent.onWire_eq_ok hflat .serverRequest).mp hevent)
    refine ⟨client, hc, (h.served_iff hc).mp ?_, ?_⟩
    · rw [hplace, Place.served]
    · rw [h.pending_eq client hc, hplace, Place.request?]
  worked := by
    intro p hp
    obtain ⟨client, hc, hplace⟩ := h.exists_worked hp
    refine ⟨client, hc, (h.served_iff hc).mp ?_, ?_⟩
    · rw [hplace, Place.served]
    · rw [h.pending_eq client hc, hplace, Place.request?]
  answered := by
    intro msg hmsg hevent
    obtain ⟨client, hc, hmem⟩ := h.exists_client hmsg
    obtain ⟨p, hplace⟩ := Place.eq_answered hmem
      ((ServiceEvent.onWire_eq_ok hflat .serverResponse).mp hevent)
    refine ⟨client, hc, p, (h.served_iff hc).mp ?_, ?_, ?_⟩
    · rw [hplace, Place.served]
    · rw [h.pending_eq client hc, hplace, Place.request?]
    · rw [ha.share_eq client hc, hplace, Place.unheard]
  returned := by
    intro client hclient msg hmsg hevent
    obtain ⟨c, hc, hmem⟩ := h.exists_client hmsg
    obtain ⟨rfl, p, hplace⟩ := Place.eq_returned hmem
      ((ServiceEvent.onWire_eq_ok hflat (.clientResponse client)).mp hevent)
    refine ⟨p, ?_, ?_⟩
    · rw [h.pending_eq client hc, hplace, Place.request?]
    · rw [ha.share_eq client hc, hplace, Place.unheard]
  heard := by
    intro client hc
    have hmem : ∀ msg ∈ (place client).messages flat client, msg ∈ g.pool := by
      intro msg hmsg
      rw [h.pool_eq, Multiset.mem_sum]
      exact ⟨client, List.mem_toFinset.mpr hc, hmsg⟩
    rw [ha.share_eq client hc, h.pending_eq client hc, ← h.served_iff hc]
    -- only at the last two places is there an answer that the client has not heard of
    cases hplace : place client with
    | idle | asking | lost | forwarded | worked => simp [Place.unheard]
    | answered p q =>
      refine .inr ⟨p, rfl, _, hmem _ (by rw [hplace, Place.messages, Multiset.mem_singleton]),
        rfl, .inl ⟨?_, rfl⟩⟩
      exact ServiceEvent.onWire_of_flatName hflat .serverResponse
    | returned p q =>
      refine .inr ⟨p, rfl, _, hmem _ (by rw [hplace, Place.messages, Multiset.mem_singleton]),
        rfl, .inr ?_⟩
      exact ServiceEvent.onWire_of_flatName hflat (.clientResponse client)
  single := fun client hc => h.single hflat hc
  credited := ⟨ha.length_eq, ha.owners_mem⟩

end Consequences

/-- **An arbiter keeps its parties apart**, whatever they ask and answer and in whatever order
messages arrive: at any time the server deals with at most one request, it is asked what the client
that is being served has asked, and each answer goes to the client that has asked for it. The owners
exist, but need not be known to anybody: no message says which client an answer is due to. -/
theorem exchange_arbitrated {interpret : Interpreter} {s : Service} (hs : s.InUse)
    {c : Chart} (hc : s.arbiter interpret = .ok c) (holds : Condition V) (vars : Valuation V)
    {g : Exchange V} (hg : Exchange.Reachable s c holds vars g) :
    ∃ owners, Arbitrated s owners g := by
  obtain ⟨flat, schema, hflat, hschema, rfl, -, hvars⟩ := hs.arbiter_form hc
  obtain ⟨place, owners, h, ha⟩ := Followed.reachable holds hflat hschema hvars hg
  exact ⟨owners, h.arbitrated ha hflat⟩

namespace Sample

/-- A value for each of the fields. -/
def values (fs : List Field) (n : Nat) : Valuation Nat :=
  Valuation.only (Field.names fs) fun _ => some n

theorem carries_values (fs : List Field) (n : Nat) : Carries fs (values fs n) := by
  intro f
  by_cases hf : f ∈ Field.names fs <;> simp [values, Valuation.only, hf]

end Sample

open Sample in
/-- The first client of the sample asks and gets its answer. The steps are made one by one: the
request, its way through the arbiter to the server, and back. -/
theorem exchange_arbitrated_sample :
    ∃ g : Exchange Nat,
      Exchange.Reachable service arbiter (fun _ _ _ => true) (fun _ => none) g ∧
      g.received "b" = [(values service.requestFields 1, values service.responseFields 2)] ∧
      ∃ owners, Arbitrated service owners g := by
  have hflat : Wire.flatName service.name = .ok "set_bool" := by decide
  have hschema : service.type?.bind Catalogue.service? = some schema := by decide
  have hvars : ∀ f ∈ schema.request ++ schema.response, IsVariable f.name := by decide
  have hclient : "b" ∈ service.clients := by decide
  obtain ⟨g, hg, -, -, hreceived⟩ := exists_round (g := Exchange.start arbiter fun _ => none)
    (fun _ _ _ => true) hflat hschema hvars rfl hclient rfl
    (carries_values service.requestFields 1) (carries_values service.responseFields 2)
  exact ⟨g, hg, hreceived, exchange_arbitrated inUse_service arbiter_service _ _ hg⟩

end ChartNet
