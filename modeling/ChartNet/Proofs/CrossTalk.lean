import ChartNet.Proofs.Contents
import Mathlib.Data.List.Infix

/-!
# Events of several services

No two events of one service are spelled alike (`ServiceEvent.text_injective`). Between services
there is no such law: flat names and names of clients are free text, and the patterns around them
may occur inside them as well.

* `ServiceEvent.Mimics` is how two services can come to share an event: the flat name of one of them
  goes on where the pattern for a client's event of the other does, and the name of that client
  makes up for the rest.
* `ServiceEvent.text_eq_text_iff`: this is the only way. Two events are spelled alike if and only if
  they are the same event of the same service, or one of them mimics the other.
-/

namespace ChartNet

namespace ServiceEvent

/-- The client that the event belongs to. -/
def client? : ServiceEvent → Option String
  | clientRequest client | clientResponse client => some client
  | serverRequest | serverResponse => none

/-- What follows the flat name, without the client and the underscore before it. -/
def stem : ServiceEvent → String
  | clientRequest _ => "_req_client"
  | clientResponse _ => "_response_client"
  | serverRequest => "_request"
  | serverResponse => "_response"

/-- The event `e` of a client of the service `flat` is also the event `e'` of the service `flat'`:
the longer name takes the stem in and some more, and what is then left of the client is just what
ends `e'`. -/
def Mimics (flat : String) (e : ServiceEvent) (flat' : String) (e' : ServiceEvent) : Prop :=
  ∃ client more, e.client? = some client ∧ flat' = flat ++ e.stem ++ more ∧
    "_" ++ client = more ++ e'.ending

/-! ### Where an ending can begin -/

theorem ending_eq_stem {e : ServiceEvent} (h : e.client? = none) : e.ending = e.stem := by
  cases e with
  | clientRequest client | clientResponse client => cases h
  | serverRequest | serverResponse => rfl

/-- An event that belongs to a client has the client's name behind its stem. -/
theorem ending_eq_stem_append {e : ServiceEvent} {client : String} (h : e.client? = some client) :
    e.ending = e.stem ++ ("_" ++ client) := by
  cases e with
  | clientRequest client' =>
    obtain rfl := Option.some.inj h
    rw [ending_clientRequest, stem, ← String.append_assoc]
    rfl
  | clientResponse client' =>
    obtain rfl := Option.some.inj h
    rw [ending_clientResponse, stem, ← String.append_assoc]
    rfl
  | serverRequest | serverResponse => cases h

/-- All endings begin alike. Where one ending is found within another, its beginning is as well. -/
theorem exists_toList_ending (e : ServiceEvent) : ∃ cs, e.ending.toList = '_' :: 'r' :: cs := by
  cases e <;> simp [String.toList_append]

/-- An underscore behind the first character is followed by a `c`. All endings go on with an `r`, so
that none of them begins there. -/
def beginsOnce (cs : List Char) : Bool :=
  cs.tail.tails.all fun rest => rest.head? != some '_' || rest.tail.head? == some 'c'

theorem beginsOnce_stem (e : ServiceEvent) : beginsOnce e.stem.toList = true := by
  cases e with
  | clientRequest client => exact (by decide : beginsOnce "_req_client".toList = true)
  | clientResponse client => exact (by decide : beginsOnce "_response_client".toList = true)
  | serverRequest => decide
  | serverResponse => decide

/-- An ending begins with a stem or behind it, but never inside. This is the one fact about the
spelling of the events that the rest depends on. -/
theorem eq_nil_of_stem_eq {e e' : ServiceEvent} {before rest after : List Char}
    (hstem : e.stem.toList = before ++ rest) (hrest : rest ≠ [])
    (hending : e'.ending.toList = rest ++ after) : before = [] := by
  rcases before with _ | ⟨c, before⟩
  · rfl
  exfalso
  have htail : rest ∈ e.stem.toList.tail.tails := by
    rw [hstem, List.mem_tails]
    exact List.suffix_append before rest
  have hplace := List.all_eq_true.mp e.beginsOnce_stem rest htail
  obtain ⟨cs, hcs⟩ := e'.exists_toList_ending
  rw [hcs] at hending
  -- the ending begins with `_r` where the stem has its end, or a `c`, behind the underscore
  rcases rest with _ | ⟨c₁, _ | ⟨c₂, rest⟩⟩
  · exact hrest rfl
  · obtain ⟨rfl, -⟩ := List.cons.inj hending
    simp at hplace
  · obtain ⟨rfl, hnext⟩ := List.cons.inj hending
    obtain ⟨rfl, -⟩ := List.cons.inj hnext
    simp at hplace

/-- If one ending is a part of another, it is all of it, or it begins behind the stem. An ending
inside the stem is ruled out by `eq_nil_of_stem_eq`; what is left behind the stem is the client's
name. -/
theorem ending_eq_append {e e' : ServiceEvent} {before : String}
    (h : e.ending = before ++ e'.ending) :
    before = "" ∧ e = e' ∨ ∃ client more, e.client? = some client ∧ before = e.stem ++ more ∧
      "_" ++ client = more ++ e'.ending := by
  obtain ⟨cs, hcs⟩ := e'.exists_toList_ending
  rcases hclient : e.client? with _ | client
  · -- the ending is a stem, and there is nothing behind it
    rw [ending_eq_stem hclient] at h
    have hstem : e.stem.toList = before.toList ++ e'.ending.toList := by
      rw [h, String.toList_append]
    have hbefore : before.toList = [] :=
      eq_nil_of_stem_eq hstem (by simp [hcs]) (List.append_nil _).symm
    obtain rfl : before = "" := String.toList_inj.mp hbefore
    rw [String.empty_append, ← ending_eq_stem hclient] at h
    exact .inl ⟨rfl, ending_injective h⟩
  · have hchars : e.stem.toList ++ ("_" ++ client).toList =
        before.toList ++ e'.ending.toList := by
      rw [← String.toList_append, ← String.toList_append, ← ending_eq_stem_append hclient, h]
    -- the other ending begins behind the stem, or within it or at its end
    rcases List.append_eq_append_iff.mp hchars with ⟨more, hbefore, hrest⟩ | ⟨rest, hstem, hrest⟩
    · refine .inr ⟨client, String.ofList more, rfl, ?_, ?_⟩
      · exact String.toList_inj.mp (by simpa using hbefore)
      · exact String.toList_inj.mp (by simpa using hrest)
    · by_cases hnil : rest = []
      · -- the stem ends where the other ending begins
        subst hnil
        refine .inr ⟨client, "", rfl, ?_, ?_⟩
        · exact String.toList_inj.mp (by simpa using hstem.symm)
        · exact String.toList_inj.mp (by simpa using hrest.symm)
      · have hbefore : before.toList = [] := eq_nil_of_stem_eq hstem hnil hrest
        obtain rfl : before = "" := String.toList_inj.mp hbefore
        rw [String.empty_append] at h
        exact .inl ⟨rfl, ending_injective h⟩

/-! ### Events that are spelled alike -/

/-- Events of which one mimics the other are spelled alike: what one has in the client's name, the
other one has in the flat name. -/
theorem Mimics.text_eq {flat flat' : String} {e e' : ServiceEvent} (h : Mimics flat e flat' e') :
    e.text flat = e'.text flat' := by
  obtain ⟨client, more, hclient, rfl, hmore⟩ := h
  rw [text, text, ending_eq_stem_append hclient, hmore]
  simp only [String.append_assoc]

/-- Of two events that are spelled alike, the one with the shorter flat name is that of a client,
unless the names are the same. -/
theorem eq_or_mimics {flat rest : String} {e e' : ServiceEvent}
    (h : e.ending = rest ++ e'.ending) :
    flat = flat ++ rest ∧ e = e' ∨ Mimics flat e (flat ++ rest) e' := by
  rcases ending_eq_append h with ⟨rfl, rfl⟩ | ⟨client, more, hclient, rfl, hmore⟩
  · exact .inl ⟨(String.append_empty).symm, rfl⟩
  · exact .inr ⟨client, more, hclient, (String.append_assoc ..).symm, hmore⟩

/-- **When two events of services are spelled alike**: they are the same, or one of them mimics the
other. The flat names can be any texts here. -/
theorem text_eq_text_iff {flat flat' : String} {e e' : ServiceEvent} :
    e.text flat = e'.text flat' ↔
      flat = flat' ∧ e = e' ∨ Mimics flat e flat' e' ∨ Mimics flat' e' flat e := by
  constructor
  · intro h
    rw [text, text, String.append_assoc, String.append_assoc, String.append_right_inj] at h
    replace h := congrArg String.toList h
    rw [String.toList_append, String.toList_append] at h
    -- one of the two flat names is the beginning of the other
    rcases List.append_eq_append_iff.mp h with ⟨rest, hflat, hending⟩ | ⟨rest, hflat, hending⟩
    · obtain rfl : flat' = flat ++ String.ofList rest :=
        String.toList_inj.mp (by simpa using hflat)
      have hlonger : e.ending = String.ofList rest ++ e'.ending :=
        String.toList_inj.mp (by simpa using hending)
      rcases eq_or_mimics hlonger with hsame | hmimics
      · exact .inl hsame
      · exact .inr (.inl hmimics)
    · obtain rfl : flat = flat' ++ String.ofList rest :=
        String.toList_inj.mp (by simpa using hflat)
      have hlonger : e'.ending = String.ofList rest ++ e.ending :=
        String.toList_inj.mp (by simpa using hending)
      rcases eq_or_mimics hlonger with hsame | hmimics
      · exact .inl ⟨hsame.1.symm, hsame.2.symm⟩
      · exact .inr (.inr hmimics)
  · rintro (⟨rfl, rfl⟩ | h | h)
    · rfl
    · exact h.text_eq
    · exact h.text_eq.symm

end ServiceEvent

/-! ### Whole networks -/

open ServiceEvent

/-- The event is one of a service that the network declares under this name; if it belongs to a
client, then to a chart that asks for the service. -/
structure Generates (charts : List Chart) (service : String) (e : ServiceEvent) : Prop where
  /-- the service is declared by some chart -/
  declared : ∃ c ∈ charts, ∃ side ∈ [Endpoint.server, .client], ∃ type,
    .endpoint side service type ∈ c.declarations
  /-- the client is a chart that asks for the service, maybe under another spelling -/
  asking : ∀ client, e.client? = some client → ∃ c ∈ charts, c.name = client ∧
    ∃ name type, .endpoint .client name type ∈ c.declarations ∧
      Wire.flatName name = Wire.flatName service

/-- The services of a network that was compiled have flat names. -/
theorem Generates.exists_flatName {interpret : Interpreter} {charts : List Chart} {out : Compiled}
    (h : Network.compile interpret charts = .ok out) {service : String} {e : ServiceEvent}
    (he : Generates charts service e) : ∃ flat, Wire.flatName service = .ok flat := by
  obtain ⟨parts, arbiters, hparts, -⟩ := Network.compile_parts h
  obtain ⟨c, hc, side, -, type, hd⟩ := he.declared
  obtain ⟨⟨plain, r⟩, hplain⟩ := exists_forall₂.mp ⟨parts, hparts⟩ c hc
  exact Chart.flatName_of_declared hplain hd

/-- **Which events the services of a network share.** Every event of a network that was compiled has
its text, and two of them have the same text exactly if they are the same event of the same service
or one of them mimics the other. So the events of a service are told apart from each other, and an
event that belongs to no client is only ever mixed up with one that does. -/
theorem service_events_told_apart {interpret : Interpreter} {charts : List Chart} {out : Compiled}
    (h : Network.compile interpret charts = .ok out) {service service' : String}
    {e e' : ServiceEvent} (he : Generates charts service e) (he' : Generates charts service' e') :
    ∃ flat flat' event event',
      Wire.flatName service = .ok flat ∧ Wire.flatName service' = .ok flat' ∧
      e.onWire service = .ok event ∧ e'.onWire service' = .ok event' ∧
      (event = event' ↔
        flat = flat' ∧ e = e' ∨ Mimics flat e flat' e' ∨ Mimics flat' e' flat e) := by
  obtain ⟨flat, hflat⟩ := he.exists_flatName h
  obtain ⟨flat', hflat'⟩ := he'.exists_flatName h
  exact ⟨flat, flat', e.text flat, e'.text flat', hflat, hflat', onWire_of_flatName hflat e,
    onWire_of_flatName hflat' e', text_eq_text_iff⟩

/-- Two services, each with a client of its own. What the one client's name begins with ends the
name of the other service. -/
def Sample.lookalikes : List Chart :=
  [party "s" [.endpoint .server "a" "std_srvs/Empty",
      .endpoint .server "a_req_client_b" "std_srvs/Empty"],
    party "b_req_client_c" [.endpoint .client "a" "std_srvs/Empty"],
    party "c" [.endpoint .client "a_req_client_b" "std_srvs/Empty"]]

open Sample in
theorem Sample.compile_lookalikes :
    ∃ out, Network.compile scriptInterpreter lookalikes = .ok out := by
  have hcompiled : (Network.compile scriptInterpreter lookalikes).toOption.any
      (fun _ => true) = true := by decide +kernel
  obtain ⟨out, hout, -⟩ := exists_of_any hcompiled
  exact ⟨out, hout⟩

open Sample in
/-- A request to one service can also be a request to another. The charts pass their checks and the
network is compiled, and nothing is reported: the end of the one service's name is the beginning of
the other client's. -/
theorem service_events_clash :
    (∀ c ∈ lookalikes, c.check = .ok ()) ∧
    (∃ out, Network.compile scriptInterpreter lookalikes = .ok out) ∧
    Generates lookalikes "a" (.clientRequest "b_req_client_c") ∧
    Generates lookalikes "a_req_client_b" (.clientRequest "c") ∧
    Wire.clientRequest "a" "b_req_client_c" = Wire.clientRequest "a_req_client_b" "c" ∧
    Wire.flatName "a" ≠ Wire.flatName "a_req_client_b" := by
  refine ⟨by decide +kernel, compile_lookalikes, ⟨?_, ?_⟩, ⟨?_, ?_⟩, by decide +kernel,
    by decide +kernel⟩
  · exact ⟨_, List.mem_cons_self .., .server, by simp, _, List.mem_cons_self ..⟩
  · rintro client ⟨⟩
    exact ⟨_, List.mem_cons_of_mem _ (List.mem_cons_self ..), rfl, _, _, List.mem_cons_self .., rfl⟩
  · exact ⟨_, List.mem_cons_self .., .server, by simp, _,
      List.mem_cons_of_mem _ (List.mem_cons_self ..)⟩
  · rintro client ⟨⟩
    exact ⟨_, List.mem_cons_of_mem _ (List.mem_cons_of_mem _ (List.mem_cons_self ..)), rfl, _, _,
      List.mem_cons_self .., rfl⟩

open Sample in
/-- What the servers of the two services hear is told apart, although requests of their clients are
not. -/
theorem service_events_told_apart_sample :
    Generates lookalikes "a" .serverRequest ∧
    Generates lookalikes "a_req_client_b" .serverRequest ∧
    ∃ event event', Wire.serverRequest "a" = .ok event ∧
      Wire.serverRequest "a_req_client_b" = .ok event' ∧ event ≠ event' := by
  have he : Generates lookalikes "a" .serverRequest :=
    ⟨⟨_, List.mem_cons_self .., .server, by simp, _, List.mem_cons_self ..⟩, by rintro client ⟨⟩⟩
  have he' : Generates lookalikes "a_req_client_b" .serverRequest :=
    ⟨⟨_, List.mem_cons_self .., .server, by simp, _,
      List.mem_cons_of_mem _ (List.mem_cons_self ..)⟩, by rintro client ⟨⟩⟩
  obtain ⟨out, hout⟩ := compile_lookalikes
  obtain ⟨flat, flat', event, event', hflat, hflat', hevent, hevent', hiff⟩ :=
    service_events_told_apart hout he he'
  refine ⟨he, he', event, event', hevent, hevent', fun heq => ?_⟩
  rcases hiff.mp heq with ⟨rfl, -⟩ | ⟨client, more, hclient, -⟩ | ⟨client, more, hclient, -⟩
  · have hne : Wire.flatName "a" ≠ Wire.flatName "a_req_client_b" := by decide +kernel
    exact hne (hflat.trans hflat'.symm)
  · cases hclient
  · cases hclient

end ChartNet
