import ChartNet.Proofs.Outcome
import ChartNet.Service
import Mathlib.Data.List.Induction
import Mathlib.Data.List.Nodup

/-!
# Registering with a service

A `Call` is one registration, and a service is used by calling it again and again, whether or not
the calls succeed.

* `Call.Fits` says when a call succeeds and `Call.record` what it then leaves
  (`after_of_fits`, `after_of_not_fits`). A call that fails has already fixed the type; that this
  changes nothing rests on `Service.Consistent`, which every service in use satisfies.
* `Call.Compatible` is a condition on a whole list of calls, without regard to their order. A fresh
  service takes the calls one after the other exactly if they are compatible (`admits_iff`).
-/

namespace ChartNet

/-- A registration, with the type that the caller names and the automaton that calls. -/
inductive Call where
  /-- of the server -/
  | server (type automaton : String)
  /-- of a client -/
  | client (type automaton : String)
deriving DecidableEq, Repr

namespace Call

/-- What a call does. -/
def step : Call → Registration Unit
  | server type automaton => Service.addServer type automaton
  | client type automaton => Service.addClient type automaton

/-- The type that the caller names. -/
def type : Call → String
  | server type _ => type
  | client type _ => type

/-- The server that a call registers. -/
def server? : Call → Option String
  | server _ automaton => some automaton
  | client .. => none

/-- The client that a call registers. -/
def client? : Call → Option String
  | server .. => none
  | client _ automaton => some automaton

/-- The service has no other type than the one named. -/
def Agrees (s : Service) (type : String) : Prop := s.type? = none ∨ s.type? = some type

/-- What a service must be like for a call to succeed: no other type is fixed, the place is free,
and the automaton is not on the other side. -/
def Fits (s : Service) : Call → Prop
  | server type automaton => Agrees s type ∧ s.server? = none ∧ automaton ∉ s.clients
  | client type automaton => Agrees s type ∧ automaton ∉ s.clients ∧ s.server? ≠ some automaton

/-- The service after a call that succeeds: the type is fixed, and there is a party more. -/
def record (s : Service) : Call → Service
  | server type automaton => { s with type? := some type, server? := some automaton }
  | client type automaton => { s with type? := some type, clients := s.clients ++ [automaton] }

end Call

namespace Service

/-! ### One call -/

/-- A step that is followed by another, which looks at the service first. -/
theorem after_then (s : Service) (x : Registration Unit) (k : Service → Registration Unit) :
    s.after (x >>= fun _ => get >>= k) =
      match s.after x with
      | (.ok (), s') => s'.after (k s')
      | (.error e, s') => (.error e, s') := by
  unfold after
  change (x.run >>= ExceptT.bindCont (fun _ => get >>= k)).run s = _
  rw [StateT.run_bind]
  rcases StateT.run x.run s with ⟨_ | _, s'⟩
  · rfl
  · rfl

/-- A type that the service agrees with becomes its type, or is so already. -/
theorem after_agree {s : Service} {type : String} (h : Call.Agrees s type) :
    s.after (agree type) = (.ok (), { s with type? := some type }) := by
  obtain ⟨name, type?, server?, clients⟩ := s
  rcases h with h | h
  · obtain rfl : type? = none := h
    rfl
  · obtain rfl : type? = some type := h
    change (if type = type then pure () else throw _ : Registration Unit).run.run _ = _
    rw [if_pos rfl]
    rfl

/-- Another type than the agreed one is reported, and nothing else happens. -/
theorem after_disagree {s : Service} {type : String} (h : ¬ Call.Agrees s type) :
    ∃ expected, s.type? = some expected ∧ expected ≠ type ∧
      s.after (agree type) = (.error (.typeMismatch expected type), s) := by
  obtain ⟨name, type?, server?, clients⟩ := s
  rcases type? with _ | expected
  · exact absurd (Or.inl rfl) h
  · have hne : ¬ expected = type := fun he => h (Or.inr (congrArg some he))
    refine ⟨expected, rfl, hne, ?_⟩
    change (if expected = type then pure () else throw _ : Registration Unit).run.run _ = _
    rw [if_neg hne]
    rfl

/-- What holds of every service in use. The last clause is why a failing call cannot have fixed the
type: it fails because of another party, who has fixed it before. -/
structure Consistent (s : Service) : Prop where
  /-- no client is there twice -/
  clients_nodup : s.clients.Nodup
  /-- the server is no client -/
  server_apart : ∀ a, s.server? = some a → a ∉ s.clients
  /-- without an agreed type there are no parties yet -/
  typed : s.type? = none → s.server? = none ∧ s.clients = []

theorem consistent_named (name : String) : (named name).Consistent where
  clients_nodup := List.nodup_nil
  server_apart := by intro a h; cases h
  typed := fun _ => ⟨rfl, rfl⟩

/-- Once a party is there, naming the agreed type changes nothing. -/
theorem Consistent.retyped {s : Service} (hs : s.Consistent) {type : String}
    (ha : Call.Agrees s type) (hp : s.server? ≠ none ∨ s.clients ≠ []) :
    { s with type? := some type } = s := by
  rcases ha with ha | ha
  · obtain ⟨hserver, hclients⟩ := hs.typed ha
    rcases hp with hp | hp
    · exact absurd hserver hp
    · exact absurd hclients hp
  · obtain ⟨name, type?, server?, clients⟩ := s
    obtain rfl : type? = some type := ha
    rfl

/-- A call that fits succeeds, and does what it is to do: `record` is what the steps of the
registration amount to. -/
theorem after_of_fits {s : Service} {c : Call} (h : c.Fits s) :
    s.after c.step = (.ok (), c.record s) := by
  cases c with
  | server type automaton =>
    obtain ⟨hagree, hserver, hclient⟩ := h
    rw [Call.step, addServer, after_then, after_agree hagree]
    obtain ⟨name, type?, server?, clients⟩ := s
    obtain rfl : server? = none := hserver
    change after _ (if clients.contains automaton then _ else _) = _
    rw [if_neg (by simpa using hclient)]
    rfl
  | client type automaton =>
    obtain ⟨hagree, hclient, hserver⟩ := h
    rw [Call.step, addClient, after_then, after_agree hagree]
    change after _ (if s.clients.contains automaton then _ else
      if s.server? = some automaton then _ else _) = _
    rw [if_neg (by simpa using hclient), if_neg hserver]
    rfl

/-- A caller that names another type fails before anything else is looked at. -/
theorem after_of_disagree {s : Service} {c : Call} (h : ¬ Call.Agrees s c.type) :
    ∃ expected, s.type? = some expected ∧ expected ≠ c.type ∧
      s.after c.step = (.error (.typeMismatch expected c.type), s) := by
  obtain ⟨expected, htype, hne, he⟩ := after_disagree h
  refine ⟨expected, htype, hne, ?_⟩
  cases c with
  | server type automaton =>
    rw [Call.type] at he ⊢
    rw [Call.step, addServer, after_then, he]
  | client type automaton =>
    rw [Call.type] at he ⊢
    rw [Call.step, addClient, after_then, he]

section Refused

-- agreeing on the type comes first, but in all these cases somebody is there who has fixed it
variable {s : Service} {type automaton : String}

/-- A second server is refused. -/
theorem Consistent.after_second_server (hs : s.Consistent) (hagree : Call.Agrees s type)
    {first : String} (h : s.server? = some first) :
    s.after (Call.server type automaton).step = (.error (.multipleServers first automaton), s) := by
  rw [Call.step, addServer, after_then, after_agree hagree, hs.retyped hagree (.inl (by simp [h]))]
  obtain ⟨name, type?, server?, clients⟩ := s
  obtain rfl : server? = some first := h
  rfl

/-- A client is refused as the server. -/
theorem Consistent.after_client_serving (hs : s.Consistent) (hagree : Call.Agrees s type)
    (hserver : s.server? = none) (h : automaton ∈ s.clients) :
    s.after (Call.server type automaton).step = (.error (.clientAndServer automaton), s) := by
  rw [Call.step, addServer, after_then, after_agree hagree,
    hs.retyped hagree (.inr (List.ne_nil_of_mem h))]
  obtain ⟨name, type?, server?, clients⟩ := s
  obtain rfl : server? = none := hserver
  change after _ (if clients.contains automaton then _ else _) = _
  rw [if_pos (by simpa using h)]
  rfl

/-- A client that is there already is refused. -/
theorem Consistent.after_client_again (hs : s.Consistent) (hagree : Call.Agrees s type)
    (h : automaton ∈ s.clients) :
    s.after (Call.client type automaton).step = (.error (.duplicateClient automaton), s) := by
  rw [Call.step, addClient, after_then, after_agree hagree,
    hs.retyped hagree (.inr (List.ne_nil_of_mem h))]
  change after s (if s.clients.contains automaton then _ else _) = _
  rw [if_pos (by simpa using h)]
  rfl

/-- The server is refused as a client. -/
theorem Consistent.after_server_asking (hs : s.Consistent) (hagree : Call.Agrees s type)
    (hclient : automaton ∉ s.clients) (h : s.server? = some automaton) :
    s.after (Call.client type automaton).step = (.error (.clientAndServer automaton), s) := by
  rw [Call.step, addClient, after_then, after_agree hagree, hs.retyped hagree (.inl (by simp [h]))]
  change after s (if s.clients.contains automaton then _ else
    if s.server? = some automaton then _ else _) = _
  rw [if_neg (by simpa using hclient), if_pos h]
  rfl

/-- A call that does not fit fails and leaves the service as it was. The type is recorded before the
parties are looked at; but once there are parties, a type that agrees is the one that is there. -/
theorem after_of_not_fits (hs : s.Consistent) {c : Call} (h : ¬ c.Fits s) :
    ∃ e, s.after c.step = (.error e, s) := by
  by_cases hagree : Call.Agrees s c.type
  · cases c with
    | server type automaton =>
      rcases hserver : s.server? with _ | first
      · have hclient : automaton ∈ s.clients := by
          by_contra hclient
          exact h ⟨hagree, hserver, hclient⟩
        exact ⟨_, hs.after_client_serving hagree hserver hclient⟩
      · exact ⟨_, hs.after_second_server hagree hserver⟩
    | client type automaton =>
      by_cases hclient : automaton ∈ s.clients
      · exact ⟨_, hs.after_client_again hagree hclient⟩
      · have hserver : s.server? = some automaton := by
          by_contra hserver
          exact h ⟨hagree, hclient, hserver⟩
        exact ⟨_, hs.after_server_asking hagree hclient hserver⟩
  · obtain ⟨expected, -, -, he⟩ := after_of_disagree hagree
    exact ⟨_, he⟩

end Refused

/-- A call that fits keeps the invariant: this is the step. Whoever is added was not there before,
on neither side, and the type is fixed with the first party. -/
theorem Consistent.record {s : Service} (hs : s.Consistent) {c : Call} (h : c.Fits s) :
    (c.record s).Consistent := by
  cases c with
  | server type automaton =>
    obtain ⟨-, -, hclient⟩ := h
    refine ⟨hs.clients_nodup, ?_, fun hn => by cases hn⟩
    intro a ha
    obtain rfl := Option.some.inj ha
    exact hclient
  | client type automaton =>
    obtain ⟨-, hclient, hserver⟩ := h
    refine ⟨?_, ?_, fun hn => by cases hn⟩
    · exact List.nodup_append.mpr ⟨hs.clients_nodup, List.nodup_singleton _, by
        rintro a ha b hb rfl
        obtain rfl := List.mem_singleton.mp hb
        exact hclient ha⟩
    · intro a ha hmem
      rcases List.mem_append.mp hmem with hmem | hmem
      · exact hs.server_apart a ha hmem
      · obtain rfl := List.mem_singleton.mp hmem
        exact hserver ha

/-! ### Services in use -/

/-- The service after some calls, which may have failed. A call that fails leaves what it has done
so far. -/
def afterCalls (s : Service) (calls : List Call) : Service :=
  calls.foldl (fun s c => (s.after c.step).2) s

/-- The service has come about by calls on a fresh one. All services of a network have. -/
def InUse (s : Service) : Prop := ∃ name calls, s = (named name).afterCalls calls

/-- One call keeps the invariant, whether it succeeds or fails. -/
theorem Consistent.after {s : Service} (hs : s.Consistent) (c : Call) :
    (s.after c.step).2.Consistent := by
  by_cases h : c.Fits s
  · rw [after_of_fits h]
    exact hs.record h
  · obtain ⟨e, he⟩ := after_of_not_fits hs h
    rw [he]
    exact hs

/-- Any number of calls keep the invariant: this is the run. -/
theorem Consistent.afterCalls {s : Service} (hs : s.Consistent) (calls : List Call) :
    (s.afterCalls calls).Consistent := by
  induction calls generalizing s with
  | nil => exact hs
  | cons c calls ih => exact ih (hs.after c)

/-- **Registration invariant**: every service in use is consistent. A fresh one is, and a call keeps
it so, whether it succeeds or fails. -/
theorem InUse.consistent {s : Service} (h : s.InUse) : s.Consistent := by
  obtain ⟨name, calls, rfl⟩ := h
  exact (consistent_named name).afterCalls calls

end Service

/-! ### Calls that all succeed -/

namespace Call

/-- The servers that calls register. -/
def servers (calls : List Call) : List String := calls.filterMap server?

/-- The clients that calls register. -/
def clients (calls : List Call) : List String := calls.filterMap client?

theorem servers_append (calls calls' : List Call) :
    servers (calls ++ calls') = servers calls ++ servers calls' := List.filterMap_append

theorem clients_append (calls calls' : List Call) :
    clients (calls ++ calls') = clients calls ++ clients calls' := List.filterMap_append

/-- The calls do not contradict each other, in whatever order they come. It is a condition on the
calls alone, without a service. -/
structure Compatible (calls : List Call) : Prop where
  /-- all callers name the same type -/
  one_type : ∀ c ∈ calls, ∀ d ∈ calls, c.type = d.type
  /-- at most one of them serves -/
  one_server : (servers calls).length ≤ 1
  /-- nobody asks twice -/
  clients_nodup : (clients calls).Nodup
  /-- who serves does not ask -/
  apart : ∀ a ∈ servers calls, a ∉ clients calls

theorem compatible_nil : Compatible [] :=
  ⟨by simp, by simp [servers], by simp [clients], by simp [servers]⟩

/-- What goes together still does without the last calls. So calls that are compatible were so at
every time in between. -/
theorem Compatible.of_append {calls calls' : List Call} (h : Compatible (calls ++ calls')) :
    Compatible calls where
  one_type := fun c hc d hd =>
    h.one_type c (List.mem_append_left _ hc) d (List.mem_append_left _ hd)
  one_server := by
    have := h.one_server
    rw [servers_append, List.length_append] at this
    omega
  clients_nodup := by
    have := h.clients_nodup
    rw [clients_append] at this
    exact this.of_append_left
  apart := by
    intro a hs hc
    refine h.apart a ?_ ?_
    · rw [servers_append]; exact List.mem_append_left _ hs
    · rw [clients_append]; exact List.mem_append_left _ hc

/-- A server among compatible calls is the only one. -/
theorem Compatible.servers_eq_singleton {calls : List Call} (h : Compatible calls) {a : String}
    (ha : a ∈ servers calls) : servers calls = [a] := by
  have hlen : (servers calls).length = 1 :=
    Nat.le_antisymm h.one_server (List.length_pos_of_mem ha)
  obtain ⟨b, hb⟩ := List.length_eq_one_iff.mp hlen
  rw [hb] at ha ⊢
  rw [List.mem_singleton.mp ha]

/-- One more call has the common type if all others have its type. -/
theorem one_type_concat {calls : List Call} {c : Call} :
    (∀ d ∈ calls ++ [c], ∀ d' ∈ calls ++ [c], d.type = d'.type) ↔ ∀ d ∈ calls, d.type = c.type := by
  constructor
  · exact fun h d hd => h d (List.mem_append_left _ hd) c (by simp)
  · intro h
    have hall : ∀ d ∈ calls ++ [c], d.type = c.type :=
      List.forall_mem_append.mpr ⟨h, by simp⟩
    intro d hd d' hd'
    rw [hall d hd, hall d' hd']

/-- One more server goes with compatible calls if it names their type, there is no server yet, and
it is not a client. -/
theorem compatible_concat_server {calls : List Call} (h : Compatible calls)
    {type automaton : String} :
    Compatible (calls ++ [server type automaton]) ↔
      (∀ d ∈ calls, d.type = type) ∧ servers calls = [] ∧ automaton ∉ clients calls := by
  have hservers : servers (calls ++ [server type automaton]) = servers calls ++ [automaton] := by
    rw [servers_append]; rfl
  have hclients : clients (calls ++ [server type automaton]) = clients calls := by
    rw [clients_append]; exact List.append_nil _
  constructor
  · intro h'
    refine ⟨one_type_concat.mp h'.one_type, ?_, ?_⟩
    · have := h'.one_server
      rw [hservers, List.length_append, List.length_singleton] at this
      exact List.eq_nil_of_length_eq_zero (by omega)
    · have := h'.apart automaton (by rw [hservers]; simp)
      rwa [hclients] at this
  · rintro ⟨htype, hserver, hclient⟩
    refine ⟨one_type_concat.mpr htype, ?_, ?_, ?_⟩
    · rw [hservers, hserver]; simp
    · rw [hclients]; exact h.clients_nodup
    · intro a ha
      rw [hservers, hserver] at ha
      obtain rfl : a = automaton := by simpa using ha
      rwa [hclients]

/-- One more client goes with compatible calls if it names their type, is not there already, and is
not the server. -/
theorem compatible_concat_client {calls : List Call} (h : Compatible calls)
    {type automaton : String} :
    Compatible (calls ++ [client type automaton]) ↔
      (∀ d ∈ calls, d.type = type) ∧ automaton ∉ clients calls ∧ automaton ∉ servers calls := by
  have hservers : servers (calls ++ [client type automaton]) = servers calls := by
    rw [servers_append]; exact List.append_nil _
  have hclients : clients (calls ++ [client type automaton]) = clients calls ++ [automaton] := by
    rw [clients_append]; rfl
  constructor
  · intro h'
    refine ⟨one_type_concat.mp h'.one_type, ?_, ?_⟩
    · have := h'.clients_nodup
      rw [hclients, List.nodup_append] at this
      exact fun hmem => this.2.2 automaton hmem automaton (by simp) rfl
    · intro hmem
      refine h'.apart automaton (by rwa [hservers]) ?_
      rw [hclients]; simp
  · rintro ⟨htype, hclient, hserver⟩
    refine ⟨one_type_concat.mpr htype, ?_, ?_, ?_⟩
    · rw [hservers]; exact h.one_server
    · rw [hclients, List.nodup_append]
      refine ⟨h.clients_nodup, List.nodup_singleton _, ?_⟩
      rintro a ha b hb rfl
      obtain rfl := List.mem_singleton.mp hb
      exact hclient ha
    · intro a ha hmem
      rw [hservers] at ha
      rw [hclients] at hmem
      rcases List.mem_append.mp hmem with hmem | hmem
      · exact h.apart a ha hmem
      · obtain rfl := List.mem_singleton.mp hmem
        exact hserver ha

end Call

namespace Service

/-- The service after calls that have all succeeded. Whether they do is not asked here. -/
def enrol (s : Service) (calls : List Call) : Service := calls.foldl (fun s c => c.record s) s

/-- The calls succeed one after the other. -/
def Admits (s : Service) : List Call → Prop
  | [] => True
  | c :: calls => c.Fits s ∧ Admits (c.record s) calls

theorem enrol_concat (s : Service) (calls : List Call) (c : Call) :
    s.enrol (calls ++ [c]) = c.record (s.enrol calls) := by
  rw [enrol, List.foldl_append]
  rfl

/-- The last call has to fit what the others have left. -/
theorem admits_concat {s : Service} {calls : List Call} {c : Call} :
    s.Admits (calls ++ [c]) ↔ s.Admits calls ∧ c.Fits (s.enrol calls) := by
  induction calls generalizing s with
  | nil => simp [Admits, enrol]
  | cons d calls ih =>
    rw [List.cons_append, Admits, ih, Admits, and_assoc]
    rfl

/-- What a fresh service has become after calls that have all succeeded. -/
theorem enrol_named (name : String) (calls : List Call) :
    (named name).enrol calls =
      ⟨name, calls.getLast?.map Call.type, (Call.servers calls).getLast?, Call.clients calls⟩ := by
  induction calls using List.reverseRecOn with
  | nil => rfl
  | append_singleton calls c ih =>
    rw [enrol_concat, ih, Call.servers_append, Call.clients_append, List.getLast?_concat]
    cases c with
    | server type automaton =>
      simp [Call.record, Call.type, Call.servers, Call.clients, Call.server?, Call.client?]
    | client type automaton =>
      simp [Call.record, Call.type, Call.servers, Call.clients, Call.server?, Call.client?]

/-- The agreed type is that of all calls. A service without calls has no type, and then any type
will do. -/
theorem agrees_enrol_named {name : String} {calls : List Call}
    (h : ∀ c ∈ calls, ∀ d ∈ calls, c.type = d.type) {type : String} :
    Call.Agrees ((named name).enrol calls) type ↔ ∀ d ∈ calls, d.type = type := by
  rw [enrol_named, Call.Agrees]
  rcases hlast : calls.getLast? with _ | c
  · have hnil : calls = [] := List.getLast?_eq_none_iff.mp hlast
    simp [hnil]
  · have hc : c ∈ calls := List.mem_of_getLast? hlast
    constructor
    · intro htype d hd
      have : c.type = type := by simpa using htype
      rw [← this, h d hd c hc]
    · intro hall
      right
      simp [hall c hc]

/-- A fresh service takes calls one after the other exactly if they are compatible. The induction is
on the calls from the end, because a call has to fit what all those before it have left. -/
theorem admits_named_iff {name : String} {calls : List Call} :
    (named name).Admits calls ↔ Call.Compatible calls := by
  induction calls using List.reverseRecOn with
  | nil => exact ⟨fun _ => Call.compatible_nil, fun _ => trivial⟩
  | append_singleton calls c ih =>
    rw [admits_concat, ih]
    refine ⟨fun ⟨h, hfits⟩ => ?_, fun h' => ⟨h'.of_append, ?_⟩⟩
    · cases c with
      | server type automaton =>
        obtain ⟨hagree, hserver, hclient⟩ := hfits
        rw [agrees_enrol_named h.one_type] at hagree
        rw [enrol_named] at hserver hclient
        exact (Call.compatible_concat_server h).mpr
          ⟨hagree, List.getLast?_eq_none_iff.mp hserver, hclient⟩
      | client type automaton =>
        obtain ⟨hagree, hclient, hserver⟩ := hfits
        rw [agrees_enrol_named h.one_type] at hagree
        rw [enrol_named] at hserver hclient
        refine (Call.compatible_concat_client h).mpr ⟨hagree, hclient, fun hmem => hserver ?_⟩
        -- there is one server only, so the recorded one is every one
        rw [h.servers_eq_singleton hmem]
        rfl
    · have h := h'.of_append
      cases c with
      | server type automaton =>
        obtain ⟨htype, hserver, hclient⟩ := (Call.compatible_concat_server h).mp h'
        refine ⟨(agrees_enrol_named h.one_type).mpr htype, ?_, ?_⟩
        · rw [enrol_named, hserver]
          rfl
        · rwa [enrol_named]
      | client type automaton =>
        obtain ⟨htype, hclient, hserver⟩ := (Call.compatible_concat_client h).mp h'
        refine ⟨(agrees_enrol_named h.one_type).mpr htype, ?_, ?_⟩
        · rwa [enrol_named]
        · rw [enrol_named]
          exact fun hlast => hserver (List.mem_of_getLast? hlast)

end Service

end ChartNet
