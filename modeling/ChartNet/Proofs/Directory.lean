import ChartNet.Network
import ChartNet.Proofs.Outcome
import ChartNet.Proofs.Registration
import ChartNet.Proofs.WellFormed
import Mathlib.Data.List.Nodup

/-!
# The directory of services

A network registers calls one by one, each with the service that its name stands for: two names with
the same flat form are names of the same service. Here the directory that comes out is described by
the calls alone.

* `enlist_eq` separates finding a service (`serviceFor`), the call itself, and putting the service
  back (`put`).
* `Directory` relates a list of calls to the services; it is kept by every call that succeeds.
* `enlistCalls_spec`: all calls succeed if and only if every name has a flat form and the calls for
  each service are compatible.
-/

namespace ChartNet

namespace Call

/-- The automaton that calls. -/
def automaton : Call → String
  | server _ automaton | client _ automaton => automaton

/-- A further call fits if and only if it is compatible with those before. -/
theorem fits_enrol_named {name : String} {calls : List Call} (h : Compatible calls) {c : Call} :
    c.Fits ((Service.named name).enrol calls) ↔ Compatible (calls ++ [c]) := by
  rw [← @Service.admits_named_iff name, Service.admits_concat, Service.admits_named_iff]
  exact (and_iff_right h).symm

/-- Compatible calls leave a consistent service, so that for a further call it only matters whether
it fits. -/
theorem Compatible.consistent {calls : List Call} (h : Compatible calls) (name : String) :
    ((Service.named name).enrol calls).Consistent := by
  rw [Service.enrol_named]
  refine ⟨h.clients_nodup, fun a ha => h.apart a (List.mem_of_getLast? ha), fun hnone => ?_⟩
  obtain rfl : calls = [] := List.getLast?_eq_none_iff.mp (Option.map_eq_none_iff.mp hnone)
  exact ⟨rfl, rfl⟩

end Call

namespace Network

/-! ### One call -/

/-- A call on a consistent service succeeds if and only if it fits, and what it leaves is what it
records. -/
theorem registered_eq_ok {s s' : Service} (hs : s.Consistent) {c : Call} :
    registered s c.step = .ok s' ↔ c.Fits s ∧ c.record s = s' := by
  by_cases h : c.Fits s
  · rw [registered, Service.after_of_fits h]
    simp [h]
  · obtain ⟨e, he⟩ := Service.after_of_not_fits hs h
    rw [registered, he]
    simp [h]

/-- The service under a flat name, or a fresh one. The fresh one is called as the caller calls
it. -/
def serviceFor (flat name : String) (services : List (String × Service)) : Service :=
  ((services.find? (·.1 = flat)).map (·.2)).getD (.named name)

/-- Puts a service under a flat name, in the place of the one that is there, or at the end if there
is none. -/
def put (flat : String) (s : Service) : List (String × Service) → List (String × Service)
  | [] => [(flat, s)]
  | e :: rest => if e.1 = flat then (flat, s) :: rest else e :: put flat s rest

/-- Registering under a flat name is to look the service up, to register with it and to put it back.
A service that is not there is looked up as a fresh one. -/
theorem enlist_eq (flat name : String) (step : Registration Unit)
    (services : List (String × Service)) :
    enlist flat name step services =
      (registered (serviceFor flat name services) step).map (put flat · services) := by
  induction services with
  | nil =>
    rw [enlist, serviceFor, List.find?_nil, Option.map_none, Option.getD_none]
    cases registered (.named name) step <;> rfl
  | cons e rest ih =>
    obtain ⟨key, s⟩ := e
    rw [enlist]
    by_cases hkey : key = flat
    · rw [if_pos hkey, serviceFor, List.find?_cons_of_pos (by simpa using hkey)]
      simp only [put, hkey, Option.map_some, Option.getD_some]
      cases registered s step <;> rfl
    · rw [if_neg hkey, serviceFor, List.find?_cons_of_neg (by simpa using hkey), ← serviceFor, ih]
      simp only [put, if_neg hkey]
      cases registered (serviceFor flat name rest) step <;> rfl

/-- A new flat name goes to the end, and one that is there already stays where it is. The order of
the services is therefore that of the first call for each. -/
theorem keys_put (flat : String) (s : Service) (services : List (String × Service)) :
    (put flat s services).map (·.1) =
      if flat ∈ services.map (·.1) then services.map (·.1) else services.map (·.1) ++ [flat] := by
  induction services with
  | nil => simp [put]
  | cons e rest ih =>
    by_cases hkey : e.1 = flat
    · simp [put, hkey]
    · rw [put, if_neg hkey, List.map_cons, ih]
      by_cases hmem : flat ∈ rest.map (·.1)
      · simp [hmem]
      · simp [hmem, Ne.symm hkey]

/-- Only the service under the flat name changes. All the other entries stay, and there is no second
entry under the flat name if there was none before. -/
theorem mem_put {flat : String} {s : Service} {services : List (String × Service)}
    (h : (services.map (·.1)).Nodup) {e : String × Service} :
    e ∈ put flat s services ↔ e = (flat, s) ∨ e ∈ services ∧ e.1 ≠ flat := by
  induction services with
  | nil => simp [put]
  | cons f rest ih =>
    obtain ⟨hnew, hrest⟩ := List.nodup_cons.mp h
    by_cases hkey : f.1 = flat
    · -- the first entry is the one that is replaced, and no other has its flat name
      have hother : ∀ e ∈ rest, e.1 ≠ flat := fun e he heq =>
        hnew (List.mem_map.mpr ⟨e, he, heq.trans hkey.symm⟩)
      rw [put, if_pos hkey, List.mem_cons, List.mem_cons]
      constructor
      · rintro (rfl | he)
        · exact .inl rfl
        · exact .inr ⟨.inr he, hother e he⟩
      · rintro (rfl | ⟨rfl | he, hne⟩)
        · exact .inl rfl
        · exact absurd hkey hne
        · exact .inr he
    · rw [put, if_neg hkey, List.mem_cons, List.mem_cons, ih hrest]
      constructor
      · rintro (rfl | rfl | ⟨he, hne⟩)
        · exact .inr ⟨.inl rfl, hkey⟩
        · exact .inl rfl
        · exact .inr ⟨.inr he, hne⟩
      · rintro (rfl | ⟨rfl | he, hne⟩)
        · exact .inr (.inl rfl)
        · exact .inl rfl
        · exact .inr (.inr ⟨he, hne⟩)

/-! ### All calls -/

/-- The calls for the service with the given flat name, in order. Calls for names without a flat
form are for no service. -/
def callsFor (flat : String) (entries : List (String × Call)) : List Call :=
  (entries.filter fun e => Wire.flatName e.1 = .ok flat).map (·.2)

/-- Registers one call; `entry.1` is what the service is called there. -/
def enlistCall (services : List (String × Service)) (entry : String × Call) :
    Except Fault (List (String × Service)) := do
  let flat ← usedBy entry.2.automaton (Wire.flatName entry.1)
  enlist flat entry.1 entry.2.step services

/-- The services are those that the calls are for, each with its calls. It is the state that making
the calls one after the other leads to, in terms of the calls. -/
structure Directory (entries : List (String × Call)) (services : List (String × Service)) :
    Prop where
  /-- no flat name occurs twice -/
  keys_nodup : (services.map (·.1)).Nodup
  /-- the flat names are those of the services that were called for -/
  mem_keys : ∀ flat, flat ∈ services.map (·.1) ↔ ∃ e ∈ entries, Wire.flatName e.1 = .ok flat
  /-- a service has taken the calls for it, in their order; the name is one that a call used for
  it -/
  service_eq : ∀ e ∈ services, ∃ name, Wire.flatName name = .ok e.1 ∧
    e.2 = (Service.named name).enrol (callsFor e.1 entries)

/-- Every name has a flat form, and the calls for each service are compatible. Calls for different
services have nothing to do with each other. -/
structure Consonant (entries : List (String × Call)) : Prop where
  /-- every call is for a name with a flat form -/
  flat : ∀ e ∈ entries, ∃ flat, Wire.flatName e.1 = .ok flat
  /-- for each flat name, the calls agree with each other -/
  compatible : ∀ flat, Call.Compatible (callsFor flat entries)

section Calls

variable {entries : List (String × Call)} {services services' : List (String × Service)}
  {flat name : String} {call : Call}

theorem callsFor_append (flat : String) (entries entries' : List (String × Call)) :
    callsFor flat (entries ++ entries') = callsFor flat entries ++ callsFor flat entries' := by
  rw [callsFor, List.filter_append, List.map_append]
  rfl

/-- The first call is for the service or it is not; the rest is picked out independently of it. -/
theorem callsFor_cons (flat : String) (e : String × Call) (entries : List (String × Call)) :
    callsFor flat (e :: entries) = callsFor flat [e] ++ callsFor flat entries :=
  callsFor_append flat [e] entries

/-- A single call is for the service whose flat name it uses, and for no other. -/
theorem callsFor_singleton (flat name : String) (call : Call) :
    callsFor flat [(name, call)] = if Wire.flatName name = .ok flat then [call] else [] := by
  by_cases h : Wire.flatName name = .ok flat <;> simp [callsFor, h]

theorem callsFor_eq_nil : callsFor flat entries = [] ↔
    ∀ e ∈ entries, Wire.flatName e.1 ≠ .ok flat := by
  simp [callsFor, List.filter_eq_nil_iff]

/-- A call by name is a call by flat name, so it can also fail because there is none. -/
theorem enlistCall_eq_ok : enlistCall services (name, call) = .ok services' ↔
    ∃ flat, Wire.flatName name = .ok flat ∧
      enlist flat name call.step services = .ok services' := by
  rw [enlistCall, bind_eq_ok]
  simp only [usedBy_eq_ok]

/-- A service that is not there is one that nobody has called for. -/
theorem Directory.not_called (h : Directory entries services)
    (hfind : services.find? (·.1 = flat) = none) : ∀ e ∈ entries, Wire.flatName e.1 ≠ .ok flat := by
  intro e he heq
  obtain ⟨f, hf, hkey⟩ := List.mem_map.mp ((h.mem_keys flat).mpr ⟨e, he, heq⟩)
  simpa [hkey] using List.find?_eq_none.mp hfind f hf

/-- The service that a call is for has taken the calls for it so far. With no call so far it is a
fresh one, so that the two cases of `serviceFor` need not be told apart later. -/
theorem Directory.serviceFor_eq (h : Directory entries services)
    (hflat : Wire.flatName name = .ok flat) :
    ∃ name', Wire.flatName name' = .ok flat ∧
      serviceFor flat name services = (Service.named name').enrol (callsFor flat entries) := by
  rcases hfind : services.find? (·.1 = flat) with _ | e
  · refine ⟨name, hflat, ?_⟩
    rw [serviceFor, hfind, callsFor_eq_nil.mpr (h.not_called hfind)]
    rfl
  · have hkey : e.1 = flat := by simpa using List.find?_some hfind
    obtain ⟨name', hname', heq⟩ := h.service_eq e (List.mem_of_find?_eq_some hfind)
    refine ⟨name', hkey ▸ hname', ?_⟩
    rw [serviceFor, hfind, ← hkey]
    exact heq

/-- A call succeeds if and only if it is compatible with those for the same service. The directory
knows these calls through the service that they have made. -/
theorem Directory.enlist_eq_ok (h : Directory entries services)
    (hcompatible : Call.Compatible (callsFor flat entries))
    (hflat : Wire.flatName name = .ok flat) :
    ∃ name', Wire.flatName name' = .ok flat ∧ ∀ services',
      enlist flat name call.step services = .ok services' ↔
        Call.Compatible (callsFor flat (entries ++ [(name, call)])) ∧
        put flat ((Service.named name').enrol (callsFor flat (entries ++ [(name, call)])))
          services = services' := by
  obtain ⟨name', hname', hservice⟩ := h.serviceFor_eq hflat
  refine ⟨name', hname', fun services' => ?_⟩
  rw [enlist_eq, hservice, map_eq_ok]
  simp only [registered_eq_ok (hcompatible.consistent name')]
  rw [callsFor_append, callsFor_singleton, if_pos hflat, Service.enrol_concat,
    ← Call.fits_enrol_named hcompatible]
  constructor
  · rintro ⟨s, ⟨hfits, rfl⟩, hput⟩
    exact ⟨hfits, hput⟩
  · rintro ⟨hfits, hput⟩
    exact ⟨_, ⟨hfits, rfl⟩, hput⟩

/-- The directory after a further call. The service under the flat name has taken one call more, and
all others have taken the same as before. This is the step of the induction in
`enlistCalls_spec`. -/
theorem Directory.put (h : Directory entries services) (hflat : Wire.flatName name = .ok flat)
    {name' : String} (hname' : Wire.flatName name' = .ok flat) :
    Directory (entries ++ [(name, call)]) (Network.put flat
      ((Service.named name').enrol (callsFor flat (entries ++ [(name, call)]))) services) where
  keys_nodup := by
    rw [keys_put]
    split_ifs with hmem
    · exact h.keys_nodup
    · exact List.nodup_append.mpr ⟨h.keys_nodup, List.nodup_singleton _,
        fun a ha b hb hab => hmem (List.mem_singleton.mp hb ▸ hab ▸ ha)⟩
  mem_keys := by
    intro key
    have hkeys : key ∈ (Network.put flat ((Service.named name').enrol
        (callsFor flat (entries ++ [(name, call)]))) services).map (·.1) ↔
          key ∈ services.map (·.1) ∨ key = flat := by
      rw [keys_put]
      split_ifs with hmem
      · exact ⟨.inl, fun hkey => hkey.elim id fun heq => heq ▸ hmem⟩
      · rw [List.mem_append, List.mem_singleton]
    rw [hkeys, h.mem_keys]
    simp only [List.mem_append, List.mem_singleton, or_and_right, exists_or, exists_eq_left, hflat,
      Except.ok.injEq, eq_comm]
  service_eq := by
    intro e he
    rcases (mem_put h.keys_nodup).mp he with rfl | ⟨he, hne⟩
    · exact ⟨name', hname', rfl⟩
    · obtain ⟨name'', hname'', heq⟩ := h.service_eq e he
      refine ⟨name'', hname'', ?_⟩
      -- for every other service, the further call does not count
      have hother : Wire.flatName name ≠ .ok e.1 := by
        rw [hflat]
        exact fun hkey => hne (Except.ok.inj hkey).symm
      rw [callsFor_append, callsFor_singleton, if_neg hother, List.append_nil]
      exact heq

/-- Of the services, only the one that is called has one call more. So consonance has to be looked
at for this service only. -/
theorem Consonant.concat (h : Consonant entries) (hflat : Wire.flatName name = .ok flat)
    (hcompatible : Call.Compatible (callsFor flat (entries ++ [(name, call)]))) :
    Consonant (entries ++ [(name, call)]) where
  flat := by
    intro e he
    rcases List.mem_append.mp he with he | he
    · exact h.flat e he
    · obtain rfl := List.mem_singleton.mp he
      exact ⟨flat, hflat⟩
  compatible := by
    intro key
    by_cases hkey : Wire.flatName name = .ok key
    · obtain rfl := Except.ok.inj (hflat.symm.trans hkey)
      exact hcompatible
    · rw [callsFor_append, callsFor_singleton, if_neg hkey, List.append_nil]
      exact h.compatible key

/-- **All calls succeed** if and only if they are consonant, and the services are then those that
the calls are for. The induction is on the calls from the end, with `Directory` as the invariant. -/
theorem enlistCalls_spec (entries : List (String × Call)) :
    (∀ services, entries.foldlM enlistCall [] = .ok services →
      Consonant entries ∧ Directory entries services) ∧
    (Consonant entries → ∃ services, entries.foldlM enlistCall [] = .ok services) := by
  induction entries using List.reverseRecOn with
  | nil =>
    refine ⟨fun services h => ?_, fun _ => ⟨[], rfl⟩⟩
    obtain rfl : [] = services := Except.ok.inj h
    exact ⟨⟨by simp, fun _ => Call.compatible_nil⟩, ⟨List.nodup_nil, by simp, by simp⟩⟩
  | append_singleton entries entry ih =>
    obtain ⟨name, call⟩ := entry
    have hfold : ∀ services', (entries ++ [(name, call)]).foldlM enlistCall [] = .ok services' ↔
        ∃ services, entries.foldlM enlistCall [] = .ok services ∧
          enlistCall services (name, call) = .ok services' := by
      intro services'
      rw [List.foldlM_append, bind_eq_ok]
      simp only [List.foldlM_cons, List.foldlM_nil, bind_pure]
    -- the last call meets the directory of those before it, whichever way the proof goes
    refine ⟨fun services' h => ?_, fun h => ?_⟩
    · obtain ⟨services, hservices, hcall⟩ := (hfold services').mp h
      obtain ⟨flat, hflat, henlist⟩ := enlistCall_eq_ok.mp hcall
      obtain ⟨hconsonant, hdirectory⟩ := ih.1 services hservices
      obtain ⟨name', hname', hiff⟩ :=
        hdirectory.enlist_eq_ok (hconsonant.compatible flat) hflat
      obtain ⟨hcompatible, rfl⟩ := (hiff services').mp henlist
      exact ⟨hconsonant.concat hflat hcompatible, hdirectory.put hflat hname'⟩
    · have hbefore : Consonant entries :=
        ⟨fun e he => h.flat e (List.mem_append_left _ he), fun key =>
          Call.Compatible.of_append (callsFor_append key _ _ ▸ h.compatible key)⟩
      obtain ⟨services, hservices⟩ := ih.2 hbefore
      obtain ⟨flat, hflat⟩ := h.flat (name, call) (by simp)
      obtain ⟨name', hname', hiff⟩ :=
        (ih.1 services hservices).2.enlist_eq_ok (hbefore.compatible flat) hflat
      exact ⟨_, (hfold _).mpr ⟨services, hservices,
        enlistCall_eq_ok.mpr ⟨flat, hflat, (hiff _).mpr ⟨h.compatible flat, rfl⟩⟩⟩⟩

/-- What a further call that succeeds does to the directory: the call is consonant with those
before, and the directory stands for all of them. -/
theorem enlistCall_step (h : entries.foldlM enlistCall [] = .ok services)
    (hcall : enlistCall services (name, call) = .ok services') :
    ∃ flat, Wire.flatName name = .ok flat ∧ call.Fits (serviceFor flat name services) ∧
      services' = put flat (call.record (serviceFor flat name services)) services := by
  obtain ⟨flat, hflat, henlist⟩ := enlistCall_eq_ok.mp hcall
  obtain ⟨hconsonant, hdirectory⟩ := (enlistCalls_spec entries).1 services h
  obtain ⟨name', -, hservice⟩ := hdirectory.serviceFor_eq hflat
  have hconsistent : (serviceFor flat name services).Consistent :=
    hservice ▸ (hconsonant.compatible flat).consistent name'
  rw [enlist_eq, map_eq_ok] at henlist
  obtain ⟨s, hs, rfl⟩ := henlist
  obtain ⟨hfits, rfl⟩ := (registered_eq_ok hconsistent).mp hs
  exact ⟨flat, hflat, hfits, rfl⟩

end Calls

end Network

end ChartNet
