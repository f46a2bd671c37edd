import ChartNet.Proofs.Outcome
import ChartNet.Wire

/-!
# The events of one service

A service with `n` clients puts `2 + 2 * n` events on the wire. Client names are arbitrary text and
may look like a part of a pattern, so that no two of these events are spelled alike needs a proof:
all share the flat name in front, and `ServiceEvent.ending` tells them apart by what follows it.
-/

namespace ChartNet

/-- The events of a service. The server has one of each kind, while each client has events of its
own. -/
inductive ServiceEvent where
  /-- a client asks -/
  | clientRequest (client : String)
  /-- a client gets its answer -/
  | clientResponse (client : String)
  /-- the server is asked -/
  | serverRequest
  /-- the server answers -/
  | serverResponse
deriving DecidableEq, Repr

namespace ServiceEvent

/-- What follows the flat name. -/
def ending : ServiceEvent → String
  | clientRequest client => "_req_client_" ++ client
  | clientResponse client => "_response_client_" ++ client
  | serverRequest => "_request"
  | serverResponse => "_response"

@[simp] theorem ending_clientRequest (client : String) :
    (clientRequest client).ending = "_req_client_" ++ client := rfl

@[simp] theorem ending_clientResponse (client : String) :
    (clientResponse client).ending = "_response_client_" ++ client := rfl

@[simp] theorem ending_serverRequest : serverRequest.ending = "_request" := rfl

@[simp] theorem ending_serverResponse : serverResponse.ending = "_response" := rfl

/-- The event of the service with the given flat name, whether or not the flat name is that of any
service. -/
def text (flat : String) (e : ServiceEvent) : String := "srv_" ++ flat ++ e.ending

/-- The event of the service with the given name. There is none if the name has no flat form. -/
def onWire (service : String) : ServiceEvent → Except NameFault String
  | clientRequest client => Wire.clientRequest service client
  | clientResponse client => Wire.clientResponse service client
  | serverRequest => Wire.serverRequest service
  | serverResponse => Wire.serverResponse service

/-- The name of a service matters only through its flat form. -/
theorem onWire_eq (service : String) (e : ServiceEvent) :
    e.onWire service = (Wire.flatName service).map e.text := by
  cases h : Wire.flatName service <;> cases e <;>
    simp [onWire, text, Wire.clientRequest, Wire.clientResponse, Wire.serverRequest,
      Wire.serverResponse, h, Except.map, String.append_assoc]

/-- Once the flat name is known, so is the event. -/
theorem onWire_of_flatName {service flat : String} (h : Wire.flatName service = .ok flat)
    (e : ServiceEvent) : e.onWire service = .ok (e.text flat) := by
  rw [onWire_eq, h]
  rfl

theorem onWire_eq_ok {service flat : String} (h : Wire.flatName service = .ok flat)
    (e : ServiceEvent) {event : String} : e.onWire service = .ok event ↔ event = e.text flat := by
  rw [onWire_of_flatName h, Except.ok.injEq, eq_comm]

/-- What follows the flat name says which event it is. -/
theorem ending_injective : Function.Injective ending := by
  intro e e' h
  replace h := congrArg String.toList h
  cases e <;> cases e' <;> simp [String.toList_append, String.toList_inj] at h ⊢ <;> exact h

/-- The events of one service are all different, also those of different clients. -/
theorem text_injective (flat : String) : Function.Injective (text flat) := by
  intro e e' h
  exact ending_injective ((String.append_right_inj _).mp h)

@[simp] theorem text_inj {flat : String} {e e' : ServiceEvent} :
    e.text flat = e'.text flat ↔ e = e' :=
  (text_injective flat).eq_iff

/-- There is always something behind the flat name, and so an event is never empty. -/
theorem text_ne_empty (flat : String) (e : ServiceEvent) : e.text flat ≠ "" := by
  intro h
  have h' := congrArg String.toList h
  simp [text, String.toList_append] at h'

end ServiceEvent

namespace Wire

/-- No blank and no slash is left in a flat name. What it is put into can therefore be the name of
an event, of an automaton and of a file. -/
theorem flatName_clean {name flat : String} (h : flatName name = .ok flat) {c : Char}
    (hc : c ∈ flat.toList) : Text.isBlank c = false ∧ c ≠ '/' := by
  unfold flatName at h
  simp only at h
  split_ifs at h with hempty hblank
  obtain rfl := Except.ok.inj h
  rw [String.toList_ofList, flatten, List.mem_flatMap] at hc
  obtain ⟨d, hd, hc⟩ := hc
  have hclean : Text.isBlank d = false := by
    simpa using List.any_eq_false.mp (Bool.eq_false_iff.mpr hblank) d hd
  split_ifs at hc with hslash
  · have : c = '_' := by simpa using hc
    subst this
    decide
  · obtain rfl : c = d := by simpa using hc
    exact ⟨hclean, hslash⟩

end Wire

end ChartNet
