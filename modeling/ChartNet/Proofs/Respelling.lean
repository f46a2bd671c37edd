import ChartNet.Proofs.Contents
import ChartNet.Proofs.Resolution

/-!
# Types that are spelled differently

A type has a short and a long spelling, and the catalogue knows it under both. A compilation looks
types up in the catalogue wherever it needs their fields; but the parties of a service compare their
types as texts. So it does not matter how types are spelled, as long as the parties of each service
spell its type alike (`OneSpelling`), and if they do not, they are taken to name different types.

The two compilations are followed side by side. `Chart.Respelled` relates charts that differ in the
spelling of types alone; their registries differ in the same way (`Registry.Respelled`), which the
plain forms do not show (`Chart.Respelled.toPlain`), and so do the calls that the charts make
(`Call.Respelled`), which decide whether the services come about (`Network.enlistCalls_respelled`).
-/

namespace ChartNet

/-! ### The spellings of a type -/

namespace Catalogue

/-- The two spellings of a type: a short one with its package and its name, and a long one with the
kind between the two. -/
def spellings (kind package name : String) : List String :=
  [package ++ "/" ++ name, package ++ "/" ++ kind ++ "/" ++ name]

/-- The texts are the same, or they are spellings of the same type. The catalogue does not tell such
texts apart. -/
def Respelled (kind type type' : String) : Prop :=
  type = type' ∨ ∃ package name, '/' ∉ package.toList ∧ '/' ∉ name.toList ∧
    type ∈ spellings kind package name ∧ type' ∈ spellings kind package name

theorem Respelled.refl (kind type : String) : Respelled kind type type := .inl rfl

theorem Respelled.symm {kind type type' : String} (h : Respelled kind type type') :
    Respelled kind type' type := by
  rcases h with rfl | ⟨package, name, hpackage, hname, htype, htype'⟩
  · exact .inl rfl
  · exact .inr ⟨package, name, hpackage, hname, htype', htype⟩

/-- A spelling is taken apart into the package and the name. The kind, which stands between them in
the long spelling, is no part of the result. -/
theorem typeParts?_of_mem_spellings {kind package name type : String} (hkind : '/' ∉ kind.toList)
    (hpackage : '/' ∉ package.toList) (hname : '/' ∉ name.toList)
    (h : type ∈ spellings kind package name) : typeParts? kind type = some (package, name) := by
  have hslash : "/".toList = ['/'] := rfl
  rcases List.mem_cons.mp h with rfl | h
  · have hpieces : Text.pieces '/' (package ++ "/" ++ name).toList =
        [package.toList, name.toList] := by
      rw [String.toList_append, String.toList_append, hslash, List.append_assoc,
        List.singleton_append, Text.pieces_append, Text.pieces_of_not_mem hpackage,
        Text.pieces_of_not_mem hname]
      rfl
    rw [typeParts?, hpieces]
    simp
  · obtain rfl := List.mem_singleton.mp h
    have hpieces : Text.pieces '/' (package ++ "/" ++ kind ++ "/" ++ name).toList =
        [package.toList, kind.toList, name.toList] := by
      simp only [String.toList_append, hslash, List.append_assoc, List.cons_append,
        List.nil_append, Text.pieces_append, Text.pieces_of_not_mem hpackage,
        Text.pieces_of_not_mem hkind, Text.pieces_of_not_mem hname]
    rw [typeParts?, hpieces]
    simp

theorem Respelled.typeParts?_eq {kind type type' : String} (hkind : '/' ∉ kind.toList)
    (h : Respelled kind type type') : typeParts? kind type = typeParts? kind type' := by
  rcases h with rfl | ⟨package, name, hpackage, hname, htype, htype'⟩
  · rfl
  · rw [typeParts?_of_mem_spellings hkind hpackage hname htype,
      typeParts?_of_mem_spellings hkind hpackage hname htype']

theorem Respelled.trans {kind type type' type'' : String} (hkind : '/' ∉ kind.toList)
    (h : Respelled kind type type') (h' : Respelled kind type' type'') :
    Respelled kind type type'' := by
  rcases h with rfl | ⟨package, name, hpackage, hname, htype, htype'⟩
  · exact h'
  rcases h' with rfl | ⟨package', name', hpackage', hname', htype₁, htype''⟩
  · exact .inr ⟨package, name, hpackage, hname, htype, htype'⟩
  -- the text in the middle spells one type only
  have hsame : (package, name) = (package', name') := Option.some.inj
    ((typeParts?_of_mem_spellings hkind hpackage hname htype').symm.trans
      (typeParts?_of_mem_spellings hkind hpackage' hname' htype₁))
  obtain ⟨rfl, rfl⟩ := Prod.mk.inj hsame
  exact .inr ⟨package, name, hpackage, hname, htype, htype''⟩

/-- Neither type is given, or they are spellings of each other. -/
def BothRespelled (kind : String) (type? type?' : Option String) : Prop :=
  type? = none ∧ type?' = none ∨
    ∃ type type', type? = some type ∧ type?' = some type' ∧ Respelled kind type type'

/-- The middle part of the long spelling of a service's type. -/
theorem not_mem_srv : '/' ∉ "srv".toList := by decide

theorem Respelled.message?_eq {type type' : String} (h : Respelled "msg" type type') :
    message? type = message? type' := by
  unfold message?
  rw [h.typeParts?_eq (by decide)]

theorem Respelled.service?_eq {type type' : String} (h : Respelled "srv" type type') :
    service? type = service? type' := by
  unfold service?
  rw [h.typeParts?_eq not_mem_srv]

end Catalogue

/-- The middle part of the long spelling of the types on a side. -/
def Endpoint.kind : Endpoint → String
  | publisher | subscriber => "msg"
  | server | client => "srv"

theorem Registry.knowsType_respelled {side : Endpoint} {type type' : String}
    (h : Catalogue.Respelled side.kind type type') :
    knowsType side type = knowsType side type' := by
  cases side with
  | publisher | subscriber => exact congrArg Option.isSome (Catalogue.Respelled.message?_eq h)
  | server | client => exact congrArg Option.isSome (Catalogue.Respelled.service?_eq h)

theorem Catalogue.sent?_respelled {kind : Emission} {type type' : String}
    (h : Respelled kind.side.kind type type') : sent? kind type = sent? kind type' := by
  cases kind with
  | message => exact Respelled.message?_eq h
  | request => exact congrArg (Option.map _) (Respelled.service?_eq h)
  | response => exact congrArg (Option.map _) (Respelled.service?_eq h)

/-! ### Charts and their registries -/

/-- The declarations are the same but for the spelling of a type. -/
inductive Declaration.Respelled : Declaration → Declaration → Prop
  /-- a timer has no type -/
  | timer (name : String) (rate : Float) : Respelled (.timer name rate) (.timer name rate)
  /-- the same side of the same resource, with a type that may be spelled differently -/
  | endpoint (side : Endpoint) (name : String) {type type' : String}
      (h : Catalogue.Respelled side.kind type type') :
      Respelled (.endpoint side name type) (.endpoint side name type')

/-- The charts are the same but for the spelling of types in their declarations. Nothing else in a
chart mentions a type of a resource. -/
structure Chart.Respelled (c c' : Chart) : Prop where
  /-- the same name -/
  name : c.name = c'.name
  /-- the same initial state -/
  initial : c.initial = c'.initial
  /-- the same variables -/
  data : c.data = c'.data
  /-- the same declarations but for spellings -/
  declarations : List.Forall₂ Declaration.Respelled c.declarations c'.declarations
  /-- the same states -/
  states : c.states = c'.states

/-- The sides are the same but for the spelling of the type. -/
structure Registered.Respelled (e e' : Registered) : Prop where
  /-- the same side -/
  side : e.side = e'.side
  /-- of the same resource -/
  name : e.name = e'.name
  /-- with a type that may be spelled differently -/
  type : Catalogue.Respelled e.side.kind e.type e'.type

/-- The registries are the same but for the spelling of types. -/
structure Registry.Respelled (r r' : Registry) : Prop where
  /-- of the same automaton -/
  automaton : r.automaton = r'.automaton
  /-- the same timers -/
  timers : r.timers = r'.timers
  /-- the same sides in the same order, but for the spelling of types -/
  endpoints : List.Forall₂ Registered.Respelled r.endpoints r'.endpoints

theorem Declaration.Respelled.symm {d d' : Declaration} (h : d.Respelled d') : d'.Respelled d := by
  cases h with
  | timer name rate => exact .timer name rate
  | endpoint side name h => exact .endpoint side name h.symm

theorem Chart.Respelled.symm {c c' : Chart} (h : c.Respelled c') : c'.Respelled c where
  name := h.name.symm
  initial := h.initial.symm
  data := h.data.symm
  declarations := (h.declarations.imp fun _ _ => Declaration.Respelled.symm).flip
  states := h.states.symm

namespace Registry

variable {r r' : Registry}

/-- The types that are found are spellings of each other, and where one registry finds none, neither
does the other. -/
theorem Respelled.type? (h : r.Respelled r') (side : Endpoint) (name : String) :
    Catalogue.BothRespelled side.kind (r.type? side name) (r'.type? side name) := by
  unfold Registry.type?
  obtain ⟨-, -, hendpoints⟩ := h
  generalize r.endpoints = es at hendpoints
  generalize r'.endpoints = es' at hendpoints
  induction hendpoints with
  | nil => exact .inl ⟨rfl, rfl⟩
  | @cons e e' es es' he _ ih =>
    by_cases hfound : (e.side == side && e.name == name) = true
    · have hfound' : (e'.side == side && e'.name == name) = true := by
        rwa [← he.side, ← he.name]
      have hside : e.side = side := (by simpa using hfound : e.side = side ∧ e.name = name).1
      simp only [List.find?_cons, hfound, hfound']
      exact .inr ⟨e.type, e'.type, rfl, rfl, hside ▸ he.type⟩
    · have hfound' : ¬ (e'.side == side && e'.name == name) = true := by
        rwa [← he.side, ← he.name]
      simp only [List.find?_cons, hfound, hfound']
      exact ih

/-- What a registry contains does not depend on types. -/
theorem Respelled.contains_eq (h : r.Respelled r') (role : Role) (resource : String) :
    r.contains role resource = r'.contains role resource := by
  cases role with
  | timer => rw [contains, contains, h.timers]
  | endpoint side =>
    rw [contains, contains]
    rcases h.type? side resource with ⟨hnone, hnone'⟩ | ⟨type, type', htype, htype', -⟩
    · rw [hnone, hnone']
    · rw [htype, htype']
      rfl

/-- The fields of a resource do not depend on the spelling of its type. -/
theorem Respelled.schema?_eq (h : r.Respelled r') (kind : Emission) (resource : String) :
    r.schema? kind resource = r'.schema? kind resource := by
  rw [Registry.schema?_eq, Registry.schema?_eq]
  rcases h.type? kind.side resource with ⟨hnone, hnone'⟩ | ⟨type, type', htype, htype', hsame⟩
  · rw [hnone, hnone']
  · rw [htype, htype']
    exact Catalogue.sent?_respelled hsame

theorem Respelled.extend (h : r.Respelled r') {d d' : Declaration} (hd : d.Respelled d') :
    (r.extend d).Respelled (r'.extend d') := by
  refine ⟨h.automaton, ?_, ?_⟩
  · cases hd <;> simp [Registry.extend, Declaration.timer?, h.timers]
  · cases hd with
    | timer name rate => simpa [Registry.extend, Declaration.endpoint?] using h.endpoints
    | endpoint side name htype =>
      exact List.rel_append h.endpoints (.cons ⟨rfl, rfl, htype⟩ .nil)

/-- A declaration that is admitted is admitted in the other spelling as well: both are known or
neither is. -/
theorem Respelled.admits (h : r.Respelled r') {d d' : Declaration} (hd : d.Respelled d')
    (hadmits : r.Admits d) : r'.Admits d' := by
  cases hd with
  | timer name rate => exact hadmits
  | endpoint side name htype =>
    obtain ⟨hflat, hknown, hfree⟩ := hadmits
    refine ⟨hflat, knowsType_respelled htype ▸ hknown, fun other hother => ?_⟩
    rcases h.type? other name with ⟨-, hnone'⟩ | ⟨type, type', hsome, -⟩
    · exact hnone'
    · exact absurd (hsome.symm.trans (hfree other hother)) (by simp)

/-- Declarations that are taken are taken in the other spelling, one after the other. -/
theorem Respelled.foldlM (h : r.Respelled r') {ds ds' : List Declaration}
    (hds : List.Forall₂ Declaration.Respelled ds ds') {r₁ : Registry}
    (hr : ds.foldlM add r = .ok r₁) :
    ∃ r₁', ds'.foldlM add r' = .ok r₁' ∧ r₁.Respelled r₁' := by
  induction hds generalizing r r' with
  | nil =>
    obtain rfl := pure_eq_ok.mp hr
    exact ⟨r', rfl, h⟩
  | @cons d d' ds ds' hd _ ih =>
    rw [List.foldlM_cons, bind_eq_ok] at hr
    obtain ⟨r₀, hadd, hr⟩ := hr
    obtain ⟨hnew, hadmits, rfl⟩ := add_eq_ok.mp hadd
    have hrole : d'.role = d.role ∧ d'.resource = d.resource := by cases hd <;> exact ⟨rfl, rfl⟩
    have hadd' : r'.add d' = .ok (r'.extend d') := by
      refine add_eq_ok.mpr ⟨?_, h.admits hd hadmits, rfl⟩
      rw [hrole.1, hrole.2, ← h.contains_eq, hnew]
    rw [List.foldlM_cons, hadd', ok_bind]
    exact ih (h.extend hd) hr

/-- Respelled charts have respelled registries. -/
theorem ofChart_respelled {c c' : Chart} (h : c.Respelled c') (hr : ofChart c = .ok r) :
    ∃ r', ofChart c' = .ok r' ∧ r.Respelled r' := by
  have hempty : (empty c.name).Respelled (empty c'.name) := ⟨h.name, rfl, .nil⟩
  exact hempty.foldlM h.declarations hr

end Registry

/-! ### Plain forms -/

namespace Plain

variable {r r' : Registry}

theorem trigger_respelled (h : r.Respelled r') (t : Trigger) : trigger r t = trigger r' t := by
  cases t with
  | events names => rfl
  | reception kind resource => rw [trigger, trigger, h.automaton]

mutual

/-- A plain form depends on a registry by the fields of resources alone, and these do not depend on
the spelling. -/
theorem action_respelled (h : r.Respelled r') : ∀ a : Action, action r a = action r' a
  | .assign location expr => by rw [action, action]
  | .send event params => by rw [action, action]
  | .choose bs otherwise => by
    rw [action, action, branches_respelled h bs, block_respelled h otherwise]
  | .emit kind resource fields => by
    rw [action, action, emission, emission, h.automaton, h.schema?_eq]

theorem block_respelled (h : r.Respelled r') : ∀ b : List Action, block r b = block r' b
  | [] => by rw [block, block]
  | a :: as => by rw [block, block, action_respelled h a, block_respelled h as]

theorem branches_respelled (h : r.Respelled r') :
    ∀ bs : List (String × List Action), branches r bs = branches r' bs
  | [] => by rw [branches, branches]
  | (condition, body) :: bs => by
    rw [branches, branches, branch, branch, block_respelled h body, branches_respelled h bs]

end

theorem state_respelled (h : r.Respelled r') : state r = state r' := by
  have htransition : transition r = transition r' := by
    funext t
    rw [transition, transition, trigger_respelled h, block_respelled h]
  funext s
  rw [state, state, block_respelled h s.entry, block_respelled h s.exit, htransition]

end Plain

/-- Respelled charts have the same plain form, and respelled registries. The states are the same,
and types matter to them only through fields. -/
theorem Chart.Respelled.toPlain {c c' plain : Chart} {r : Registry} (h : c.Respelled c')
    (hplain : c.toPlain = .ok (plain, r)) :
    ∃ r', c'.toPlain = .ok (plain, r') ∧ r.Respelled r' := by
  obtain ⟨hr, huses, hform⟩ := toPlain_eq_ok.mp hplain
  obtain ⟨r', hr', hrespelled⟩ := Registry.ofChart_respelled h hr
  -- uses ask for a role and a name, never for a type
  have huses' : r'.checkUses c' = .ok () := by
    have hrequire : ∀ use ∈ c'.uses, r'.require use.1 use.2 = .ok () := by
      intro use huse
      rw [uses, ← h.states] at huse
      have hok : r.require use.1 use.2 = .ok () := forM_eq_ok.mp huses use huse
      rw [Registry.require] at hok ⊢
      rw [← hrespelled.contains_eq, ← hrespelled.automaton]
      exact hok
    exact forM_eq_ok.mpr hrequire
  refine ⟨r', toPlain_eq_ok.mpr ⟨hr', huses', ?_⟩, hrespelled⟩
  rcases hform with ⟨hnil, rfl⟩ | ⟨hne, states, hstates, rfl, hcheck⟩
  · -- without declarations there is nothing to respell
    have hdeclarations := h.declarations
    rw [hnil] at hdeclarations
    have hnil' := List.forall₂_nil_left_iff.mp hdeclarations
    obtain ⟨name, initial, data, declarations, states⟩ := plain
    obtain ⟨name', initial', data', declarations', states'⟩ := c'
    obtain ⟨rfl, rfl, rfl, -, rfl⟩ := h
    obtain rfl : declarations = [] := hnil
    obtain rfl : declarations' = [] := hnil'
    exact .inl ⟨rfl, rfl⟩
  · refine .inr ⟨fun hnil' => hne ?_, states, ?_, ?_, hcheck⟩
    · have hdeclarations := h.declarations
      rw [hnil'] at hdeclarations
      exact List.forall₂_nil_right_iff.mp hdeclarations
    · rw [← Plain.state_respelled hrespelled, ← h.states]
      exact hstates
    · rw [h.name, h.initial, h.data]

/-! ### Calls and services -/

/-- The calls are the same but for the spelling of the type. -/
inductive Call.Respelled : Call → Call → Prop
  /-- the same automaton registers as the server -/
  | server (automaton : String) {type type' : String} (h : Catalogue.Respelled "srv" type type') :
      Respelled (.server type automaton) (.server type' automaton)
  /-- the same automaton registers as a client -/
  | client (automaton : String) {type type' : String} (h : Catalogue.Respelled "srv" type type') :
      Respelled (.client type automaton) (.client type' automaton)

/-- The services are the same but for the spelling of the type, and they are in use. -/
structure Service.Respelled (s s' : Service) : Prop where
  /-- the first of the two is consistent -/
  consistent : s.Consistent
  /-- they have the same name -/
  name : s.name = s'.name
  /-- their types are spellings of each other, or neither has one -/
  type : Catalogue.BothRespelled "srv" s.type? s'.type?
  /-- they have the same server -/
  server : s.server? = s'.server?
  /-- they have the same clients -/
  clients : s.clients = s'.clients

/-- What is kept under a name is related, and the names are the same. -/
def Keyed {α : Type} (R : α → α → Prop) (e e' : String × α) : Prop := e.1 = e'.1 ∧ R e.2 e'.2

/-- The fault is about two spellings of the same type. -/
def Fault.OfSpelling : Fault → Prop
  | .contract _ (.typeMismatch expected found) =>
    expected ≠ found ∧ Catalogue.Respelled "srv" expected found
  | _ => False

namespace Call

variable {c c' : Call}

theorem Respelled.type (h : c.Respelled c') : Catalogue.Respelled "srv" c.type c'.type := by
  cases h with
  | server automaton h => exact h
  | client automaton h => exact h

theorem Respelled.automaton (h : c.Respelled c') : c.automaton = c'.automaton := by
  cases h <;> rfl

/-- Who registers does not depend on types. -/
theorem Respelled.parties {calls calls' : List Call} (h : List.Forall₂ Respelled calls calls') :
    servers calls = servers calls' ∧ clients calls = clients calls' := by
  induction h with
  | nil => exact ⟨rfl, rfl⟩
  | @cons c c' calls calls' hc _ ih =>
    obtain ⟨hservers, hclients⟩ := ih
    unfold servers clients at *
    cases hc with
    | server automaton _ => exact ⟨congrArg (automaton :: ·) hservers, hclients⟩
    | client automaton _ => exact ⟨hservers, congrArg (automaton :: ·) hclients⟩

end Call

namespace Service

variable {s s' : Service} {c c' : Call}

theorem respelled_named (name : String) : (named name).Respelled (named name) :=
  ⟨consistent_named name, rfl, .inl ⟨rfl, rfl⟩, rfl, rfl⟩

/-- A call that fits also fits in the other spelling, as long as it agrees with the spelling that
the service has fixed. -/
theorem Respelled.fits (hs : s.Respelled s') (hc : c.Respelled c') (hfits : c.Fits s)
    (hagrees : Call.Agrees s' c'.type) : c'.Fits s' := by
  cases hc with
  | server automaton _ =>
    obtain ⟨-, hserver, hclient⟩ := hfits
    exact ⟨hagrees, hs.server ▸ hserver, hs.clients ▸ hclient⟩
  | client automaton _ =>
    obtain ⟨-, hclient, hserver⟩ := hfits
    exact ⟨hagrees, hs.clients ▸ hclient, hs.server ▸ hserver⟩

/-- What a call records stays the same but for the spelling. -/
theorem Respelled.record (hs : s.Respelled s') (hc : c.Respelled c') (hfits : c.Fits s) :
    (c.record s).Respelled (c'.record s') := by
  refine ⟨hs.consistent.record hfits, ?_, ?_, ?_, ?_⟩
  · cases hc <;> exact hs.name
  · cases hc with
    | server automaton h => exact .inr ⟨_, _, rfl, rfl, h⟩
    | client automaton h => exact .inr ⟨_, _, rfl, rfl, h⟩
  · cases hc with
    | server automaton _ => rfl
    | client automaton _ => exact hs.server
  · cases hc with
    | server automaton _ => exact hs.clients
    | client automaton _ => exact congrArg (· ++ [automaton]) hs.clients

/-- The service has fixed the type in a spelling, and the caller uses the other one. This is the one
way in which a call can fail by respelling. -/
theorem Respelled.typeMismatch (hs : s.Respelled s') (hc : c.Respelled c') (hfits : c.Fits s)
    (hagrees : ¬ Call.Agrees s' c'.type) :
    ∃ f, Network.registered s' c'.step = .error f ∧ f.OfSpelling := by
  obtain ⟨expected, hexpected, hne, hafter⟩ := after_of_disagree hagrees
  refine ⟨.contract s'.name (.typeMismatch expected c'.type), ?_, hne, ?_⟩
  · rw [Network.registered, hafter]
  · have hown : Call.Agrees s c.type := by cases c <;> exact hfits.1
    rcases hs.type with ⟨-, hnone⟩ | ⟨type, type', htype, htype', hsame⟩
    · rw [hnone] at hexpected
      cases hexpected
    · -- both spellings stand for the type that the services have in common
      obtain rfl : type' = expected := Option.some.inj (htype'.symm.trans hexpected)
      rcases hown with hnone | hsome
      · rw [hnone] at htype
        cases htype
      · obtain rfl : type = c.type := Option.some.inj (htype.symm.trans hsome)
        exact hsame.symm.trans Catalogue.not_mem_srv hc.type

/-- Arbiters do not show how the type was spelled: only the fields of the type go into them. -/
theorem Respelled.arbiter (hs : s.Respelled s') {interpret : Interpreter} {a : Chart}
    (h : s.arbiter interpret = .ok a) : s'.arbiter interpret = .ok a := by
  obtain ⟨hcontract, schema, flat, hschema, hflat, hdefaults, hcheck, rfl⟩ := arbiter_eq_ok.mp h
  obtain ⟨⟨type, htype⟩, hserver, hclients⟩ := checkContract_eq_ok.mp hcontract
  rcases hs.type with ⟨hnone, -⟩ | ⟨type₁, type', htype₁, htype', hsame⟩
  · rw [hnone] at htype
    cases htype
  · rw [htype₁, Option.bind_some, hsame.service?_eq] at hschema
    rw [hs.clients] at hcheck hclients ⊢
    have hcontract' : s'.checkContract = .ok () :=
      checkContract_eq_ok.mpr ⟨⟨type', htype'⟩, hs.server ▸ hserver, hclients⟩
    have hschema' : s'.type?.bind Catalogue.service? = some schema := by
      rw [htype', Option.bind_some, hschema]
    exact arbiter_eq_ok.mpr
      ⟨hcontract', schema, flat, hschema', hs.name ▸ hflat, hdefaults, hcheck, rfl⟩

end Service

namespace Network

section Calls

variable {services services' : List (String × Service)} {entries entries' : List (String × Call)}

theorem serviceFor_respelled (h : List.Forall₂ (Keyed Service.Respelled) services services')
    (flat name : String) :
    (serviceFor flat name services).Respelled (serviceFor flat name services') := by
  unfold serviceFor
  induction h with
  | nil => exact Service.respelled_named name
  | @cons e e' services services' he _ ih =>
    obtain ⟨hkey, hservice⟩ := he
    by_cases hflat : e.1 = flat
    · simpa [hflat, hkey ▸ hflat] using hservice
    · simpa [hflat, hkey ▸ hflat] using ih

theorem put_respelled (h : List.Forall₂ (Keyed Service.Respelled) services services')
    (flat : String) {s s' : Service} (hs : s.Respelled s') :
    List.Forall₂ (Keyed Service.Respelled) (put flat s services) (put flat s' services') := by
  induction h with
  | nil => exact .cons ⟨rfl, hs⟩ .nil
  | @cons e e' services services' he hrest ih =>
    rw [put, put, ← he.1]
    by_cases hflat : e.1 = flat
    · rw [if_pos hflat, if_pos hflat]
      exact .cons ⟨rfl, hs⟩ hrest
    · rw [if_neg hflat, if_neg hflat]
      exact .cons he ih

/-- One call: where it succeeds, the respelled one does too or finds the other spelling. Nothing
else can go wrong with it. -/
theorem enlistCall_respelled (hservices : List.Forall₂ (Keyed Service.Respelled) services services')
    {e e' : String × Call} (he : Keyed Call.Respelled e e') {t : List (String × Service)}
    (h : enlistCall services e = .ok t) :
    (∃ t', enlistCall services' e' = .ok t' ∧ List.Forall₂ (Keyed Service.Respelled) t t') ∨
      ∃ f, enlistCall services' e' = .error f ∧ f.OfSpelling := by
  obtain ⟨name, call⟩ := e
  obtain ⟨name', call'⟩ := e'
  obtain ⟨hname, hcall⟩ := he
  obtain rfl : name = name' := hname
  obtain ⟨flat, hflat, henlist⟩ := enlistCall_eq_ok.mp h
  have hs := serviceFor_respelled hservices flat name
  rw [enlist_eq, map_eq_ok] at henlist
  obtain ⟨s, hregistered, rfl⟩ := henlist
  obtain ⟨hfits, rfl⟩ := (registered_eq_ok hs.consistent).mp hregistered
  have henlist' : enlistCall services' (name, call') =
      (registered (serviceFor flat name services') call'.step).map (put flat · services') := by
    rw [← enlist_eq, enlistCall, usedBy_eq_ok.mpr hflat, ok_bind]
  rw [henlist']
  -- the parties are the same as before, so that only the types can be in the way
  by_cases hagrees : Call.Agrees (serviceFor flat name services') call'.type
  · left
    have hregistered' : registered (serviceFor flat name services') call'.step =
        .ok (call'.record (serviceFor flat name services')) := by
      rw [registered, Service.after_of_fits (hs.fits hcall hfits hagrees)]
    rw [hregistered']
    exact ⟨_, rfl, put_respelled hservices flat (hs.record hcall hfits)⟩
  · right
    obtain ⟨f, hf, hspelling⟩ := hs.typeMismatch hcall hfits hagrees
    rw [hf]
    exact ⟨f, rfl, hspelling⟩

/-- All calls: where they succeed, the respelled ones do too, or one of them finds the other
spelling. -/
theorem enlistCalls_respelled (hentries : List.Forall₂ (Keyed Call.Respelled) entries entries')
    (hservices : List.Forall₂ (Keyed Service.Respelled) services services')
    {t : List (String × Service)} (h : entries.foldlM enlistCall services = .ok t) :
    (∃ t', entries'.foldlM enlistCall services' = .ok t' ∧
      List.Forall₂ (Keyed Service.Respelled) t t') ∨
      ∃ f, entries'.foldlM enlistCall services' = .error f ∧ f.OfSpelling := by
  induction hentries generalizing services services' with
  | nil =>
    obtain rfl := pure_eq_ok.mp h
    exact .inl ⟨services', rfl, hservices⟩
  | @cons e e' entries entries' he _ ih =>
    rw [List.foldlM_cons, bind_eq_ok] at h
    obtain ⟨t₁, hcall, h⟩ := h
    rw [List.foldlM_cons]
    rcases enlistCall_respelled hservices he hcall with ⟨t₁', hcall', ht₁⟩ | ⟨f, hf, hspelling⟩
    · rw [hcall', ok_bind]
      exact ih ht₁ h
    · rw [hf, error_bind]
      exact .inr ⟨f, rfl, hspelling⟩

/-- The calls for a service are the same but for the spelling. -/
theorem callsFor_respelled (h : List.Forall₂ (Keyed Call.Respelled) entries entries')
    (flat : String) :
    List.Forall₂ Call.Respelled (callsFor flat entries) (callsFor flat entries') := by
  induction h with
  | nil => exact .nil
  | @cons e e' entries entries' he _ ih =>
    obtain ⟨name, call⟩ := e
    obtain ⟨name', call'⟩ := e'
    obtain ⟨hname, hcall⟩ := he
    obtain rfl : name = name' := hname
    rw [callsFor_cons, callsFor_singleton, callsFor_cons, callsFor_singleton]
    refine List.rel_append ?_ ih
    split_ifs
    · exact .cons hcall .nil
    · exact .nil

end Calls

end Network

theorem Registry.Respelled.onSide {r r' : Registry} (h : r.Respelled r') (side : Endpoint) :
    List.Forall₂ (Keyed (Catalogue.Respelled side.kind)) (r.onSide side) (r'.onSide side) := by
  unfold Registry.onSide
  obtain ⟨-, -, hendpoints⟩ := h
  generalize r.endpoints = es at hendpoints
  generalize r'.endpoints = es' at hendpoints
  induction hendpoints with
  | nil => exact .nil
  | @cons e e' es es' he _ ih =>
    by_cases hside : e.side = side
    · have hside' : e'.side = side := he.side ▸ hside
      rw [List.filter_cons_of_pos (by simpa using hside),
        List.filter_cons_of_pos (by simpa using hside')]
      exact .cons ⟨he.name, hside ▸ he.type⟩ ih
    · have hside' : e'.side ≠ side := he.side ▸ hside
      rw [List.filter_cons_of_neg (by simpa using hside),
        List.filter_cons_of_neg (by simpa using hside')]
      exact ih

/-- Respelled registries make respelled calls. -/
theorem Registry.Respelled.calls {r r' : Registry} (h : r.Respelled r') (automaton : String) :
    List.Forall₂ (Keyed Call.Respelled) (r.calls automaton) (r'.calls automaton) := by
  refine List.rel_append ?_ ?_
  · refine List.forall₂_map_left_iff.mpr (List.forall₂_map_right_iff.mpr ?_)
    exact (h.onSide .server).imp fun _ _ he => ⟨he.1, .server automaton he.2⟩
  · refine List.forall₂_map_left_iff.mpr (List.forall₂_map_right_iff.mpr ?_)
    exact (h.onSide .client).imp fun _ _ he => ⟨he.1, .client automaton he.2⟩

/-! ### Whole networks -/

/-- All parties of a service spell its type alike. Types are compared as texts when parties
register, and so this matters. -/
def OneSpelling (charts : List Chart) : Prop :=
  ∀ e ∈ charts.flatMap Chart.serviceCalls, ∀ e' ∈ charts.flatMap Chart.serviceCalls,
    Wire.flatName e.1 = Wire.flatName e'.1 → e.2.type = e'.2.type

instance (charts : List Chart) : Decidable (OneSpelling charts) :=
  inferInstanceAs (Decidable (∀ e ∈ charts.flatMap Chart.serviceCalls, _))

/-- The plain forms are the same, and the registries differ in spelling alone. -/
def PartRespelled (part part' : Chart × Registry) : Prop :=
  part.1 = part'.1 ∧ part.2.Respelled part'.2

namespace Network

variable {charts charts' : List Chart} {parts parts' : List (Chart × Registry)}

/-- Respelled charts have plain forms if the charts have, and make the same registrations but for
the spelling. -/
theorem exists_parts_respelled (h : List.Forall₂ Chart.Respelled charts charts')
    (hparts : List.Forall₂ (fun c part => c.toPlain = .ok part) charts parts) :
    ∃ parts', List.Forall₂ (fun c part => c.toPlain = .ok part) charts' parts' ∧
      List.Forall₂ PartRespelled parts parts' := by
  induction h generalizing parts with
  | nil =>
    obtain rfl := List.forall₂_nil_left_iff.mp hparts
    exact ⟨[], .nil, .nil⟩
  | @cons c c' charts charts' hc _ ih =>
    obtain ⟨⟨plain, r⟩, parts, hplain, hrest, rfl⟩ := List.forall₂_cons_left_iff.mp hparts
    obtain ⟨r', hplain', hr⟩ := hc.toPlain hplain
    obtain ⟨parts', hrest', hparts'⟩ := ih hrest
    exact ⟨(plain, r') :: parts', .cons hplain' hrest', .cons ⟨rfl, hr⟩ hparts'⟩

/-- What is gathered from the parts is the same, but for the spelling of types in calls. -/
theorem gathered_respelled (h : List.Forall₂ PartRespelled parts parts') :
    parts.map (·.1) = parts'.map (·.1) ∧
      parts.flatMap (·.2.timers) = parts'.flatMap (·.2.timers) ∧
      List.Forall₂ (Keyed Call.Respelled) (callsOf parts) (callsOf parts') := by
  induction h with
  | nil => exact ⟨rfl, rfl, .nil⟩
  | @cons part part' parts parts' hpart _ ih =>
    obtain ⟨hplain, hr⟩ := hpart
    obtain ⟨hplains, htimers, hcalls⟩ := ih
    refine ⟨?_, ?_, ?_⟩
    · rw [List.map_cons, List.map_cons, hplain, hplains]
    · rw [List.flatMap_cons, List.flatMap_cons, hr.timers, htimers]
    · unfold callsOf at hcalls ⊢
      rw [List.flatMap_cons, List.flatMap_cons, hplain]
      exact List.rel_append (hr.calls _) hcalls

/-- Where all parties of each service spell its type alike, the calls have one type. -/
theorem one_type_of_oneSpelling (h : OneSpelling charts) {entries : List (String × Call)}
    (hperm : entries.Perm (charts.flatMap Chart.serviceCalls)) (flat : String) :
    ∀ c ∈ callsFor flat entries, ∀ d ∈ callsFor flat entries, c.type = d.type := by
  intro c hc d hd
  obtain ⟨name, hmem, hname⟩ := mem_callsFor.mp hc
  obtain ⟨name', hmem', hname'⟩ := mem_callsFor.mp hd
  exact h _ (hperm.mem_iff.mp hmem) _ (hperm.mem_iff.mp hmem') (hname.trans hname'.symm)

/-- Consonant calls stay so if each service's type is again spelled in one way. Who calls does not
change, and the types are compared as texts. -/
theorem Consonant.respelled {entries entries' : List (String × Call)} (h : Consonant entries)
    (hentries : List.Forall₂ (Keyed Call.Respelled) entries entries')
    (htype : ∀ flat, ∀ c ∈ callsFor flat entries', ∀ d ∈ callsFor flat entries', c.type = d.type) :
    Consonant entries' where
  flat := by
    refine forall_mem_of_forall₂ (fun e e' he => ?_)
      ((List.forall₂_and_left entries entries').mpr ⟨h.flat, hentries⟩)
    obtain ⟨⟨flat, hflat⟩, hname, -⟩ := he
    exact ⟨flat, hname ▸ hflat⟩
  compatible := by
    intro flat
    obtain ⟨hservers, hclients⟩ := Call.Respelled.parties (callsFor_respelled hentries flat)
    obtain ⟨-, hserver, hnodup, hapart⟩ := h.compatible flat
    rw [hservers] at hserver hapart
    rw [hclients] at hnodup hapart
    exact ⟨htype flat, hserver, hnodup, hapart⟩

/-- The parties of a service that has come about spell its type alike. -/
theorem oneSpelling_of_compile {interpret : Interpreter} {out : Compiled}
    (h : compile interpret charts = .ok out) : OneSpelling charts := by
  obtain ⟨parts, services, arbiters, hparts, -, -, hservices, -⟩ := compile_eq_ok.mp h
  obtain ⟨-, -, hperm, hsound⟩ := gathered_eq hparts
  obtain ⟨hconsonant, -⟩ := (enlistCalls_spec _).1 services hservices
  intro e he e' he' hsame
  obtain ⟨⟨flat, hflat⟩, -⟩ := hsound e he
  refine (hconsonant.compatible flat).one_type _ ?_ _ ?_
  · exact mem_callsFor.mpr ⟨e.1, hperm.mem_iff.mpr he, hflat⟩
  · exact mem_callsFor.mpr ⟨e'.1, hperm.mem_iff.mpr he', hsame ▸ hflat⟩

/-- Respelled services have the same arbiters. -/
theorem arbiters_respelled {interpret : Interpreter} {services services' : List (String × Service)}
    {arbiters : List Chart} (h : List.Forall₂ (Keyed Service.Respelled) services services')
    (harbiters : List.Forall₂ (fun s c => s.arbiter interpret = .ok c) (services.map (·.2))
      arbiters) :
    List.Forall₂ (fun s c => s.arbiter interpret = .ok c) (services'.map (·.2)) arbiters := by
  induction h generalizing arbiters with
  | nil => exact harbiters
  | cons he _ ih =>
    obtain ⟨a, arbiters, ha, hrest, rfl⟩ := List.forall₂_cons_left_iff.mp harbiters
    exact .cons (he.2.arbiter ha) (ih hrest)

/-- The respelled network is compiled to the same, unless the parties of a service spell its type
differently, which is then found out. -/
theorem compile_respelled {interpret : Interpreter} {out : Compiled}
    (h : List.Forall₂ Chart.Respelled charts charts') (hout : compile interpret charts = .ok out) :
    compile interpret charts' = .ok out ∨
      ¬ OneSpelling charts' ∧ ∃ f, compile interpret charts' = .error f ∧ f.OfSpelling := by
  obtain ⟨parts, services, arbiters, hparts, hnames, htimers, hservices, harbiters, hfresh, rfl⟩ :=
    compile_eq_ok.mp hout
  obtain ⟨parts', hparts', hrespelled⟩ := exists_parts_respelled h hparts
  obtain ⟨hplains, hsametimers, hcalls⟩ := gathered_respelled hrespelled
  have hsamenames : parts.map (·.1.name) = parts'.map (·.1.name) := by
    simpa [Function.comp_def] using congrArg (List.map Chart.name) hplains
  rw [hsamenames] at hnames hfresh
  rw [hsametimers] at htimers
  rcases enlistCalls_respelled hcalls .nil hservices with
    ⟨services', hservices', hsame⟩ | ⟨f, hf, hspelling⟩
  · left
    refine compile_eq_ok.mpr ⟨parts', services', arbiters, hparts', hnames, htimers, hservices',
      arbiters_respelled hsame harbiters, hfresh, ?_⟩
    rw [hplains, hsametimers]
  · right
    obtain ⟨-, -, hperm, -⟩ := gathered_eq hparts'
    refine ⟨fun hone => ?_, f, ?_, hspelling⟩
    · -- calls that are spelled alike are as consonant as they were, so that none would have failed
      have hconsonant := ((enlistCalls_spec _).1 services hservices).1
      obtain ⟨services', hservices'⟩ := (enlistCalls_spec _).2
        (hconsonant.respelled hcalls (one_type_of_oneSpelling hone hperm))
      exact absurd (hservices'.symm.trans hf) (by simp)
    · have hgathered : charts'.foldlM add empty = .error f :=
        foldlM_add_of_calls_error hparts' (fresh_of_nothing.mpr hnames)
          (fresh_of_nothing.mpr htimers) hf
      rw [compile, hgathered, error_bind]

end Network

open Network

/-- **How types are spelled** does not matter to a compilation, as long as it stays the same whether
all parties of each service spell its type alike; the types of topics may be spelled in any way.
A network that can be compiled and is then respelled so that the parties of a service do not agree
any more is refused, and the fault names both spellings. -/
theorem respelling_unseen {interpret : Interpreter} {charts charts' : List Chart}
    (h : List.Forall₂ Chart.Respelled charts charts') :
    ((OneSpelling charts ↔ OneSpelling charts') →
      ∀ out, compile interpret charts = .ok out ↔ compile interpret charts' = .ok out) ∧
    ∀ out, compile interpret charts = .ok out → ¬ OneSpelling charts' →
      ∃ f, compile interpret charts' = .error f ∧ f.OfSpelling := by
  have hback : List.Forall₂ Chart.Respelled charts' charts :=
    (h.imp fun _ _ => Chart.Respelled.symm).flip
  refine ⟨fun hone out => ⟨fun hout => ?_, fun hout => ?_⟩, fun out hout hone => ?_⟩
  · exact (compile_respelled h hout).resolve_right fun hnot =>
      hnot.1 (hone.mp (oneSpelling_of_compile hout))
  · exact (compile_respelled hback hout).resolve_right fun hnot =>
      hnot.1 (hone.mpr (oneSpelling_of_compile hout))
  · obtain ⟨-, hfault⟩ := (compile_respelled h hout).resolve_left fun hout' =>
      hone (oneSpelling_of_compile hout')
    exact hfault

namespace Sample

/-- A server, a client and a topic between them, with types that are spelled as given. -/
def typed (server client topic : String) : List Chart :=
  [party "s" [.endpoint .server "a" server, .endpoint .publisher "t" topic],
    party "c" [.endpoint .client "/a" client, .endpoint .subscriber "t" "std_msgs/Bool"]]

/-- The charts of the sample stay the same but for the spelling of the three types. -/
theorem respelled_typed {server server' client client' topic topic' : String}
    (hserver : Catalogue.Respelled "srv" server server')
    (hclient : Catalogue.Respelled "srv" client client')
    (htopic : Catalogue.Respelled "msg" topic topic') :
    List.Forall₂ Chart.Respelled (typed server client topic)
      (typed server' client' topic') := by
  refine .cons ⟨rfl, rfl, rfl, ?_, rfl⟩ (.cons ⟨rfl, rfl, rfl, ?_, rfl⟩ .nil)
  · exact .cons (.endpoint .server "a" hserver) (.cons (.endpoint .publisher "t" htopic) .nil)
  · exact .cons (.endpoint .client "/a" hclient)
      (.cons (.endpoint .subscriber "t" (.refl _ _)) .nil)

/-- With short spellings the network of the sample can be compiled. -/
theorem compile_typed : ∃ out, compile scriptInterpreter
    (typed "std_srvs/Empty" "std_srvs/Empty" "std_msgs/Bool") = .ok out := by
  have hcompiled : (compile scriptInterpreter
      (typed "std_srvs/Empty" "std_srvs/Empty" "std_msgs/Bool")).toOption.any
        (fun _ => true) = true := by decide +kernel
  obtain ⟨out, hout, -⟩ := exists_of_any hcompiled
  exact ⟨out, hout⟩

/-- The short and the long spelling of one of the types. -/
theorem respelled_empty : Catalogue.Respelled "srv" "std_srvs/Empty" "std_srvs/srv/Empty" :=
  .inr ⟨"std_srvs", "Empty", by decide, by decide, by decide, by decide⟩

end Sample

open Sample in
/-- A client that spells the type of its service in the other way is refused, although the type is
the same. -/
theorem respelling_seen :
    List.Forall₂ Chart.Respelled (typed "std_srvs/Empty" "std_srvs/Empty" "std_msgs/Bool")
        (typed "std_srvs/Empty" "std_srvs/srv/Empty" "std_msgs/Bool") ∧
      (∀ c ∈ typed "std_srvs/Empty" "std_srvs/srv/Empty" "std_msgs/Bool", c.check = .ok ()) ∧
      (∃ out, compile scriptInterpreter
        (typed "std_srvs/Empty" "std_srvs/Empty" "std_msgs/Bool") = .ok out) ∧
      ¬ ∃ out, compile scriptInterpreter
        (typed "std_srvs/Empty" "std_srvs/srv/Empty" "std_msgs/Bool") = .ok out := by
  refine ⟨respelled_typed (.refl _ _) respelled_empty (.refl _ _), by decide +kernel,
    compile_typed, ?_⟩
  rintro ⟨out, hout⟩
  have hone := oneSpelling_of_compile hout
  revert hone
  decide +kernel

open Sample in
/-- Server, client and topic may all be respelled, but not the client alone. -/
theorem respelling_unseen_sample :
    ∃ out, compile scriptInterpreter
        (typed "std_srvs/Empty" "std_srvs/Empty" "std_msgs/Bool") = .ok out ∧
      compile scriptInterpreter
        (typed "std_srvs/srv/Empty" "std_srvs/srv/Empty" "std_msgs/msg/Bool") = .ok out ∧
      ∃ f, compile scriptInterpreter
        (typed "std_srvs/Empty" "std_srvs/srv/Empty" "std_msgs/Bool") = .error f ∧
          f.OfSpelling := by
  obtain ⟨out, hout⟩ := compile_typed
  have hbool : Catalogue.Respelled "msg" "std_msgs/Bool" "std_msgs/msg/Bool" :=
    .inr ⟨"std_msgs", "Bool", by decide, by decide, by decide, by decide⟩
  obtain ⟨hall, -⟩ := @respelling_unseen scriptInterpreter _ _
    (respelled_typed respelled_empty respelled_empty hbool)
  obtain ⟨-, hclient⟩ := @respelling_unseen scriptInterpreter _ _
    (respelled_typed (.refl _ "std_srvs/Empty") respelled_empty (.refl _ "std_msgs/Bool"))
  refine ⟨out, hout, (hall ?_ out).mp hout, hclient out hout (by decide +kernel)⟩
  exact ⟨fun _ => by decide +kernel, fun _ => by decide +kernel⟩

end ChartNet
