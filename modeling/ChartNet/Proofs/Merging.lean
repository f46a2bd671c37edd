import ChartNet.Proofs.Contents
import ChartNet.Proofs.Images

/-!
# Resources that are taken for one another

A network tells its resources apart by their flat names, and flattening forgets something: a slash
and two underscores come out alike. So `a/b` and `a__b` are one service, with one arbiter, and one
topic, with one event, although they are different names.

* `Wire.Merged` is when this happens, in terms of the names. It never happens to names that are
  `Wire.Clear`, because these can be read back from their flat form (`Wire.unflatten_flatten`).
* `Network.RegisteredAt` says which service of the directory a declaration ends up in: the one that
  is changed when it is registered. One registration changes one service (`Network.put_changes`),
  and a service keeps its place when others are registered, so the place tells the flat name
  (`Network.RegisteredAt.place`).
-/

namespace ChartNet

namespace Wire

/-- The names become the same once the leading slash is gone and every other slash is written as two
underscores. This can be asked of any two names, whether or not they have a flat form. -/
def Merged (name name' : String) : Prop := flatten (bareName name) = flatten (bareName name')

/-- But for a leading slash, no underscore of the name stands directly before a slash or another
underscore. Most names in use are of this kind. -/
def Clear (name : String) : Prop := (bareName name).IsChain fun c d => c = '_' → d ≠ '_' ∧ d ≠ '/'

instance (name name' : String) : Decidable (Merged name name') :=
  inferInstanceAs (Decidable (_ = _))

instance (name : String) : Decidable (Clear name) := inferInstanceAs (Decidable (List.IsChain _ _))

/-- Reads two underscores as a slash, from left to right. -/
def unflatten : List Char → List Char
  | '_' :: '_' :: cs => '/' :: unflatten cs
  | c :: cs => c :: unflatten cs
  | [] => []

theorem flatten_cons_slash (cs : List Char) : flatten ('/' :: cs) = '_' :: '_' :: flatten cs := rfl

/-- Every other character stays as it is. -/
theorem flatten_cons {c : Char} (h : c ≠ '/') (cs : List Char) :
    flatten (c :: cs) = c :: flatten cs := by
  simp [flatten, h]

theorem unflatten_cons {c : Char} (h : c ≠ '_') (cs : List Char) :
    unflatten (c :: cs) = c :: unflatten cs := by
  rw [unflatten]
  rintro rest rfl
  exact absurd rfl h

theorem unflatten_underscore {c : Char} (h : c ≠ '_') (cs : List Char) :
    unflatten ('_' :: c :: cs) = '_' :: unflatten (c :: cs) := by
  rw [unflatten]
  rintro rest - heq
  exact h (List.cons.inj heq).1

/-- Two underscores of a flat form are a slash, if no underscore was followed by one or by another
underscore: then pairs of underscores come from slashes only, and start where the slash stood. -/
theorem unflatten_flatten {cs : List Char}
    (h : cs.IsChain fun c d => c = '_' → d ≠ '_' ∧ d ≠ '/') : unflatten (flatten cs) = cs := by
  induction cs with
  | nil => rfl
  | cons c cs ih =>
    have hrest := ih h.of_cons
    by_cases hslash : c = '/'
    · subst hslash
      rw [flatten_cons_slash, unflatten, hrest]
    rw [flatten_cons hslash]
    by_cases hunderscore : c = '_'
    · subst hunderscore
      rcases cs with _ | ⟨d, ds⟩
      · rfl
      · obtain ⟨hd, hd'⟩ := (List.isChain_cons_cons.mp h).1 rfl
        rw [flatten_cons hd', unflatten_underscore hd, ← flatten_cons hd', hrest]
    · rw [unflatten_cons hunderscore, hrest]

/-- Clear names are only merged if they are the same but for a leading slash. -/
theorem merged_iff_of_clear {name name' : String} (h : Clear name) (h' : Clear name') :
    Merged name name' ↔ bareName name = bareName name' := by
  refine ⟨fun hmerged => ?_, congrArg flatten⟩
  rw [← unflatten_flatten h, ← unflatten_flatten h', hmerged]

theorem eq_of_flatName {name flat : String} (h : flatName name = .ok flat) :
    flat = String.ofList (flatten (bareName name)) := by
  unfold flatName at h
  simp only at h
  split_ifs at h
  exact (Except.ok.inj h).symm

theorem merged_iff {name name' flat flat' : String} (h : flatName name = .ok flat)
    (h' : flatName name' = .ok flat') : flat = flat' ↔ Merged name name' := by
  rw [eq_of_flatName h, eq_of_flatName h', String.ofList_inj, Merged]

/-- The event of a topic tells its flat name. -/
theorem topicMessage_eq_iff {topic topic' flat flat' : String} (h : flatName topic = .ok flat)
    (h' : flatName topic' = .ok flat') : ∃ event event', topicMessage topic = .ok event ∧
      topicMessage topic' = .ok event' ∧ (event = event' ↔ Merged topic topic') := by
  refine ⟨"topic_" ++ flat ++ "_msg", "topic_" ++ flat' ++ "_msg", ?_, ?_, ?_⟩
  · rw [topicMessage, h]
    rfl
  · rw [topicMessage, h']
    rfl
  · rw [String.append_left_inj, String.append_right_inj, merged_iff h h']

end Wire

namespace Network

/-! ### The service that a registration changes -/

/-- Some declaration of the charts makes the call, and it is registered with the service at place
`i` of the directory: after the calls before it, this is the service that it changes. -/
def RegisteredAt (charts : List Chart) (name : String) (call : Call) (i : Nat) : Prop :=
  ∃ parts before after services services',
    List.Forall₂ (fun c part => c.toPlain = .ok part) charts parts ∧
    callsOf parts = before ++ (name, call) :: after ∧
    before.foldlM enlistCall [] = .ok services ∧
    enlistCall services (name, call) = .ok services' ∧
    services[i]? ≠ services'[i]?

/-- Putting a service under a flat name changes nothing else. So the place where a directory changes
is the place of the service that was called. -/
theorem put_changes {flat : String} {s : Service} {services : List (String × Service)} {i : Nat}
    (h : services[i]? ≠ (put flat s services)[i]?) :
    (put flat s services)[i]? = some (flat, s) := by
  induction services generalizing i with
  | nil =>
    cases i with
    | zero => rfl
    | succ i => exact absurd rfl h
  | cons e rest ih =>
    rw [put] at h ⊢
    by_cases hkey : e.1 = flat
    · rw [if_pos hkey] at h ⊢
      cases i with
      | zero => rfl
      | succ i => exact absurd rfl h
    · rw [if_neg hkey] at h ⊢
      cases i with
      | zero => exact absurd rfl h
      | succ i => exact ih h

/-- A service that was put under a flat name is found there. -/
theorem serviceFor_put (flat name : String) (s : Service) (services : List (String × Service)) :
    serviceFor flat name (put flat s services) = s := by
  induction services with
  | nil => simp [put, serviceFor]
  | cons e rest ih =>
    by_cases hkey : e.1 = flat
    · simp [put, hkey, serviceFor]
    · rw [put, if_neg hkey, serviceFor, List.find?_cons_of_neg (by simpa using hkey)]
      exact ih

/-- A registration is never idle: there is a party more. So a service that a registration changes
can be told by comparing it with what it was before. -/
theorem record_ne {s : Service} {c : Call} (h : c.Fits s) : c.record s ≠ s := by
  intro heq
  cases c with
  | server type automaton =>
    obtain ⟨-, hserver, -⟩ := h
    rw [← heq] at hserver
    cases hserver
  | client type automaton =>
    have hlength := congrArg (·.clients.length) heq
    simp [Call.record] at hlength

section Places

variable {charts : List Chart} {parts : List (Chart × Registry)}
  {services : List (String × Service)}

/-- Every call changes some service. The calls are split where the one in question is made. -/
theorem registeredAt_of_mem
    (hparts : List.Forall₂ (fun c part => c.toPlain = .ok part) charts parts)
    (hservices : (callsOf parts).foldlM enlistCall [] = .ok services) {name : String} {call : Call}
    (hcall : (name, call) ∈ callsOf parts) : ∃ i, RegisteredAt charts name call i := by
  obtain ⟨before, after, heq⟩ := List.append_of_mem hcall
  rw [heq, List.foldlM_append, bind_eq_ok] at hservices
  obtain ⟨services₀, hbefore, hrest⟩ := hservices
  rw [List.foldlM_cons, bind_eq_ok] at hrest
  obtain ⟨services₁, hcall, -⟩ := hrest
  by_contra hnone
  -- with no place changed, the service is as if the call had never been recorded
  have hsame : services₀ = services₁ := by
    refine List.ext_getElem? fun i => ?_
    by_contra hne
    exact hnone ⟨i, parts, before, after, services₀, services₁, hparts, heq, hbefore, hcall, hne⟩
  obtain ⟨flat, hflat, hfits, hput⟩ := enlistCall_step hbefore hcall
  have hold : serviceFor flat name services₀ = call.record (serviceFor flat name services₀) := by
    conv_lhs => rw [hsame, hput, serviceFor_put]
  exact record_ne hfits hold.symm

/-- The place of a service in the directory tells its flat name, then and later: services are only
added at the end. -/
theorem RegisteredAt.place {name : String} {call : Call} {i : Nat}
    (h : RegisteredAt charts name call i)
    (hparts : List.Forall₂ (fun c part => c.toPlain = .ok part) charts parts)
    (hservices : (callsOf parts).foldlM enlistCall [] = .ok services) :
    ∃ flat, Wire.flatName name = .ok flat ∧ (services.map (·.1))[i]? = some flat := by
  obtain ⟨parts', before, after, services₀, services₁, hparts', heq, hbefore, hcall, hchange⟩ := h
  obtain rfl : parts = parts' :=
    Except.ok.inj ((mapM_eq_ok.mpr hparts).symm.trans (mapM_eq_ok.mpr hparts'))
  obtain ⟨flat, hflat, henlist⟩ := enlistCall_eq_ok.mp hcall
  rw [enlist_eq, map_eq_ok] at henlist
  obtain ⟨s, -, rfl⟩ := henlist
  have hplace := put_changes hchange
  refine ⟨flat, hflat, ?_⟩
  -- the directory after this call is the beginning of the whole one
  have hupto : (before ++ [(name, call)]).foldlM enlistCall [] =
      .ok (put flat s services₀) := by
    rw [List.foldlM_append, hbefore, ok_bind, List.foldlM_cons, hcall]
    rfl
  have hsplit : callsOf parts = (before ++ [(name, call)]) ++ after := by simp [heq]
  have hkeys : services.map (·.1) = (put flat s services₀).map (·.1) ++
      ((after.filterMap fun e => Wire.flatName? e.1).removeAll
        ((before ++ [(name, call)]).filterMap fun e => Wire.flatName? e.1)).eraseDups := by
    rw [enlistCalls_keys hservices, enlistCalls_keys hupto, hsplit, List.filterMap_append,
      List.eraseDups_append]
  have hkey : ((put flat s services₀).map (·.1))[i]? = some flat := by
    rw [List.getElem?_map, hplace]
    rfl
  obtain ⟨hlt, -⟩ := List.getElem?_eq_some_iff.mp hkey
  rw [hkeys, List.getElem?_append_left hlt, hkey]

/-- Two registrations change the same service exactly if they are for the same flat name. -/
theorem RegisteredAt.eq_iff {name name' : String} {call call' : Call} {i i' : Nat}
    (h : RegisteredAt charts name call i) (h' : RegisteredAt charts name' call' i')
    (hparts : List.Forall₂ (fun c part => c.toPlain = .ok part) charts parts)
    (hservices : (callsOf parts).foldlM enlistCall [] = .ok services) :
    i = i' ↔ Wire.Merged name name' := by
  obtain ⟨flat, hflat, hplace⟩ := h.place hparts hservices
  obtain ⟨flat', hflat', hplace'⟩ := h'.place hparts hservices
  obtain ⟨-, hdirectory⟩ := (enlistCalls_spec _).1 services hservices
  obtain ⟨hlt, -⟩ := List.getElem?_eq_some_iff.mp hplace
  rw [← Wire.merged_iff hflat hflat', ← List.getElem?_inj hlt hdirectory.keys_nodup, hplace,
    hplace', Option.some.injEq]

end Places

/-- What a compilation makes of the directory: its order is that of the services, and the arbiter of
a service stands behind the charts at the place of the service. -/
theorem compile_places {interpret : Interpreter} {charts : List Chart} {out : Compiled}
    (h : compile interpret charts = .ok out) :
    ∃ (parts : List (Chart × Registry)) (services : List (String × Service)),
      List.Forall₂ (fun c part => c.toPlain = .ok part) charts parts ∧
      (callsOf parts).foldlM enlistCall [] = .ok services ∧
      ∀ i flat, (services.map (·.1))[i]? = some flat →
        ∃ a, out.charts[charts.length + i]? = some a ∧ a.name = "srv_handler_" ++ flat := by
  obtain ⟨parts, services, arbiters, hparts, -, -, hservices, harbiters, -, rfl⟩ :=
    compile_eq_ok.mp h
  obtain ⟨-, hdirectory⟩ := (enlistCalls_spec (callsOf parts)).1 services hservices
  rw [List.forall₂_map_left_iff] at harbiters
  refine ⟨parts, services, hparts, hservices, fun i flat hplace => ?_⟩
  rw [List.getElem?_map, Option.map_eq_some_iff] at hplace
  obtain ⟨e, he, rfl⟩ := hplace
  obtain ⟨a, ha, harbiter⟩ := exists_image harbiters he
  refine ⟨a, ?_, Service.arbiter_name harbiter
    (hdirectory.flatName_eq e (List.mem_of_getElem? he))⟩
  have hlength : charts.length = ((parts.map (·.1)).map Chart.tidy).length := by
    rw [List.length_map, List.length_map, hparts.length_eq]
  rw [List.map_append, Service.map_tidy_arbiters harbiters, hlength,
    List.getElem?_append_right (Nat.le_add_right ..), Nat.add_sub_cancel_left]
  exact ha

/-- Every declared service is registered somewhere, and its arbiter stands at the same place among
the arbiters as the service in the directory. -/
theorem exists_registeredAt {interpret : Interpreter} {charts : List Chart} {out : Compiled}
    (h : compile interpret charts = .ok out) {c : Chart} (hc : c ∈ charts) {e : String × Call}
    (he : e ∈ c.serviceCalls) :
    ∃ i a, RegisteredAt charts e.1 e.2 i ∧ out.charts[charts.length + i]? = some a ∧
      Wire.arbiterName e.1 = .ok a.name := by
  obtain ⟨parts, services, hparts, hservices, harbiters⟩ := compile_places h
  obtain ⟨-, -, hperm, -⟩ := gathered_eq hparts
  have hcall : (e.1, e.2) ∈ callsOf parts := hperm.mem_iff.mpr (List.mem_flatMap.mpr ⟨c, hc, he⟩)
  obtain ⟨i, hi⟩ := registeredAt_of_mem hparts hservices hcall
  obtain ⟨flat, hflat, hplace⟩ := hi.place hparts hservices
  obtain ⟨a, ha, hname⟩ := harbiters i flat hplace
  refine ⟨i, a, hi, ha, ?_⟩
  rw [Wire.arbiterName, hflat, hname]
  rfl

end Network

open Network

/-- **Which resources are taken for one another.** In a network that was compiled, every declared
service is registered somewhere in the directory and has its arbiter at the same place. Two
declarations are registered with the same service exactly if their names are merged, and two topics
have the same event exactly if theirs are. Names that are clear are merged only if they are the same
but for a leading slash. The places are what identifies a service, as its name may be spelled
differently by each party. -/
theorem resources_merged_iff {interpret : Interpreter} {charts : List Chart} {out : Compiled}
    (h : Network.compile interpret charts = .ok out) :
    (∀ c ∈ charts, ∀ e ∈ c.serviceCalls, ∃ i a, RegisteredAt charts e.1 e.2 i ∧
      out.charts[charts.length + i]? = some a ∧ Wire.arbiterName e.1 = .ok a.name) ∧
    (∀ name call i name' call' i', RegisteredAt charts name call i →
      RegisteredAt charts name' call' i' → (i = i' ↔ Wire.Merged name name')) ∧
    (∀ c ∈ charts, ∀ side ∈ [Endpoint.publisher, .subscriber], ∀ name type,
      .endpoint side name type ∈ c.declarations →
      ∀ c' ∈ charts, ∀ side' ∈ [Endpoint.publisher, .subscriber], ∀ name' type',
      .endpoint side' name' type' ∈ c'.declarations →
        ∃ event event', Wire.topicMessage name = .ok event ∧ Wire.topicMessage name' = .ok event' ∧
          (event = event' ↔ Wire.Merged name name')) ∧
    ∀ name name', Wire.Clear name → Wire.Clear name' →
      (Wire.Merged name name' ↔ Wire.bareName name = Wire.bareName name') := by
  obtain ⟨parts, services, hparts, hservices, -⟩ := compile_places h
  refine ⟨?_, ?_, ?_, fun name name' => Wire.merged_iff_of_clear⟩
  · intro c hc e he
    exact exists_registeredAt h hc he
  · intro name call i name' call' i' hi hi'
    exact hi.eq_iff hi' hparts hservices
  · intro c hc side _ name type hd c' hc' side' _ name' type' hd'
    obtain ⟨⟨plain, r⟩, hr⟩ := exists_forall₂.mp ⟨parts, hparts⟩ c hc
    obtain ⟨⟨plain', r'⟩, hr'⟩ := exists_forall₂.mp ⟨parts, hparts⟩ c' hc'
    obtain ⟨flat, hflat⟩ := Chart.flatName_of_declared hr hd
    obtain ⟨flat', hflat'⟩ := Chart.flatName_of_declared hr' hd'
    exact Wire.topicMessage_eq_iff hflat hflat'

/-- Two charts that share a service `x_y`. The one also serves `a/b` and the other asks for `a__b`,
which are not meant to be the same; so it is with two topics, which even have different types. -/
def Sample.underscored : List Chart :=
  [party "p" [.endpoint .client "x_y" "std_srvs/Empty", .endpoint .server "a/b" "std_srvs/Empty",
      .endpoint .publisher "c/d" "std_msgs/Bool"],
    party "q" [.endpoint .server "/x_y" "std_srvs/Empty", .endpoint .client "a__b" "std_srvs/Empty",
      .endpoint .subscriber "c__d" "std_msgs/String"]]

open Sample in
theorem Sample.compile_underscored :
    ∃ out, Network.compile scriptInterpreter underscored = .ok out := by
  have hcompiled : (Network.compile scriptInterpreter underscored).toOption.any
      (fun _ => true) = true := by decide +kernel
  obtain ⟨out, hout, -⟩ := exists_of_any hcompiled
  exact ⟨out, hout⟩

open Sample in
/-- Different resources can be taken for one another: a server of `a/b` gets the requests of a
client of `a__b`, and a subscriber to `c__d` the messages of a publisher on `c/d`. -/
theorem resources_merge :
    (∀ c ∈ underscored, c.check = .ok ()) ∧
    (∃ out, Network.compile scriptInterpreter underscored = .ok out) ∧
    (∃ i, RegisteredAt underscored "a/b" (.server "std_srvs/Empty" "p") i ∧
      RegisteredAt underscored "a__b" (.client "std_srvs/Empty" "q") i) ∧
    Wire.bareName "a/b" ≠ Wire.bareName "a__b" ∧
    Wire.topicMessage "c/d" = Wire.topicMessage "c__d" ∧
    Wire.bareName "c/d" ≠ Wire.bareName "c__d" := by
  refine ⟨by decide +kernel, compile_underscored, ?_, by decide +kernel, by decide +kernel,
    by decide +kernel⟩
  obtain ⟨out, hout⟩ := compile_underscored
  obtain ⟨parts, services, hparts, hservices, -⟩ := compile_places hout
  obtain ⟨i, -, hi, -⟩ := exists_registeredAt hout (List.mem_cons_self ..)
    (show ("a/b", .server "std_srvs/Empty" "p") ∈ _ by decide +kernel)
  obtain ⟨j, -, hj, -⟩ := exists_registeredAt hout (List.mem_cons_of_mem _ (List.mem_cons_self ..))
    (show ("a__b", .client "std_srvs/Empty" "q") ∈ _ by decide +kernel)
  obtain rfl := (hi.eq_iff hj hparts hservices).mpr (by decide +kernel)
  exact ⟨i, hi, hj⟩

open Sample in
/-- The service that is meant to be shared is shared, and it is kept apart from the other one. Its
name is clear, as it has a single underscore. -/
theorem resources_merged_iff_sample :
    ∃ (out : Compiled) (i j : Nat) (a : Chart),
      Network.compile scriptInterpreter underscored = .ok out ∧
      RegisteredAt underscored "x_y" (.client "std_srvs/Empty" "p") i ∧
      RegisteredAt underscored "/x_y" (.server "std_srvs/Empty" "q") i ∧
      RegisteredAt underscored "a/b" (.server "std_srvs/Empty" "p") j ∧ i ≠ j ∧
      out.charts[2 + i]? = some a ∧ Wire.arbiterName "x_y" = .ok a.name ∧
      Wire.Clear "x_y" ∧ Wire.Clear "/x_y" ∧ Wire.Clear "a/b" := by
  obtain ⟨out, hout⟩ := compile_underscored
  obtain ⟨hregistered, hplaces, -, hclear⟩ := resources_merged_iff hout
  obtain ⟨i, a, hi, ha, hname⟩ := hregistered _ (List.mem_cons_self ..)
    ("x_y", .client "std_srvs/Empty" "p") (by decide +kernel)
  obtain ⟨i', -, hi', -⟩ := hregistered _ (List.mem_cons_of_mem _ (List.mem_cons_self ..))
    ("/x_y", .server "std_srvs/Empty" "q") (by decide +kernel)
  obtain ⟨j, -, hj, -⟩ := hregistered _ (List.mem_cons_self ..)
    ("a/b", .server "std_srvs/Empty" "p") (by decide +kernel)
  have hxy : Wire.Clear "x_y" := by decide +kernel
  have hxy' : Wire.Clear "/x_y" := by decide +kernel
  have hab : Wire.Clear "a/b" := by decide +kernel
  obtain rfl := (hplaces _ _ _ _ _ _ hi hi').mpr ((hclear _ _ hxy hxy').mpr (by decide +kernel))
  refine ⟨out, i, j, a, hout, hi, hi', hj, fun heq => ?_, ha, hname, hxy, hxy', hab⟩
  have hbare := (hclear _ _ hxy hab).mp ((hplaces _ _ _ _ _ _ hi hj).mp heq)
  revert hbare
  decide +kernel

end ChartNet
