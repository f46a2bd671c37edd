import ChartNet.Proofs.Contents
import ChartNet.Proofs.Images
import ChartNet.Proofs.RoundTrip

/-!
# Compiled charts as documents

The charts that come out of a compilation are written as documents, and read again by whoever uses
them. What can go wrong is a blank in an event. The events of topics and services are made from flat
names and from names of charts, neither of which has blanks; but the event of a timer's tick takes
the timer's name as it stands.
-/

namespace ChartNet

/-! ### Cleaned-up charts -/

theorem Chart.blankFree_tidy {c : Chart} (h : c.BlankFree) : c.tidy.BlankFree := by
  rw [tidy]
  split
  · refine List.forall_mem_map.mpr fun s hs t ht => ?_
    exact h s hs t (State.mem_of_mem_withoutIdle ht)
  · exact h

theorem Chart.blankFree_iff {c : Chart} : c.BlankFree ↔ ∀ t ∈ c.triggers, t.BlankFree := by
  simp only [BlankFree, State.BlankFree, triggers, List.forall_mem_flatMap, List.forall_mem_map]

/-! ### Events without blanks -/

/-- A flat name has no blank, since a name with a blank has no flat form. -/
theorem Wire.hasBlank_of_flatName {name flat : String} (h : flatName name = .ok flat) :
    Text.hasBlank flat = false :=
  Text.hasBlank_eq_false.mpr fun _ hc => (flatName_clean h hc).1

/-- The name of a client is all that can bring a blank into an event of a service: flat names have
none, and neither have the fixed parts. -/
theorem ServiceEvent.hasBlank_text {flat : String} (hflat : Text.hasBlank flat = false)
    {e : ServiceEvent} (h : ∀ client, e = .clientRequest client ∨ e = .clientResponse client →
      Text.hasBlank client = false) : Text.hasBlank (e.text flat) = false := by
  change Text.hasBlank ("srv_" ++ flat ++ e.ending) = false
  rw [Text.hasBlank_append ("srv_" ++ flat), Text.hasBlank_append "srv_" flat, hflat]
  cases e with
  | clientRequest client =>
    rw [ending_clientRequest, Text.hasBlank_append _ client, h client (.inl rfl)]
    rfl
  | clientResponse client =>
    rw [ending_clientResponse, Text.hasBlank_append _ client, h client (.inr rfl)]
    rfl
  | serverRequest => rfl
  | serverResponse => rfl

/-- An event of a service has no blank, if the client that it belongs to has none in its name. -/
theorem ServiceEvent.hasBlank_onWire {service event : String} {e : ServiceEvent}
    (h : e.onWire service = .ok event)
    (hclient : ∀ client, e = .clientRequest client ∨ e = .clientResponse client →
      Text.hasBlank client = false) : Text.hasBlank event = false := by
  rw [onWire_eq, map_eq_ok] at h
  obtain ⟨flat, hflat, rfl⟩ := h
  exact hasBlank_text (Wire.hasBlank_of_flatName hflat) hclient

theorem Wire.hasBlank_topicMessage {topic event : String} (h : topicMessage topic = .ok event) :
    Text.hasBlank event = false := by
  obtain ⟨flat, hflat, rfl⟩ := map_eq_ok.mp h
  rw [Text.hasBlank_append ("topic_" ++ flat), Text.hasBlank_append "topic_" flat,
    hasBlank_of_flatName hflat]
  rfl

theorem Chart.hasBlank_name {c : Chart} (h : c.check = .ok ()) : Text.hasBlank c.name = false := by
  obtain ⟨⟨-, hname⟩, -⟩ := Chart.check_eq_ok.mp h
  refine Text.hasBlank_eq_false.mpr fun ch hch => ?_
  have hallowed := hname ch hch
  simp only [isForbiddenInName, Bool.or_eq_false_iff] at hallowed
  exact hallowed.1.1

/-- The trigger is a tick of a timer with a blank in its name. Names of timers are not flattened,
and so nothing keeps a blank out of them. -/
def Trigger.TicksBlank (t : Trigger) : Prop :=
  ∃ timer, t = .reception .tick timer ∧ Text.hasBlank timer = true

/-- Only the tick of a timer brings a blank into an event. Topics and services have flat names,
while the name of a timer is taken as it is. -/
theorem Trigger.Image.blankFree {automaton : String} (hname : Text.hasBlank automaton = false)
    {t t' : Trigger} (h : t.Image automaton t') (hblank : t.BlankFree) (htick : ¬ t.TicksBlank) :
    t'.BlankFree := by
  cases h with
  | events names => exact hblank
  | tick timer =>
    have htimer : Text.hasBlank timer = false := by
      cases hblank : Text.hasBlank timer with
      | false => rfl
      | true => exact absurd ⟨timer, rfl, hblank⟩ htick
    refine List.forall_mem_singleton.mpr ?_
    change Text.hasBlank ("ros_time_rate." ++ timer) = false
    rw [Text.hasBlank_append, htimer]
    rfl
  | message h => exact List.forall_mem_singleton.mpr (Wire.hasBlank_topicMessage h)
  | request h =>
    exact List.forall_mem_singleton.mpr
      (@ServiceEvent.hasBlank_onWire _ _ .serverRequest h (by simp))
  | response h =>
    exact List.forall_mem_singleton.mpr
      (@ServiceEvent.hasBlank_onWire _ _ (.clientResponse automaton) h (by simpa using hname))

/-- The events of an arbiter have no blanks, if neither the service nor its clients have one in
their names. -/
theorem Arbiter.blankFree_chart {flat : String} (hflat : Text.hasBlank flat = false)
    (schema : ServiceSchema) {clients : List String}
    (hclients : ∀ client ∈ clients, Text.hasBlank client = false) :
    (chart flat schema clients).BlankFree := by
  intro s hs t ht
  rcases List.mem_cons.mp hs with rfl | hs
  · obtain ⟨client, hclient, rfl⟩ := List.mem_map.mp ht
    exact List.forall_mem_singleton.mpr
      (ServiceEvent.hasBlank_text hflat (by simpa using hclients client hclient))
  · obtain ⟨client, -, rfl⟩ := List.mem_map.mp hs
    obtain rfl := List.mem_singleton.mp ht
    exact List.forall_mem_singleton.mpr (ServiceEvent.hasBlank_text hflat (by simp))

/-! ### Whole networks -/

/-- A plain form is well formed, and only ticks bring blanks into it. -/
theorem Chart.of_toPlain {c plain : Chart} {r : Registry} (hcheck : c.check = .ok ())
    (hblank : c.BlankFree) (h : c.toPlain = .ok (plain, r)) :
    plain.check = .ok () ∧ (plain.BlankFree ∨ ∃ t ∈ c.triggers, t.TicksBlank) := by
  refine ⟨check_toPlain h hcheck, ?_⟩
  by_cases hticks : ∃ t ∈ c.triggers, t.TicksBlank
  · exact .inr hticks
  · refine .inl (Chart.blankFree_iff.mpr fun t' ht' => ?_)
    obtain ⟨t, ht, himage⟩ := exists_source (Chart.triggers_image h) ht'
    exact himage.blankFree (Chart.hasBlank_name hcheck) (Chart.blankFree_iff.mp hblank t ht)
      fun htick => hticks ⟨t, ht, htick⟩

/-- An arbiter is well formed and has no blanks in events, if no chart has one in its name. -/
theorem Service.HasParties.of_arbiter {charts : List Chart} {flat : String} {s : Service}
    (hs : s.HasParties charts flat) (hcharts : ∀ c ∈ charts, c.check = .ok ())
    {interpret : Interpreter} {a : Chart} (h : s.arbiter interpret = .ok a) :
    a.check = .ok () ∧ a.BlankFree := by
  obtain ⟨-, schema, flat', -, hflat', -, hcheck, rfl⟩ := Service.arbiter_eq_ok.mp h
  refine ⟨hcheck, Arbiter.blankFree_chart (Wire.hasBlank_of_flatName hflat') schema ?_⟩
  rw [hs.clients]
  refine List.forall_mem_map.mpr fun c hc => ?_
  exact Chart.hasBlank_name (hcharts c (List.mem_of_mem_filter hc))

/-- A well formed chart without declarations is read back exactly if its events have no blanks. An
event with a blank would be read as two. -/
theorem Document.read_write_iff {c : Chart} (hcheck : c.check = .ok ())
    (hdeclarations : c.declarations = []) :
    Document.read (Document.write c) = .ok c ↔ c.BlankFree := by
  refine ⟨fun hread => (Document.of_read hread).2, fun hblank => ?_⟩
  refine Document.read_write hcheck hblank fun d hd => ?_
  rw [hdeclarations] at hd
  cases hd

/-- **Compiled charts come back** from the documents that spell them, up to the ticks of timers.
An output of documents that were read and compiled comes back exactly if no event of it has a blank;
and if it does not, the chart of its name waits for the tick of a timer with a blank in its name. -/
theorem compiled_comes_back {docs : List String} {charts : List Chart} {interpret : Interpreter}
    {out : Compiled} (hdocs : docs.mapM Document.read = .ok charts)
    (hout : Network.compile interpret charts = .ok out) :
    ∀ c ∈ out.charts, (Document.read (Document.write c) = .ok c ↔ c.BlankFree) ∧
      (Document.read (Document.write c) = .ok c ∨
        ∃ input ∈ charts, input.name = c.name ∧ ∃ t ∈ input.triggers, t.TicksBlank) := by
  have hcharts : ∀ c ∈ charts, c.check = .ok () ∧ c.BlankFree := by
    intro c hc
    obtain ⟨doc, -, hread⟩ := exists_source (mapM_eq_ok.mp hdocs) hc
    exact Document.of_read hread
  obtain ⟨parts, arbiters, hparts, harbiters, -, rfl⟩ := Network.compile_parts hout
  intro c hc
  rcases List.mem_append.mp hc with hc | hc
  · -- the plain form of one of the charts
    rw [List.map_map] at hc
    obtain ⟨⟨plain, r⟩, hpart, rfl⟩ := List.mem_map.mp hc
    obtain ⟨input, hinput, hplain⟩ := exists_source hparts hpart
    obtain ⟨hcheck, hblank⟩ := hcharts input hinput
    obtain ⟨hplaincheck, hplainblank⟩ := Chart.of_toPlain hcheck hblank hplain
    have hback := Document.read_write_iff (Chart.check_tidy hplaincheck)
      (plain.declarations_tidy.trans (Chart.declarations_toPlain hplain))
    refine ⟨hback, ?_⟩
    rcases hplainblank with hplainblank | hticks
    · exact .inl (hback.mpr (Chart.blankFree_tidy hplainblank))
    · obtain ⟨hname, -⟩ := Chart.declared_of_toPlain hplain
      exact .inr ⟨input, hinput, (plain.name_tidy.trans hname).symm, hticks⟩
  · -- an arbiter
    obtain ⟨flat, -, s, hs, ha⟩ := exists_source harbiters hc
    obtain ⟨hcheck, hblank⟩ := hs.of_arbiter (fun c hc => (hcharts c hc).1) ha
    have hback := Document.read_write_iff hcheck (Service.declarations_arbiter ha)
    exact ⟨hback, .inl (hback.mpr hblank)⟩

/-- Documents of charts that can be read at all are read one by one. -/
theorem Document.mapM_read_write {charts : List Chart}
    (h : ∀ c ∈ charts, c.check = .ok () ∧ c.BlankFree ∧ c.HasRates) :
    (charts.map Document.write).mapM Document.read = .ok charts := by
  rw [mapM_eq_ok, List.forall₂_map_left_iff, List.forall₂_same]
  intro c hc
  obtain ⟨hcheck, hblank, hrates⟩ := h c hc
  exact Document.read_write hcheck hblank hrates

/-- A chart that waits for the tick of a timer. -/
def Sample.ticking (timer : String) : Chart :=
  ⟨"ticking", "idle", [], [.timer timer 1.0],
    [⟨"idle", [], [], [⟨"idle", .reception .tick timer, none, []⟩]⟩]⟩

/-- A timer with a blank in its name is accepted, and its chart does not come back. -/
theorem compiled_not_back :
    ∃ charts out c, [Document.write (Sample.ticking "a b")].mapM Document.read = .ok charts ∧
      Network.compile scriptInterpreter charts = .ok out ∧ c ∈ out.charts ∧
      Document.read (Document.write c) ≠ .ok c := by
  have hdocs : ([Sample.ticking "a b"].map Document.write).mapM Document.read =
      .ok [Sample.ticking "a b"] := Document.mapM_read_write (by decide +kernel)
  have hlost : (Network.compile scriptInterpreter [Sample.ticking "a b"]).toOption.any
      (fun out => out.charts.any fun c => !decide c.BlankFree) = true := by
    decide +kernel
  obtain ⟨out, hout, hlost⟩ := exists_of_any hlost
  obtain ⟨c, hc, hblank⟩ := List.any_eq_true.mp hlost
  refine ⟨_, out, c, hdocs, hout, hc, fun hread => ?_⟩
  simp [(Document.of_read hread).2] at hblank

open Sample in
/-- A timer without a blank in its name comes back. The charts are written and read before they are
compiled as well as after. -/
theorem compiled_comes_back_sample :
    ∃ (charts : List Chart) (out : Compiled),
      charts = [serving "a", asking "b", ticking "my-timer"] ∧
      (charts.map Document.write).mapM Document.read = .ok charts ∧
      Network.compile scriptInterpreter charts = .ok out ∧ out.charts.length = 4 ∧
      ∀ c ∈ out.charts, Document.read (Document.write c) = .ok c := by
  have hdocs : ([serving "a", asking "b", ticking "my-timer"].map Document.write).mapM
      Document.read = .ok [serving "a", asking "b", ticking "my-timer"] :=
    Document.mapM_read_write (by decide +kernel)
  have hkept : (Network.compile scriptInterpreter
      [serving "a", asking "b", ticking "my-timer"]).toOption.any (fun out =>
        out.charts.length = 4 && out.charts.all fun c => decide c.BlankFree) = true := by
    decide +kernel
  obtain ⟨out, hout, hkept⟩ := exists_of_any hkept
  obtain ⟨hlength, hblank⟩ := Bool.and_eq_true_iff.mp hkept
  refine ⟨_, out, rfl, hdocs, hout, of_decide_eq_true hlength, fun c hc => ?_⟩
  have hfree : c.BlankFree := of_decide_eq_true (List.all_eq_true.mp hblank c hc)
  exact (compiled_comes_back hdocs hout c hc).1.mpr hfree

end ChartNet
