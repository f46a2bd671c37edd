import ChartNet.Proofs.Recognition
import ChartNet.Proofs.Spelling

/-!
# Documents that come back

What is written is read as the chart that it spells, if no event has a blank in it and all rates
are numbers (`Document.read_write`). Of a chart that was itself read, only the rates matter: events
are read as words, so that no blank can be in them. This is seen on the tree of its document.
-/

namespace ChartNet

open Xml (Written)

/-- **A chart that passes its check is read from the text that spells it.** The text is cut into the
tags that were written, and the tags are read as the chart. -/
theorem Document.read_write {c : Chart} (hcheck : c.check = .ok ()) (hblank : c.BlankFree)
    (hrates : c.HasRates) : Document.read (Document.write c) = .ok c := by
  have hreads := Reader.reads_chart hcheck hblank hrates
  obtain ⟨es, hscan, hes⟩ := Xml.scan_print hreads.forest
  obtain ⟨⟨offset, e⟩, es, rfl, he, htags⟩ := List.map_eq_cons_iff.mp hes
  obtain rfl : e = .other := he
  have hbuild : Builder.build ⟨c.name, some c.initial, c.data, c.declarations, c.states⟩ = .ok c :=
    Chart.build_toBuilder hcheck
  rw [Document.read, Document.write, hscan]
  simp only [Reader.run, Reader.step, ok_bind, hreads.run_eq htags, Reader.finish, hbuild]
  rfl

/-! ### Events are read as words -/

namespace Document.Element

/-- Between the blanks of a text there are no blanks. The events of a transition are the words of a
text, so that what was read has no blanks in events. -/
theorem blankFree_of_transition? {e : Element} {t : Transition} (h : e.transition? = some t) :
    t.trigger.BlankFree := by
  obtain ⟨kind, as, content⟩ := e
  cases kind with
  | transition =>
    obtain rfl := Option.some.inj h
    intro n hn
    cases hevent : as.lookup "event" with
    | none => simp [hevent] at hn
    | some text =>
      rw [hevent] at hn
      exact Text.hasBlank_of_mem_words hn
  | reception kind =>
    obtain rfl := Option.some.inj h
    trivial
  | _ => cases h

/-- A state that was read has no blanks in events. -/
theorem blankFree_of_state? {e : Element} {s : State} (h : e.state? = some s) : s.BlankFree := by
  obtain ⟨kind, as, content⟩ := e
  cases kind with
  | state =>
    obtain rfl := Option.some.inj h
    intro t ht
    obtain ⟨child, -, hchild⟩ := List.mem_filterMap.mp ht
    exact blankFree_of_transition? hchild
  | _ => cases h

end Document.Element

/-- A chart that was read is well formed, and has no blanks in events. Its rates may still be what
is no number. -/
theorem Document.of_read {text : String} {c : Chart} (h : Document.read text = .ok c) :
    c.check = .ok () ∧ c.BlankFree := by
  obtain ⟨-, ⟨kind, as, content⟩, -, -, -, hcheck, rfl⟩ := Document.read_eq_ok.mp h
  refine ⟨hcheck, ?_⟩
  intro s hs
  obtain ⟨child, -, hchild⟩ := List.mem_filterMap.mp hs
  exact Document.Element.blankFree_of_state? hchild

/-- **Documents come back.** A chart that was built is read from the text that spells it, if no
event has a blank in it and all rates are numbers. A chart that was read needs the rates only, and
the text that spells it is a normal form: reading and writing it again changes nothing. The text
itself may be another one than the one that was read. -/
theorem document_comes_back :
    (∀ (b : Builder) (c : Chart), b.build = .ok c → c.BlankFree → c.HasRates →
      Document.read (Document.write c) = .ok c) ∧
    ∀ (text : String) (c : Chart), Document.read text = .ok c → c.HasRates →
      Document.read (Document.write c) = .ok c ∧
      (Document.read (Document.write c)).map Document.write = .ok (Document.write c) := by
  refine ⟨fun b c hbuild hblank hrates => ?_, fun text c hread hrates => ?_⟩
  · obtain ⟨hcheck, rfl⟩ := Builder.build_eq_ok.mp hbuild
    exact Document.read_write hcheck hblank hrates
  · obtain ⟨hcheck, hblank⟩ := Document.of_read hread
    have hback := Document.read_write hcheck hblank hrates
    rw [hback]
    exact ⟨rfl, rfl⟩

/-- A chart with marks and quotes in its texts, choices inside choices, and a rate that is no whole
number. -/
def Sample.spelled : Chart where
  name := "spelled"
  initial := "idle"
  data := [⟨"n", some "\"<&>\"", none⟩, ⟨"m", none, some "int32"⟩]
  declarations := [.timer "my timer" 0.1, .endpoint .client "/set_bool" "std_srvs/SetBool"]
  states := [
    ⟨"idle", [.assign "n" "n + 1"], [.send "left" [⟨"n", "n"⟩]],
      [⟨"busy", .events ["go", "start"], some "n < 3 && m > 0",
          [.choose [("n > 0", [.choose [("n > 1", [])] [.send "zero" []]]), ("n > 2", [])]
            [.emit .request "/set_bool" [⟨"data", "true"⟩]]]⟩,
        ⟨"idle", .reception .tick "my timer", none, []⟩]⟩,
    ⟨"busy", [], [], [⟨"idle", .events [], none, []⟩]⟩]

/-- A text that is no normal form. -/
def Sample.loose : String :=
  "<scxml name='a'><!-- two events -->
    <state id='s'><transition event=' go  stop ' target='&#115;'></transition></state></scxml>"

/-- A chart with texts that have to be written with care is read back as it is. A text that is no
normal form is read as a chart, and it is the text of that chart which is read as the same chart. -/
theorem document_comes_back_sample :
    (Sample.spelled.toBuilder.build = .ok Sample.spelled ∧
      Sample.spelled.BlankFree ∧ Sample.spelled.HasRates ∧
      Document.read (Document.write Sample.spelled) = .ok Sample.spelled) ∧
    ∃ c, Document.read Sample.loose = .ok c ∧ c.HasRates ∧
      Document.read (Document.write c) = .ok c := by
  constructor
  · have hbuild : Sample.spelled.toBuilder.build = .ok Sample.spelled :=
      Builder.build_eq_ok.mpr ⟨by decide +kernel, rfl⟩
    have hblank : Sample.spelled.BlankFree := by decide +kernel
    have hrates : Sample.spelled.HasRates := by decide +kernel
    exact ⟨hbuild, hblank, hrates, document_comes_back.1 _ _ hbuild hblank hrates⟩
  · have hloose : (Document.read Sample.loose).toOption.any (·.declarations.isEmpty) = true := by
      decide +kernel
    obtain ⟨c, hread, hnone⟩ := exists_of_any hloose
    have hrates : c.HasRates := by
      intro d hd
      rw [List.isEmpty_iff.mp hnone] at hd
      cases hd
    exact ⟨c, hread, hrates, (document_comes_back.2 _ _ hread hrates).1⟩

end ChartNet
