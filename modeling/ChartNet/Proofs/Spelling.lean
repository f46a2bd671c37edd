import ChartNet.Proofs.Blanks
import ChartNet.Proofs.Elements
import ChartNet.Proofs.WellFormed

/-!
# Spellings that are read again

Each part of a chart that passes its check is read from the tags that spell it. The parts are
followed from the inside out: actions, transitions, states, and at last the whole chart
(`Reader.reads_chart`).

Actions nest, and the reader keeps them on a stack. What it does with an action depends on the
element around only in that it holds actions: `Reader.Holds` says how such an element looks as a
function of the actions in it, and the induction over actions is about all such functions at once.
-/

namespace ChartNet

open Xml (Attribute Written IsName)

/-- No event that the trigger waits for has a blank in it. Events are written with blanks between
them, and an event with a blank would be read as two. -/
def Trigger.BlankFree : Trigger → Prop
  | events names => ∀ n ∈ names, Text.hasBlank n = false
  | reception .. => True

instance : (t : Trigger) → Decidable t.BlankFree
  | .events names => inferInstanceAs (Decidable (∀ n ∈ names, Text.hasBlank n = false))
  | .reception .. => .isTrue trivial

/-- No event that a transition of the state waits for has a blank in it. -/
def State.BlankFree (s : State) : Prop := ∀ t ∈ s.transitions, t.trigger.BlankFree

instance (s : State) : Decidable s.BlankFree := inferInstanceAs (Decidable (∀ _ ∈ _, _))

/-- No event that the chart waits for has a blank in it. -/
def Chart.BlankFree (c : Chart) : Prop := ∀ s ∈ c.states, s.BlankFree

instance (c : Chart) : Decidable c.BlankFree := inferInstanceAs (Decidable (∀ _ ∈ _, _))

/-- A timer's rate is a number. A rate that is not has no digits that it could be read back from. -/
def Declaration.HasRate : Declaration → Prop
  | timer _ rate => rate.isNaN = false
  | endpoint .. => True

instance : (d : Declaration) → Decidable d.HasRate
  | .timer _ rate => inferInstanceAs (Decidable (rate.isNaN = false))
  | .endpoint .. => .isTrue trivial

/-- The rates of all timers are numbers. -/
def Chart.HasRates (c : Chart) : Prop := ∀ d ∈ c.declarations, d.HasRate

instance (c : Chart) : Decidable c.HasRates := inferInstanceAs (Decidable (∀ _ ∈ _, _))

namespace Reader

/-! ### Actions -/

/-- The elements `hold b` hold the actions `b`, and take one more behind them. The marks of a choice
are no actions. -/
structure Holds (hold : Block → Frame) : Prop where
  /-- an action is pushed to the end of the block -/
  push (b : Block) (a : Action) (name : String) :
    (hold b).pushAction a name = .ok (hold (b ++ [a]))
  /-- inside, all tags but the marks of a choice open actions -/
  opens (b : Block) {name : String} (h : name ≠ "elseif") (h' : name ≠ "else") (cs : List Char) :
    openInside ⟨name, cs⟩ (hold b) = openAction ⟨name, cs⟩

theorem holds_entry : Holds .entry := ⟨fun _ _ _ => rfl, fun _ _ _ _ _ => rfl⟩

theorem holds_exit : Holds .exit := ⟨fun _ _ _ => rfl, fun _ _ _ _ _ => rfl⟩

theorem holds_transition (tag : String) (t : Transition) :
    Holds fun b => .transition tag { t with body := b } :=
  ⟨fun _ _ _ => rfl, fun _ _ _ _ _ => rfl⟩

theorem holds_otherwise (branches : List (String × Block)) :
    Holds fun b => .choice branches (some b) :=
  ⟨fun _ _ _ => rfl, fun _ _ _ _ _ => rfl⟩

theorem holds_branch (init : List (String × Block)) (condition : String) :
    Holds fun b => .choice (init ++ [(condition, b)]) none where
  push b a name := by simp only [Frame.pushAction, Frame.pushBranch_concat]
  opens b name h h' cs := by simp only [openInside, openInChoice]

theorem openAction_emission (kind : Emission) (cs : List Char) :
    openAction ⟨kind.tag, cs⟩ = openEmission ⟨kind.tag, cs⟩ kind.tag kind := by
  cases kind <;> rfl

section

variable {hold : Block → Frame} (hhold : Holds hold) (b : Block)

include hhold

theorem opens_assign (location expr : String) :
    Opens (hold b) "assign" [("location", location), ("expr", expr)]
      (.action "assign" (.assign location expr)) := by
  refine .of_attributes ["location", "expr"] [] ["location", "expr"] (by decide) rfl
    (by decide) fun hattributes => ?_
  rw [hhold.opens b (by simp) (by simp)]
  simp only [openAction, hattributes]
  rfl

theorem opens_send (event : String) :
    Opens (hold b) "send" [("event", event)] (.action "send" (.send event [])) := by
  refine .of_attributes ["event"] [] ["event"] (by decide) rfl (by decide) fun hattributes => ?_
  rw [hhold.opens b (by simp) (by simp)]
  simp only [openAction, hattributes]
  rfl

theorem opens_emission (kind : Emission) (resource : String) :
    Opens (hold b) kind.tag [(kind.key, resource)]
      (.action kind.tag (.emit kind resource [])) := by
  refine .of_attributes [kind.key] [] [kind.key] (by cases kind <;> decide) rfl
    (by cases kind <;> decide) fun hattributes => ?_
  rw [hhold.opens b (by cases kind <;> decide) (by cases kind <;> decide), openAction_emission,
    openEmission, hattributes]
  simp [value]

theorem opens_choice (condition : String) :
    Opens (hold b) "if" [("cond", condition)] (.choice [(condition, [])] none) := by
  refine .of_attributes ["cond"] [] ["cond"] (by decide) rfl (by decide) fun hattributes => ?_
  rw [hhold.opens b (by simp) (by simp)]
  simp only [openAction, hattributes]
  rfl

end

theorem opens_param (event : String) (ps : List Param) (p : Param) :
    Opens (.action "send" (.send event ps)) "param" [("name", p.name), ("expr", p.expr)]
      (.param "param" p) := by
  refine .of_attributes ["name", "expr"] [] ["name", "expr"] (by decide) rfl (by decide)
    fun hattributes => ?_
  simp only [openInside, openInAction, openParam, hattributes, if_true]
  rfl

theorem opens_field (kind : Emission) (resource : String) (ps : List Param) (p : Param) :
    Opens (.action kind.tag (.emit kind resource ps)) "field"
      [("name", p.name), ("expr", p.expr)] (.param "field" p) := by
  refine .of_attributes ["name", "expr"] [] ["name", "expr"] (by decide) rfl (by decide)
    fun hattributes => ?_
  have hinside : ∀ cs, openInAction ⟨"field", cs⟩ kind.tag = openParam ⟨"field", cs⟩ "field" := by
    cases kind <;> exact fun _ => rfl
  rw [openInside, hinside, openParam, hattributes]
  rfl

theorem turns_params (event : String) (ps : List Param) :
    Turns (.action "send" (.send event [])) (ps.map (Param.written "param"))
      (.action "send" (.send event ps)) := by
  rw [List.map_eq_flatMap]
  exact @Turns.each _ (fun ps => .action "send" (.send event ps)) _ _
    (fun p _ done => .empty (opens_param event done p) rfl) []

theorem turns_fields (kind : Emission) (resource : String) (ps : List Param) :
    Turns (.action kind.tag (.emit kind resource [])) (ps.map (Param.written "field"))
      (.action kind.tag (.emit kind resource ps)) := by
  rw [List.map_eq_flatMap]
  exact @Turns.each _ (fun ps => .action kind.tag (.emit kind resource ps)) _ _
    (fun p _ done => .empty (opens_field kind resource done p) rfl) []

theorem opens_elseIf (branches : List (String × Block)) (condition : String) :
    Opens (.choice branches none) "elseif" [("cond", condition)] (.elseIf condition) := by
  refine .of_attributes ["cond"] [] ["cond"] (by decide) rfl (by decide) fun hattributes => ?_
  simp only [openInside, openInChoice, hattributes]
  rfl

theorem opens_else (branches : List (String × Block)) :
    Opens (.choice branches none) "else" [] .elseMark := by
  refine .of_attributes [] [] [] (by decide) rfl (by decide) fun hattributes => ?_
  simp only [openInside, openInChoice, hattributes]
  rfl

mutual

/-- An action is read at the end of the actions before it. The three statements follow the recursion
by which actions are written; `Holds` stands for all the places where a block can be. -/
theorem turns_action : ∀ {a : Action}, Action.check a = .ok () → ∀ {hold : Block → Frame},
    Holds hold → ∀ done, Turns (hold done) (Action.written a) (hold (done ++ [a]))
  | .assign location expr, _, _, hhold, done => by
    rw [Action.written]
    exact .empty (opens_assign hhold done location expr) (hhold.push done _ _)
  | .send event params, _, _, hhold, done => by
    rw [Action.written]
    exact .element (opens_send hhold done event) (turns_params event params) rfl
      (hhold.push done _ _)
  | .emit kind resource fields, _, _, hhold, done => by
    rw [Action.written]
    exact .element (opens_emission hhold done kind resource) (turns_fields kind resource fields) rfl
      (hhold.push done _ _)
  | .choose [] _, h, _, _, _ => by cases h
  | .choose ((condition, body) :: branches) otherwise, h, _, hhold, done => by
    rw [Action.check, seq_eq_ok, seq_eq_ok, Branches.check, seq_eq_ok, Branch.check, seq_eq_ok] at h
    obtain ⟨-, ⟨⟨-, hbody⟩, hbranches⟩, hotherwise⟩ := h
    -- the element opens the first branch, and marks between the actions open the others
    have hfirst := turns_block hbody (holds_branch [] condition) []
    have hnext := turns_branches hbranches [(condition, body)]
    have hlast : ∃ otherwise?, Turns (.choice ((condition, body) :: branches) none)
        (if otherwise.isEmpty then [] else .empty "else" [] :: Block.written otherwise)
        (.choice ((condition, body) :: branches) otherwise?) ∧ otherwise?.getD [] = otherwise := by
      cases otherwise with
      | nil => exact ⟨none, .nil _, rfl⟩
      | cons a as =>
        refine ⟨some (a :: as), ?_, rfl⟩
        have hmark : Turns (.choice ((condition, body) :: branches) none) [.empty "else" []]
            (.choice ((condition, body) :: branches) (some [])) := .empty (opens_else _) rfl
        exact hmark.append (turns_block hotherwise (holds_otherwise _) [])
    obtain ⟨otherwise?, hlast, hgetD⟩ := hlast
    rw [Action.written, ← List.cons_append]
    refine .spanned (opens_choice hhold done condition) ((hfirst.append hnext).append hlast) rfl ?_
    rw [Frame.absorb, hgetD]
    exact hhold.push done _ _

/-- A block is read behind the actions before it, one action after the other. -/
theorem turns_block : ∀ {b : List Action}, Block.check b = .ok () → ∀ {hold : Block → Frame},
    Holds hold → ∀ done, Turns (hold done) (Block.written b) (hold (done ++ b))
  | [], _, _, _, done => by
    rw [Block.written, List.append_nil]
    exact .nil _
  | a :: as, h, _, hhold, done => by
    rw [Block.check, seq_eq_ok] at h
    rw [Block.written, List.append_cons]
    exact (turns_action h.1 hhold done).append (turns_block h.2 hhold _)

/-- Further branches are read behind those before them. Each mark begins the branch that the actions
after it go to. -/
theorem turns_branches : ∀ {bs : List (String × List Action)}, Branches.check bs = .ok () →
    ∀ done, Turns (.choice done none) (Branches.written bs) (.choice (done ++ bs) none)
  | [], _, done => by
    rw [Branches.written, List.append_nil]
    exact .nil _
  | (condition, body) :: bs, h, done => by
    rw [Branches.check, seq_eq_ok, Branch.check, seq_eq_ok] at h
    obtain ⟨⟨-, hbody⟩, hbs⟩ := h
    have hmark : Turns (.choice done none) [.empty "elseif" [("cond", condition)]]
        (.choice (done ++ [(condition, [])]) none) := .empty (opens_elseIf done condition) rfl
    have hbranch := hmark.append (turns_block hbody (holds_branch done condition) [])
    rw [Branches.written, Branch.written, List.append_cons]
    exact hbranch.append (turns_branches hbs _)

end

/-- The content of a state is read into it. If there is none, there is no element for it either, and
nothing changes. -/
theorem turns_content {tag : String} {hold : Block → Frame} (hhold : Holds hold)
    (htag : ∀ b, (hold b).tag = tag) {parent parent' : Frame} {b : Block}
    (hopens : Opens parent tag [] (hold [])) (hcheck : Block.check b = .ok ())
    (habsorb : parent.absorb (hold b) = .ok parent') (hnil : b = [] → parent' = parent) :
    Turns parent (contentWritten tag b) parent' := by
  rw [contentWritten]
  split
  · rename_i hempty
    rw [hnil (List.isEmpty_iff.mp hempty)]
    exact .nil _
  · exact .spanned hopens (turns_block hcheck hhold []) (htag b) habsorb

/-! ### Transitions -/

theorem keys_optionalAttribute (key : String) (value? : Option String) :
    (optionalAttribute key value?).map (·.1) = if value?.isSome then [key] else [] := by
  cases value? <;> rfl

theorem openInState_reception (kind : Reception) (cs : List Char) :
    openInState ⟨kind.tag, cs⟩ = openReception ⟨kind.tag, cs⟩ kind.tag kind := by
  cases kind <;> rfl

theorem opens_reception (s : State) (kind : Reception) (resource target : String)
    (guard? : Option String) :
    Opens (.state s) kind.tag
      ([(kind.key, resource)] ++ [("target", target)] ++ optionalAttribute "cond" guard?)
      (.transition kind.tag ⟨target, .reception kind resource, guard?, []⟩) := by
  have hadmits : ∀ guarded : Bool, Admits [kind.key, "target"] ["cond"]
      ([kind.key, "target"] ++ if guarded then ["cond"] else []) := by
    cases kind <;> decide
  refine .of_attributes [kind.key, "target"] ["cond"]
    ([kind.key, "target"] ++ if guard?.isSome then ["cond"] else [])
    (by cases kind <;> decide) ?_ (hadmits _) fun hattributes => ?_
  · rw [List.map_append, keys_optionalAttribute]
    rfl
  · rw [openInside, openInState_reception, openReception, hattributes]
    cases kind <;> cases guard? <;> rfl

/-- The events of a transition are separated by spaces; a transition without events has no list of
them. -/
theorem opens_events (s : State) {names : List String} (target : String) (guard? : Option String)
    (hne : ∀ n ∈ names, n ≠ "") (hblank : ∀ n ∈ names, Text.hasBlank n = false) :
    Opens (.state s) "transition"
      ((Trigger.events names).attributes ++ [("target", target)] ++
        optionalAttribute "cond" guard?)
      (.transition "transition" ⟨target, .events names, guard?, []⟩) := by
  have hadmits : ∀ guarded listed : Bool, Admits ["target"] ["event", "cond"]
      ((if listed then ["event"] else []) ++ ["target"] ++ if guarded then ["cond"] else []) := by
    decide
  refine .of_attributes ["target"] ["event", "cond"]
    ((if !names.isEmpty then ["event"] else []) ++ ["target"] ++
      if guard?.isSome then ["cond"] else [])
    (by decide) ?_ (hadmits _ _) fun hattributes => ?_
  · rw [List.map_append, List.map_append, keys_optionalAttribute]
    cases names <;> rfl
  · -- without events there is no attribute, and the reader takes the empty list
    have hwords := Text.words_intercalate hne hblank
    simp only [openInside, openInState, openTransition, hattributes, ok_bind]
    cases names with
    | nil => cases guard? <;> rfl
    | cons name names =>
      have hframe : ∀ guard?,
          Frame.transition "transition" ⟨target, .events (Text.words _), guard?, []⟩ =
            .transition "transition" ⟨target, .events (name :: names), guard?, []⟩ :=
        fun _ => by rw [hwords]
      cases guard? <;> exact congrArg Except.ok (hframe _)

/-- A transition is opened with its target, its trigger and its guard. The name of its element tells
the trigger. -/
theorem opens_transition (s : State) {t : Transition} (hcheck : t.trigger.check = .ok ())
    (hblank : t.trigger.BlankFree) :
    Opens (.state s) t.trigger.tag
      (t.trigger.attributes ++ [("target", t.target)] ++ optionalAttribute "cond" t.guard?)
      (.transition t.trigger.tag { t with body := [] }) := by
  obtain ⟨target, trigger, guard?, body⟩ := t
  cases trigger with
  | events names =>
    have hne : ∀ n ∈ names, n ≠ "" := by simpa [Trigger.check, ensure_eq_ok] using hcheck
    exact opens_events s target guard? hne hblank
  | reception kind resource => exact opens_reception s kind resource target guard?

/-- A transition is read behind those before it, with the actions of its body in their order. -/
theorem turns_transition {source : String} {ids : List String} {t : Transition}
    (hcheck : t.check source ids = .ok ()) (hblank : t.trigger.BlankFree) (s : State) :
    Turns (.state s) t.written (.state { s with transitions := s.transitions ++ [t] }) := by
  obtain ⟨-, htrigger, -, hbody⟩ := Transition.check_eq_ok.mp hcheck
  have hopens := opens_transition s htrigger hblank
  have hturns := turns_block (Block.check_eq_ok.mpr hbody) (holds_transition t.trigger.tag t) []
  rw [Transition.written]
  split
  · rename_i hempty
    refine .empty hopens ?_
    rw [← List.isEmpty_iff.mp hempty]
    rfl
  · exact .spanned hopens hturns rfl rfl

/-! ### States -/

theorem opens_entry (s : State) : Opens (.state s) "onentry" [] (.entry []) :=
  .of_attributes [] [] [] (by decide) rfl (by decide) fun _ => rfl

theorem opens_exit (s : State) : Opens (.state s) "onexit" [] (.exit []) :=
  .of_attributes [] [] [] (by decide) rfl (by decide) fun _ => rfl

/-- The content of a state is read into an empty one: what is done on entering, what is done on
leaving, and the transitions in order. -/
theorem turns_state {ids : List String} {s : State} (hcheck : s.check ids = .ok ())
    (hblank : s.BlankFree) :
    Turns (.state ⟨s.id, [], [], []⟩)
      (contentWritten "onentry" s.entry ++ s.transitions.flatMap Transition.written ++
        contentWritten "onexit" s.exit) (.state s) := by
  obtain ⟨id, entry, exit, transitions⟩ := s
  obtain ⟨hblocks, htransitions⟩ := State.check_eq_ok.mp hcheck
  obtain ⟨hentry, hexit⟩ := List.forall_mem_append.mp hblocks
  have hfirst : Turns (.state ⟨id, [], [], []⟩) (contentWritten "onentry" entry)
      (.state ⟨id, entry, [], []⟩) :=
    turns_content holds_entry (fun _ => rfl) (opens_entry _) (Block.check_eq_ok.mpr hentry) rfl
      (by rintro rfl; rfl)
  have hmiddle : Turns (.state ⟨id, entry, [], []⟩) (transitions.flatMap Transition.written)
      (.state ⟨id, entry, [], transitions⟩) :=
    @Turns.each _ (fun ts => .state ⟨id, entry, [], ts⟩) _ _
      (fun t ht done => turns_transition (htransitions t ht) (hblank t ht) _) []
  have hlast : Turns (.state ⟨id, entry, [], transitions⟩) (contentWritten "onexit" exit)
      (.state ⟨id, entry, exit, transitions⟩) :=
    turns_content holds_exit (fun _ => rfl) (opens_exit _) (Block.check_eq_ok.mpr hexit) rfl
      (by rintro rfl; rfl)
  exact (hfirst.append hmiddle).append hlast

/-! ### Charts -/

theorem opens_datum (d : Datum) :
    Opens .dataModel "data" ([("id", d.id)] ++ optionalAttribute "expr" d.expr? ++
      optionalAttribute "type" d.type?) (.datum d) := by
  obtain ⟨id, expr?, type?⟩ := d
  have hadmits : ∀ valued typed : Bool, Admits ["id"] ["expr", "type"]
      (["id"] ++ (if valued then ["expr"] else []) ++ if typed then ["type"] else []) := by
    decide
  refine .of_attributes ["id"] ["expr", "type"]
    (["id"] ++ (if expr?.isSome then ["expr"] else []) ++ if type?.isSome then ["type"] else [])
    (by decide) ?_ (hadmits _ _) fun hattributes => ?_
  · rw [List.map_append, List.map_append, keys_optionalAttribute, keys_optionalAttribute]
    rfl
  · simp only [openInside, openDatum, hattributes, if_true]
    cases expr? <;> cases type? <;> rfl

theorem openInRoot_endpoint (side : Endpoint) (name type : String) (cs : List Char) :
    openInRoot ⟨(Declaration.endpoint side name type).tag, cs⟩ =
      openEndpoint ⟨(Declaration.endpoint side name type).tag, cs⟩ side := by
  cases side <;> rfl

/-- The four sides of topics and services are opened in one way, each under its own name. -/
theorem opens_endpoint (side : Endpoint) (name type : String) :
    Opens .root (Declaration.endpoint side name type).tag [(side.key, name), ("type", type)]
      (.declaration (.endpoint side name type)) := by
  have hname : IsName (Declaration.endpoint side name type).tag := by
    cases side <;> rw [Declaration.tag] <;> decide
  refine .of_attributes [side.key, "type"] ["name"] [side.key, "type"] hname rfl
    (by cases side <;> decide) fun hattributes => ?_
  rw [openInside, openInRoot_endpoint, openEndpoint, hattributes]
  cases side <;> rfl

/-- A rate is read as the number that it is. This rests on `read?_positional`, that a double is read
back from its shortest digits. -/
theorem opens_timer (name : String) {rate : Float} (h : rate.isNaN = false) :
    Opens .root "ros_time_rate" [("name", name), ("rate_hz", Decimal.positional rate)]
      (.declaration (.timer name rate)) := by
  refine .of_attributes ["name", "rate_hz"] [] ["name", "rate_hz"] (by decide) rfl (by decide)
    fun hattributes => ?_
  have hrate : Decimal.read? (Text.trim (Decimal.positional rate)) = some rate := by
    rw [Text.trim_of_hasBlank (Decimal.hasBlank_positional rate), Decimal.read?_positional h]
  simp only [openInside, openInRoot, openTimer, hattributes, ok_bind]
  have hvalue : value [("name", name), ("rate_hz", Decimal.positional rate)] "rate_hz" =
      Decimal.positional rate := rfl
  simp only [hvalue, hrate]
  rfl

theorem opens_state (id : String) :
    Opens .root "state" [("id", id)] (.state ⟨id, [], [], []⟩) := by
  refine .of_attributes ["id"] [] ["id"] (by decide) rfl (by decide) fun hattributes => ?_
  simp only [openInside, openInRoot, hattributes]
  rfl

section

variable (name? initial? : Option String) (data : List Datum) (declarations : List Declaration)

/-- Variables are read behind those before them. -/
theorem reads_data (states : List State) :
    Reads (opened ⟨name?, initial?, [], declarations, states, []⟩ .root) (dataWritten data)
      (opened ⟨name?, initial?, data, declarations, states, []⟩ .root) := by
  rw [dataWritten]
  split
  · rename_i hempty
    rw [List.isEmpty_iff.mp hempty]
    exact .nil _
  · have hopens : Opens .root "datamodel" [] .dataModel :=
      .of_attributes [] [] [] (by decide) rfl (by decide) fun _ => rfl
    rw [List.map_eq_flatMap]
    have hcontent := @Reads.each Datum
      (fun ds => opened (opened ⟨name?, initial?, ds, declarations, states, []⟩ .root) .dataModel)
      (fun d => [d.written]) data (fun d _ done => .empty (opens_datum d _) rfl) []
    exact .spanned (hopens _) hcontent rfl rfl

/-- Declarations are read behind those before them. -/
theorem reads_declarations (states : List State)
    (hrates : ∀ d ∈ declarations, d.HasRate) :
    Reads (opened ⟨name?, initial?, data, [], states, []⟩ .root)
      (declarations.map Declaration.written)
      (opened ⟨name?, initial?, data, declarations, states, []⟩ .root) := by
  rw [List.map_eq_flatMap]
  refine @Reads.each Declaration
    (fun ds => opened ⟨name?, initial?, data, ds, states, []⟩ .root) (fun d => [d.written]) _
    (fun d hd done => ?_) []
  cases d with
  | timer name rate => exact .empty (opens_timer name (hrates _ hd) _) rfl
  | endpoint side name type => exact .empty (opens_endpoint side name type _) rfl

/-- States are read behind those before them. -/
theorem reads_states {ids : List String} {states : List State}
    (hcheck : ∀ s ∈ states, s.check ids = .ok ())
    (hblank : ∀ s ∈ states, s.BlankFree) :
    Reads (opened ⟨name?, initial?, data, declarations, [], []⟩ .root)
      (states.flatMap State.written)
      (opened ⟨name?, initial?, data, declarations, states, []⟩ .root) :=
  @Reads.each State (fun ss => opened ⟨name?, initial?, data, declarations, ss, []⟩ .root) _ _
    (fun s hs _ =>
      .element (opens_state s.id _) (turns_state (hcheck s hs) (hblank s hs) _) rfl rfl) []

end

/-- The root is entered with the name of the chart and its initial state. -/
theorem enters_root (c : Chart) :
    Enters start "scxml" [("name", c.name), ("version", Document.version), ("model_src", ""),
      ("initial", c.initial), ("xmlns", Document.namespaceName), ("datamodel", Document.language)]
      .root ⟨some c.name, some c.initial, [], [], [], []⟩ := by
  refine .of_attributes ["name"] ["initial", "version", "model_src", "xmlns", "datamodel"]
    ["name", "version", "model_src", "initial", "xmlns", "datamodel"] (by decide) rfl (by decide)
    fun hattributes => ?_
  simp only [enter, start, hattributes]
  rfl

/-- **A chart is read from its tags.** The root is entered, its content is read in the order in
which it is written, and leaving the root leaves a reader with all parts of the chart. -/
theorem reads_chart {c : Chart} (hcheck : c.check = .ok ()) (hblank : c.BlankFree)
    (hrates : c.HasRates) :
    Reads start c.written ⟨some c.name, some c.initial, c.data, c.declarations, c.states, []⟩ := by
  obtain ⟨-, -, -, -, -, hstates⟩ := Chart.check_eq_ok.mp hcheck
  have hdata := reads_data (some c.name) (some c.initial) c.data [] []
  have hdeclarations :=
    reads_declarations (some c.name) (some c.initial) c.data c.declarations [] hrates
  have hcontent := (hdata.append hdeclarations).append
    (reads_states (some c.name) (some c.initial) c.data c.declarations hstates hblank)
  rw [Chart.written, List.cons_append, List.cons_append]
  exact .spanned (enters_root c) hcontent rfl rfl

end Reader

end ChartNet
