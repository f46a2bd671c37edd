import ChartNet.Proofs.Declared

/-!
# The plain form is an image

The plain form of a chart is the chart itself, but for its communication constructs: each of them
has become the event that stands for it on the wire. `Image` says so part by part, without mention
of the registry that the constructs were looked up in, and `PlainForm` for a whole chart.

The proofs follow the nesting of actions. A chart that declares nothing is a case of its own:
nothing was replaced there, because nothing could be used (`uses_eq_nil_of_checkUses`).
-/

namespace ChartNet

/-! ### Images of the parts of a chart -/

/-- The second trigger stands for the first one, in a chart of the given name. The name matters only
to the response of a service. -/
inductive Trigger.Image (automaton : String) : Trigger → Trigger → Prop
  /-- events stay as they are -/
  | events (names : List String) : Image automaton (.events names) (.events names)
  /-- the tick of a timer is an event -/
  | tick (timer : String) :
      Image automaton (.reception .tick timer) (.events [Wire.timerTick timer])
  /-- a message on a topic is an event -/
  | message {topic event : String} (h : Wire.topicMessage topic = .ok event) :
      Image automaton (.reception .message topic) (.events [event])
  /-- a request is an event, the same whoever has asked -/
  | request {service event : String} (h : Wire.serverRequest service = .ok event) :
      Image automaton (.reception .request service) (.events [event])
  /-- a response is an event of its own for each client -/
  | response {service event : String} (h : Wire.clientResponse service automaton = .ok event) :
      Image automaton (.reception .response service) (.events [event])

mutual

/-- The second action stands for the first one, in a chart of the given name. The name matters only
to the request of a service. The relation follows actions into choices, so that images have the same
shape. -/
inductive Action.Image (automaton : String) : Action → Action → Prop
  /-- an assignment stays as it is -/
  | assign (location expr : String) :
      Action.Image automaton (.assign location expr) (.assign location expr)
  /-- an event that is sent stays as it is -/
  | send (event : String) (params : List Param) :
      Action.Image automaton (.send event params) (.send event params)
  /-- a choice has the same branches, with images of their blocks -/
  | choose {branches branches' : List (String × List Action)} {otherwise otherwise' : List Action}
      (hbranches : Branches.Image automaton branches branches')
      (hotherwise : Block.Image automaton otherwise otherwise') :
      Action.Image automaton (.choose branches otherwise) (.choose branches' otherwise')
  /-- a message is sent as an event, with its fields as parameters -/
  | message {topic event : String} (fields : List Param)
      (h : Wire.topicMessage topic = .ok event) :
      Action.Image automaton (.emit .message topic fields) (.send event fields)
  /-- a request is sent as an event of its own for each client -/
  | request {service event : String} (fields : List Param)
      (h : Wire.clientRequest service automaton = .ok event) :
      Action.Image automaton (.emit .request service fields) (.send event fields)
  /-- a response is sent as an event, the same whoever has asked -/
  | response {service event : String} (fields : List Param)
      (h : Wire.serverResponse service = .ok event) :
      Action.Image automaton (.emit .response service fields) (.send event fields)

/-- Action by action. -/
inductive Block.Image (automaton : String) : List Action → List Action → Prop
  /-- nothing stands for nothing -/
  | nil : Block.Image automaton [] []
  /-- one action after the other -/
  | cons {a a' : Action} {as as' : List Action} (ha : Action.Image automaton a a')
      (has : Block.Image automaton as as') : Block.Image automaton (a :: as) (a' :: as')

/-- Branch by branch, under the same conditions. -/
inductive Branches.Image (automaton : String) :
    List (String × List Action) → List (String × List Action) → Prop
  /-- no branches stand for none -/
  | nil : Branches.Image automaton [] []
  /-- a branch has the same condition -/
  | cons (condition : String) {body body' : List Action} {bs bs' : List (String × List Action)}
      (hbody : Block.Image automaton body body') (hbs : Branches.Image automaton bs bs') :
      Branches.Image automaton ((condition, body) :: bs) ((condition, body') :: bs')

end

/-- The second transition stands for the first one. -/
structure Transition.Image (automaton : String) (t t' : Transition) : Prop where
  /-- it leads to the same state -/
  target : t'.target = t.target
  /-- it has the same guard -/
  guard : t'.guard? = t.guard?
  /-- its trigger is replaced -/
  trigger : t.trigger.Image automaton t'.trigger
  /-- so are the actions in its body -/
  body : Block.Image automaton t.body t'.body

/-- The second state stands for the first one: it is the same but for the constructs in it, each of
which has its image in the same place. -/
structure State.Image (automaton : String) (s s' : State) : Prop where
  /-- it is the same state -/
  id : s'.id = s.id
  /-- what is done on entering is replaced -/
  entry : Block.Image automaton s.entry s'.entry
  /-- what is done on leaving is replaced -/
  exit : Block.Image automaton s.exit s'.exit
  /-- so are the transitions, each in its place -/
  transitions : List.Forall₂ (Transition.Image automaton) s.transitions s'.transitions

/-- The chart `plain` communicates by events alone, and stands for `c`. -/
structure PlainForm (c plain : Chart) : Prop where
  /-- nothing is declared any more -/
  no_declarations : plain.declarations = []
  /-- transitions wait for events alone -/
  no_reception : ∀ s ∈ plain.states, ∀ t ∈ s.transitions, t.trigger.communicates = false
  /-- events are all that is sent, at any depth of choices -/
  no_emission : ∀ s ∈ plain.states, Block.communicates s.entry = false ∧
    Block.communicates s.exit = false ∧ ∀ t ∈ s.transitions, Block.communicates t.body = false
  /-- the chart keeps its name -/
  name : plain.name = c.name
  /-- it starts in the same state -/
  initial : plain.initial = c.initial
  /-- it has the same variables -/
  data : plain.data = c.data
  /-- it has the same states in the same order, with images of what they do -/
  states : List.Forall₂ (State.Image c.name) c.states plain.states

/-! ### Plain forms are images -/

namespace Plain

theorem trigger_image {r : Registry} {t t' : Trigger} (h : trigger r t = .ok t') :
    t.Image r.automaton t' := by
  cases t with
  | events names =>
    obtain rfl := Except.ok.inj h
    exact .events names
  | reception kind resource =>
    rw [trigger, bind_eq_ok] at h
    obtain ⟨event, hevent, h⟩ := h
    obtain rfl := pure_eq_ok.mp h
    have hwire := usedBy_eq_ok.mp hevent
    cases kind with
    | tick =>
      obtain rfl := Except.ok.inj hwire
      exact .tick resource
    | message => exact .message hwire
    | request => exact .request hwire
    | response => exact .response hwire

/-- An emission that can be replaced becomes an event with its fields. That the fields are right
does not show in the image. -/
theorem emission_image {r : Registry} {kind : Emission} {resource : String} {fields : List Param}
    {a : Action} (h : emission r kind resource fields = .ok a) :
    Action.Image r.automaton (.emit kind resource fields) a := by
  rw [emission, bind_eq_ok] at h
  obtain ⟨event, hevent, h⟩ := h
  rcases hschema : r.schema? kind resource with _ | schema
  · rw [hschema] at h
    cases h
  · rw [hschema] at h
    obtain ⟨-, h⟩ := seq_eq_ok.mp h
    obtain rfl := pure_eq_ok.mp h
    have hwire := usedBy_eq_ok.mp hevent
    cases kind with
    | message => exact .message fields hwire
    | request => exact .request fields hwire
    | response => exact .response fields hwire

mutual

/-- An action that can be replaced becomes its image. The three statements follow the mutual
recursion by which actions, blocks and branches are replaced. -/
theorem action_image {r : Registry} :
    ∀ {a a' : Action}, action r a = .ok a' → Action.Image r.automaton a a'
  | .assign location expr, a', h => by
    rw [action] at h
    obtain rfl := Except.ok.inj h
    exact .assign location expr
  | .send event params, a', h => by
    rw [action] at h
    obtain rfl := Except.ok.inj h
    exact .send event params
  | .choose bs otherwise, a', h => by
    rw [action, bind_eq_ok] at h
    obtain ⟨bs', hbs, h⟩ := h
    obtain ⟨otherwise', hotherwise, h⟩ := bind_eq_ok.mp h
    obtain rfl := pure_eq_ok.mp h
    exact .choose (branches_image hbs) (block_image hotherwise)
  | .emit kind resource fields, a', h => by
    rw [action] at h
    exact emission_image h

/-- A block that can be replaced becomes its image. -/
theorem block_image {r : Registry} :
    ∀ {b b' : List Action}, block r b = .ok b' → Block.Image r.automaton b b'
  | [], b', h => by
    rw [block] at h
    obtain rfl := Except.ok.inj h
    exact .nil
  | a :: as, b', h => by
    rw [block, bind_eq_ok] at h
    obtain ⟨a', ha, h⟩ := h
    obtain ⟨as', has, h⟩ := bind_eq_ok.mp h
    obtain rfl := pure_eq_ok.mp h
    exact .cons (action_image ha) (block_image has)

/-- Branches that can be replaced become their images, with the same conditions. -/
theorem branches_image {r : Registry} :
    ∀ {bs bs' : List (String × List Action)}, branches r bs = .ok bs' →
      Branches.Image r.automaton bs bs'
  | [], bs', h => by
    rw [branches] at h
    obtain rfl := Except.ok.inj h
    exact .nil
  | (condition, body) :: bs, bs', h => by
    rw [branches, branch, bind_eq_ok] at h
    obtain ⟨b', hb, h⟩ := h
    obtain ⟨body', hbody, hb⟩ := bind_eq_ok.mp hb
    obtain rfl := pure_eq_ok.mp hb
    obtain ⟨bs', hbs, h⟩ := bind_eq_ok.mp h
    obtain rfl := pure_eq_ok.mp h
    exact .cons condition (block_image hbody) (branches_image hbs)

end

theorem transition_image {r : Registry} {t t' : Transition} (h : transition r t = .ok t') :
    t.Image r.automaton t' := by
  rw [transition, bind_eq_ok] at h
  obtain ⟨trigger', htrigger, h⟩ := h
  obtain ⟨body', hbody, h⟩ := bind_eq_ok.mp h
  obtain rfl := pure_eq_ok.mp h
  exact ⟨rfl, rfl, trigger_image htrigger, block_image hbody⟩

/-- A state that can be replaced becomes its image. -/
theorem state_image {r : Registry} {s s' : State} (h : state r s = .ok s') :
    s.Image r.automaton s' := by
  rw [state, bind_eq_ok] at h
  obtain ⟨entry', hentry, h⟩ := h
  obtain ⟨exit', hexit, h⟩ := bind_eq_ok.mp h
  obtain ⟨transitions', htransitions, h⟩ := bind_eq_ok.mp h
  obtain rfl := pure_eq_ok.mp h
  exact ⟨rfl, block_image hentry, block_image hexit,
    (mapM_eq_ok.mp htransitions).imp fun _ _ => transition_image⟩

end Plain

/-! ### Images do not communicate -/

theorem Trigger.Image.not_communicates {automaton : String} {t t' : Trigger}
    (h : t.Image automaton t') : t'.communicates = false := by
  cases h <;> rfl

mutual

/-- No leaf of an image sends through a resource. That leaves stand for leaves is not needed, only
what they are. -/
theorem Action.Image.use?_leaves {automaton : String} :
    ∀ {a a' : Action}, Action.Image automaton a a' → ∀ l ∈ Action.leaves a', l.use? = none
  | _, _, .assign _ _ => by simp [Action.leaves, Action.use?]
  | _, _, .send _ _ => by simp [Action.leaves, Action.use?]
  | _, _, .choose hbranches hotherwise => by
    rw [Action.leaves]
    exact List.forall_mem_append.mpr ⟨hbranches.use?_leaves, hotherwise.use?_leaves⟩
  | _, _, .message _ _ => by simp [Action.leaves, Action.use?]
  | _, _, .request _ _ => by simp [Action.leaves, Action.use?]
  | _, _, .response _ _ => by simp [Action.leaves, Action.use?]

theorem Block.Image.use?_leaves {automaton : String} :
    ∀ {b b' : List Action}, Block.Image automaton b b' → ∀ l ∈ Block.leaves b', l.use? = none
  | _, _, .nil => by simp [Block.leaves]
  | _, _, .cons ha has => by
    rw [Block.leaves]
    exact List.forall_mem_append.mpr ⟨ha.use?_leaves, has.use?_leaves⟩

theorem Branches.Image.use?_leaves {automaton : String} :
    ∀ {bs bs' : List (String × List Action)}, Branches.Image automaton bs bs' →
      ∀ l ∈ Branches.leaves bs', l.use? = none
  | _, _, .nil => by simp [Branches.leaves]
  | _, _, .cons _ hbody hbs => by
    rw [Branches.leaves, Branch.leaves]
    exact List.forall_mem_append.mpr ⟨hbody.use?_leaves, hbs.use?_leaves⟩

end

theorem Block.Image.uses_eq_nil {automaton : String} {b b' : Block}
    (h : Block.Image automaton b b') : Block.uses b' = [] :=
  List.filterMap_eq_nil_iff.mpr h.use?_leaves

theorem Block.Image.not_communicates {automaton : String} {b b' : Block}
    (h : Block.Image automaton b b') : Block.communicates b' = false := by
  rw [Block.communicates, h.uses_eq_nil]
  rfl

/-! ### What does not communicate is its own image -/

theorem Trigger.image_self {automaton : String} {t : Trigger} (h : t.uses = []) :
    t.Image automaton t := by
  cases t with
  | events names => exact .events names
  | reception kind resource => cases h

mutual

/-- An action in which nothing is sent through a resource is its own image. This is for charts that
declare nothing, which are passed on as they are. -/
theorem Action.image_self {automaton : String} :
    ∀ {a : Action}, (∀ l ∈ Action.leaves a, l.use? = none) → Action.Image automaton a a
  | .assign location expr, _ => .assign location expr
  | .send event params, _ => .send event params
  | .choose bs otherwise, h => by
    rw [Action.leaves] at h
    obtain ⟨hbs, hotherwise⟩ := List.forall_mem_append.mp h
    exact .choose (Branches.image_self hbs) (Block.image_self hotherwise)
  | .emit kind resource fields, h => by
    have huse := h (.emit kind resource fields) (by simp [Action.leaves])
    cases huse

theorem Block.image_self {automaton : String} :
    ∀ {b : List Action}, (∀ l ∈ Block.leaves b, l.use? = none) → Block.Image automaton b b
  | [], _ => .nil
  | a :: as, h => by
    rw [Block.leaves] at h
    obtain ⟨ha, has⟩ := List.forall_mem_append.mp h
    exact .cons (Action.image_self ha) (Block.image_self has)

theorem Branches.image_self {automaton : String} :
    ∀ {bs : List (String × List Action)}, (∀ l ∈ Branches.leaves bs, l.use? = none) →
      Branches.Image automaton bs bs
  | [], _ => .nil
  | (condition, body) :: bs, h => by
    rw [Branches.leaves, Branch.leaves] at h
    obtain ⟨hbody, hbs⟩ := List.forall_mem_append.mp h
    exact .cons condition (Block.image_self hbody) (Branches.image_self hbs)

end

theorem Block.image_self_of_uses {automaton : String} {b : Block} (h : Block.uses b = []) :
    Block.Image automaton b b :=
  Block.image_self (List.filterMap_eq_nil_iff.mp h)

theorem Transition.image_self {automaton : String} {t : Transition} (h : t.uses = []) :
    t.Image automaton t := by
  obtain ⟨htrigger, hbody⟩ := List.append_eq_nil_iff.mp h
  exact ⟨rfl, rfl, Trigger.image_self htrigger, Block.image_self_of_uses hbody⟩

theorem Block.leaves_append (b b' : List Action) :
    Block.leaves (b ++ b') = Block.leaves b ++ Block.leaves b' := by
  induction b with
  | nil => rfl
  | cons a b ih => rw [List.cons_append, Block.leaves, ih, Block.leaves, List.append_assoc]

theorem Block.uses_append (b b' : Block) :
    Block.uses (b ++ b') = Block.uses b ++ Block.uses b' := by
  rw [Block.uses, Block.leaves_append, List.filterMap_append]
  rfl

/-- A state that uses nothing is its own image. -/
theorem State.image_self {automaton : String} {s : State} (h : s.uses = []) :
    s.Image automaton s := by
  obtain ⟨hcontent, htransitions⟩ := List.append_eq_nil_iff.mp h
  rw [Block.uses_append] at hcontent
  obtain ⟨hentry, hexit⟩ := List.append_eq_nil_iff.mp hcontent
  refine ⟨rfl, Block.image_self_of_uses hentry, Block.image_self_of_uses hexit, ?_⟩
  exact List.forall₂_same.mpr fun t ht =>
    Transition.image_self (List.flatMap_eq_nil_iff.mp htransitions t ht)

/-- Where nothing is declared, nothing can be used. -/
theorem Registry.uses_eq_nil_of_checkUses {name : String} {c : Chart}
    (h : (Registry.empty name).checkUses c = .ok ()) : c.uses = [] := by
  refine List.eq_nil_iff_forall_not_mem.mpr fun use hmem => ?_
  have hrequire := forM_eq_ok.mp h use hmem
  obtain ⟨role, resource⟩ := use
  cases role with
  | timer => cases hrequire
  | endpoint side => cases hrequire

/-! ### Whole charts -/

/-- All that has to be known of a plain form is that its states are images: that it does not
communicate follows from it. -/
theorem PlainForm.of_states {c plain : Chart} (hdeclarations : plain.declarations = [])
    (hname : plain.name = c.name) (hinitial : plain.initial = c.initial)
    (hdata : plain.data = c.data)
    (hstates : List.Forall₂ (State.Image c.name) c.states plain.states) : PlainForm c plain where
  no_declarations := hdeclarations
  no_reception := forall_mem_of_forall₂ (fun _ _ hs => forall_mem_of_forall₂
    (fun _ _ ht => ht.trigger.not_communicates) hs.transitions) hstates
  no_emission := forall_mem_of_forall₂ (fun _ _ hs =>
    ⟨hs.entry.not_communicates, hs.exit.not_communicates,
      forall_mem_of_forall₂ (fun _ _ ht => ht.body.not_communicates) hs.transitions⟩) hstates
  name := hname
  initial := hinitial
  data := hdata
  states := hstates

/-- The states of a plain form stand for those of the chart, also if the chart declares nothing and
is its own plain form. -/
theorem Chart.states_image {c plain : Chart} {r : Registry} (h : c.toPlain = .ok (plain, r)) :
    List.Forall₂ (State.Image c.name) c.states plain.states := by
  obtain ⟨hr, huses, ⟨hnil, rfl⟩ | ⟨-, states, hstates, rfl, -⟩⟩ := Chart.toPlain_eq_ok.mp h
  · -- nothing is declared, and the chart is taken as it is
    obtain rfl : Registry.empty plain.name = r := by
      rw [Registry.ofChart, hnil] at hr
      exact Except.ok.inj hr
    have hstates := List.flatMap_eq_nil_iff.mp (Registry.uses_eq_nil_of_checkUses huses)
    exact List.forall₂_same.mpr fun s hs => State.image_self (hstates s hs)
  · obtain ⟨hautomaton, -⟩ := Registry.ofChart_eq_ok hr
    refine (mapM_eq_ok.mp hstates).imp fun s s' hs => ?_
    rw [← hautomaton]
    exact Plain.state_image hs

/-- **The plain form of a chart is its image**: it communicates by events alone, and apart from
communication nothing has changed. A chart that declares nothing is its own image, since it was
checked that it uses nothing. -/
theorem plainForm_of_toPlain {c plain : Chart} {r : Registry} (h : c.toPlain = .ok (plain, r)) :
    PlainForm c plain := by
  have hstates := Chart.states_image h
  obtain ⟨-, -, ⟨hnil, rfl⟩ | ⟨-, states, -, rfl, -⟩⟩ := Chart.toPlain_eq_ok.mp h
  · exact .of_states hnil rfl rfl rfl hstates
  · exact .of_states rfl rfl rfl rfl hstates

/-- A chart with every communication construct, some of them inside choices. -/
def Sample.talking : Chart where
  name := "talker"
  initial := "idle"
  data := [⟨"n", some "0", some "int32"⟩]
  declarations := [.timer "tick" 2.0, .endpoint .publisher "/out" "std_msgs/Int32",
    .endpoint .subscriber "/in" "std_msgs/Int32", .endpoint .server "/reset" "std_srvs/Empty",
    .endpoint .client "/set_bool" "std_srvs/SetBool"]
  states := [
    ⟨"idle", [.emit .message "/out" [⟨"data", "n"⟩]], [.assign "n" "n + 1"],
      [⟨"idle", .reception .tick "tick", some "n < 3",
          [.choose [("n > 0", [.choose [("n > 1", [])]
            [.emit .request "/set_bool" [⟨"data", "true"⟩]]])] [.send "zero" []]]⟩,
        ⟨"busy", .reception .message "/in", none, []⟩,
        ⟨"busy", .reception .request "/reset", none, [.emit .response "/reset" []]⟩]⟩,
    ⟨"busy", [], [], [⟨"idle", .reception .response "/set_bool", none, []⟩,
      ⟨"idle", .events ["stop"], none, []⟩]⟩]

/-- The chart of the sample has a plain form, although it uses every construct there is. -/
theorem plainForm_of_toPlain_sample :
    ∃ plain r, Sample.talking.toPlain = .ok (plain, r) ∧ PlainForm Sample.talking plain := by
  have hplain : Sample.talking.toPlain.toOption.isSome = true := by decide +kernel
  rcases h : Sample.talking.toPlain with e | ⟨plain, r⟩
  · rw [h] at hplain
    cases hplain
  · exact ⟨plain, r, rfl, plainForm_of_toPlain h⟩

end ChartNet
