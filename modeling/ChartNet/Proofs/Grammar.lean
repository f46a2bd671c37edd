import ChartNet.Document.Reader

/-!
# The grammar of documents

A document is a tree of elements. `Document.Forms` says which tags stand for which trees, and
`Document.Element.Lawful` which trees are documents: where the elements of each kind belong, which
attributes they have, and in which order the marks of a choice may stand.

The chart that a tree spells is read off it from the outside in, every list in the order of the
text (`Document.Element.chart`). A choice is cut at its marks: `Document.parts` goes through its
content from the back, so that each action goes in front of what follows it up to the next mark.
-/

namespace ChartNet

/-- The text spells these attributes one after the other. None of them is among those seen before,
and all their entities can be replaced. -/
inductive Xml.Attributed : List String → List Char → List (String × String) → Prop
  /-- there is no further attribute -/
  | nil {seen : List String} {cs : List Char} (h : nextAttribute seen cs = .ok none) :
      Attributed seen cs []
  /-- the next attribute has a key that was not seen before, and a value that can be read -/
  | cons {seen : List String} {cs : List Char} {a : RawAttribute} {value : String}
      {as : List (String × String)} (h : nextAttribute seen cs = .ok (some a))
      (hvalue : unescape a.value = .ok value) (has : Attributed (seen ++ [a.key]) a.rest as) :
      Attributed seen cs ((a.key, value) :: as)

namespace Document

/-! ### Kinds of elements -/

/-- What an element is. Each kind has a name of its own, and the grammar is given by kinds: what an
element may contain, and which attributes it has. -/
inductive Kind where
  /-- the document's outermost element -/
  | root
  /-- around variables -/
  | dataModel
  /-- a variable -/
  | datum
  /-- the declaration of a timer -/
  | timer
  /-- the declaration of one side of a topic or service -/
  | endpoint (side : Endpoint)
  /-- a state -/
  | state
  /-- what is done on entering a state -/
  | entry
  /-- what is done on leaving a state -/
  | exit
  /-- a transition by events -/
  | transition
  /-- a transition by what is received -/
  | reception (kind : Reception)
  /-- an assignment -/
  | assign
  /-- an event that is sent -/
  | send
  /-- something that is sent through a topic or service -/
  | emission (kind : Emission)
  /-- a choice between blocks of actions -/
  | choice
  /-- the mark before a further branch of a choice -/
  | elseIf
  /-- the mark before the last block of a choice -/
  | elseMark
  /-- a parameter of an event -/
  | param
  /-- a field of what is sent through a topic or service -/
  | field
deriving DecidableEq

namespace Kind

/-- The name that elements of the kind have. -/
def tag : Kind → String
  | root => "scxml"
  | dataModel => "datamodel"
  | datum => "data"
  | timer => "ros_time_rate"
  | endpoint .publisher => "ros_topic_publisher"
  | endpoint .subscriber => "ros_topic_subscriber"
  | endpoint .server => "ros_service_server"
  | endpoint .client => "ros_service_client"
  | state => "state"
  | entry => "onentry"
  | exit => "onexit"
  | transition => "transition"
  | reception kind => kind.tag
  | assign => "assign"
  | send => "send"
  | emission kind => kind.tag
  | choice => "if"
  | elseIf => "elseif"
  | elseMark => "else"
  | param => "param"
  | field => "field"

/-- Elements of the kind have actions in them. -/
def holdsActions : Kind → Bool
  | entry | exit | transition | reception _ | choice => true
  | _ => false

/-- The kind divides a choice. -/
def isMark : Kind → Bool
  | elseIf | elseMark => true
  | _ => false

/-- Elements of the kind have nothing in them. -/
def isLeaf : Kind → Bool
  | datum | timer | endpoint _ | assign | elseIf | elseMark | param | field => true
  | _ => false

/-- Elements of the kind belong directly in elements of the kind `parent`. This is all that the
grammar says about nesting; only in a choice does the order matter as well. -/
def Within (kind parent : Kind) : Prop :=
  match kind with
  | root => False
  | dataModel | timer | endpoint _ | state => parent = .root
  | datum => parent = .dataModel
  | entry | exit | transition | reception _ => parent = .state
  | assign | send | emission _ | choice => parent.holdsActions = true
  | elseIf | elseMark => parent = .choice
  | param => parent = .send
  | field => ∃ emission, parent = .emission emission

/-- The attributes of the kind are looked at. For the others nobody looks, and they may be written
in any way or not at all. -/
def hasAttributes : Kind → Bool
  | dataModel | entry | exit => false
  | _ => true

/-- The attributes that an element of the kind must have. -/
def required : Kind → List String
  | dataModel | entry | exit | elseMark => []
  | root => ["name"]
  | datum | state => ["id"]
  | timer => ["name", "rate_hz"]
  | endpoint side => [side.key, "type"]
  | transition => ["target"]
  | reception kind => [kind.key, "target"]
  | assign => ["location", "expr"]
  | send => ["event"]
  | emission kind => [kind.key]
  | choice | elseIf => ["cond"]
  | param | field => ["name", "expr"]

/-- The attributes that an element of the kind may have besides. -/
def optional : Kind → List String
  | root => ["initial", "version", "model_src", "xmlns", "datamodel"]
  | datum => ["expr", "type"]
  | endpoint _ => ["name"]
  | transition => ["event", "cond"]
  | reception _ => ["cond"]
  | _ => []

end Kind

/-! ### Trees -/

/-- An element with its attributes and the elements in it. -/
inductive Element where
  /-- an element with its attributes, in order, and the elements in it -/
  | mk (kind : Kind) (attributes : List (String × String)) (content : List Element)

namespace Element

/-- What the element is. -/
def kind : Element → Kind
  | mk kind _ _ => kind

/-- The elements in the element. -/
def content : Element → List Element
  | mk _ _ content => content

@[simp] theorem kind_mk (kind : Kind) (as : List (String × String)) (content : List Element) :
    (mk kind as content).kind = kind := rfl

@[simp] theorem content_mk (kind : Kind) (as : List (String × String)) (content : List Element) :
    (mk kind as content).content = content := rfl

end Element

/-- The tag is that of an element of the kind, with these attributes. -/
structure Tagged (tag : Xml.Tag) (kind : Kind) (as : List (String × String)) : Prop where
  /-- the tag has the name of the kind -/
  name : tag.name = kind.tag
  /-- the tag has these attributes, or nobody looks at them -/
  attributes : if kind.hasAttributes then Xml.Attributed [] tag.attributes as else as = []

/-- The events are the tags of these elements, properly nested, and of nothing else. An end tag has
the name of its start tag, and what is no tag may stand anywhere. -/
inductive Forms : List (Nat × Xml.Event) → List Element → Prop
  /-- no tags form no elements -/
  | nil : Forms [] []
  /-- what is no tag does not count -/
  | other {offset : Nat} {es : List (Nat × Xml.Event)} {ts : List Element} (h : Forms es ts) :
      Forms ((offset, .other) :: es) ts
  /-- an empty tag is an element without content -/
  | empty {offset : Nat} {es : List (Nat × Xml.Event)} {ts : List Element} {tag : Xml.Tag}
      {kind : Kind} {as : List (String × String)} (htag : Tagged tag kind as) (h : Forms es ts) :
      Forms ((offset, .empty tag) :: es) (.mk kind as [] :: ts)
  /-- a start tag and the end tag of the same name are an element, with what stands between them for
  its content -/
  | element {offset offset' : Nat} {inner es : List (Nat × Xml.Event)} {content ts : List Element}
      {tag : Xml.Tag} {kind : Kind} {as : List (String × String)} (htag : Tagged tag kind as)
      (hinner : Forms inner content) (h : Forms es ts) :
      Forms ((offset, .start tag) :: inner ++ (offset', .finish tag.name) :: es)
        (.mk kind as content :: ts)

/-! ### Lawful trees -/

open Reader (value)

/-- The rate that a timer's attributes give; blanks around it do not count. -/
def rate? (as : List (String × String)) : Option Float :=
  Decimal.read? (Text.trim (value as "rate_hz"))

/-- The attributes are all those that an element of the kind needs, and none that it may not have.
The rate of a timer is a number. -/
structure Kind.Admits (kind : Kind) (as : List (String × String)) : Prop where
  /-- what the kind must have is there -/
  required : ∀ key ∈ kind.required, key ∈ as.map (·.1)
  /-- nothing else is there than what the kind may have -/
  known : ∀ key ∈ as.map (·.1), key ∈ kind.required ++ kind.optional
  /-- the rate of a timer can be read -/
  rate : kind = .timer → (rate? as).isSome = true

/-- The second element may come after the first: after the mark of the last block comes no mark. -/
def Ordered (e e' : Element) : Prop := e.kind = .elseMark → e'.kind.isMark = false

/-- The element and everything in it obey the grammar. What an element spells is defined for all
elements, but only for lawful ones is nothing left out. -/
inductive Element.Lawful : Element → Prop
  /-- it has the attributes of its kind, and in it are elements that belong there, in an order that
  they may have, and lawful themselves -/
  | mk {kind : Kind} {as : List (String × String)} {content : List Element}
      (admits : kind.Admits as) (within : ∀ e ∈ content, e.kind.Within kind)
      (ordered : content.Pairwise Ordered) (lawful : ∀ e ∈ content, e.Lawful) :
      Lawful (mk kind as content)

/-- Nothing belongs in an element that has nothing in it. -/
theorem Kind.not_within_of_isLeaf {kind parent : Kind} (h : parent.isLeaf = true) :
    ¬ kind.Within parent := by
  intro hwithin
  cases parent with
  | datum | timer | endpoint side | assign | elseIf | elseMark | param | field =>
    cases kind <;> simp [Kind.Within, Kind.holdsActions] at hwithin
  | _ => cases h

/-- Nothing belongs in a leaf. -/
theorem Element.Lawful.content_eq_nil {e : Element} (h : e.Lawful) (hleaf : e.kind.isLeaf = true) :
    e.content = [] := by
  obtain ⟨-, hwithin, -, -⟩ := h
  apply List.eq_nil_iff_forall_not_mem.mpr
  intro t ht
  exact Kind.not_within_of_isLeaf hleaf (hwithin t ht)

/-! ### What a tree spells -/

/-- The content of a choice, cut at its marks. -/
structure Parts where
  /-- the actions before the first mark -/
  first : Block
  /-- the further branches -/
  branches : List (String × Block)
  /-- what follows the mark of the last block -/
  otherwise? : Option Block

/-- The parameter or field that an element spells. -/
def Element.param : Element → Param
  | mk _ as _ => ⟨value as "name", value as "expr"⟩

mutual

/-- The action that an element spells. -/
def Element.action : Element → Action
  | .mk .assign as _ => .assign (value as "location") (value as "expr")
  | .mk .send as content => .send (value as "event") (content.map Element.param)
  | .mk (.emission kind) as content =>
    .emit kind (value as kind.key) (content.map Element.param)
  | .mk _ as content =>
    let p := parts content
    .choose ((value as "cond", p.first) :: p.branches) (p.otherwise?.getD [])

/-- The parts of a choice. What comes before the first mark is the block of the choice's own
condition, and each mark begins the next block. -/
def parts : List Element → Parts
  | [] => ⟨[], [], none⟩
  | .mk .elseIf as _ :: es =>
    let p := parts es
    ⟨[], (value as "cond", p.first) :: p.branches, p.otherwise?⟩
  | .mk .elseMark _ _ :: es => ⟨[], [], some (parts es).first⟩
  | e :: es =>
    let p := parts es
    { p with first := e.action :: p.first }

end

namespace Element

/-- What an element does when its state is entered. -/
def entry : Element → Block
  | mk .entry _ content => content.map action
  | _ => []

/-- What an element does when its state is left. -/
def exit : Element → Block
  | mk .exit _ content => content.map action
  | _ => []

/-- The transition that an element spells. -/
def transition? : Element → Option Transition
  | mk .transition as content =>
    let events := ((as.lookup "event").map Text.words).getD []
    some ⟨value as "target", .events events, as.lookup "cond", content.map action⟩
  | mk (.reception kind) as content =>
    let trigger := .reception kind (value as kind.key)
    some ⟨value as "target", trigger, as.lookup "cond", content.map action⟩
  | _ => none

/-- The state that an element spells. -/
def state? : Element → Option State
  | mk .state as content => some
    ⟨value as "id", content.flatMap entry, content.flatMap exit, content.filterMap transition?⟩
  | _ => none

/-- The declaration that an element spells. -/
def declaration? : Element → Option Declaration
  | mk .timer as _ => (rate? as).map (.timer (value as "name"))
  | mk (.endpoint side) as _ => some (.endpoint side (value as side.key) (value as "type"))
  | _ => none

/-- The variable that an element spells. -/
def datum : Element → Datum
  | mk _ as _ => ⟨value as "id", as.lookup "expr", as.lookup "type"⟩

/-- The variables that an element brings: a variable brings itself, a data model those in it. -/
def data : Element → List Datum
  | mk .dataModel _ content => content.map datum
  | e@(mk .datum _ _) => [e.datum]
  | _ => []

/-- The parts of the chart that a document spells, in the order in which they stand in it. -/
def builder : Element → Builder
  | mk _ as content =>
    ⟨value as "name", as.lookup "initial", content.flatMap data, content.filterMap declaration?,
      content.filterMap state?⟩

/-- The chart that a document spells. -/
def chart (e : Element) : Chart := e.builder.draft

end Element

end Document

end ChartNet
