import ChartNet.Chart.Basic
import Mathlib.Logic.Function.Basic

/-!
# Running a plain chart

A plain chart takes events one at a time. In its present state it looks for the first transition
whose trigger has the event and whose guard holds, runs what there is to run on the way, and is then
in the target state; an event that no transition takes leaves it as it is.

* `Valuation` gives values to names: to the variables of the chart, and to the fields of an event.
* `readExpr` is the value of an expression that is a name: `_event.f` is a field of the event at
  hand, anything else a variable. How conditions are decided is a parameter, `Condition`.
* `Chart.react` is one step and `Chart.run` a run over any list of events.
-/

namespace ChartNet

variable {V : Type}

/-- Values for names; a name may have none. -/
abbrev Valuation (V : Type) := String → Option V

/-- The values of some names alone. -/
def Valuation.only (names : List String) (v : Valuation V) : Valuation V :=
  fun f => if f ∈ names then v f else none

/-- The values of some names from one valuation, and all others from another. -/
def Valuation.over (names : List String) (v w : Valuation V) : Valuation V :=
  fun f => if f ∈ names then v f else w f

@[simp] theorem Valuation.over_nil (v w : Valuation V) : v.over [] w = w := by
  funext f
  simp [Valuation.over]

/-- Whether a condition holds, given the values of the event and of the variables. -/
abbrev Condition (V : Type) := Valuation V → Valuation V → String → Bool

/-- An event together with the values that it carries. -/
structure Message (V : Type) where
  /-- what has happened -/
  event : String
  /-- the values that come along -/
  payload : Valuation V

/-- A chart that is running: its present state and its variables. -/
structure Machine (V : Type) where
  /-- the state that the machine is in -/
  state : String
  /-- the values of its variables -/
  vars : Valuation V

/-- A step: the event that was taken, and what was sent because of it. -/
structure Reaction (V : Type) where
  /-- what the machine has reacted to -/
  taken : Message V
  /-- what it has sent in turn -/
  sent : List (Message V)

/-- What the fields of the event at hand are called in expressions. -/
def eventPrefix : String := "_event."

/-- The value of an expression that is a name. -/
def readExpr (payload vars : Valuation V) (expr : String) : Option V :=
  if eventPrefix.toList.isPrefixOf expr.toList then
    payload (String.ofList (expr.toList.drop eventPrefix.toList.length))
  else vars expr

/-- The values that go along with an event that is sent. -/
def readParams (payload vars : Valuation V) (params : List Param) : Valuation V :=
  fun f => (params.find? (·.name == f)).bind fun p => readExpr payload vars p.expr

mutual

/-- Runs an action: the variables after it, and what it sends. A plain chart sends nothing through
resources. -/
def Action.run (holds : Condition V) (payload vars : Valuation V) :
    Action → Valuation V × List (Message V)
  | .assign location expr => (Function.update vars location (readExpr payload vars expr), [])
  | .send event params => (vars, [⟨event, readParams payload vars params⟩])
  | .choose branches otherwise =>
    match Branches.run holds payload vars branches with
    | some result => result
    | none => Block.run holds payload vars otherwise
  | .emit .. => (vars, [])

/-- Runs the actions of a block one after the other. -/
def Block.run (holds : Condition V) (payload vars : Valuation V) :
    List Action → Valuation V × List (Message V)
  | [] => (vars, [])
  | a :: as =>
    let (vars, sent) := Action.run holds payload vars a
    let (vars, sent') := Block.run holds payload vars as
    (vars, sent ++ sent')

/-- Runs the first branch whose condition holds. -/
def Branches.run (holds : Condition V) (payload vars : Valuation V) :
    List (String × List Action) → Option (Valuation V × List (Message V))
  | [] => none
  | (condition, body) :: bs =>
    if holds payload vars condition then some (Block.run holds payload vars body)
    else Branches.run holds payload vars bs

end

/-- The trigger has the event. -/
def Trigger.accepts (event : String) : Trigger → Bool
  | events names => names.contains event
  | reception .. => false

namespace Chart

/-- What is run on the way out of a state: its exit content, the transition's own, and the entry
content of the target. -/
def effect (c : Chart) (s : State) (t : Transition) : Block :=
  s.exit ++ t.body ++ ((c.state? t.target).map (·.entry)).getD []

/-- One step on an event, if there is a transition for it. -/
def react (c : Chart) (holds : Condition V) (m : Machine V) (msg : Message V) :
    Option (Machine V × List (Message V)) := do
  let s ← c.state? m.state
  let t ← s.transitions.find? fun t =>
    t.trigger.accepts msg.event && t.guard?.all (holds msg.payload m.vars)
  let (vars, sent) := Block.run holds msg.payload m.vars (c.effect s t)
  return (⟨t.target, vars⟩, sent)

/-- A run on a list of events: the machine at its end, and its steps in order. -/
def run (c : Chart) (holds : Condition V) : Machine V → List (Message V) →
    Machine V × List (Reaction V)
  | m, [] => (m, [])
  | m, msg :: msgs =>
    match c.react holds m msg with
    | none => c.run holds m msgs
    | some (m', sent) =>
      let (last, steps) := c.run holds m' msgs
      (last, ⟨msg, sent⟩ :: steps)

/-- The machine before any event, with some values in its variables. -/
def start (c : Chart) (vars : Valuation V) : Machine V := ⟨c.initial, vars⟩

/-- The machine that a run from the start reaches. -/
def reached (c : Chart) (holds : Condition V) (vars : Valuation V) (inputs : List (Message V)) :
    Machine V :=
  (c.run holds (c.start vars) inputs).1

/-- The steps of a run from the start. -/
def steps (c : Chart) (holds : Condition V) (vars : Valuation V) (inputs : List (Message V)) :
    List (Reaction V) :=
  (c.run holds (c.start vars) inputs).2

end Chart

/-- The first action of a block is run, and then the others with the variables that it has left. -/
theorem Block.run_cons (holds : Condition V) (payload vars : Valuation V) (a : Action)
    (b : Block) :
    Block.run holds payload vars (a :: b) =
      ((Block.run holds payload (Action.run holds payload vars a).1 b).1,
        (Action.run holds payload vars a).2 ++
          (Block.run holds payload (Action.run holds payload vars a).1 b).2) := by
  rw [Block.run]

/-- Two blocks one after the other are run like one: the second starts with what the first has left,
and what is sent is sent in order. -/
theorem Block.run_append (holds : Condition V) (payload vars : Valuation V) (b b' : Block) :
    Block.run holds payload vars (b ++ b') =
      ((Block.run holds payload (Block.run holds payload vars b).1 b').1,
        (Block.run holds payload vars b).2 ++
          (Block.run holds payload (Block.run holds payload vars b).1 b').2) := by
  induction b generalizing vars with
  | nil => rfl
  | cons a b ih =>
    rw [List.cons_append, Block.run_cons, ih, Block.run_cons, List.append_assoc]

/-- The first element with a property is the one that has it, if no other one does. -/
theorem find?_eq_some_of_unique {α : Type} {p : α → Bool} {l : List α} {a : α} (ha : a ∈ l)
    (hp : p a = true) (hunique : ∀ b ∈ l, p b = true → b = a) : l.find? p = some a := by
  rcases hfind : l.find? p with _ | b
  · exact absurd hp (List.find?_eq_none.mp hfind a ha)
  · rw [hunique b (List.mem_of_find?_eq_some hfind) (List.find?_some hfind)]

/-- A list without repetition whose elements are all the same has at most one. -/
theorem length_le_one_of_nodup {α : Type} {l : List α} (hl : l.Nodup)
    (h : ∀ a ∈ l, ∀ b ∈ l, a = b) : l.length ≤ 1 := by
  match l with
  | [] => exact Nat.zero_le 1
  | [_] => exact Nat.le_refl 1
  | a :: b :: l =>
    obtain rfl := h a (by simp) b (by simp)
    simp at hl

/-! ### Names in expressions -/

/-- A name that is not taken for a field of the event. -/
def IsVariable (name : String) : Prop := eventPrefix.toList.isPrefixOf name.toList = false

instance (name : String) : Decidable (IsVariable name) :=
  inferInstanceAs (Decidable (_ = false))

theorem readExpr_field (payload vars : Valuation V) (f : String) :
    readExpr payload vars ("_event." ++ f) = payload f := by
  have hchars : ("_event." ++ f).toList = eventPrefix.toList ++ f.toList := String.toList_append
  rw [readExpr, hchars, if_pos (by simp), List.drop_left, String.ofList_toList]

theorem readExpr_variable (payload vars : Valuation V) {f : String} (h : IsVariable f) :
    readExpr payload vars f = vars f := by
  rw [readExpr, if_neg (Bool.eq_false_iff.mp h)]

end ChartNet
