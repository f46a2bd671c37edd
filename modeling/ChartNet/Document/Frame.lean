import ChartNet.Document.Vocabulary
import ChartNet.Failure

/-!
# Open elements

A document is read tag by tag. For each open element there is a frame with what has been read of it;
when an element ends, its content goes to the frame around it or to the chart.

Transitions, actions and parameters have elements of several names. Their frames keep the name: what
may be opened in such an element and what ends it is told by the name, and where its content goes by
the content.
-/

namespace ChartNet

/-- An open element and its content so far. -/
inductive Frame where
  /-- the chart itself -/
  | root
  /-- the element around variables, which go to the chart when they end -/
  | dataModel
  /-- a variable -/
  | datum (d : Datum)
  /-- a declaration of a resource -/
  | declaration (d : Declaration)
  /-- a state, with what has been read of it -/
  | state (s : State)
  /-- what is done on entering a state -/
  | entry (b : Block)
  /-- what is done on leaving a state -/
  | exit (b : Block)
  /-- a transition, with the name of its element -/
  | transition (tag : String) (t : Transition)
  /-- an action that holds no other actions, with the name of its element -/
  | action (tag : String) (a : Action)
  /-- a choice; there is a last block once its mark was read -/
  | choice (branches : List (String × Block)) (otherwise? : Option Block)
  /-- the mark of a further branch -/
  | elseIf (condition : String)
  /-- the mark of the last block -/
  | elseMark
  /-- a parameter of a sent event or a field of an emission, with the name of its element -/
  | param (tag : String) (p : Param)

namespace Frame

/-- The name of the element. -/
def tag : Frame → String
  | root => "scxml"
  | dataModel => "datamodel"
  | datum _ => "data"
  | declaration d => d.tag
  | state _ => "state"
  | entry _ => "onentry"
  | exit _ => "onexit"
  | transition tag _ | action tag _ | param tag _ => tag
  | choice .. => "if"
  | elseIf _ => "elseif"
  | elseMark => "else"

/-- Adds an action to the last of the branches. -/
def pushBranch (a : Action) : List (String × Block) → Option (List (String × Block))
  | [] => none
  | [(condition, body)] => some [(condition, body ++ [a])]
  | b :: bs => (pushBranch a bs).map (b :: ·)

/-- Adds an action to the element around it. The name of the action's element is for the error. -/
def pushAction (a : Action) (name : String) : Frame → Except DocumentFault Frame
  | entry b => .ok (entry (b ++ [a]))
  | exit b => .ok (exit (b ++ [a]))
  | transition tag t => .ok (transition tag { t with body := t.body ++ [a] })
  | choice branches (some b) => .ok (choice branches (some (b ++ [a])))
  | choice branches none =>
    match pushBranch a branches with
    | some branches => .ok (choice branches none)
    | none => .error (.unexpectedStart name)
  | _ => .error (.unexpectedEnd name)

/-- Adds the content of a finished element to the element around it. -/
def absorb (parent child : Frame) : Except DocumentFault Frame :=
  match child, parent with
  | entry b, state s => .ok (state { s with entry := s.entry ++ b })
  | exit b, state s => .ok (state { s with exit := s.exit ++ b })
  | transition _ t, state s => .ok (state { s with transitions := s.transitions ++ [t] })
  | action tag a, parent => parent.pushAction a tag
  | choice branches otherwise?, parent =>
    parent.pushAction (.choose branches (otherwise?.getD [])) "if"
  | elseIf condition, choice branches otherwise? =>
    .ok (choice (branches ++ [(condition, [])]) otherwise?)
  | elseMark, choice branches _ => .ok (choice branches (some []))
  | param _ p, action tag (.send event ps) => .ok (action tag (.send event (ps ++ [p])))
  | param _ p, action tag (.emit kind resource ps) =>
    .ok (action tag (.emit kind resource (ps ++ [p])))
  | child, _ => .error (.unexpectedEnd child.tag)

end Frame

end ChartNet
