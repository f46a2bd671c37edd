import ChartNet.Expr.Eval
import ChartNet.Script.Basic

/-!
# Interpreters

An interpreter gives the value of an expression's text. The one for scripts asks that the text be a
script of exactly one statement and that this statement be an expression.
-/

namespace ChartNet

/-- Values for names. -/
abbrev Bindings := List (String × Value)

/-- Anything that gives expressions values. -/
abbrev Interpreter := String → Bindings → Except ExprError Value

/-- The tree of an expression's text. -/
def Expr.parse (code : String) : Except ExprFault Expr :=
  match Script.parse? code with
  | none => .error .malformed
  | some [item] =>
    match item.expr? with
    | some e => .ok e
    | none => .error .notExpression
  | some _ => .error .notSingle

/-- The interpreter for scripts. -/
def scriptInterpreter : Interpreter := fun code bindings =>
  match Expr.parse code >>= Expr.eval (bindings.lookup ·) with
  | .ok v => .ok v
  | .error f => .error ⟨code, f⟩

end ChartNet
