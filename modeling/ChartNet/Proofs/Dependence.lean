import ChartNet.Proofs.Typing

/-!
# What a value depends on

The value of a tree depends on the values of its names and on nothing else (`Expr.eval_congr`), and
it depends on all of them: a tree with a name that has no value has no value itself
(`Expr.bound_of_eval`), because operands are evaluated also where they could not matter.

Which name is reported if several have no value is a matter of order. `Expr.Located` says where in a
tree a part stands, by the trees to the left of it. A name without value is reported if all of these
have values (`Expr.eval_eq_unbound`), and so it is the first one without value.
-/

namespace ChartNet

namespace Expr

/-- The part stands in the tree, and to the left of it stand these trees, from left to right. They
are whole operands, those that are evaluated before the part is. -/
inductive Located : Expr → List Expr → Expr → Prop
  /-- the tree itself, with nothing to its left -/
  | self (e : Expr) : Located e [] e
  /-- a part inside parentheses -/
  | parens {part e : Expr} {before : List Expr} (h : Located part before e) :
      Located part before (.parens e)
  /-- a part of the operand -/
  | unary {part e : Expr} {before : List Expr} (op : UnaryOp) (h : Located part before e) :
      Located part before (.unary op e)
  /-- a part of the left operand; the right one is not evaluated before it -/
  | left {part l : Expr} {before : List Expr} (op : BinaryOp) (r : Expr)
      (h : Located part before l) : Located part before (.binary op l r)
  /-- a part of the right operand; the left one is evaluated before it -/
  | right {part r : Expr} {before : List Expr} (op : BinaryOp) (l : Expr)
      (h : Located part before r) : Located part (l :: before) (.binary op l r)

end Expr

/-! ### Operators report no names -/

theorem Verdict.fault_eq {x : Except ExprFault Value} {Gives : ValueType → Prop} {Refuses : Prop}
    (h : Verdict x Gives Refuses) {fault : ExprFault} (hx : x = .error fault) : fault = .type := by
  cases h with
  | value h => cases h.symm.trans hx
  | refused h | untyped h => exact (Except.error.inj (h.symm.trans hx)).symm

/-- An operator with one operand reports no names. -/
theorem UnaryOp.apply_ne_unbound (op : UnaryOp) (v : Value) (x : String) :
    op.apply v ≠ .error (.unbound x) := by
  intro h
  cases hop : op.isSupported with
  | true => cases (op.verdict hop v).fault_eq h
  | false =>
    cases op with
    | typeof | void | complement | delete => cases v <;> cases h
    | minus | plus | not => cases hop

/-- An operator with two operands reports no names. -/
theorem BinaryOp.apply_ne_unbound (op : BinaryOp) (v w : Value) (x : String) :
    op.apply v w ≠ .error (.unbound x) := by
  intro h
  cases hop : op.isSupported with
  | true => cases (op.verdict hop v w).fault_eq h
  | false =>
    cases op with
    | refused op => cases h
    | arithmetic op | compare op | logic op => cases hop

theorem Literal.value_ne_unbound (l : Literal) (x : String) : l.value ≠ .error (.unbound x) := by
  cases l <;> simp [value]

namespace Expr

variable {env env' : String → Option Value} {e l r part : Expr} {before : List Expr} {x : String}

/-! ### Evaluating an operator -/

theorem eval_unary_eq_ok {op : UnaryOp} {v : Value} :
    (unary op e).eval env = .ok v ↔ ∃ a, e.eval env = .ok a ∧ op.apply a = .ok v := by
  rw [eval, bind_eq_ok]

/-- An operator with two operands needs the values of both, also where one of them would be enough
to know the result. -/
theorem eval_binary_eq_ok {op : BinaryOp} {v : Value} :
    (binary op l r).eval env = .ok v ↔
      ∃ a, l.eval env = .ok a ∧ ∃ b, r.eval env = .ok b ∧ op.apply a b = .ok v := by
  simp only [eval, bind_eq_ok]

/-- A name that is reported of an operator was reported of its operand. -/
theorem eval_unary_eq_unbound {op : UnaryOp} :
    (unary op e).eval env = .error (.unbound x) ↔ e.eval env = .error (.unbound x) := by
  rw [eval, bind_eq_error]
  refine or_iff_left ?_
  rintro ⟨a, -, happly⟩
  exact op.apply_ne_unbound a x happly

/-- The right operand is looked at if the left one has a value. -/
theorem eval_binary_eq_unbound {op : BinaryOp} :
    (binary op l r).eval env = .error (.unbound x) ↔ l.eval env = .error (.unbound x) ∨
      (∃ a, l.eval env = .ok a) ∧ r.eval env = .error (.unbound x) := by
  simp only [eval, bind_eq_error]
  refine or_congr_right ⟨?_, ?_⟩
  · rintro ⟨a, ha, hr | ⟨b, -, happly⟩⟩
    · exact ⟨⟨a, ha⟩, hr⟩
    · exact absurd happly (op.apply_ne_unbound a b x)
  · rintro ⟨⟨a, ha⟩, hr⟩
    exact ⟨a, ha, .inl hr⟩

/-! ### Names -/

/-- **Only the names of a tree matter.** Two assignments that agree on them cannot be told apart by
evaluating the tree, neither by its value nor by its fault. -/
theorem eval_congr (h : ∀ x ∈ e.names, env x = env' x) : e.eval env = e.eval env' := by
  induction e with
  | literal l => rfl
  | name x => simp only [eval, h x (List.mem_singleton_self x)]
  | parens e ih => exact ih h
  | unary op e ih => simp only [eval, ih h]
  | binary op l r ihl ihr =>
    have hl := ihl fun x hx => h x (List.mem_append_left _ hx)
    have hr := ihr fun x hx => h x (List.mem_append_right _ hx)
    simp only [eval, hl, hr]
  | other c => rfl

/-- **All the names of a tree matter**: where there is a value, each of them has one. No operator
skips an operand. -/
theorem bound_of_eval {v : Value} (h : e.eval env = .ok v) : e.Bound env := by
  induction e generalizing v with
  | literal l => exact List.forall_mem_nil _
  | name x =>
    refine List.forall_mem_singleton.mpr ?_
    rw [eval] at h
    split at h
    · rename_i w hw
      exact ⟨w, hw⟩
    · cases h
  | parens e ih => exact ih h
  | unary op e ih =>
    obtain ⟨a, ha, -⟩ := eval_unary_eq_ok.mp h
    exact ih ha
  | binary op l r ihl ihr =>
    obtain ⟨a, ha, b, hb, -⟩ := eval_binary_eq_ok.mp h
    exact List.forall_mem_append.mpr ⟨ihl ha, ihr hb⟩
  | other c => cases h

/-- Where a tree has a value, every part of it has one. No operator has a value without those of its
operands, and parentheses change nothing. -/
theorem Within.exists_eval (h : part.Within e) {v : Value} (he : e.eval env = .ok v) :
    ∃ w, part.eval env = .ok w := by
  induction h generalizing v with
  | self => exact ⟨v, he⟩
  | parens _ ih => exact ih he
  | unary op _ ih =>
    obtain ⟨a, ha, -⟩ := eval_unary_eq_ok.mp he
    exact ih ha
  | left op r _ ih =>
    obtain ⟨a, ha, -⟩ := eval_binary_eq_ok.mp he
    exact ih ha
  | right op l _ ih =>
    obtain ⟨a, -, b, hb, -⟩ := eval_binary_eq_ok.mp he
    exact ih hb

/-! ### The name that is reported -/

/-- The names of the trees to the left come first. -/
theorem Located.names_eq (h : Located part before e) :
    ∃ after, e.names = before.flatMap names ++ (part.names ++ after) := by
  induction h with
  | self => exact ⟨[], by simp⟩
  | parens _ ih | unary op _ ih => exact ih
  | left op r _ ih =>
    obtain ⟨after, hafter⟩ := ih
    exact ⟨after ++ r.names, by simp [names, hafter]⟩
  | right op l _ ih =>
    obtain ⟨after, hafter⟩ := ih
    exact ⟨after, by simp [names, hafter]⟩

/-- **A name is reported** if it has no value and stands where all trees to the left of it have
values. The induction is on the tree. -/
theorem eval_eq_unbound :
    e.eval env = .error (.unbound x) ↔ env x = none ∧ ∃ before, Located (.name x) before e ∧
      ∀ t ∈ before, ∃ v, t.eval env = .ok v := by
  refine ⟨fun h => ?_, ?_⟩
  · induction e with
    | literal l => exact absurd h (l.value_ne_unbound x)
    | name y =>
      rw [eval] at h
      split at h
      · cases h
      · rename_i hnone
        obtain rfl := ExprFault.unbound.inj (Except.error.inj h)
        exact ⟨hnone, [], .self _, List.forall_mem_nil _⟩
    | parens e ih =>
      obtain ⟨hx, before, hlocated, hbefore⟩ := ih h
      exact ⟨hx, before, .parens hlocated, hbefore⟩
    | unary op e ih =>
      obtain ⟨hx, before, hlocated, hbefore⟩ := ih (eval_unary_eq_unbound.mp h)
      exact ⟨hx, before, .unary op hlocated, hbefore⟩
    | binary op l r ihl ihr =>
      -- a name in the right operand is reported only if the left operand has a value
      rcases eval_binary_eq_unbound.mp h with hl | ⟨hl, hr⟩
      · obtain ⟨hx, before, hlocated, hbefore⟩ := ihl hl
        exact ⟨hx, before, .left op r hlocated, hbefore⟩
      · obtain ⟨hx, before, hlocated, hbefore⟩ := ihr hr
        exact ⟨hx, l :: before, .right op l hlocated, List.forall_mem_cons.mpr ⟨hl, hbefore⟩⟩
    | other c => cases h
  · rintro ⟨hx, before, hlocated, hbefore⟩
    induction hlocated with
    | self => simp only [eval, hx]
    | parens _ ih => exact ih hbefore
    | unary op _ ih => exact eval_unary_eq_unbound.mpr (ih hbefore)
    | left op r _ ih => exact eval_binary_eq_unbound.mpr (.inl (ih hbefore))
    | right op l _ ih =>
      obtain ⟨hl, hbefore⟩ := List.forall_mem_cons.mp hbefore
      exact eval_binary_eq_unbound.mpr (.inr ⟨hl, ih hbefore⟩)

/-- The name that is reported is the first one without value. -/
theorem find?_names_of_unbound (h : e.eval env = .error (.unbound x)) :
    e.names.find? (fun y => (env y).isNone) = some x := by
  obtain ⟨hx, before, hlocated, hbefore⟩ := eval_eq_unbound.mp h
  obtain ⟨after, hnames⟩ := hlocated.names_eq
  refine List.find?_eq_some_iff_append.mpr ⟨by rw [hx]; rfl, _, after, hnames, ?_⟩
  intro y hy
  obtain ⟨t, ht, hy⟩ := List.mem_flatMap.mp hy
  obtain ⟨v, hv⟩ := hbefore t ht
  obtain ⟨w, hw⟩ := bound_of_eval hv y hy
  simp [hw]

end Expr

/-- **A value depends on the names of its tree, and on each of them.** Where two assignments of
values agree on the names of a tree, the tree has the same value or the same fault. Where it has a
value, each of its names has one. A name is reported to have none exactly if it has none and stands
where every part of the trees to the left of it has a value; it is then the first name from the left
that has none. -/
theorem eval_depends_on_names (e : Expr) :
    (∀ env env' : String → Option Value, (∀ x ∈ e.names, env x = env' x) →
      e.eval env = e.eval env') ∧
    ∀ env : String → Option Value,
      (∀ v, e.eval env = .ok v → ∀ x ∈ e.names, ∃ w, env x = some w) ∧
      (∀ x, e.eval env = .error (.unbound x) ↔ env x = none ∧ ∃ before : List Expr,
        Expr.Located (.name x) before e ∧
          ∀ t ∈ before, ∀ part : Expr, part.Within t → ∃ v, part.eval env = .ok v) ∧
      ∀ x, e.eval env = .error (.unbound x) →
        e.names.find? (fun y => (env y).isNone) = some x := by
  refine ⟨fun env env' => Expr.eval_congr, fun env => ⟨fun v => Expr.bound_of_eval, ?_,
    fun x => Expr.find?_names_of_unbound⟩⟩
  intro x
  rw [Expr.eval_eq_unbound]
  refine and_congr_right fun _ => exists_congr fun before => and_congr_right fun _ => ?_
  refine forall₂_congr fun t _ => ⟨?_, fun h => h t (.self t)⟩
  rintro ⟨v, hv⟩ part hpart
  exact hpart.exists_eval hv

/-- The name `f` stands for false. -/
def Sample.falsehood (x : String) : Option Value :=
  if x = "f" then some (.boolean false) else none

/-- The tree of `f && (y || z)`. -/
def Sample.conjunction : Expr :=
  .binary (.logic .and) (.name "f") (.parens (.binary (.logic .or) (.name "y") (.name "z")))

open Sample in
/-- The left operand would decide the conjunction, but the right one is evaluated as well, and the
first of its names that has no value is reported. A name that does not occur changes nothing. -/
theorem eval_depends_on_names_sample :
    conjunction.eval falsehood = .error (.unbound "y") ∧
    conjunction.names.find? (fun y => (falsehood y).isNone) = some "y" ∧
    ∀ v, conjunction.eval (fun x => if x = "q" then some v else falsehood x) =
      conjunction.eval falsehood := by
  obtain ⟨hcongr, hnames⟩ := eval_depends_on_names conjunction
  obtain ⟨-, hreported, hfirst⟩ := hnames falsehood
  have hlocated : Expr.Located (.name "y") [.name "f"] conjunction :=
    .right _ _ (.parens (.left _ _ (.self _)))
  have hunbound : conjunction.eval falsehood = .error (.unbound "y") := by
    refine (hreported "y").mpr ⟨rfl, _, hlocated, ?_⟩
    rintro t ht part hpart
    obtain rfl := List.mem_singleton.mp ht
    cases hpart
    exact ⟨.boolean false, rfl⟩
  refine ⟨hunbound, hfirst "y" hunbound, fun v => hcongr _ _ ?_⟩
  simp [conjunction, Expr.names]

end ChartNet
