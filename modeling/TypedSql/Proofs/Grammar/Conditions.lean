import TypedSql.Proofs.Grammar.Meaning
import TypedSql.Proofs.Query.Selecting

/-!
# What conditions mean

Predicates are kept flat, and negation is taken into them; none of that changes what they mean.

**Theorem (`Predicate.boolean`).** Under every interpretation of what predicates are made of, AND,
OR and NOT of predicates have the truth values of three-valued logic, and so have the filters that
calls on queries, UPDATE and DELETE put together.

Each way of combining predicates has one lemma about its truth value (`truth_combine`,
`truth_negate`, `truth_fold`, `truth_andAlso`); none of the later proofs looks at the shape of the
expression. The list of operands splices in because the operators are associative and their neutral
values may be added on either side (`LogicalOp.joined_append`).
-/

namespace TypedSql

universe u

/-! ## Any number of truth values -/

namespace LogicalOp

/-- AND or OR over any number of truth values. -/
def joined (op : LogicalOp) (bs : List (Option Bool)) : Option Bool :=
  bs.foldr op.kleene (some op.neutral)

theorem neutral_kleene (op : LogicalOp) (b : Option Bool) : op.kleene (some op.neutral) b = b := by
  cases op <;> rfl

theorem kleene_neutral (op : LogicalOp) (b : Option Bool) : op.kleene b (some op.neutral) = b := by
  cases op <;> rcases b with _ | _ | _ <;> rfl

theorem kleene_eq_neutral_iff (op : LogicalOp) (a b : Option Bool) :
    op.kleene a b = some op.neutral ↔ a = some op.neutral ∧ b = some op.neutral := by
  cases op <;> rcases a with _ | _ | _ <;> rcases b with _ | _ | _ <;> decide

theorem joined_append (op : LogicalOp) (as bs : List (Option Bool)) :
    op.joined (as ++ bs) = op.kleene (op.joined as) (op.joined bs) := by
  induction as with
  | nil => exact (op.neutral_kleene _).symm
  | cons a as ih =>
    rw [List.cons_append, joined, List.foldr_cons, ← joined, ih, ← kleene_assoc]
    rfl

theorem joined_singleton (op : LogicalOp) (b : Option Bool) : op.joined [b] = b :=
  op.kleene_neutral b

/-- All of them hold, or none of them does. -/
theorem joined_eq_neutral_iff (op : LogicalOp) (bs : List (Option Bool)) :
    op.joined bs = some op.neutral ↔ ∀ b ∈ bs, b = some op.neutral := by
  induction bs with
  | nil => exact iff_of_true rfl (List.forall_mem_nil _)
  | cons b bs ih =>
    rw [List.forall_mem_cons, ← ih]
    exact op.kleene_eq_neutral_iff b (op.joined bs)

end LogicalOp

theorem map_not_map_not (b : Option Bool) : (b.map Bool.not).map Bool.not = b := by
  rcases b with _ | _ | _ <;> rfl

/-! ## Truth values of expressions -/

section

variable {V : Type u} (I : Interpretation V) (scopes : List Scope)

/-- The truth value of an expression. -/
def Expr.truth (e : Expr) : Option Bool := I.truth (e.eval I scopes)

/-- The truth value of a condition. -/
def Predicate.truth (p : Predicate) : Option Bool := p.expr.truth I scopes

namespace Expr

theorem truth_test (negated : Bool) (b : Option Bool) :
    I.truth (I.test negated b) = if negated then b.map Bool.not else b := I.truth_ofTruth _

theorem truth_foldl_connect (op : LogicalOp) (v : V) (es : List Expr) :
    I.truth ((listEval I scopes es).foldl (I.connect op) v)
      = op.kleene (I.truth v) (op.joined (es.map (truth I scopes))) := by
  induction es generalizing v with
  | nil => exact (op.kleene_neutral _).symm
  | cons e es ih =>
    rw [listEval, List.foldl_cons, ih, Interpretation.connect, I.truth_ofTruth, op.kleene_assoc]
    rfl

/-- A row of operands has the truth value of the operator over theirs. -/
theorem truth_logical (op : LogicalOp) (operands : List Expr) :
    (logical op operands).truth I scopes = op.joined (operands.map (truth I scopes)) := by
  cases operands with
  | nil => exact truth_test I false _
  | cons e operands => exact truth_foldl_connect I scopes op (e.eval I scopes) operands

/-- Taking the operands out of a row does not change what they come to. -/
theorem joined_operandsOf (op : LogicalOp) (e : Expr) :
    op.joined ((e.operandsOf op).map (truth I scopes)) = e.truth I scopes := by
  cases e with
  | logical inner operands =>
    simp only [operandsOf]
    by_cases same : inner = op
    · rw [if_pos same, ← same, truth_logical]
    · rw [if_neg same]
      exact op.joined_singleton _
  | _ => exact op.joined_singleton _

theorem truth_combine (op : LogicalOp) (lhs rhs : Expr) :
    (combine op lhs rhs).truth I scopes
      = op.kleene (lhs.truth I scopes) (rhs.truth I scopes) := by
  rw [combine, truth_logical, List.map_append, op.joined_append, joined_operandsOf,
    joined_operandsOf]

/-- A negated form is written in the predicate itself, and has the opposite truth value. -/
def InPlace (form : Bool → Expr) : Prop :=
  ∀ negated, (form negated).negate = form (!negated)
    ∧ (form (!negated)).truth I scopes = ((form negated).truth I scopes).map Bool.not

theorem inPlace_of_test {form : Bool → Expr} {b : Option Bool}
    (flips : ∀ negated, (form negated).negate = form (!negated))
    (tests : ∀ negated, (form negated).eval I scopes = I.test negated b) :
    InPlace I scopes form := by
  intro negated
  refine ⟨flips negated, ?_⟩
  rw [truth, truth, tests, tests, truth_test, truth_test]
  cases negated with
  | false => rfl
  | true => exact (map_not_map_not b).symm

theorem inPlace_like (e pattern : Expr) (escape : Option Expr) :
    InPlace I scopes (.like · e pattern escape) :=
  inPlace_of_test I scopes (fun _ => rfl) fun _ => by rw [eval]

theorem inPlace_isNull (e : Expr) : InPlace I scopes (.isNull · e) :=
  inPlace_of_test I scopes (fun _ => rfl) fun _ => by rw [eval]

theorem inPlace_between (e low high : Expr) : InPlace I scopes (.between · e low high) :=
  inPlace_of_test I scopes (fun _ => rfl) fun _ => by rw [eval]

theorem inPlace_inList (e : Expr) (items : List Expr) : InPlace I scopes (.inList · e items) :=
  inPlace_of_test I scopes (fun _ => rfl) fun _ => by rw [eval]

theorem inPlace_inQuery (e : Expr) (q : Select) : InPlace I scopes (.inQuery · e q) :=
  inPlace_of_test I scopes (fun _ => rfl) fun _ => by rw [eval]

theorem inPlace_existsIn (q : Select) : InPlace I scopes (.existsIn · q) :=
  inPlace_of_test I scopes (fun _ => rfl) fun _ => by rw [eval]

theorem truth_not (e : Expr) : (not e).truth I scopes = (e.truth I scopes).map Bool.not := by
  rw [truth, eval, truth_test, if_pos rfl, truth]

theorem truth_negate (e : Expr) :
    e.negate.truth I scopes = (e.truth I scopes).map Bool.not := by
  have inPlace {form : Bool → Expr} (h : InPlace I scopes form) (negated : Bool) :
      (form negated).negate.truth I scopes = ((form negated).truth I scopes).map Bool.not := by
    rw [(h negated).1, (h negated).2]
  cases e with
  | not e =>
    rw [negate, truth_not, map_not_map_not]
  | like negated e pattern escape => exact inPlace (inPlace_like I scopes e pattern escape) negated
  | isNull negated e => exact inPlace (inPlace_isNull I scopes e) negated
  | between negated e low high => exact inPlace (inPlace_between I scopes e low high) negated
  | inList negated e items => exact inPlace (inPlace_inList I scopes e items) negated
  | inQuery negated e q => exact inPlace (inPlace_inQuery I scopes e q) negated
  | existsIn negated q => exact inPlace (inPlace_existsIn I scopes q) negated
  | _ => exact truth_not I scopes _

end Expr

/-! ## Truth values of predicates -/

namespace Predicate

theorem truth_foldl_combine (op : LogicalOp) (e : Expr) (ps : List Predicate) :
    (ps.foldl (fun e q => .combine op e q.expr) e).truth I scopes
      = op.kleene (e.truth I scopes) (op.joined (ps.map (truth I scopes))) := by
  induction ps generalizing e with
  | nil => exact (op.kleene_neutral _).symm
  | cons p ps ih =>
    rw [List.foldl_cons, ih, Expr.truth_combine, op.kleene_assoc]
    rfl

theorem truth_fold (op : LogicalOp) (ps : List Predicate) :
    (fold op ps).truth I scopes = op.joined (ps.map (truth I scopes)) := by
  cases ps with
  | nil => exact Expr.truth_logical I scopes op []
  | cons p ps => exact truth_foldl_combine I scopes op p.expr ps

end Predicate

/-! ## Filters -/

/-- A predicate added to a filter. -/
def addCondition (filter : Option Expr) (p : Predicate) : Option Expr :=
  some (.andAlso filter p.expr)

/-- The truth value required by the predicates passed, none if there are none. -/
def required : List Predicate → Option (Option Bool)
  | [] => none
  | p :: ps => some (LogicalOp.and.joined ((p :: ps).map (Predicate.truth I scopes)))

theorem truth_foldl_addCondition (ps : List Predicate) :
    (ps.foldl addCondition none).map (Expr.truth I scopes) = required I scopes ps := by
  have added (e : Expr) (ps : List Predicate) :
      ps.foldl addCondition (some e) = some (ps.foldl (fun e q => .combine .and e q.expr) e) := by
    induction ps generalizing e with
    | nil => rfl
    | cons p ps ih => exact ih _
  cases ps with
  | nil => rfl
  | cons p ps =>
    rw [List.foldl_cons, addCondition, added, Option.map_some, Expr.andAlso,
      Predicate.truth_foldl_combine]
    rfl

/-- Calls that each add their predicate, or none, to a filter add all of them in turn. -/
theorem foldl_filter {σ κ : Type*} {step : σ → κ → σ} (filter : σ → Option Expr)
    {added : κ → Option Predicate}
    (adds : ∀ s k, filter (step s k) = (added k).toList.foldl addCondition (filter s)) (s : σ)
    (calls : List κ) :
    filter (calls.foldl step s) = (calls.filterMap added).foldl addCondition (filter s) := by
  induction calls generalizing s with
  | nil => rfl
  | cons call calls ih =>
    rw [List.foldl_cons, ih, adds]
    cases found : added call with
    | none => rw [List.filterMap_cons_none found]; rfl
    | some p => rw [List.filterMap_cons_some found]; rfl

end

/-- The predicate a call adds to WHERE. -/
def Select.Call.where? : Select.Call → Option Predicate
  | .andWhere p => some p
  | _ => none

/-- The predicate a call adds to HAVING. -/
def Select.Call.having? : Select.Call → Option Predicate
  | .andHaving p => some p
  | _ => none

theorem Select.filter_ofCalls (calls : List Call) :
    (ofCalls calls).filter = (calls.filterMap Call.where?).foldl addCondition none := by
  refine foldl_filter Select.filter (fun q call => ?_) .empty calls
  cases call with
  | column c => simp only [run, column, columnRef_eq, Call.where?]; rfl
  | composite c => simp only [run, composite, foldl_columnRef, Call.where?]; rfl
  | allColumns => simp only [run, allColumns_eq, Call.where?]; rfl
  | _ => rfl

theorem Select.having_ofCalls (calls : List Call) :
    (ofCalls calls).having = (calls.filterMap Call.having?).foldl addCondition none := by
  refine foldl_filter Select.having (fun q call => ?_) .empty calls
  cases call with
  | column c => simp only [run, column, columnRef_eq, Call.having?]; rfl
  | composite c => simp only [run, composite, foldl_columnRef, Call.having?]; rfl
  | allColumns => simp only [run, allColumns_eq, Call.having?]; rfl
  | _ => rfl

namespace Update

def Call.where? : Call → Option Predicate
  | .andWhere p => some p
  | .set _ _ => none

theorem filter_ofCalls {t : ValueType} (table : Table) (before : List Predicate) (c : Column t)
    (o : Operand t) (calls : List Call) :
    (ofCalls table before c o calls).filter
      = (before ++ calls.filterMap Call.where?).foldl addCondition none := by
  have draft (d : UpdateDraft) (ps : List Predicate) :
      (ps.foldl UpdateDraft.andWhere d).filter = ps.foldl addCondition d.filter := by
    induction ps generalizing d with
    | nil => rfl
    | cons p ps ih => exact ih _
  rw [List.foldl_append, ← draft { table } before]
  refine foldl_filter Update.filter (fun u call => ?_) _ calls
  cases call <;> rfl

end Update

/-- The DELETE with conditions added. -/
def Delete.with (d : Delete) (ps : List Predicate) : Delete := ps.foldl Delete.andWhere d

theorem Delete.filter_with (d : Delete) (ps : List Predicate) :
    (d.with ps).filter = ps.foldl addCondition d.filter := by
  induction ps generalizing d with
  | nil => rfl
  | cons p ps ih => exact ih _

/-! ## The meaning of conditions -/

section

variable {V : Type u} (I : Interpretation V) (scopes : List Scope)

/-- Conditions mean what AND, OR and NOT mean, and filters mean that all conditions passed hold. -/
structure Predicate.Boolean : Prop where
  and : ∀ p q : Predicate, (p.and q).truth I scopes
    = LogicalOp.and.kleene (p.truth I scopes) (q.truth I scopes)
  or : ∀ p q : Predicate, (p.or q).truth I scopes
    = LogicalOp.or.kleene (p.truth I scopes) (q.truth I scopes)
  not : ∀ p : Predicate, p.not.truth I scopes = (p.truth I scopes).map Bool.not
  all : ∀ ps, (Predicate.all ps).truth I scopes
    = LogicalOp.and.joined (ps.map (Predicate.truth I scopes))
  any : ∀ ps, (Predicate.any ps).truth I scopes
    = LogicalOp.or.joined (ps.map (Predicate.truth I scopes))
  like : ∀ e pattern escape, Expr.InPlace I scopes (.like · e pattern escape)
  isNull : ∀ e, Expr.InPlace I scopes (.isNull · e)
  between : ∀ e low high, Expr.InPlace I scopes (.between · e low high)
  inList : ∀ e items, Expr.InPlace I scopes (.inList · e items)
  inQuery : ∀ e q, Expr.InPlace I scopes (.inQuery · e q)
  existsIn : ∀ q, Expr.InPlace I scopes (.existsIn · q)
  /-- Nothing is in the empty list, whatever the value looked for. -/
  empty : ∀ {t : ValueType} (e : Expression t) (negated : Bool),
    (e.inList negated []).truth I scopes = some negated
  selectWhere : ∀ calls, (Select.ofCalls calls).filter.map (Expr.truth I scopes)
    = required I scopes (calls.filterMap Select.Call.where?)
  selectHaving : ∀ calls, (Select.ofCalls calls).having.map (Expr.truth I scopes)
    = required I scopes (calls.filterMap Select.Call.having?)
  updateWhere : ∀ {t : ValueType} (table : Table) (before : List Predicate) (c : Column t)
    (o : Operand t) (calls : List Update.Call),
    (Update.ofCalls table before c o calls).filter.map (Expr.truth I scopes)
      = required I scopes (before ++ calls.filterMap Update.Call.where?)
  deleteWhere : ∀ (table : Table) (p : Predicate) (ps : List Predicate),
    ((Delete.rowsWhere table p).with ps).filter.map (Expr.truth I scopes)
      = required I scopes (p :: ps)
  deleteAll : ∀ (table : Table) (ps : List Predicate),
    ((Delete.allRows table).with ps).filter.map (Expr.truth I scopes) = required I scopes ps

/-- **Predicates have Boolean meaning, under every interpretation of their atoms.** -/
theorem Predicate.boolean : Predicate.Boolean I scopes where
  and p q := Expr.truth_combine I scopes .and p.expr q.expr
  or p q := Expr.truth_combine I scopes .or p.expr q.expr
  not p := Expr.truth_negate I scopes p.expr
  all := truth_fold I scopes .and
  any := truth_fold I scopes .or
  like := Expr.inPlace_like I scopes
  isNull := Expr.inPlace_isNull I scopes
  between := Expr.inPlace_between I scopes
  inList := Expr.inPlace_inList I scopes
  inQuery := Expr.inPlace_inQuery I scopes
  existsIn := Expr.inPlace_existsIn I scopes
  empty e negated := by
    rw [Predicate.truth, Expr.truth, Expression.inList, List.map_nil, Expr.eval,
      Expr.truth_test]
    cases negated <;> rfl
  selectWhere calls := by
    rw [Select.filter_ofCalls, truth_foldl_addCondition]
  selectHaving calls := by
    rw [Select.having_ofCalls, truth_foldl_addCondition]
  updateWhere table before c o calls := by
    rw [Update.filter_ofCalls, truth_foldl_addCondition]
  deleteWhere table p ps := by
    rw [Delete.filter_with]
    exact truth_foldl_addCondition I scopes (p :: ps)
  deleteAll table ps := by
    rw [Delete.filter_with]
    exact truth_foldl_addCondition I scopes ps

end

end TypedSql
