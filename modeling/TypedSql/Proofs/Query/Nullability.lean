import TypedSql.Proofs.Grammar.Meaning

/-!
# Expressions that are never NULL

Every call that builds an expression computes whether it can be NULL. An evaluation gives each
expression a value, in whatever row or group it is evaluated, and treats NULL as SQLite does:
arithmetic, concatenation, CAST and the functions of one value are NULL on NULL, COALESCE is NULL if
both its arguments are, COUNT is never NULL, and division is NULL by zero too.

**Theorem (`Expression.isNull_iff_unforeseen`).** An expression that is not nullable, built from
columns, tokens and labels that keep to their descriptors, is NULL exactly if a division by zero, or
a value that is not a number and read as NULL, reaches the top.

Operators forget that division can be NULL by itself (`Expression.null_by_zero`). Everything else
that the calls compute is right: an expression in which nothing divides is NULL only if it is
nullable or one of its values is no number.

* **Sound part (`Built.unforeseen`).** By induction over the calls: where the descriptors exclude
  NULL, each NULL comes from a part that is unforeseen itself.
* **Exact part (`Unforeseen.isNull`).** By induction over the way up: nothing catches it.
-/

namespace TypedSql

universe u

/-! ## Evaluations -/

/-- The operator is NULL by itself for some operands that are not. -/
def BinaryOp.divides : BinaryOp → Bool
  | .div | .rem => true
  | _ => false

/-- The function has one argument, and is NULL just if that is. -/
def SqlFunction.isStrict : SqlFunction → Bool
  | .abs | .lower | .upper | .length => true
  | _ => false

/-- The values of expressions, with NULL treated as SQLite does. Nothing is said about the values of
columns, tokens and labels, nor about aggregates and nested queries, which may be NULL. A preset
value is not NULL unless it was stored as NULL or is no number. -/
structure Evaluation (V : Type u) where
  value : Expr → V
  IsNull : V → Prop
  IsZero : V → Prop
  binary : ∀ op l r, IsNull (value (.binary op l r))
    ↔ IsNull (value l) ∨ IsNull (value r) ∨ op.divides = true ∧ IsZero (value r)
  strict : ∀ f distinct e, f.isStrict = true →
    (IsNull (value (.call f distinct [e])) ↔ IsNull (value e))
  coalesce : ∀ distinct a b, IsNull (value (.call .coalesce distinct [a, b]))
    ↔ IsNull (value a) ∧ IsNull (value b)
  cast : ∀ e type, IsNull (value (.cast e type)) ↔ IsNull (value e)
  count : ∀ distinct e, ¬ IsNull (value (.call .count distinct [e]))
  countRows : ¬ IsNull (value .countRows)
  preset : ∀ type stored, IsNull (value (.bind (.preset type stored))) →
    stored = .ok .null ∨ ∃ x : Float, x.isNaN = true ∧ stored = .ok (.real x)

variable {V : Type u} {E : Evaluation V}

/-- The expression is NULL for a reason that no descriptor tells. -/
inductive Unforeseen (E : Evaluation V) : Expr → Prop
  | notANumber {type : AnyDescriptor} {x : Float} : x.isNaN = true →
    E.IsNull (E.value (.bind (.preset type (.ok (.real x))))) →
      Unforeseen E (.bind (.preset type (.ok (.real x))))
  | divisor {op : BinaryOp} {l r : Expr} : op.divides = true → E.IsZero (E.value r) →
    Unforeseen E (.binary op l r)
  | left {op : BinaryOp} {l r : Expr} : Unforeseen E l → Unforeseen E (.binary op l r)
  | right {op : BinaryOp} {l r : Expr} : Unforeseen E r → Unforeseen E (.binary op l r)
  | call {f : SqlFunction} {distinct : Bool} {e : Expr} : f.isStrict = true → Unforeseen E e →
    Unforeseen E (.call f distinct [e])
  | cast {e : Expr} {type : String} : Unforeseen E e → Unforeseen E (.cast e type)
  | first {distinct : Bool} {a b : Expr} : Unforeseen E a → E.IsNull (E.value b) →
    Unforeseen E (.call .coalesce distinct [a, b])
  | second {distinct : Bool} {a b : Expr} : E.IsNull (E.value a) → Unforeseen E b →
    Unforeseen E (.call .coalesce distinct [a, b])

/-- What is unforeseen is NULL all the way up. -/
theorem Unforeseen.isNull {x : Expr} (h : Unforeseen E x) : E.IsNull (E.value x) := by
  induction h with
  | notANumber _ null => exact null
  | divisor divides zero => exact (E.binary _ _ _).2 (.inr (.inr ⟨divides, zero⟩))
  | left _ ih => exact (E.binary _ _ _).2 (.inl ih)
  | right _ ih => exact (E.binary _ _ _).2 (.inr (.inl ih))
  | call one _ ih => exact (E.strict _ _ _ one).2 ih
  | cast _ ih => exact (E.cast _ _).2 ih
  | first _ null ih => exact (E.coalesce _ _ _).2 ⟨ih, null⟩
  | second null _ ih => exact (E.coalesce _ _ _).2 ⟨null, ih⟩

/-! ### Where it comes from -/

/-- The expression has the part where NULL is passed on from. -/
inductive Expr.HasPart (x : Expr) : Expr → Prop
  | self : HasPart x x
  | left {op : BinaryOp} {l r : Expr} : HasPart x l → HasPart x (.binary op l r)
  | right {op : BinaryOp} {l r : Expr} : HasPart x r → HasPart x (.binary op l r)
  | call {f : SqlFunction} {distinct : Bool} {e : Expr} : f.isStrict = true → HasPart x e →
    HasPart x (.call f distinct [e])
  | cast {e : Expr} {type : String} : HasPart x e → HasPart x (.cast e type)
  | first {distinct : Bool} {a b : Expr} : HasPart x a →
    HasPart x (.call .coalesce distinct [a, b])
  | second {distinct : Bool} {a b : Expr} : HasPart x b →
    HasPart x (.call .coalesce distinct [a, b])

/-- A division by zero, or a value that is no number. -/
def Evaluation.Undefined (E : Evaluation V) : Expr → Prop
  | .binary op _ r => op.divides = true ∧ E.IsZero (E.value r)
  | .bind (.preset _ (.ok (.real x))) => x.isNaN = true
  | _ => False

theorem Unforeseen.exists_undefined {x : Expr} (h : Unforeseen E x) :
    ∃ y, Expr.HasPart y x ∧ E.Undefined y := by
  induction h with
  | notANumber nan _ => exact ⟨_, .self, nan⟩
  | divisor divides zero => exact ⟨_, .self, divides, zero⟩
  | left _ ih => exact ih.imp fun _ found => ⟨.left found.1, found.2⟩
  | right _ ih => exact ih.imp fun _ found => ⟨.right found.1, found.2⟩
  | call one _ ih => exact ih.imp fun _ found => ⟨.call one found.1, found.2⟩
  | cast _ ih => exact ih.imp fun _ found => ⟨.cast found.1, found.2⟩
  | first _ _ ih => exact ih.imp fun _ found => ⟨.first found.1, found.2⟩
  | second _ _ ih => exact ih.imp fun _ found => ⟨.second found.1, found.2⟩

/-! ## Expressions built by calls -/

namespace Expression

/-- The calls that build expressions from handles: columns, tokens and labels. A plain value can
only stand to the right of something. -/
inductive Built (handle : ∀ {t : ValueType}, Expression t → Prop) :
    ∀ {t : ValueType}, Expression t → Prop
  | column {t : ValueType} (c : Column t) : handle c.toExpression → Built handle c.toExpression
  | param {t : ValueType} (p : Param t) : handle p.toExpression → Built handle p.toExpression
  | label {t : ValueType} (p : Projection t) : handle p.toExpression → Built handle p.toExpression
  | binary {t : ValueType} {e r : Expression t} (op : BinaryOp) :
    Built handle e → Built handle r → Built handle (e.binary op (.ofExpression r))
  | binaryValue {t : ValueType} {e : Expression t} (op : BinaryOp) (v : Option t.Value) :
    Built handle e → Built handle (e.binary op (.value v))
  | countAll : Built handle countAll
  | count {t : ValueType} {e : Expression t} (distinct : Bool) :
    Built handle e → Built handle (e.count distinct)
  | aggregate {t : ValueType} {e : Expression t} (f : SqlFunction) :
    Built handle e → Built handle (aggregate f e)
  | avg {t : ValueType} {e : Expression t} : Built handle e → Built handle e.avg
  | mapped {t : ValueType} {e : Expression t} (f : SqlFunction) :
    f.isStrict = true → Built handle e → Built handle (mapped f e)
  | length {e : Expression .text} : Built handle e → Built handle e.length
  | coalesce {t : ValueType} {e r : Expression t} :
    Built handle e → Built handle r → Built handle (e.coalesce (.ofExpression r))
  | coalesceValue {t : ValueType} {e : Expression t} (v : Option t.Value) :
    Built handle e → Built handle (e.coalesce (.value v))
  | cast {t u : ValueType} {e : Expression t} (k : Kind u) :
    Built handle e → Built handle (e.cast k)
  | scalar {t : ValueType} (q : Select) (d : Descriptor t) : Built handle (scalar q d)

end Expression

/-- No handle is NULL that its descriptor says is not. -/
def Evaluation.Fits (E : Evaluation V) (handle : ∀ {t : ValueType}, Expression t → Prop) : Prop :=
  ∀ {t : ValueType} (e : Expression t), handle e → e.nullable = false →
    ¬ E.IsNull (E.value e.expr)

theorem Kind.encode_ne_null {t : ValueType} {k : Kind t} {v : t.Value} :
    k.encode v ≠ .ok .null := by
  intro h
  have class_eq := Kind.storageClass?_of_encode h
  cases class_eq

/-- A plain value beside an expression is NULL only if it is no number. -/
theorem Operand.unforeseen_value {t : ValueType} {v : Option t.Value} (present : v.isNone = false)
    (d : Descriptor t) (null : E.IsNull (E.value ((Operand.value v).toExpr d))) :
    Unforeseen E ((Operand.value v).toExpr d) := by
  obtain ⟨v, rfl⟩ := Option.isSome_iff_exists.1 (Option.isNone_eq_false_iff.1 present)
  rcases E.preset _ _ null with stored | ⟨x, nan, stored⟩
  · exact absurd stored Kind.encode_ne_null
  · rw [Operand.toExpr, stored] at null ⊢
    exact .notANumber nan null

namespace Expression

variable {handle : ∀ {t : ValueType}, Expression t → Prop} {t : ValueType} {e : Expression t}

/-- Where the descriptors exclude NULL, it is unforeseen. -/
theorem Built.unforeseen (built : Built handle e) (fits : E.Fits handle)
    (required : e.nullable = false) (null : E.IsNull (E.value e.expr)) :
    Unforeseen E e.expr := by
  induction built with
  | column c used | param c used | label c used => exact absurd null (fits _ used required)
  | binary op _ _ ihe ihr =>
    obtain ⟨he, hr⟩ := Bool.or_eq_false_iff.1 required
    rcases (E.binary _ _ _).1 null with left | right | ⟨divides, zero⟩
    · exact .left (ihe he left)
    · exact .right (ihr hr right)
    · exact .divisor divides zero
  | binaryValue op v _ ihe =>
    obtain ⟨he, hv⟩ := Bool.or_eq_false_iff.1 required
    rcases (E.binary _ _ _).1 null with left | right | ⟨divides, zero⟩
    · exact .left (ihe he left)
    · exact .right (Operand.unforeseen_value hv _ right)
    · exact .divisor divides zero
  | countAll => exact absurd null E.countRows
  | count distinct _ _ => exact absurd null (E.count _ _)
  | aggregate f _ _ | avg _ _ | scalar q d => cases required
  | mapped f strict _ ihe => exact .call strict (ihe required ((E.strict _ _ _ strict).1 null))
  | length _ ihe => exact .call rfl (ihe required ((E.strict _ _ _ rfl).1 null))
  | coalesce _ _ ihe ihr =>
    obtain ⟨first, second⟩ := (E.coalesce _ _ _).1 null
    rcases Bool.and_eq_false_iff.1 required with he | hr
    · exact .first (ihe he first) second
    · exact .second first (ihr hr second)
  | coalesceValue v _ ihe =>
    obtain ⟨first, second⟩ := (E.coalesce _ _ _).1 null
    rcases Bool.and_eq_false_iff.1 required with he | hv
    · exact .first (ihe he first) second
    · exact .second first (Operand.unforeseen_value hv _ second)
  | cast k _ ihe => exact .cast (ihe required ((E.cast _ _).1 null))

/-- **An expression that is not nullable is NULL exactly if something unforeseen is; without a
division by zero or a value that is no number in it, it is never NULL.** -/
theorem isNull_iff_unforeseen (built : Built handle e) (fits : E.Fits handle)
    (required : e.nullable = false) :
    (E.IsNull (E.value e.expr) ↔ Unforeseen E e.expr)
      ∧ ((∀ x, Expr.HasPart x e.expr → ¬ E.Undefined x) → ¬ E.IsNull (E.value e.expr)) := by
  have source : E.IsNull (E.value e.expr) → Unforeseen E e.expr :=
    fun null => built.unforeseen fits required null
  refine ⟨⟨source, Unforeseen.isNull⟩, fun defined null => ?_⟩
  obtain ⟨x, part, undefined⟩ := (source null).exists_undefined
  exact defined x part undefined

/-! ### Whole numbers -/

/-- Columns as given. Every value is a whole number or NULL, and a text counts as its length. -/
def counting (cells : String → Option Int) : Interpretation (Option Int) where
  truth v := v.map (· != 0)
  ofTruth b := b.map fun b => if b then 1 else 0
  truth_ofTruth b := by rcases b with _ | _ | _ <;> rfl
  reference _ name := cells name
  mark
    | .preset _ (.ok .null) => none
    | .preset _ (.ok (.integer n)) => some n.toInt
    | .preset _ (.ok (.text s)) => some s.length
    | _ => some 0
  scalar _ := none
  existsIn _ := none
  compare _ _ _ := none
  like _ _ _ := none
  isNull v := some v.isNone
  between _ _ _ := none
  inQuery _ _ := none
  binary op v w := v.bind fun a => w.bind fun b =>
    match op with
    | .add | .concat => some (a + b)
    | .sub => some (a - b)
    | .mul => some (a * b)
    | .div => if b = 0 then none else some (a.tdiv b)
    | .rem => if b = 0 then none else some (a.tmod b)
  call
    | .count, _, [v] => some (if v.isNone then 0 else 1)
    | .abs, _, [v] => v.map fun a => a.natAbs
    | .coalesce, _, [v, w] => v.or w
    | _, _, v :: _ => v
    | _, _, [] => none
  countRows := some 1
  cast v _ := v

def countingEvaluation (cells : String → Option Int) : Evaluation (Option Int) where
  value e := e.eval (counting cells) []
  IsNull v := v = none
  IsZero v := v = some 0
  binary op l r := by
    simp only [Expr.eval]
    generalize l.eval (counting cells) [] = v
    generalize r.eval (counting cells) [] = w
    rcases v with _ | v <;> rcases w with _ | w <;> cases op <;>
      simp [counting, BinaryOp.divides]
  strict f distinct e one := by
    simp only [Expr.eval, listEval]
    generalize e.eval (counting cells) [] = v
    cases f <;> cases one <;> simp [counting]
  coalesce distinct a b := by
    simp only [Expr.eval, listEval]
    exact Option.or_eq_none_iff
  cast e type := by
    simp only [Expr.eval]
    exact Iff.rfl
  count distinct e := by
    simp only [Expr.eval, listEval]
    exact nofun
  countRows := by
    simp only [Expr.eval]
    exact nofun
  preset type stored h := by
    simp only [Expr.eval] at h
    rcases stored with _ | _ | _ | _ | _ | _ <;> first | exact .inl rfl | cases h

/-- A column that is never NULL, and one that may be. -/
def amount : Column .int64 where
  ref := { key := ⟨⟨1⟩, "amount"⟩, qualifier := "Purchase", type := ⟨.int64, .int64, false⟩ }
  descriptor := ⟨.int64, false⟩

def note : Column .text where
  ref := { key := ⟨⟨1⟩, "note"⟩, qualifier := "Purchase", type := ⟨.text, .text, true⟩ }
  descriptor := ⟨.text, true⟩

/-- The two columns are the handles. -/
def OfPurchase {t : ValueType} (e : Expression t) : Prop :=
  (⟨t, e⟩ : Sigma Expression) = ⟨_, amount.toExpression⟩ ∨
    (⟨t, e⟩ : Sigma Expression) = ⟨_, note.toExpression⟩

/-- A purchase of an amount, without a note. -/
def purchase (amount : Int) : Evaluation (Option Int) :=
  countingEvaluation fun name => if name = "amount" then some amount else none

theorem fits_purchase (n : Int) : (purchase n).Fits OfPurchase := by
  intro t e used required
  rcases used with same | same
  · cases same
    exact nofun
  · cases same
    cases required

/-- The length of the note, 0 without one, times the amount and one more. -/
def weight : Expression .int64 :=
  ((length (mapped .lower note.toExpression)).coalesce (.value (some 0))).binary .mul
    (.ofExpression (amount.toExpression.binary .add (.value (some 1))))

/-- Without a note the weight is a number. -/
theorem isNull_iff_unforeseen_of_weight :
    Built OfPurchase weight ∧ (purchase 4).Fits OfPurchase ∧ weight.nullable = false
      ∧ ¬ Unforeseen (purchase 4) weight.expr := by
  have name : Built OfPurchase note.toExpression := .column note (.inr rfl)
  have price : Built OfPurchase amount.toExpression := .column amount (.inl rfl)
  have length : Built OfPurchase (length (mapped .lower note.toExpression)) :=
    .length (.mapped .lower rfl name)
  have built : Built OfPurchase weight :=
    .binary .mul (.coalesceValue (some 0) length) (.binaryValue .add (some 1) price)
  have number : (purchase 4).value weight.expr = some 0 := rfl
  refine ⟨built, fits_purchase 4, rfl, fun unforeseen => ?_⟩
  have null := (isNull_iff_unforeseen built (fits_purchase 4) rfl).1.2 unforeseen
  cases number.symm.trans null

/-- **Division is nullable where the descriptors say it is not:** an amount divided by zero. -/
theorem null_by_zero :
    ∃ e : Expression .int64, Built OfPurchase e ∧ (purchase 5).Fits OfPurchase ∧ e.nullable = false
      ∧ (purchase 5).IsNull ((purchase 5).value e.expr) := by
  have built : Built OfPurchase (amount.toExpression.binary .div (.value (some 0))) :=
    .binaryValue .div (some 0) (.column amount (.inl rfl))
  refine ⟨_, built, fits_purchase 5, rfl, ?_⟩
  exact ((purchase 5).binary _ _ _).2 (.inr (.inr ⟨rfl, rfl⟩))

end Expression
end TypedSql
