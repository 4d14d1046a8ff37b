import TypedSql.Proofs.Outline.Calls
import TypedSql.Proofs.Query.Leaves

/-!
# What calls put together

Tokens get their identities from a supply, which gives no identity twice. Sources, expressions,
queries and statements are put together by calls from tables, columns, plain values and the tokens
handed out; the relation `Assembled` has one constructor for each call, and none for anything else.
A call that may fail gives something where it succeeds.

**Theorem (`HandedOut.eq_of_id_eq`).** A token is determined by its identity, and so is its
descriptor.

What holds of everything put together is proved by induction on the calls.
-/

namespace TypedSql

/-! ## Tokens -/

/-- A token of any value type. -/
structure AnyParam where
  id : ParamId
  type : AnyDescriptor

def Param.erase {t : ValueType} (p : Param t) : AnyParam := ⟨p.id, p.descriptor.erase⟩

/-- The supply that is left when these tokens, and any number of sets, got their identities. -/
inductive HandedOut : List AnyParam → Supply → Prop
  | start : HandedOut [] {}
  | set {tokens : List AnyParam} {s : Supply} : HandedOut tokens s → HandedOut tokens s.set.2
  | param {tokens : List AnyParam} {s : Supply} (type : AnyDescriptor) :
    HandedOut tokens s → HandedOut (⟨s.param.1, type⟩ :: tokens) s.param.2

namespace HandedOut

variable {tokens : List AnyParam} {s : Supply}

/-- Identities handed out are behind those still to come. -/
theorem index_lt (h : HandedOut tokens s) : ∀ p ∈ tokens, p.id.index < s.next := by
  induction h with
  | start => exact List.forall_mem_nil _
  | set _ ih => exact fun p hp => Nat.lt_succ_of_lt (ih p hp)
  | param type _ ih =>
    rw [List.forall_mem_cons]
    exact ⟨Nat.lt_succ_self _, fun p hp => Nat.lt_succ_of_lt (ih p hp)⟩

/-- **A token is determined by its identity.** -/
theorem eq_of_id_eq (h : HandedOut tokens s) :
    ∀ p ∈ tokens, ∀ q ∈ tokens, p.id = q.id → p = q := by
  induction h with
  | start => exact List.forall_mem_nil _
  | set _ ih => exact ih
  | @param tokens s type h ih =>
    have fresh : ∀ p ∈ tokens, p.id ≠ s.param.1 := by
      intro p hp same
      have lt := h.index_lt p hp
      rw [same] at lt
      exact Nat.lt_irrefl _ lt
    intro p hp q hq same
    rcases List.mem_cons.1 hp with rfl | oldp
    · rcases List.mem_cons.1 hq with rfl | oldq
      · rfl
      · exact absurd same.symm (fresh q oldq)
    · rcases List.mem_cons.1 hq with rfl | oldq
      · exact absurd same (fresh p oldp)
      · exact ih p oldp q oldq same

end HandedOut

/-! ## Calls -/

/-- The value is NULL or of the storage class of the descriptor. -/
def AnyDescriptor.Fits (d : AnyDescriptor) (v : StorageValue) : Prop :=
  v.isNull = true ∨ v.storageClass? = some d.storageClass

/-- If the value can be split, each of its parts fits the column it is stored in. -/
def CompositeColumn.SplitsInto {α : Type} (c : CompositeColumn α) (value : α) : Prop :=
  ∀ vs, c.kind.split value = .ok vs → ∀ p ∈ c.parts.zip vs, p.1.type.Fits p.2

/-- Calls with these tokens give the thing. -/
inductive Assembled (tokens : List AnyParam) : (f : Form) → f.Thing → Prop
  -- Handles.
  | column {t : ValueType} (c : Column t) : Assembled tokens (.column t) c
  | param {t : ValueType} {p : Param t} : p.erase ∈ tokens → Assembled tokens (.param t) p
  | table (t : Table) : Assembled tokens .source (.relation (.table t))
  -- Plain values.
  | value {t : ValueType} (v : Option t.Value) : Assembled tokens (.operand t) (.value v)
  | rowCount (n : Int64) : Assembled tokens .placeholder (rowCount n)
  | compositeEq {α : Type} {c : CompositeColumn α} {v : α} :
    c.SplitsInto v → Assembled tokens .predicate (c.eq v)
  -- Columns, tokens and labels.
  | resolve {t : ValueType} {s : Source} {x : Target t} {c : Column t} :
    Assembled tokens .source s → Assembled tokens (.target t) x → s.resolve x = .ok c →
      Assembled tokens (.column t) c
  | columnTarget {t : ValueType} {c : Column t} :
    Assembled tokens (.column t) c → Assembled tokens (.target t) c.target
  | projectionTarget {t : ValueType} {p : Projection t} :
    Assembled tokens (.projection t) p → Assembled tokens (.target t) p.target
  | label {t : ValueType} {e : Expression t} {p : Projection t} (id : SetId) (name : String) :
    Assembled tokens (.expression t) e → Projection.label id name e = .ok p →
      Assembled tokens (.projection t) p
  | token {t : ValueType} {p : Param t} :
    Assembled tokens (.param t) p → Assembled tokens .placeholder p.placeholder
  -- Expressions.
  | ofColumn {t : ValueType} {c : Column t} :
    Assembled tokens (.column t) c → Assembled tokens (.expression t) c.toExpression
  | ofParam {t : ValueType} {p : Param t} :
    Assembled tokens (.param t) p → Assembled tokens (.expression t) p.toExpression
  | ofProjection {t : ValueType} {p : Projection t} :
    Assembled tokens (.projection t) p → Assembled tokens (.expression t) p.toExpression
  | ofExpression {t : ValueType} {e : Expression t} :
    Assembled tokens (.expression t) e → Assembled tokens (.operand t) (.ofExpression e)
  | binary {t : ValueType} {e : Expression t} {o : Operand t} (op : BinaryOp) :
    Assembled tokens (.expression t) e → Assembled tokens (.operand t) o →
      Assembled tokens (.expression t) (e.binary op o)
  | countAll : Assembled tokens (.expression .int64) .countAll
  | count {t : ValueType} {e : Expression t} (distinct : Bool) :
    Assembled tokens (.expression t) e → Assembled tokens (.expression .int64) (e.count distinct)
  | aggregate {t : ValueType} {e : Expression t} (f : SqlFunction) :
    Assembled tokens (.expression t) e → Assembled tokens (.expression t) (.aggregate f e)
  | avg {t : ValueType} {e : Expression t} :
    Assembled tokens (.expression t) e → Assembled tokens (.expression .float64) e.avg
  | mapped {t : ValueType} {e : Expression t} (f : SqlFunction) :
    Assembled tokens (.expression t) e → Assembled tokens (.expression t) (.mapped f e)
  | length {e : Expression .text} :
    Assembled tokens (.expression .text) e → Assembled tokens (.expression .int64) e.length
  | coalesce {t : ValueType} {e : Expression t} {o : Operand t} :
    Assembled tokens (.expression t) e → Assembled tokens (.operand t) o →
      Assembled tokens (.expression t) (e.coalesce o)
  | cast {t u : ValueType} {e : Expression t} (k : Kind u) :
    Assembled tokens (.expression t) e → Assembled tokens (.expression u) (e.cast k)
  | scalar {t : ValueType} {q : Select} {x : Target t} :
    Assembled tokens .select q → Assembled tokens (.target t) x →
      Assembled tokens (.expression t) (.scalar q x.descriptor)
  | noOperand {t : ValueType} : Assembled tokens (.operands t) []
  | moreOperands {t : ValueType} {o : Operand t} {os : List (Operand t)} :
    Assembled tokens (.operand t) o → Assembled tokens (.operands t) os →
      Assembled tokens (.operands t) (o :: os)
  -- Conditions.
  | compare {t : ValueType} {e : Expression t} {o : Operand t} (op : CompareOp) :
    Assembled tokens (.expression t) e → Assembled tokens (.operand t) o →
      Assembled tokens .predicate (e.compare op o)
  | isNull {t : ValueType} {e : Expression t} (negated : Bool) :
    Assembled tokens (.expression t) e → Assembled tokens .predicate (e.isNull negated)
  | between {t : ValueType} {e : Expression t} {low high : Operand t} (negated : Bool) :
    Assembled tokens (.expression t) e → Assembled tokens (.operand t) low →
      Assembled tokens (.operand t) high →
      Assembled tokens .predicate (e.between negated low high)
  | inList {t : ValueType} {e : Expression t} {os : List (Operand t)} (negated : Bool) :
    Assembled tokens (.expression t) e → Assembled tokens (.operands t) os →
      Assembled tokens .predicate (e.inList negated os)
  | inQuery {t : ValueType} {e : Expression t} {q : Select} (negated : Bool) :
    Assembled tokens (.expression t) e → Assembled tokens .select q →
      Assembled tokens .predicate (e.inQuery negated q)
  | like {e : Expression .text} {o : Operand .text} (negated : Bool) :
    Assembled tokens (.expression .text) e → Assembled tokens (.operand .text) o →
      Assembled tokens .predicate (e.like negated o)
  | likeEscape {e : Expression .text} {o : Operand .text} (escape : Char) :
    Assembled tokens (.expression .text) e → Assembled tokens (.operand .text) o →
      Assembled tokens .predicate (e.likeEscape o escape)
  | toPredicate {e : Expression .bool} :
    Assembled tokens (.expression .bool) e → Assembled tokens .predicate e.toPredicate
  | existsIn {q : Select} (negated : Bool) :
    Assembled tokens .select q → Assembled tokens .predicate (.existsIn negated q)
  | compositeIsNull {α : Type} (c : CompositeColumn α) : Assembled tokens .predicate c.isNull
  | and {p r : Predicate} : Assembled tokens .predicate p → Assembled tokens .predicate r →
      Assembled tokens .predicate (p.and r)
  | or {p r : Predicate} : Assembled tokens .predicate p → Assembled tokens .predicate r →
      Assembled tokens .predicate (p.or r)
  | not {p : Predicate} : Assembled tokens .predicate p → Assembled tokens .predicate p.not
  | noPredicate : Assembled tokens .predicates []
  | morePredicates {p : Predicate} {ps : List Predicate} :
    Assembled tokens .predicate p → Assembled tokens .predicates ps →
      Assembled tokens .predicates (p :: ps)
  | all {ps : List Predicate} :
    Assembled tokens .predicates ps → Assembled tokens .predicate (.all ps)
  | any {ps : List Predicate} :
    Assembled tokens .predicates ps → Assembled tokens .predicate (.any ps)
  -- Sources.
  | rename {s r : Source} (id : SetId) (name : String) :
    Assembled tokens .source s → s.rename id name = .ok r → Assembled tokens .source r
  | joinOn {l r : Source} {p : Predicate} (kind : JoinKind) :
    Assembled tokens .source l → Assembled tokens .source r → Assembled tokens .predicate p →
      Assembled tokens .source (.join kind l r (some p.expr))
  | join {l r : Source} (kind : JoinKind) :
    Assembled tokens .source l → Assembled tokens .source r →
      Assembled tokens .source (.join kind l r none)
  | naturalJoin {l r : Source} :
    Assembled tokens .source l → Assembled tokens .source r →
      Assembled tokens .source (l.naturalJoin r)
  | view {q : Select} {r : Relation} (id : SetId) (name : String) :
    Assembled tokens .select q → Relation.defineView id name q = .ok r →
      Assembled tokens .source (.relation r)
  | ofQuery {q : Query} (id : SetId) :
    Assembled tokens .query q → Assembled tokens .source (.ofQuery id q)
  -- Queries.
  | empty : Assembled tokens .select .empty
  | fromSource {q : Select} {s : Source} : Assembled tokens .select q →
      Assembled tokens .source s → Assembled tokens .select (q.fromSource s)
  | selectColumn {t : ValueType} {q : Select} {c : Column t} : Assembled tokens .select q →
      Assembled tokens (.column t) c → Assembled tokens .select (q.column c)
  | composite {α : Type} {q : Select} (c : CompositeColumn α) :
    Assembled tokens .select q → Assembled tokens .select (q.composite c)
  | allColumns {q : Select} : Assembled tokens .select q → Assembled tokens .select q.allColumns
  | project {t : ValueType} {q : Select} {p : Projection t} : Assembled tokens .select q →
      Assembled tokens (.projection t) p → Assembled tokens .select (q.project p)
  | selectDistinct {q : Select} :
    Assembled tokens .select q → Assembled tokens .select q.selectDistinct
  | andWhere {q : Select} {p : Predicate} : Assembled tokens .select q →
      Assembled tokens .predicate p → Assembled tokens .select (q.andWhere p)
  | andHaving {q : Select} {p : Predicate} : Assembled tokens .select q →
      Assembled tokens .predicate p → Assembled tokens .select (q.andHaving p)
  | addGroup {t : ValueType} {q : Select} {o : Operand t} (k : Kind t) :
    Assembled tokens .select q → Assembled tokens (.operand t) o →
      Assembled tokens .select (q.addGroup o k)
  | addOrder {t : ValueType} {q : Select} {o : Operand t} (k : Kind t) (order : SortOrder) :
    Assembled tokens .select q → Assembled tokens (.operand t) o →
      Assembled tokens .select (q.addOrder o k order)
  | limit {q : Select} {p : Placeholder} : Assembled tokens .select q →
      Assembled tokens .placeholder p → Assembled tokens .select (q.withLimit p)
  | offset {q : Select} {p : Placeholder} : Assembled tokens .select q →
      Assembled tokens .placeholder p → Assembled tokens .select (q.withOffset p)
  | combine {q r : Select} (operator : SetOperator) :
    Assembled tokens .select q → Assembled tokens .select r →
      Assembled tokens .compound (q.combine operator r)
  | addBranch {q : Compound} {r : Select} (operator : SetOperator) :
    Assembled tokens .compound q → Assembled tokens .select r →
      Assembled tokens .compound (q.addBranch operator r)
  | compoundOrder {t : ValueType} {q : Compound} {x : Target t} (order : SortOrder) :
    Assembled tokens .compound q → Assembled tokens (.target t) x →
      Assembled tokens .compound (q.addOrder x order)
  | compoundLimit {q : Compound} {p : Placeholder} : Assembled tokens .compound q →
      Assembled tokens .placeholder p → Assembled tokens .compound (q.withLimit p)
  | compoundOffset {q : Compound} {p : Placeholder} : Assembled tokens .compound q →
      Assembled tokens .placeholder p → Assembled tokens .compound (q.withOffset p)
  | ofSelect {q : Select} : Assembled tokens .select q → Assembled tokens .query (.select q)
  | ofCompound {q : Compound} :
    Assembled tokens .compound q → Assembled tokens .query (.compound q)
  -- Changes.
  | insertInto (t : Table) : Assembled tokens .insert { table := t }
  | insertSet {t : ValueType} {i : Insert} {c : Column t} {o : Operand t} :
    Assembled tokens .insert i → Assembled tokens (.column t) c →
      Assembled tokens (.operand t) o → Assembled tokens .insert (i.set c o)
  | insertBlank {t : ValueType} {i : Insert} {c : Column t} :
    Assembled tokens .insert i → Assembled tokens (.column t) c →
      Assembled tokens .insert (i.setBlank c)
  | insertComposite {α : Type} {i : Insert} {c : CompositeColumn α} {v : α} :
    Assembled tokens .insert i → c.SplitsInto v → Assembled tokens .insert (i.setComposite c v)
  | onConflict {i : Insert} (conflict : Conflict) :
    Assembled tokens .insert i → Assembled tokens .insert (i.onConflict conflict)
  | updateOf (t : Table) : Assembled tokens .updateDraft { table := t }
  | draftWhere {u : UpdateDraft} {p : Predicate} : Assembled tokens .updateDraft u →
      Assembled tokens .predicate p → Assembled tokens .updateDraft (u.andWhere p)
  | draftSet {t : ValueType} {u : UpdateDraft} {c : Column t} {o : Operand t} :
    Assembled tokens .updateDraft u → Assembled tokens (.column t) c →
      Assembled tokens (.operand t) o → Assembled tokens .update (u.set c o)
  | updateWhere {u : Update} {p : Predicate} : Assembled tokens .update u →
      Assembled tokens .predicate p → Assembled tokens .update (u.andWhere p)
  | updateSet {t : ValueType} {u : Update} {c : Column t} {o : Operand t} :
    Assembled tokens .update u → Assembled tokens (.column t) c →
      Assembled tokens (.operand t) o → Assembled tokens .update (u.set c o)
  | deleteAll (t : Table) : Assembled tokens .delete (.allRows t)
  | deleteWhere {p : Predicate} (t : Table) :
    Assembled tokens .predicate p → Assembled tokens .delete (.rowsWhere t p)
  | deleteAndWhere {d : Delete} {p : Predicate} : Assembled tokens .delete d →
      Assembled tokens .predicate p → Assembled tokens .delete (d.andWhere p)
  -- Statements.
  | query {q : Query} : Assembled tokens .query q → Assembled tokens .statement (.query q)
  | insert {i : Insert} : Assembled tokens .insert i → Assembled tokens .statement (.insert i)
  | update {u : Update} : Assembled tokens .update u → Assembled tokens .statement (.update u)
  | delete {d : Delete} : Assembled tokens .delete d → Assembled tokens .statement (.delete d)

end TypedSql
