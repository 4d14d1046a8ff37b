import TypedSql.Proofs.Render.Builds
import TypedSql.Proofs.Render.Substitution
import TypedSql.Proofs.Run.Binding

/-!
# Plain values and tokens

**Theorem (`Statement.value_interchangeable`).** A plain value in a statement and a token in its
place, to which the value is bound, come to the same. If the descriptor takes the value, the texts
and slots agree, and so do the contents of the slots; if it does not, building the one and binding
the other fail with the same error.

The statement with the value is the one with the token under a substitution, `Param.fill`. The six
calls that take an operand beside an expression or a column encode it under one descriptor
(`Place.fill_put`). A value is checked twice on its way into a slot, when it is encoded and when the
slot takes it; the second check refuses nothing that the first one gave
(`Descriptor.acceptEncoded_of_bindValue`).
-/

namespace TypedSql

variable {t : ValueType}

/-! ## The value in the places of the token -/

/-- The plain value, encoded under the descriptor of the token, in place of the token. -/
def Param.fill (p : Param t) (v : Option t.Value) : Placeholder → Placeholder
  | .token id type =>
    if id = p.id then .preset p.descriptor.erase (p.descriptor.bindValue v) else .token id type
  | q => q

theorem Param.fill_of_id (p : Param t) (v : Option t.Value) {q : Placeholder}
    (h : q.id? = some p.id) :
    p.fill v q = .preset p.descriptor.erase (p.descriptor.bindValue v) := by
  cases q with
  | token id type =>
    obtain rfl : id = p.id := Option.some.inj h
    exact if_pos rfl
  | blank type => cases h
  | preset type value => cases h

theorem Param.fill_of_other (p : Param t) (v : Option t.Value) {q : Placeholder}
    (h : q.id? ≠ some p.id) : p.fill v q = q := by
  cases q with
  | token id type => exact if_neg fun same => h (congrArg some same)
  | blank type => rfl
  | preset type value => rfl

def Operand.subst (σ : Placeholder → Placeholder) : Operand t → Operand t
  | .expr e nullable => .expr (e.subst σ) nullable
  | .value v => .value v

/-- Beside its own descriptor, the token gives way to what the plain value becomes there. -/
theorem Param.toExpr_fill (p : Param t) (v : Option t.Value) :
    ((Operand.ofExpression p.toExpression).toExpr p.descriptor).subst (p.fill v)
      = (Operand.value v).toExpr p.descriptor := by
  have filled : p.fill v (.token p.id p.descriptor.erase)
      = .preset p.descriptor.erase (p.descriptor.bindValue v) := p.fill_of_id v rfl
  exact congrArg Expr.bind filled

/-- Other plain values stay as they are. -/
theorem Operand.toExpr_subst_fill {u : ValueType} (p : Param t) (v : Option t.Value)
    (o : Operand u) (d : Descriptor u) :
    (o.toExpr d).subst (p.fill v) = (o.subst (p.fill v)).toExpr d := by
  cases o with
  | expr e nullable => rfl
  | value w => simp only [toExpr, subst, Expr.subst, Param.fill]

/-! ## Places for operands -/

/-- A place for an operand beside an expression or a column. -/
inductive Place : ValueType → Type where
  | compare {t : ValueType} (op : CompareOp) (e : Expression t) : Place t
  | lower {t : ValueType} (negated : Bool) (e : Expression t) (high : Operand t) : Place t
  | upper {t : ValueType} (negated : Bool) (e : Expression t) (low : Operand t) : Place t
  | item {t : ValueType} (negated : Bool) (e : Expression t) (before after : List (Operand t)) :
    Place t
  | like (negated : Bool) (e : Expression .text) : Place .text
  | likeEscape (escape : Char) (e : Expression .text) : Place .text
  | insert {t : ValueType} (i : Insert) (c : Column t) : Place t
  | firstChange {t : ValueType} (u : UpdateDraft) (c : Column t) : Place t
  | change {t : ValueType} (u : Update) (c : Column t) : Place t

/-- What a call with an operand gives. -/
inductive Made where
  | predicate (p : Predicate)
  | insert (i : Insert)
  | update (u : Update)

def Made.subst (σ : Placeholder → Placeholder) : Made → Made
  | .predicate p => .predicate ⟨p.expr.subst σ⟩
  | .insert i => .insert (i.subst σ)
  | .update u => .update (u.subst σ)

namespace Expression

def subst (σ : Placeholder → Placeholder) (e : Expression t) : Expression t :=
  { e with expr := e.expr.subst σ }

end Expression

namespace Place

/-- The descriptor that plain values are encoded under. -/
def descriptor : {t : ValueType} → Place t → Descriptor t
  | _, .compare _ e | _, .lower _ e _ | _, .upper _ e _ | _, .item _ e _ _ => e.descriptor
  | _, .like _ e | _, .likeEscape _ e => e.descriptor
  | _, .insert _ c | _, .firstChange _ c | _, .change _ c => c.descriptor

/-- The call with an operand in the place. -/
def put : {t : ValueType} → Place t → Operand t → Made
  | _, .compare op e, o => .predicate (e.compare op o)
  | _, .lower negated e high, o => .predicate (e.between negated o high)
  | _, .upper negated e low, o => .predicate (e.between negated low o)
  | _, .item negated e before after, o => .predicate (e.inList negated (before ++ o :: after))
  | _, .like negated e, o => .predicate (e.like negated o)
  | _, .likeEscape escape e, o => .predicate (e.likeEscape o escape)
  | _, .insert i c, o => .insert (i.set c o)
  | _, .firstChange u c, o => .update (u.set c o)
  | _, .change u c, o => .update (u.set c o)

/-- The place with the placeholders around it substituted. -/
def subst (σ : Placeholder → Placeholder) : {t : ValueType} → Place t → Place t
  | _, .compare op e => .compare op (e.subst σ)
  | _, .lower negated e high => .lower negated (e.subst σ) (high.subst σ)
  | _, .upper negated e low => .upper negated (e.subst σ) (low.subst σ)
  | _, .item negated e before after =>
    .item negated (e.subst σ) (before.map (·.subst σ)) (after.map (·.subst σ))
  | _, .like negated e => .like negated (e.subst σ)
  | _, .likeEscape escape e => .likeEscape escape (e.subst σ)
  | _, .insert i c => .insert (i.subst σ) c
  | _, .firstChange u c => .firstChange { u with filter := u.filter.map (Expr.subst σ) } c
  | _, .change u c => .change (u.subst σ) c

end Place

theorem Assignments.give_subst (σ : Placeholder → Placeholder) (a : Assignments) (table : Table)
    (c : ColumnRef) (e : Expr) :
    (a.give table c e).subst σ = (a.subst σ).give table c (e.subst σ) := by
  have given : (a.subst σ).pairs.any (·.1.key == c.key) = a.pairs.any (·.1.key == c.key) := by
    simp only [subst, List.any_map]
    rfl
  simp only [give, given]
  split
  · rfl
  · split
    · rfl
    · simp only [subst, List.map_append, List.map_cons, List.map_nil]

theorem Operand.map_toExpr_subst_fill {u : ValueType} (p : Param t) (v : Option t.Value)
    (os : List (Operand u)) (d : Descriptor u) :
    (os.map (·.toExpr d)).map (Expr.subst (p.fill v))
      = (os.map (Operand.subst (p.fill v))).map (·.toExpr d) := by
  simp only [List.map_map]
  exact List.map_congr_left fun o _ => o.toExpr_subst_fill p v d

/-- **A call with the token in the place becomes the call with the plain value.** -/
theorem Place.fill_put (p : Param t) (v : Option t.Value) (place : Place t)
    (h : place.descriptor = p.descriptor) :
    (place.put (.ofExpression p.toExpression)).subst (p.fill v)
      = (place.subst (p.fill v)).put (.value v) := by
  have token := p.toExpr_fill v
  have others {u : ValueType} (o : Operand u) (d : Descriptor u) := o.toExpr_subst_fill p v d
  cases place with
  | compare op e =>
    obtain ⟨e, d⟩ := e
    obtain rfl : d = p.descriptor := h
    exact congrArg (fun x => Made.predicate ⟨.compare op (e.subst (p.fill v)) x⟩) token
  | lower negated e high =>
    obtain ⟨e, d⟩ := e
    obtain rfl : d = p.descriptor := h
    exact congrArg₂ (fun x y => Made.predicate ⟨.between negated (e.subst (p.fill v)) x y⟩) token
      (others high p.descriptor)
  | upper negated e low =>
    obtain ⟨e, d⟩ := e
    obtain rfl : d = p.descriptor := h
    exact congrArg₂ (fun x y => Made.predicate ⟨.between negated (e.subst (p.fill v)) x y⟩)
      (others low p.descriptor) token
  | item negated e before after =>
    obtain ⟨e, d⟩ := e
    obtain rfl : d = p.descriptor := h
    simp only [put, subst, Made.subst, Expression.inList, Expression.subst, Expr.subst,
      listSubst_eq, List.map_append, List.map_cons, token, Operand.map_toExpr_subst_fill]
  | like negated e =>
    obtain ⟨e, d⟩ := e
    obtain rfl : d = p.descriptor := h
    exact congrArg (fun x => Made.predicate ⟨.like negated (e.subst (p.fill v)) x none⟩) token
  | likeEscape escape e =>
    obtain ⟨e, d⟩ := e
    obtain rfl : d = p.descriptor := h
    exact congrArg₂ (fun x y => Made.predicate ⟨.like false (e.subst (p.fill v)) x (some y)⟩) token
      (others (.value (some escape.toString)) p.descriptor)
  | insert i c =>
    obtain ⟨ref, d⟩ := c
    obtain rfl : d = p.descriptor := h
    simp only [put, subst, Made.subst, Insert.set, Insert.give, Insert.subst,
      Assignments.give_subst, token]
  | firstChange u c =>
    obtain ⟨ref, d⟩ := c
    obtain rfl : d = p.descriptor := h
    simp only [put, subst, Made.subst, UpdateDraft.set, Update.subst, Assignments.give_subst, token]
    rfl
  | change u c =>
    obtain ⟨ref, d⟩ := c
    obtain rfl : d = p.descriptor := h
    simp only [put, subst, Made.subst, Update.set, Update.subst, Assignments.give_subst, token]

/-! ## Checked twice -/

/-- What a descriptor gives, the slots that have it take. -/
theorem Descriptor.acceptEncoded_of_bindValue {d : Descriptor t} {v : Option t.Value}
    {w : StorageValue} (h : d.bindValue v = .ok w) : d.erase.acceptEncoded w = .ok w := by
  have nullable : w.isNull = true → d.erase.nullable = true := by
    intro null
    cases v with
    | none =>
      rw [bindValue] at h
      split at h
      · assumption
      · cases h
    | some v =>
      have stored : w.storageClass? = some d.kind.storageClass := Kind.storageClass?_of_encode h
      rw [w.isNull_iff_storageClass?_eq_none.1 null] at stored
      cases stored
  obtain ⟨w', accepted⟩ := AnyDescriptor.acceptEncoded_eq_ok_iff.2 nullable
  exact (AnyDescriptor.acceptEncoded_eq_ok accepted).1 ▸ accepted

section

variable {p : Param t} {v : Option t.Value} {w : StorageValue} {c : ConversionError}

/-- The slot of a plain value holds its encoded form. -/
theorem Placeholder.presetValue_of_ok (h : p.descriptor.bindValue v = .ok w) :
    Placeholder.presetValue (.preset p.descriptor.erase (p.descriptor.bindValue v))
      = .ok (some w) := by
  rw [h]
  exact congrArg (Except.map some) (Descriptor.acceptEncoded_of_bindValue h)

theorem Placeholder.presetValue_of_error (h : p.descriptor.bindValue v = .error c) :
    Placeholder.presetValue (.preset p.descriptor.erase (p.descriptor.bindValue v)) = .error c := by
  rw [h]
  rfl

/-! ## Mistakes -/

/-- A value that is taken is no mistake. -/
theorem Piece.faultless_subst_fill (h : p.descriptor.bindValue v = .ok w) {x : Piece}
    (faultless : x.Faultless) : (x.subst (p.fill v)).Faultless := by
  cases x with
  | slot q =>
    by_cases carries : q.id? = some p.id
    · rw [Piece.subst, p.fill_of_id v carries]
      exact Placeholder.presetValue_eq_ok_iff.1 ⟨_, Placeholder.presetValue_of_ok h⟩
    · rw [Piece.subst, p.fill_of_other v carries]
      exact faultless
  | _ => exact faultless

/-- A value that is refused is the first mistake where its first slot is. -/
theorem Piece.faultsFrom_fill (h : p.descriptor.bindValue v = .error c) {ps : List Piece}
    (faultless : ∀ x ∈ ps, x.Faultless) {i : Nat} {q : Placeholder}
    (found : (slots ps)[i]? = some q) (carries : q.id? = some p.id)
    (first : ∀ j < i, ∀ q, (slots ps)[j]? = some q → q.id? ≠ some p.id) (k : Nat) :
    ∃ rest, faultsFrom k (ps.map (subst (p.fill v)))
      = .preset (k + i) p.descriptor.erase c :: rest := by
  induction ps generalizing i k with
  | nil => cases found
  | cons x ps ih =>
    rw [List.forall_mem_cons] at faultless
    cases x with
    | slot r =>
      by_cases here : r.id? = some p.id
      · have start : i = 0 := by
          by_contra later
          exact first 0 (Nat.pos_of_ne_zero later) r rfl here
        subst start
        rw [List.map_cons, subst, p.fill_of_id v here, faultsFrom,
          Placeholder.presetValue_of_error h]
        exact ⟨_, rfl⟩
      · cases i with
        | zero =>
          obtain rfl : r = q := Option.some.inj found
          exact absurd carries here
        | succ i =>
          obtain ⟨value, stored⟩ := Placeholder.presetValue_eq_ok_iff.2 faultless.1
          obtain ⟨rest, later⟩ := ih faultless.2 (i := i) found
            (fun j hj => first (j + 1) (Nat.succ_lt_succ hj)) (k + 1)
          rw [List.map_cons, subst, p.fill_of_other v here, faultsFrom, stored, later,
            Nat.add_right_comm]
          exact ⟨rest, rfl⟩
    | fault e => exact absurd faultless.1 id
    | text s => exact ih faultless.2 found first k
    | name n => exact ih faultless.2 found first k
    | enter => exact ih faultless.2 found first k
    | leave => exact ih faultless.2 found first k

/-! ## Slots -/

theorem Param.type_fill (p : Param t) (v : Option t.Value) {q : Placeholder}
    (type : q.id? = some p.id → q.type = p.descriptor.erase) : (p.fill v q).type = q.type := by
  by_cases carries : q.id? = some p.id
  · rw [p.fill_of_id v carries, type carries]
    rfl
  · rw [p.fill_of_other v carries]

theorem Param.preset_fill (h : p.descriptor.bindValue v = .ok w) (q : Placeholder) :
    (p.fill v q).slot.preset = if q.id? = some p.id then some w else q.slot.preset := by
  by_cases carries : q.id? = some p.id
  · rw [if_pos carries, p.fill_of_id v carries, Placeholder.slot,
      Placeholder.presetValue_of_ok h]
    rfl
  · rw [if_neg carries, p.fill_of_other v carries]

/-- The positions of a token are those of the placeholders that carry it. -/
theorem Seed.Indexed.mem_positions_of_params {seed : Seed} (indexed : seed.Indexed)
    {qs : List Placeholder} (params : seed.params = qs.map Placeholder.slot) {id : ParamId}
    {i : Nat} :
    i ∈ seed.positions id ↔ ∃ q, qs[i]? = some q ∧ q.id? = some id := by
  rw [indexed.mem_positions, params]
  constructor
  · rintro ⟨slot, found, carries⟩
    rw [List.getElem?_map, Option.map_eq_some_iff] at found
    obtain ⟨q, found, rfl⟩ := found
    exact ⟨q, found, carries⟩
  · rintro ⟨q, found, carries⟩
    exact ⟨q.slot, by rw [List.getElem?_map, found, Option.map_some], carries⟩

/-- Writing the value to the positions of the token fills the slots as the plain value does. -/
theorem Arguments.slots_write_positions {seed literal : Seed} (indexed : seed.Indexed)
    {qs : List Placeholder} (params : seed.params = qs.map Placeholder.slot)
    (filled : literal.params = (qs.map (p.fill v)).map Placeholder.slot)
    (h : p.descriptor.bindValue v = .ok w) :
    ((new seed).write w (seed.positions p.id)).slots = (new literal).slots := by
  have empty : (new seed).slots = qs.map fun q => q.slot.preset := by
    rw [new, params, List.map_map]
    rfl
  have full : (new literal).slots = qs.map fun q => (p.fill v q).slot.preset := by
    rw [new, filled, List.map_map, List.map_map]
    rfl
  refine List.ext_getElem? fun j => ?_
  rw [getElem?_write, empty, full, List.length_map, List.getElem?_map, List.getElem?_map]
  cases found : qs[j]? with
  | none =>
    have outside : ¬j < qs.length := Nat.not_lt.2 (List.getElem?_eq_none_iff.1 found)
    rw [if_neg fun both => outside both.2]
    rfl
  | some q =>
    have inside : j < qs.length := (List.getElem?_eq_some_iff.1 found).1
    rw [Option.map_some, Option.map_some, Param.preset_fill h]
    by_cases carries : q.id? = some p.id
    · have target := (indexed.mem_positions_of_params params).2 ⟨q, found, carries⟩
      rw [if_pos ⟨target, inside⟩, if_pos carries]
    · rw [if_neg, if_neg carries]
      rintro ⟨target, -⟩
      obtain ⟨q', found', carries'⟩ := (indexed.mem_positions_of_params params).1 target
      obtain rfl : q = q' := Option.some.inj (found.symm.trans found')
      exact carries carries'

end

/-! ## Statements -/

section

variable {tokens : List AnyParam} {supply : Supply} {s : Statement} {seed : Seed}
  {pool pool' : Pool} {d : Dialect} {p : Param t} {v : Option t.Value} {w : StorageValue}
  {c : ConversionError}

/-- The slots that carry a token have its descriptor. -/
theorem Seed.Obtained.type_eq (obtained : Seed.Obtained tokens seed)
    (handedOut : HandedOut tokens supply) (uses : p.erase ∈ tokens) :
    ∀ slot ∈ seed.params, slot.param = some p.id → slot.type = p.descriptor.erase := by
  intro slot hslot carries
  have token := (obtained.sound slot hslot).token p.id carries
  exact congrArg AnyParam.type (handedOut.eq_of_id_eq _ token p.erase uses rfl)

/-- A value that is taken is stored at all positions of the token. -/
theorem Arguments.bind_of_ok {a : Arguments} (handedOut : HandedOut tokens supply)
    (obtained : Seed.Obtained tokens a.seed) (uses : p.erase ∈ tokens)
    (rendered : a.seed.positions p.id ≠ []) (h : p.descriptor.bindValue v = .ok w) :
    a.bind p v = (.ok (), a.write w (a.seed.positions p.id)) := by
  have slots := BindCall.type_eq_of_mem_positions handedOut obtained uses
  rw [bind]
  cases positions : a.seed.positions p.id with
  | nil => exact absurd positions rendered
  | cons i rest =>
    rw [positions] at slots
    simp only [h]
    exact storeAll_of_ok (Descriptor.acceptEncoded_of_bindValue h) _ a slots

/-- A value that is taken: the seeds agree, and so do the contents of their slots. -/
theorem Statement.fill_of_ok (handedOut : HandedOut tokens supply)
    (assembled : Assembled tokens .statement s) (uses : p.erase ∈ tokens) (clean : pool.Clean)
    (built : s.buildWith pool d = (.ok seed, pool')) (rendered : seed.positions p.id ≠ [])
    (h : p.descriptor.bindValue v = .ok w) {q : Pool} (hq : q.Clean) :
    ∃ literal a, ((s.subst (p.fill v)).buildWith q d).1 = .ok literal
      ∧ literal.sql = seed.sql ∧ literal.params.map Slot.type = seed.params.map Slot.type
      ∧ literal.columns = seed.columns
      ∧ (Arguments.new seed).bind p v = (.ok (), a) ∧ a.slots = (Arguments.new literal).slots
      ∧ ∀ i ∈ seed.positions p.id, a.slots[i]? = some (some w) := by
  obtain ⟨faults, sql, params, columns⟩ := Statement.sql_eq clean built
  have obtained : Seed.Obtained tokens seed := .built assembled built
  have faultless : Piece.faults (s.subst (p.fill v)).pieces = [] := by
    rw [Piece.faults, Piece.faultsFrom_eq_nil_iff, Statement.pieces_subst, List.forall_mem_map]
    exact fun x hx => Piece.faultless_subst_fill h (Piece.faultsFrom_eq_nil_iff.1 faults x hx)
  obtain ⟨literal, q', done⟩ := (Statement.builds_iff_faults_eq_nil (p := q) (d := d)).2 faultless
  obtain ⟨-, sql', params', columns'⟩ := Statement.sql_eq hq done
  rw [Statement.pieces_subst, Piece.sqlText_subst] at sql'
  rw [Statement.pieces_subst, Piece.slots_subst] at params'
  rw [Statement.resultColumns_subst] at columns'
  have types : literal.params.map Slot.type = seed.params.map Slot.type := by
    rw [params', params, List.map_map, List.map_map, List.map_map]
    refine List.map_congr_left fun q hq => p.type_fill v fun carries => ?_
    have slot : q.slot ∈ seed.params := params ▸ List.mem_map_of_mem hq
    exact obtained.type_eq handedOut uses q.slot slot carries
  refine ⟨literal, _, congrArg Prod.fst done, sql'.trans sql.symm, types,
    columns'.trans columns.symm, Arguments.bind_of_ok handedOut obtained uses rendered h,
    Arguments.slots_write_positions obtained.indexed params params' h, fun i hi => ?_⟩
  have inside : i < (Arguments.new seed).slots.length := by
    obtain ⟨slot, found, -⟩ := obtained.indexed.mem_positions.1 hi
    rw [Arguments.new, List.length_map]
    exact (List.getElem?_eq_some_iff.1 found).1
  rw [Arguments.getElem?_write, if_pos ⟨hi, inside⟩]

/-- A value that is refused: building and binding fail alike. -/
theorem Statement.fill_of_error (clean : pool.Clean)
    (built : s.buildWith pool d = (.ok seed, pool')) {i : Nat} {rest : List Nat}
    (positions : seed.positions p.id = i :: rest) (h : p.descriptor.bindValue v = .error c)
    {q : Pool} (hq : q.Clean) :
    ((s.subst (p.fill v)).buildWith q d).1 = .error (.bind i p.descriptor.kind.name seed.sql c)
      ∧ (Arguments.new seed).bind p v
        = (.error (.bind i p.descriptor.kind.name seed.sql c), .new seed) := by
  obtain ⟨faults, sql, params, columns⟩ := Statement.sql_eq clean built
  have indexed := Statement.indexed_of_buildWith built
  have text : (q.write d (s.subst (p.fill v)).pieces).1 = seed.sql := by
    rw [Statement.write_eq hq, Statement.pieces_subst, Piece.sqlText_subst, sql]
  have first : ∃ others, Piece.faults (s.subst (p.fill v)).pieces
      = .preset i p.descriptor.erase c :: others := by
    have mem : i ∈ seed.positions p.id := positions ▸ List.mem_cons_self
    obtain ⟨x, found, carries⟩ := (indexed.mem_positions_of_params params).1 mem
    have none_before : ∀ j < i, ∀ x, (Piece.slots s.pieces)[j]? = some x → x.id? ≠ some p.id := by
      intro j hj x found carries
      have mem := (indexed.mem_positions_of_params params).2 ⟨x, found, carries⟩
      have sorted := indexed.pairwise_positions p.id
      rw [positions] at mem sorted
      rcases List.mem_cons.1 mem with same | later
      · exact Nat.ne_of_lt hj same
      · exact Nat.lt_asymm hj (List.rel_of_pairwise_cons sorted later)
    have faultless := Piece.faultsFrom_eq_nil_iff.1 faults
    obtain ⟨others, mistakes⟩ := Piece.faultsFrom_fill h faultless found carries none_before 0
    rw [Nat.zero_add] at mistakes
    exact ⟨others, by rw [Piece.faults, Statement.pieces_subst, mistakes]⟩
  constructor
  · obtain ⟨others, mistakes⟩ := first
    simp only [Statement.buildWith_eq, Seed.ofPieces, mistakes, text]
    rfl
  · simp only [Arguments.bind, Arguments.new, positions, h]

/-- **A plain value, and a token it is bound to, come to the same.** -/
theorem Statement.value_interchangeable (handedOut : HandedOut tokens supply)
    (assembled : Assembled tokens .statement s) (uses : p.erase ∈ tokens) (clean : pool.Clean)
    (built : s.buildWith pool d = (.ok seed, pool')) (rendered : seed.positions p.id ≠ [])
    (v : Option t.Value) {q : Pool} (hq : q.Clean) :
    (∀ place : Place t, place.descriptor = p.descriptor →
        (place.put (.ofExpression p.toExpression)).subst (p.fill v)
          = (place.subst (p.fill v)).put (.value v))
      ∧ (∀ w, p.descriptor.bindValue v = .ok w →
        ∃ literal a, ((s.subst (p.fill v)).buildWith q d).1 = .ok literal
          ∧ literal.sql = seed.sql ∧ literal.params.map Slot.type = seed.params.map Slot.type
          ∧ literal.columns = seed.columns
          ∧ (Arguments.new seed).bind p v = (.ok (), a) ∧ a.slots = (Arguments.new literal).slots
          ∧ ∀ i ∈ seed.positions p.id, a.slots[i]? = some (some w))
      ∧ ∀ c, p.descriptor.bindValue v = .error c →
        ∃ i rest, seed.positions p.id = i :: rest
          ∧ ((s.subst (p.fill v)).buildWith q d).1
            = .error (.bind i p.descriptor.kind.name seed.sql c)
          ∧ (Arguments.new seed).bind p v
            = (.error (.bind i p.descriptor.kind.name seed.sql c), .new seed) := by
  refine ⟨Place.fill_put p v, fun w taken => ?_, fun c refused => ?_⟩
  · exact Statement.fill_of_ok handedOut assembled uses clean built rendered taken hq
  · obtain ⟨i, rest, positions⟩ := List.exists_cons_of_ne_nil rendered
    exact ⟨i, rest, positions, Statement.fill_of_error clean built positions refused hq⟩

end

/-! ### Prices -/

/-- A column of amounts with two places, other than NULL. -/
def amount : Column .decimal where
  ref := {
    key := ⟨⟨1⟩, "amount"⟩
    qualifier := "Price"
    type := (⟨.decimal 2, false⟩ : Descriptor .decimal).erase }
  descriptor := ⟨.decimal 2, false⟩

def amountToken : Param .decimal := ⟨⟨2⟩, amount.descriptor⟩

def twelveThirtyFour : Decimal := ⟨1234, 2, by decide, by decide⟩

/-- Compares the amount with an operand and with a plain value. -/
def pricesAt (o : Operand .decimal) : Statement :=
  let equals (o : Operand .decimal) := amount.toExpression.compare .eq o
  .query (.select
    (((Select.empty.fromSource (.relation (.table ⟨⟨1⟩, "Price", [amount.ref]⟩))).column
      amount).andWhere ((equals o).or (equals (.value (some twelveThirtyFour))))))

theorem pricesAt_assembled :
    Assembled [amountToken.erase] .statement
      (pricesAt (.ofExpression amountToken.toExpression)) := by
  have token : Assembled [amountToken.erase] (.operand .decimal)
      (.ofExpression amountToken.toExpression) :=
    .ofExpression (.ofParam (.param (List.mem_singleton_self _)))
  have column : Assembled [amountToken.erase] (.expression .decimal) amount.toExpression :=
    .ofColumn (.column _)
  exact .query (.ofSelect (.andWhere (.selectColumn (.fromSource .empty (.table _)) (.column _))
    (.or (.compare _ column token) (.compare _ column (.value _)))))

/-- The plain value is stored in cents, and so is the one bound to the token; NULL is refused
either way. -/
theorem value_interchangeable_of_prices :
    ∃ seed pool, (pricesAt (.ofExpression amountToken.toExpression)).buildWith (.new {}) .generic
        = (.ok seed, pool)
      ∧ seed.sql = "SELECT Price.amount FROM Price WHERE Price.amount = ? OR Price.amount = ?"
      ∧ (∃ literal a, (pricesAt (.value (some twelveThirtyFour))).build = .ok literal
        ∧ literal.sql = seed.sql ∧ literal.params.map Slot.type = seed.params.map Slot.type
        ∧ (Arguments.new seed).bind amountToken (some twelveThirtyFour) = (.ok (), a)
        ∧ a.slots = (Arguments.new literal).slots ∧ a.slots[0]? = some (some (.integer 1234)))
      ∧ ∃ e, (pricesAt (.value none)).build = .error e
        ∧ (Arguments.new seed).bind amountToken none = (.error e, .new seed) := by
  have handedOut : HandedOut [amountToken.erase] { next := 3 } := .param _ (.set .start)
  have clean := Pool.clean_new {}
  have built := (pricesAt (.ofExpression amountToken.toExpression)).buildWith_eq_ok
    (p := .new {}) (d := .generic) (by decide)
  obtain ⟨-, taken, -⟩ := Statement.value_interchangeable handedOut pricesAt_assembled
    (List.mem_singleton_self _) clean built (by decide) (some twelveThirtyFour) clean
  obtain ⟨-, -, refused⟩ := Statement.value_interchangeable handedOut pricesAt_assembled
    (List.mem_singleton_self _) clean built (by decide) none clean
  obtain ⟨literal, a, done, sql, types, -, bound, slots, stored⟩ := taken (.integer 1234) rfl
  obtain ⟨i, rest, -, failed, unbound⟩ := refused _ rfl
  exact ⟨_, _, built, by decide, ⟨literal, a, done, sql, types, bound, slots, stored 0 (by decide)⟩,
    _, failed, unbound⟩

end TypedSql
