import Mathlib.Data.List.Induction
import TypedSql.Proofs.Schema.Built

/-!
# What becomes of the requests of a column definition

The steps of a column definition request constraints in any order and any number of times. Where
several steps set one thing the last one counts. Two requests can be lost: that a column of the
primary key takes no NULL, when a later step makes it nullable, and the action of a foreign key,
when no step behind the last reference repeats it.

**Theorem (`ColumnSpec.kept_iff_ordered`).** The column that is added is what its steps come to, and
it has everything that was requested exactly if neither loss occurs.

Flags, nullability, default and mistake are each set by some steps and left alone by all others, so
that the last step that sets them decides (`apply_last`). The foreign key is replaced by a reference
and changed by an action; it is described from the last reference on.
-/

namespace TypedSql

namespace ColumnModifier

variable {t : ValueType} {β : Type}

/-! ## The last request -/

/-- What the last step that requests anything requests. -/
def last (request : ColumnModifier t → Option β) (mods : List (ColumnModifier t)) : Option β :=
  mods.reverse.findSome? request

variable {request : ColumnModifier t → Option β} {mods front back : List (ColumnModifier t)}

theorem last_append :
    last request (front ++ back) = (last request back).or (last request front) := by
  rw [last, List.reverse_append, List.findSome?_append]
  rfl

theorem last_cons (m : ColumnModifier t) :
    last request (m :: back) = (last request back).or (request m) := by
  rw [← List.singleton_append, last_append]
  cases h : request m <;> simp [last, h]

theorem last_concat (m : ColumnModifier t) :
    last request (front ++ [m]) = (request m).or (last request front) := by
  rw [last_append]
  cases h : request m <;> simp [last, h]

theorem last_eq_none_iff : last request mods = none ↔ ∀ m ∈ mods, request m = none := by
  simp [last]

def nullability? : ColumnModifier t → Option Bool
  | .notNull | .primaryKey => some false
  | .nullable => some true
  | _ => none

def default? : ColumnModifier t → Option t.Value
  | .default value => some value
  | _ => none

def target? : ColumnModifier t → Option ColumnRef
  | .references target => some target
  | _ => none

def onDelete? : ColumnModifier t → Option ForeignKeyAction
  | .onDelete action => some action
  | _ => none

def onUpdate? : ColumnModifier t → Option ForeignKeyAction
  | .onUpdate action => some action
  | _ => none

/-- Steps end in a reference and what comes behind it, if there is any. -/
theorem exists_last_reference {target : ColumnRef} (h : last target? mods = some target) :
    ∃ front back, mods = front ++ .references target :: back ∧ last target? back = none := by
  induction mods with
  | nil => cases h
  | cons m rest ih =>
    rw [last_cons] at h
    cases later : last target? rest with
    | some target' =>
      rw [later] at h
      obtain ⟨front, back, split, none⟩ := ih (later.trans h)
      exact ⟨m :: front, back, congrArg (m :: ·) split, none⟩
    | none =>
      rw [later] at h
      cases m with
      | references target' =>
        cases h
        exact ⟨[], rest, rfl, later⟩
      | _ => cases h

/-- Behind any reference there is none, or a last one. -/
theorem exists_last_reference_of_split {target : ColumnRef}
    (split : mods = front ++ .references target :: back) :
    ∃ front' target' back', mods = front' ++ .references target' :: back'
      ∧ last target? back' = none ∧ back' <:+ back := by
  cases behind : last target? back with
  | none => exact ⟨front, target, back, split, behind, List.suffix_rfl⟩
  | some target' =>
    obtain ⟨between, back', split', none⟩ := exists_last_reference behind
    refine ⟨front ++ .references target :: between, target', back', ?_, none, ?_⟩
    · rw [split, split', List.append_assoc, List.cons_append]
    · exact ⟨between ++ [.references target'], (List.append_cons _ _ _).symm.trans split'.symm⟩

theorem last_eq_none_of_suffix (h : last request mods = none) (part : back <:+ mods) :
    last request back = none :=
  last_eq_none_iff.2 fun m hm => last_eq_none_iff.1 h m (part.subset hm)

/-- A request that is none about references, with one of them in the middle. -/
theorem last_reference_split {target : ColumnRef} (silent : request (.references target) = none) :
    last request (front ++ .references target :: back)
      = (last request back).or (last request front) := by
  rw [last_append, last_cons, silent, Option.or_none]

theorem last_target_of_split {target : ColumnRef} (h : last target? back = none) :
    last target? (front ++ .references target :: back) = some target := by
  rw [last_append, last_cons, h]
  rfl

end ColumnModifier

namespace ColumnSpec

open ColumnModifier

variable {t : ValueType} {mods : List (ColumnModifier t)}

/-! ## One step

A reference either replaces the foreign key or is noted as a mistake; nothing else changes then. -/

section Steps

variable (s : ColumnSpec t) (m : ColumnModifier t)

theorem kind_apply : (apply s m).kind = s.kind := by
  cases m with
  | references target => simp only [apply]; split <;> rfl
  | _ => rfl

theorem nullable_apply : some (apply s m).nullable = (nullability? m).or (some s.nullable) := by
  cases m with
  | references target => simp only [apply]; split <;> rfl
  | _ => rfl

theorem default_apply : (apply s m).default = (default? m).or s.default := by
  cases m with
  | references target => simp only [apply]; split <;> rfl
  | _ => rfl

theorem primaryKey_apply :
    (apply s m).constraints.primaryKey = true
      ↔ m = .primaryKey ∨ s.constraints.primaryKey = true := by
  cases m with
  | references target => simp only [apply]; split <;> simp
  | _ => simp [apply, updateForeignKey]

theorem unique_apply :
    (apply s m).constraints.unique = true ↔ m = .unique ∨ s.constraints.unique = true := by
  cases m with
  | references target => simp only [apply]; split <;> simp
  | _ => simp [apply, updateForeignKey]

theorem autoIncrement_apply :
    (apply s m).constraints.autoIncrement = true
      ↔ m = .autoIncrement ∨ s.constraints.autoIncrement = true := by
  cases m with
  | references target => simp only [apply]; split <;> simp
  | _ => simp [apply, updateForeignKey]

end Steps

/-- A step without a mistake refers to a column of a table, if it refers to one at all. -/
theorem faultless_apply {s : ColumnSpec t} {m : ColumnModifier t} (h : (apply s m).error = none) :
    s.error = none ∧ ∀ target, m = .references target → target.isTableColumn = true := by
  cases m with
  | references target =>
    simp only [apply] at h
    split at h
    next own =>
      refine ⟨h, fun target' same => ?_⟩
      cases same
      exact own
    next => cases h
  | _ => exact ⟨h, fun target same => by cases same⟩

/-! ## All steps -/

theorem kind_foldl (s : ColumnSpec t) : (mods.foldl apply s).kind = s.kind := by
  induction mods generalizing s with
  | nil => rfl
  | cons m mods ih => exact (ih _).trans (kind_apply s m)

/-- A thing that some steps set, and that all others leave alone, is as the last of them has it. -/
theorem apply_last {β : Type} (get : ColumnSpec t → Option β)
    (request : ColumnModifier t → Option β)
    (step : ∀ s m, get (apply s m) = (request m).or (get s)) (s : ColumnSpec t) :
    get (mods.foldl apply s) = (last request mods).or (get s) := by
  induction mods using List.reverseRecOn with
  | nil => rfl
  | append_singleton mods m ih =>
    rw [List.foldl_append, List.foldl_cons, List.foldl_nil, last_concat, step, ih, Option.or_assoc]

/-- A flag is set exactly if its step is among the steps. -/
theorem apply_flag (get : ColumnSpec t → Bool) (setter : ColumnModifier t)
    (step : ∀ s m, get (apply s m) = true ↔ m = setter ∨ get s = true) {s : ColumnSpec t}
    (clear : get s = false) : get (mods.foldl apply s) = true ↔ setter ∈ mods := by
  induction mods using List.reverseRecOn with
  | nil => simp [clear]
  | append_singleton mods m ih =>
    rw [List.foldl_append, List.foldl_cons, List.foldl_nil, step, ih, List.mem_append,
      List.mem_singleton, or_comm, eq_comm]

/-- The key that a reference begins. -/
def begun (target : ColumnRef) : ForeignKey :=
  { tableId := target.key.set, table := target.qualifier, column := target.name }

/-- Without a reference, steps only change the actions of the foreign key there is. -/
theorem foreignKey_of_no_reference (h : last target? mods = none) (s : ColumnSpec t) :
    (mods.foldl apply s).constraints.foreignKey = s.constraints.foreignKey.map fun fk =>
      { fk with
        onDelete := (last onDelete? mods).or fk.onDelete
        onUpdate := (last onUpdate? mods).or fk.onUpdate } := by
  induction mods using List.reverseRecOn with
  | nil => cases h : s.constraints.foreignKey <;> simp [last, h]
  | append_singleton mods m ih =>
    rw [last_concat] at h
    have before := ih (Option.or_eq_none_iff.1 h).2
    rw [List.foldl_append, List.foldl_cons, List.foldl_nil, last_concat, last_concat]
    cases m with
    | references target => cases h
    | onDelete action =>
      simp only [apply, updateForeignKey, before, Option.map_map]
      rfl
    | onUpdate action =>
      simp only [apply, updateForeignKey, before, Option.map_map]
      rfl
    | _ => exact before

/-- Only columns of tables were referenced if no mistake was made. -/
theorem isTableColumn_of_faultless {s : ColumnSpec t} (h : (mods.foldl apply s).error = none) :
    ∀ target, .references target ∈ mods → target.isTableColumn = true := by
  induction mods using List.reverseRecOn with
  | nil => exact fun target hm => absurd hm List.not_mem_nil
  | append_singleton mods m ih =>
    rw [List.foldl_append, List.foldl_cons, List.foldl_nil] at h
    obtain ⟨before, here⟩ := faultless_apply h
    intro target hm
    rcases List.mem_append.1 hm with old | new
    · exact ih before target old
    · exact here target (List.mem_singleton.1 new).symm

/-- From the last reference on, the foreign key has the actions requested behind it. -/
theorem foreignKey_of_last_reference {front back : List (ColumnModifier t)} {target : ColumnRef}
    (own : target.isTableColumn = true) (h : last target? back = none) (s : ColumnSpec t) :
    ((front ++ .references target :: back).foldl apply s).constraints.foreignKey
      = some { begun target with
          onDelete := last onDelete? back
          onUpdate := last onUpdate? back } := by
  rw [List.foldl_append, List.foldl_cons, foreignKey_of_no_reference h, apply, if_pos own]
  simp only [Option.map_some, begun, Option.or_none]

/-- The default that is stored is the encoding of the value given. -/
theorem storedDefault_of_some {s : ColumnSpec t} {value : t.Value} {default : Option StorageValue}
    (given : s.default = some value) (h : s.storedDefault = .ok default) :
    ∃ stored, s.kind.encode value = .ok stored ∧ default = some stored := by
  simp only [storedDefault, given, descriptor, Descriptor.bindValue] at h
  split at h
  next => cases h
  next x encoded =>
    split at h
    next => cases h
    next => exact ⟨.real x, encoded, (Except.ok.inj h).symm⟩
  next stored _ encoded => exact ⟨stored, encoded, (Except.ok.inj h).symm⟩

/-! ## Requests and the column -/

/-- What the steps come to. -/
structure Outcome (kind : Kind t) (mods : List (ColumnModifier t)) (c : ColumnRef) : Prop where
  primaryKey : c.constraints.primaryKey = true ↔ .primaryKey ∈ mods
  unique : c.constraints.unique = true ↔ .unique ∈ mods
  autoIncrement : c.constraints.autoIncrement = true ↔ .autoIncrement ∈ mods
  nullable : c.type.nullable = (last nullability? mods).getD true
  noDefault : last default? mods = none → c.constraints.default = none
  default : ∀ value, last default? mods = some value →
    ∃ stored, kind.encode value = .ok stored ∧ c.constraints.default = some stored
  noReference : last target? mods = none → c.constraints.foreignKey = none
  reference : ∀ front target back, mods = front ++ .references target :: back →
    last target? back = none →
      c.constraints.foreignKey
        = some { begun target with
            onDelete := last onDelete? back
            onUpdate := last onUpdate? back }

/-- The column has everything that was requested: what the last request of each sort says, and with
it that a column of the primary key takes no NULL. -/
structure Kept (kind : Kind t) (mods : List (ColumnModifier t)) (c : ColumnRef) : Prop where
  primaryKey : .primaryKey ∈ mods → c.constraints.primaryKey = true ∧ c.type.nullable = false
  unique : .unique ∈ mods → c.constraints.unique = true
  autoIncrement : .autoIncrement ∈ mods → c.constraints.autoIncrement = true
  default : ∀ value, last default? mods = some value →
    ∃ stored, kind.encode value = .ok stored ∧ c.constraints.default = some stored
  reference : ∀ target, last target? mods = some target →
    c.constraints.foreignKey
      = some { begun target with
          onDelete := last onDelete? mods
          onUpdate := last onUpdate? mods }

/-- No step makes a column of the primary key nullable again, and an action requested in front of a
reference is requested behind it too. -/
structure Ordered (mods : List (ColumnModifier t)) : Prop where
  nullability : .primaryKey ∈ mods → last nullability? mods ≠ some true
  onDelete : ∀ front target back, mods = front ++ .references target :: back →
    last onDelete? back = none → last onDelete? front = none
  onUpdate : ∀ front target back, mods = front ++ .references target :: back →
    last onUpdate? back = none → last onUpdate? front = none

/-- A column that was added is what its steps come to. -/
theorem outcome_of_add {d d' : TableDraft} {name : String} {kind : Kind t} {c : Column t}
    (added : d.add (mods.foldl apply { name, kind }) = .ok (c, d')) : Outcome kind mods c.ref := by
  have faultless := TableDraft.faultless_of_add added
  obtain ⟨-, -, default, stored, ref⟩ := TableDraft.add_eq_newColumn added
  have nullable : some (mods.foldl apply { name, kind }).nullable
      = (last nullability? mods).or (some true) :=
    apply_last (fun s => some s.nullable) nullability? nullable_apply _
  have given : (mods.foldl apply { name, kind }).default = (last default? mods).or none :=
    apply_last ColumnSpec.default default? default_apply _
  rw [Option.or_none] at given
  rw [ref]
  refine
    { primaryKey := apply_flag (·.constraints.primaryKey) _ primaryKey_apply rfl
      unique := apply_flag (·.constraints.unique) _ unique_apply rfl
      autoIncrement := apply_flag (·.constraints.autoIncrement) _ autoIncrement_apply rfl
      nullable := ?_
      noDefault := ?_
      default := ?_
      noReference := ?_
      reference := ?_ }
  · rw [Option.or_some] at nullable
    exact Option.some.inj nullable
  · intro none
    rw [none] at given
    simp only [storedDefault, given] at stored
    exact (Except.ok.inj stored).symm
  · intro value last
    obtain ⟨encoded, encodes, same⟩ := storedDefault_of_some (given.trans last) stored
    rw [kind_foldl] at encodes
    exact ⟨encoded, encodes, same⟩
  · intro none
    exact foreignKey_of_no_reference none _
  · intro front target back split none
    have own : target.isTableColumn = true :=
      isTableColumn_of_faultless faultless target (by simp [split])
    rw [split]
    exact foreignKey_of_last_reference own none _

/-! ## The two losses -/

/-- Behind a reference stands every request for an action, if it is repeated there. -/
theorem last_back_eq {β : Type} (request : ColumnModifier t → Option β)
    {front back : List (ColumnModifier t)} {target : ColumnRef}
    (silent : request (.references target) = none)
    (repeated : last request back = none → last request front = none) :
    last request back = last request (front ++ .references target :: back) := by
  rw [last_reference_split silent]
  cases behind : last request back with
  | none => rw [repeated behind]; rfl
  | some action => rfl

theorem Outcome.kept {kind : Kind t} {c : ColumnRef} (outcome : Outcome kind mods c)
    (ordered : Ordered mods) : Kept kind mods c where
  primaryKey key := by
    refine ⟨outcome.primaryKey.2 key, ?_⟩
    rw [outcome.nullable]
    cases h : last nullability? mods with
    | none => cases last_eq_none_iff.1 h _ key
    | some nullable =>
      cases nullable with
      | false => rfl
      | true => exact absurd h (ordered.nullability key)
  unique := outcome.unique.2
  autoIncrement := outcome.autoIncrement.2
  default := outcome.default
  reference target referenced := by
    obtain ⟨front, back, split, none⟩ := exists_last_reference referenced
    rw [outcome.reference front target back split none,
      last_back_eq onDelete? rfl (ordered.onDelete front target back split),
      last_back_eq onUpdate? rfl (ordered.onUpdate front target back split), ← split]

/-- The actions that were kept are those behind the last reference. -/
theorem Outcome.actions {kind : Kind t} {c : ColumnRef} (outcome : Outcome kind mods c)
    (kept : Kept kind mods c) {front back : List (ColumnModifier t)} {target : ColumnRef}
    (split : mods = front ++ .references target :: back) :
    (last onDelete? back = none → last onDelete? mods = none)
      ∧ (last onUpdate? back = none → last onUpdate? mods = none) := by
  obtain ⟨front', target', back', split', none, part⟩ := exists_last_reference_of_split split
  have referenced : last target? mods = some target' := split' ▸ last_target_of_split none
  have same := (outcome.reference front' target' back' split' none).symm.trans
    (kept.reference target' referenced)
  injection same with same
  constructor
  · intro nothing
    have := congrArg ForeignKey.onDelete same
    exact this.symm.trans (last_eq_none_of_suffix nothing part)
  · intro nothing
    have := congrArg ForeignKey.onUpdate same
    exact this.symm.trans (last_eq_none_of_suffix nothing part)

theorem Outcome.ordered {kind : Kind t} {c : ColumnRef} (outcome : Outcome kind mods c)
    (kept : Kept kind mods c) : Ordered mods where
  nullability key h := by
    have required := (kept.primaryKey key).2
    rw [outcome.nullable, h] at required
    cases required
  onDelete front target back split nothing := by
    have all := (outcome.actions kept split).1 nothing
    rw [split, last_reference_split rfl] at all
    exact (Option.or_eq_none_iff.1 all).2
  onUpdate front target back split nothing := by
    have all := (outcome.actions kept split).2 nothing
    rw [split, last_reference_split rfl] at all
    exact (Option.or_eq_none_iff.1 all).2

/-- **A column that was added is what its steps come to, and has everything that was requested
exactly if no step makes a key nullable again and no action stands in front of a reference
only.** -/
theorem kept_iff_ordered {d d' : TableDraft} {name : String} {kind : Kind t} {c : Column t}
    (added : d.add (mods.foldl apply { name, kind }) = .ok (c, d')) :
    Outcome kind mods c.ref ∧ (Kept kind mods c.ref ↔ Ordered mods) := by
  have outcome := outcome_of_add added
  exact ⟨outcome, outcome.ordered, outcome.kept⟩

/-- The column that the examples refer to. -/
def artistId : ColumnRef := Table.wholeColumn ⟨1⟩ "Artist" "id"

def album : TableDraft := { id := ⟨2⟩, name := "Album" }

/-- A key that refers to another one. Its default is requested twice, and its action once in front
of the reference and once behind it. -/
def keptSteps : List (ColumnModifier .int64) :=
  [.nullable, .onDelete .restrict, .references artistId, .primaryKey, .onDelete .cascade,
    .default 3, .default 4]

theorem kept_iff_ordered_of_keptSteps :
    ∃ c d', album.add (keptSteps.foldl apply { name := "artist", kind := .int64 }) = .ok (c, d')
      ∧ Kept .int64 keptSteps c.ref := by
  have added : ∃ c d',
      album.add (keptSteps.foldl apply { name := "artist", kind := .int64 }) = .ok (c, d') :=
    ⟨_, _, rfl⟩
  obtain ⟨c, d', added⟩ := added
  refine ⟨c, d', added, (kept_iff_ordered added).2.2 ?_⟩
  have front_eq : ∀ front target back, keptSteps = front ++ .references target :: back →
      back = [.primaryKey, .onDelete .cascade, .default 3, .default 4]
        ∧ front = [.nullable, .onDelete .restrict] := by
    intro front target back split
    rcases front with _ | ⟨_, _ | ⟨_, _ | ⟨_, front⟩⟩⟩
    · simp [keptSteps] at split
    · simp [keptSteps] at split
    · simp only [keptSteps, List.cons_append, List.nil_append, List.cons.injEq] at split
      obtain ⟨rfl, rfl, -, rfl⟩ := split
      exact ⟨rfl, rfl⟩
    · simp only [keptSteps, List.cons_append, List.cons.injEq] at split
      have later : .references target ∈ front ++ .references target :: back := by simp
      rw [← split.2.2.2] at later
      simp at later
  exact
    { nullability := fun _ h => by cases h
      onDelete := fun front target back split h => by
        obtain ⟨rfl, -⟩ := front_eq front target back split
        cases h
      onUpdate := fun front target back split h => by
        obtain ⟨-, rfl⟩ := front_eq front target back split
        rfl }

/-- **Requests that are lost:** the key that takes NULL, and the action in front of its
reference. -/
theorem requests_lost :
    (∃ c d', album.add ([.primaryKey, .nullable].foldl apply { name := "id", kind := .int64 })
        = .ok (c, d')
      ∧ c.ref.constraints.primaryKey = true ∧ c.ref.type.nullable = true
      ∧ ¬ Kept .int64 [.primaryKey, .nullable] c.ref)
    ∧ ∃ c d', album.add ([.onDelete .cascade, .references artistId].foldl apply
          { name := "artist", kind := .int64 }) = .ok (c, d')
      ∧ c.ref.constraints.foreignKey = some (begun artistId)
      ∧ ¬ Kept .int64 [.onDelete .cascade, .references artistId] c.ref := by
  constructor
  · refine ⟨_, _, rfl, rfl, rfl, fun kept => ?_⟩
    cases (kept.primaryKey List.mem_cons_self).2
  · refine ⟨_, _, rfl, rfl, fun kept => ?_⟩
    have same := kept.reference artistId rfl
    injection same with same
    cases congrArg ForeignKey.onDelete same

end ColumnSpec
end TypedSql
