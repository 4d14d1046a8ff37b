import Mathlib.Data.List.Induction
import TypedSql.Proofs.Schema.Built

/-!
# Drafts under any sequence of definitions

A draft is one object that every definition changes in place: the checks come first, and then the
columns are pushed one by one. A definition may fail at any of its checks, and the draft is used
further all the same.

**Theorem (`TableDraft.sound_of_definitions`).** Whatever has been defined on a draft, and however
often that failed, its columns have valid names that differ without regard to case, and carry the
identity and the name of the draft. A definition that fails changes nothing; any other appends its
one column, or the columns of all components in storage order. A table built from the draft finds
every column by its name.

The proof is an induction over the definitions with the invariant `TableDraft.Sound`. One
definition is described by `define_eq_ok_iff`, and `Definition.runOn_perform` says that the columns
pushed one by one are those added at once.
-/

namespace TypedSql

/-! ## Names with a suffix -/

theorem Text.folded_append (a b : String) :
    Text.folded (a ++ b) = Text.folded a ++ Text.folded b := by
  simp only [Text.folded, String.toList_append, List.map_append]

/-- Behind a common beginning, names are the same if the rest is. -/
theorem Text.sameName_append_left (front a b : String) :
    Text.sameName (front ++ a) (front ++ b) = Text.sameName a b := by
  rw [Bool.eq_iff_iff, Text.sameName_iff, Text.sameName_iff, Text.folded_append,
    Text.folded_append, List.append_cancel_left_eq]

theorem exists_of_map_eq_ok {ε α β : Type} {f : α → β} {r : Except ε α} {b : β}
    (h : r.map f = .ok b) : ∃ a, r = .ok a ∧ f a = b :=
  match r, h with
  | .ok a, h => ⟨a, rfl, Except.ok.inj h⟩

namespace TableDraft

/-! ## Definitions -/

/-- What is defined on a draft. -/
inductive Definition where
  | column {t : ValueType} (spec : ColumnSpec t)
  | composite {α : Type} (name : String) (kind : CompositeKind α) (nullable : Bool)

/-- The draft with the definition carried out, and the columns that are handed out. -/
def define (d : TableDraft) : Definition → Except SchemaError (List ColumnRef × TableDraft)
  | .column spec => (d.add spec).map fun (c, d') => ([c.ref], d')
  | .composite name kind nullable =>
    (d.addComposite name kind nullable).map fun (c, d') => (c.parts, d')

/-- The name is valid, and no column of the draft has it in any case. -/
structure Free (d : TableDraft) (name : String) : Prop where
  valid : isValidName name = true
  fresh : ∀ c ∈ d.columns, Text.sameName c.name name = false

theorem checkName_eq_ok_iff {d : TableDraft} {name : String} :
    d.checkName name = .ok () ↔ d.Free name := by
  have fresh_iff : d.columns.any (Text.sameName ·.name name) = false
      ↔ ∀ c ∈ d.columns, Text.sameName c.name name = false := by
    simp only [List.any_eq_false, Bool.not_eq_true]
  constructor
  · intro h
    obtain ⟨⟨⟩, -, free⟩ := exists_of_bind_eq_ok h
    refine ⟨valid_of_checkName h, fresh_iff.1 (Bool.eq_false_iff.2 fun taken => ?_)⟩
    rw [taken] at free
    cases free
  · rintro ⟨valid, fresh⟩
    rw [checkName, validateName_eq_ok_iff.2 valid, fresh_iff.2 fresh]
    rfl

theorem forM_checkName_eq_ok_iff {d : TableDraft} {named : List (String × AnyDescriptor)} :
    named.forM (fun (part, _) => d.checkName part) = .ok () ↔ ∀ p ∈ named, d.Free p.1 := by
  refine ⟨fun h p hp => checkName_eq_ok_iff.1 (checkName_of_forM h p hp), fun h => ?_⟩
  induction named with
  | nil => rfl
  | cons p rest ih =>
    obtain ⟨part, type⟩ := p
    obtain ⟨free, others⟩ := List.forall_mem_cons.1 h
    have checked : d.checkName part = .ok () := checkName_eq_ok_iff.2 free
    rw [List.forM_eq_forM, List.forM_cons]
    simp only [checked]
    exact ih others

namespace Definition

/-- The names and types of the columns of a composite column. -/
def parts {α : Type} (name : String) (kind : CompositeKind α) (nullable : Bool) :
    List (String × AnyDescriptor) :=
  (kind.components nullable).map fun c => (name ++ "_" ++ c.suffix, c.type)

/-- The draft accepts the definition. -/
def Admitted (x : Definition) (d : TableDraft) : Prop :=
  match x with
  | .column spec =>
    spec.error = none ∧ d.Free spec.name ∧ ∃ default, spec.storedDefault = .ok default
  | .composite name kind nullable => ∀ p ∈ parts name kind nullable, d.Free p.1

/-- The new columns are those the definition asks for. -/
def Adds (x : Definition) (d : TableDraft) (new : List ColumnRef) : Prop :=
  match x with
  | .column spec =>
    ∃ default, spec.storedDefault = .ok default
      ∧ new = [d.newColumn spec.name spec.descriptor.erase { spec.constraints with default }]
  | .composite name kind nullable =>
    new = (kind.components nullable).map fun c =>
      d.newColumn (name ++ "_" ++ c.suffix) c.type {}

/-- No two components of a composite column have one suffix, case aside. -/
def SuffixesApart : Definition → Prop
  | .column _ => True
  | .composite _ kind nullable =>
    (kind.components nullable).Pairwise fun a b => Text.sameName a.suffix b.suffix = false

theorem suffixesApart_composite (name : String) (t : CompositeType) (nullable : Bool) :
    (composite name t.kind nullable).SuffixesApart := by
  cases t <;> cases nullable <;> exact List.pairwise_pair.2 rfl

end Definition

/-- When a column is added, and what it does then. -/
theorem define_column_eq_ok_iff {d d' : TableDraft} {t : ValueType} {spec : ColumnSpec t}
    {new : List ColumnRef} :
    d.define (.column spec) = .ok (new, d')
      ↔ (Definition.column spec).Admitted d ∧ (Definition.column spec).Adds d new
        ∧ d' = { d with columns := d.columns ++ new } := by
  constructor
  · intro h
    obtain ⟨⟨c, d''⟩, added, h⟩ := exists_of_map_eq_ok h
    injection h with hnew hd
    subst hnew hd
    obtain ⟨checked, rest, default, stored, ref⟩ := add_eq_newColumn added
    have new : [c.ref] = [_] := congrArg (fun c => [c]) ref
    exact ⟨⟨faultless_of_add added, checkName_eq_ok_iff.1 checked, default, stored⟩,
      ⟨default, stored, new⟩, rest⟩
  · rintro ⟨⟨faultless, free, -⟩, ⟨default, stored, rfl⟩, rfl⟩
    rw [define, add_of_checkName faultless (checkName_eq_ok_iff.2 free) stored]
    rfl

/-- When a composite column is added, and what it does then. -/
theorem define_composite_eq_ok_iff {d d' : TableDraft} {α : Type} {name : String}
    {kind : CompositeKind α} {nullable : Bool} {new : List ColumnRef} :
    d.define (.composite name kind nullable) = .ok (new, d')
      ↔ (Definition.composite name kind nullable).Admitted d
        ∧ (Definition.composite name kind nullable).Adds d new
        ∧ d' = { d with columns := d.columns ++ new } := by
  constructor
  · intro h
    obtain ⟨⟨c, d''⟩, added, h⟩ := exists_of_map_eq_ok h
    injection h with hnew hd
    subst hnew hd
    obtain ⟨⟨⟩, checked, added⟩ := exists_of_bind_eq_ok added
    injection added with added
    injection added with hc hd
    subst hc hd
    exact ⟨forM_checkName_eq_ok_iff.1 checked, List.map_map, rfl⟩
  · rintro ⟨admitted, rfl, rfl⟩
    have checked : (Definition.parts name kind nullable).forM (fun (part, _) => d.checkName part)
        = .ok () := forM_checkName_eq_ok_iff.2 admitted
    simp only [Definition.parts] at checked
    simp only [define, addComposite, checked, List.map_map]
    rfl

/-- **When a definition succeeds, and what it does then.** -/
theorem define_eq_ok_iff {d d' : TableDraft} {x : Definition} {new : List ColumnRef} :
    d.define x = .ok (new, d')
      ↔ x.Admitted d ∧ x.Adds d new ∧ d' = { d with columns := d.columns ++ new } := by
  cases x with
  | column spec => exact define_column_eq_ok_iff
  | composite name kind nullable => exact define_composite_eq_ok_iff

theorem define_isOk_iff {d : TableDraft} {x : Definition} :
    (∃ r, d.define x = .ok r) ↔ x.Admitted d := by
  constructor
  · rintro ⟨⟨new, d'⟩, h⟩
    exact (define_eq_ok_iff.1 h).1
  · intro admitted
    have adds : ∃ new, x.Adds d new := by
      cases x with
      | column spec =>
        obtain ⟨-, -, default, stored⟩ := admitted
        exact ⟨_, default, stored, rfl⟩
      | composite name kind nullable => exact ⟨_, rfl⟩
    obtain ⟨new, adds⟩ := adds
    exact ⟨_, define_eq_ok_iff.2 ⟨admitted, adds, rfl⟩⟩

/-! ## One draft for all definitions

Every step reads and changes the draft as the steps before it have left it, whether they failed or
not. -/

/-- A computation on a draft. -/
abbrev Drafting : Type → Type := ExceptT SchemaError (StateM TableDraft)

namespace Drafting

/-- The answer, and the draft as it is left. -/
def runOn {α : Type} (m : Drafting α) (d : TableDraft) : Except SchemaError α × TableDraft :=
  StateT.run (ExceptT.run m) d

def check (name : String) : Drafting Unit := do ofExcept ((← get).checkName name)

/-- Appends one column. -/
def push (name : String) (type : AnyDescriptor) (constraints : Constraints) :
    Drafting ColumnRef := do
  let c := (← get).newColumn name type constraints
  modify fun d => { d with columns := d.columns ++ [c] }
  return c

variable {α β : Type} {m : Drafting α} {next : α → Drafting β} {d d' : TableDraft}

theorem runOn_pure (a : α) : runOn (pure a : Drafting α) d = (.ok a, d) := rfl

theorem runOn_bind_of_ok {a : α} (h : m.runOn d = (.ok a, d')) :
    (m >>= next).runOn d = (next a).runOn d' := by
  simp only [runOn, ExceptT.run_bind, StateT.run_bind] at h ⊢
  rw [h]
  rfl

theorem runOn_bind_of_error {e : SchemaError} (h : m.runOn d = (.error e, d')) :
    (m >>= next).runOn d = (.error e, d') := by
  simp only [runOn, ExceptT.run_bind, StateT.run_bind] at h ⊢
  rw [h]
  rfl

theorem runOn_ofExcept (r : Except SchemaError α) : runOn (ofExcept r) d = (r, d) := by
  cases r <;> rfl

theorem runOn_check (name : String) : (check name).runOn d = (d.checkName name, d) :=
  runOn_ofExcept (d.checkName name)

theorem runOn_push (name : String) (type : AnyDescriptor) (constraints : Constraints) :
    (push name type constraints).runOn d
      = (.ok (d.newColumn name type constraints),
          { d with columns := d.columns ++ [d.newColumn name type constraints] }) := rfl

/-- Checking names leaves the draft as it is. -/
theorem runOn_forM_check (named : List (String × AnyDescriptor)) :
    (named.forM fun (part, _) => check part).runOn d
      = (named.forM fun (part, _) => d.checkName part, d) := by
  induction named with
  | nil => rfl
  | cons p rest ih =>
    obtain ⟨part, type⟩ := p
    have checked := runOn_check (d := d) part
    rw [List.forM_eq_forM, List.forM_eq_forM, List.forM_cons, List.forM_cons]
    cases result : d.checkName part with
    | error e =>
      rw [result] at checked
      simp only [result]
      exact runOn_bind_of_error checked
    | ok u =>
      rw [result] at checked
      simp only [result]
      exact (runOn_bind_of_ok checked).trans ih

/-- Columns pushed one by one stand in their order behind the others. -/
theorem runOn_mapM_push (named : List (String × AnyDescriptor)) (d : TableDraft) :
    (named.mapM fun (part, type) => push part type {}).runOn d
      = (.ok (named.map fun (part, type) => d.newColumn part type {}),
          { d with columns := d.columns ++ named.map fun (part, type) =>
            d.newColumn part type {} }) := by
  induction named generalizing d with
  | nil =>
    rw [List.mapM_nil, runOn_pure, List.map_nil, List.append_nil]
  | cons p rest ih =>
    rw [List.mapM_cons, runOn_bind_of_ok (runOn_push p.1 p.2 {}), runOn_bind_of_ok (ih _),
      runOn_pure, List.append_assoc]
    rfl

end Drafting

open Drafting in
/-- Carries out the definition on the draft itself. -/
def Definition.perform : Definition → Drafting (List ColumnRef)
  | .column spec => do
    if let some e := spec.error then throw e
    check spec.name
    let default ← ofExcept spec.storedDefault
    let c ← push spec.name spec.descriptor.erase { spec.constraints with default }
    return [c]
  | .composite name kind nullable => do
    let named := parts name kind nullable
    named.forM fun (part, _) => check part
    named.mapM fun (part, type) => push part type {}

/-- The answer, and the draft that is left: the same one after a failure. -/
def settled (d : TableDraft) : Except SchemaError (List ColumnRef × TableDraft) →
    Except SchemaError (List ColumnRef) × TableDraft
  | .ok (new, d') => (.ok new, d')
  | .error e => (.error e, d)

open Drafting in
/-- **Carried out in place, a definition leaves the draft that it makes, and after a failure the
draft it was given.** -/
theorem Definition.runOn_perform (x : Definition) (d : TableDraft) :
    x.perform.runOn d = d.settled (d.define x) := by
  cases x with
  | column spec =>
    cases mistake : spec.error with
    | some e =>
      rw [perform, define, add, mistake]
      rfl
    | none =>
      have unfolded : perform (.column spec) = check spec.name >>= fun _ =>
          ofExcept spec.storedDefault >>= fun default =>
          push spec.name spec.descriptor.erase { spec.constraints with default } >>= fun c =>
          pure [c] := by
        rw [perform, mistake]
      have checked := runOn_check (d := d) spec.name
      have stored := runOn_ofExcept (d := d) spec.storedDefault
      rw [unfolded, define, add, mistake]
      cases name : d.checkName spec.name with
      | error e =>
        rw [name] at checked
        exact runOn_bind_of_error checked
      | ok u =>
        rw [name] at checked
        rw [runOn_bind_of_ok checked]
        cases value : spec.storedDefault with
        | error e =>
          rw [value] at stored
          exact runOn_bind_of_error stored
        | ok default =>
          rw [value] at stored
          rw [runOn_bind_of_ok stored, runOn_bind_of_ok (runOn_push _ _ _)]
          rfl
  | composite name kind nullable =>
    have checked := runOn_forM_check (d := d) (parts name kind nullable)
    rw [define, addComposite]
    simp only [perform]
    cases free : (parts name kind nullable).forM fun (part, _) => d.checkName part with
    | error e =>
      rw [free] at checked
      rw [runOn_bind_of_error checked]
      simp only [parts] at free
      rw [free]
      rfl
    | ok u =>
      rw [free] at checked
      rw [runOn_bind_of_ok checked, runOn_mapM_push]
      simp only [parts] at free
      rw [free]
      rfl

/-! ## Sound drafts -/

/-- The columns are the draft's own, and their names differ, case aside. -/
structure Sound (d : TableDraft) : Prop where
  own : ∀ c ∈ d.columns, c.OwnedBy d.id d.name
  apart : d.columns.Pairwise fun a b => Text.sameName a.name b.name = false

theorem sound_empty (id : SetId) (name : String) : Sound { id, name } :=
  ⟨List.forall_mem_nil _, List.Pairwise.nil⟩

namespace Definition

variable {x : Definition} {d : TableDraft} {new : List ColumnRef}

/-- The new columns are the draft's own, under names that were free. -/
theorem Adds.own (adds : x.Adds d new) (admitted : x.Admitted d) :
    ∀ c ∈ new, c.OwnedBy d.id d.name ∧ d.Free c.name := by
  cases x with
  | column spec =>
    obtain ⟨-, free, -⟩ := admitted
    obtain ⟨default, -, rfl⟩ := adds
    exact List.forall_mem_singleton.2 ⟨newColumn_ownedBy free.valid _ _, free⟩
  | composite name kind nullable =>
    intro c hc
    rw [adds] at hc
    obtain ⟨part, hpart, rfl⟩ := List.mem_map.1 hc
    have free : d.Free (name ++ "_" ++ part.suffix) :=
      admitted (name ++ "_" ++ part.suffix, part.type) (List.mem_map_of_mem hpart)
    exact ⟨newColumn_ownedBy free.valid _ _, free⟩

theorem Adds.apart (adds : x.Adds d new) (apart : x.SuffixesApart) :
    new.Pairwise fun a b => Text.sameName a.name b.name = false := by
  cases x with
  | column spec =>
    obtain ⟨default, -, rfl⟩ := adds
    exact List.pairwise_singleton _ _
  | composite name kind nullable =>
    rw [adds, List.pairwise_map]
    exact apart.imp fun differ => (Text.sameName_append_left (name ++ "_") _ _).trans differ

end Definition

namespace Sound

variable {d d' : TableDraft} {x : Definition} {new : List ColumnRef}

/-- A definition that succeeds keeps the draft sound. -/
theorem define (sound : d.Sound) (apart : x.SuffixesApart)
    (h : d.define x = .ok (new, d')) : d'.Sound := by
  obtain ⟨admitted, adds, rfl⟩ := define_eq_ok_iff.1 h
  have own := adds.own admitted
  refine ⟨List.forall_mem_append.2 ⟨sound.own, fun c hc => (own c hc).1⟩, ?_⟩
  exact List.pairwise_append.2 ⟨sound.apart, adds.apart apart,
    fun a ha b hb => (own b hb).2.fresh a ha⟩

/-- Every definition does, whether it succeeds or fails. -/
theorem perform (sound : d.Sound) (apart : x.SuffixesApart) : (x.perform.runOn d).2.Sound := by
  rw [Definition.runOn_perform]
  cases h : d.define x with
  | error e => exact sound
  | ok r => exact sound.define apart h

/-- No two columns have one key. -/
theorem nodup_keys (sound : d.Sound) : (d.columns.map ColumnRef.key).Nodup := by
  rw [List.Nodup, List.pairwise_map]
  refine sound.apart.imp fun {a b} differ same => ?_
  rw [ColumnRef.name, same, ← ColumnRef.name, Text.sameName_refl] at differ
  cases differ

/-- The first column of a name is the only one. -/
theorem find?_eq_some (sound : d.Sound) {c : ColumnRef} (hc : c ∈ d.columns) :
    d.columns.find? (·.name == c.name) = some c := by
  obtain ⟨front, back, split⟩ := List.append_of_mem hc
  have apart := sound.apart
  rw [split] at apart
  refine List.find?_eq_some_iff_append.2 ⟨beq_self_eq_true _, front, back, split, ?_⟩
  intro a ha
  have differ := (List.pairwise_append.1 apart).2.2 a ha c List.mem_cons_self
  rw [Bool.not_eq_true', beq_eq_false_iff_ne]
  intro same
  rw [same, Text.sameName_refl] at differ
  cases differ

end Sound

/-- The draft after all the definitions, those that failed included. -/
def drafted (id : SetId) (name : String) (steps : List Definition) : TableDraft :=
  steps.foldl (fun d x => (x.perform.runOn d).2) { id, name }

theorem drafted_concat (id : SetId) (name : String) (steps : List Definition) (x : Definition) :
    drafted id name (steps ++ [x]) = (x.perform.runOn (drafted id name steps)).2 := by
  rw [drafted, List.foldl_append]
  rfl

theorem perform_id_name (x : Definition) (d : TableDraft) :
    (x.perform.runOn d).2.id = d.id ∧ (x.perform.runOn d).2.name = d.name := by
  rw [Definition.runOn_perform]
  cases h : d.define x with
  | error e => exact ⟨rfl, rfl⟩
  | ok r =>
    obtain ⟨-, -, rest⟩ := define_eq_ok_iff.1 h
    rw [settled, rest]
    exact ⟨rfl, rfl⟩

variable {id : SetId} {name : String} {steps : List Definition}

theorem drafted_id_name (id : SetId) (name : String) (steps : List Definition) :
    (drafted id name steps).id = id ∧ (drafted id name steps).name = name := by
  induction steps using List.reverseRecOn with
  | nil => exact ⟨rfl, rfl⟩
  | append_singleton steps x ih =>
    obtain ⟨same_id, same_name⟩ := perform_id_name x (drafted id name steps)
    rw [drafted_concat]
    exact ⟨same_id.trans ih.1, same_name.trans ih.2⟩

theorem sound_drafted (apart : ∀ x ∈ steps, x.SuffixesApart) :
    (drafted id name steps).Sound := by
  induction steps using List.reverseRecOn with
  | nil => exact sound_empty id name
  | append_singleton steps x ih =>
    obtain ⟨before, here⟩ := List.forall_mem_append.1 apart
    rw [drafted_concat]
    exact (ih before).perform (here x List.mem_cons_self)

/-- **Whatever has been defined on a draft, its columns are sound, a further definition adds exactly
its columns or changes nothing, and the table built finds every column by its name.** -/
theorem sound_of_definitions (id : SetId) (name : String) {steps : List Definition}
    (apart : ∀ x ∈ steps, x.SuffixesApart) :
    let d := drafted id name steps
    (d.id = id ∧ d.name = name ∧ d.Sound)
      ∧ (∀ x : Definition,
        ((∃ r, d.define x = .ok r) ↔ x.Admitted d)
          ∧ (∀ e, d.define x = .error e →
            x.perform.runOn d = (.error e, d) ∧ drafted id name (steps ++ [x]) = d)
          ∧ ∀ new d', d.define x = .ok (new, d') →
            x.perform.runOn d = (.ok new, d') ∧ drafted id name (steps ++ [x]) = d'
              ∧ d' = { d with columns := d.columns ++ new } ∧ x.Adds d new)
      ∧ ∀ t, d.build = .ok t →
        t = ⟨id, name, d.columns⟩ ∧ (∀ c ∈ t.columns, t.column? c.name = some c)
          ∧ (t.columns.map ColumnRef.key).Nodup := by
  intro d
  have sound : d.Sound := sound_drafted apart
  obtain ⟨same_id, same_name⟩ := drafted_id_name id name steps
  refine ⟨⟨same_id, same_name, sound⟩, fun x => ⟨define_isOk_iff, ?_, ?_⟩, ?_⟩
  · intro e failed
    have left := Definition.runOn_perform x d
    rw [failed] at left
    exact ⟨left, (drafted_concat id name steps x).trans (congrArg Prod.snd left)⟩
  · intro new d' defined
    obtain ⟨-, adds, rest⟩ := define_eq_ok_iff.1 defined
    have left := Definition.runOn_perform x d
    rw [defined] at left
    exact ⟨left, (drafted_concat id name steps x).trans (congrArg Prod.snd left), rest, adds⟩
  · intro t built
    obtain ⟨-, rfl⟩ := build_eq_ok built
    refine ⟨?_, fun c hc => sound.find?_eq_some hc, sound.nodup_keys⟩
    rw [same_id, same_name]

/-- A key, a composite column, and three definitions that fail: a name that is taken, one that is
not valid, and a composite column whose second part alone is taken. -/
def eventSteps : List Definition :=
  [.column ({ name := "id", kind := .int64, nullable := false } : ColumnSpec .int64),
    .composite "at" CompositeKind.offsetTimestamp false,
    .column ({ name := "AT_utc_ms", kind := .int64 } : ColumnSpec .int64),
    .column ({ name := "2nd", kind := .text } : ColumnSpec .text),
    .column ({ name := "len_hi", kind := .int64 } : ColumnSpec .int64),
    .composite "Len" CompositeKind.span true]

theorem sound_of_eventSteps :
    (∀ x ∈ eventSteps, x.SuffixesApart)
      ∧ (drafted ⟨1⟩ "Event" eventSteps).Sound
      ∧ (drafted ⟨1⟩ "Event" eventSteps).columns.map ColumnRef.name
        = ["id", "at_utc_ms", "at_offset_s", "len_hi"]
      ∧ ∃ t, (drafted ⟨1⟩ "Event" eventSteps).build = .ok t
        ∧ ∀ c ∈ t.columns, t.column? c.name = some c := by
  have apart : ∀ x ∈ eventSteps, x.SuffixesApart := by
    intro x hx
    simp only [eventSteps, List.mem_cons, List.not_mem_nil, or_false] at hx
    rcases hx with rfl | rfl | rfl | rfl | rfl | rfl
    · trivial
    · exact Definition.suffixesApart_composite "at" .offsetTimestamp false
    · trivial
    · trivial
    · trivial
    · exact Definition.suffixesApart_composite "Len" .span true
  obtain ⟨⟨-, -, sound⟩, -, table⟩ := sound_of_definitions ⟨1⟩ "Event" apart
  have built : ∃ t, (drafted ⟨1⟩ "Event" eventSteps).build = .ok t := ⟨_, rfl⟩
  obtain ⟨t, built⟩ := built
  exact ⟨apart, sound, by decide, t, built, (table t built).2.1⟩

end TableDraft
end TypedSql
