import TypedSql.Proofs.Query.Lineage
import TypedSql.Proofs.Query.Selecting
import TypedSql.Proofs.Run.Lookup

/-!
# Lineage within a session

A session makes sets of columns and labels one after the other, each under an identity from the
supply: tables, aliases, views, and queries over what there is. Identities may be handed out ahead
of the set or label they are for, as those of drafts are.

**Theorem (`Session.lineage`).** The origins of a column are the identity of the column or label
it was copied from followed by the origins of that, and its type is that of the original; only
columns of tables have no origins. So what a column derives from has its type, and derives from
nothing that the column does not derive from, as long as it is alone under its name in its set.

A column is known by its set and its name. A query may select a label whose name is taken: it
becomes a set like any other, though it cannot be built (`Session.alone_of_built`). What is copied
from either of the two columns then derives from both (`Session.misled_by_label`).
-/

namespace TypedSql

/-! ## What calls use -/

section

variable (sets : List Source) (labels : List (ColumnKey × AnyDescriptor))

/-- A column of one of the sets, or one of the labels. -/
def ResultEntry.Known : ResultEntry → Prop
  | .column c => ∃ x ∈ sets, c ∈ x.columns
  | .labelled key type => (key, type) ∈ labels

/-- One of the sets, or a join of such. -/
inductive Source.Over : Source → Prop
  | set {x : Source} : x ∈ sets → Over x
  | join {lhs rhs : Source} (kind : JoinKind) (on : Option Expr) :
    Over lhs → Over rhs → Over (.join kind lhs rhs on)

/-- The call reads from sources over the sets, and selects columns and labels that are known. -/
def Select.Call.Uses : Select.Call → Prop
  | .fromSource s => s.Over sets
  | .column c => (ResultEntry.column c.ref).Known sets labels
  | .composite c => ∀ part ∈ c.parts, (ResultEntry.column part).Known sets labels
  | .project p => (p.key, p.descriptor.erase) ∈ labels
  | _ => True

/-- The query is put together by such calls. -/
def Select.Over (q : Select) : Prop :=
  ∃ calls, q = .ofCalls calls ∧ ∀ call ∈ calls, call.Uses sets labels

/-- All queries combined are. -/
def Query.Over : Query → Prop
  | .select q => q.Over sets labels
  | .compound q => q.first.Over sets labels ∧ ∀ b ∈ q.branches, b.query.Over sets labels

/-- A set made of tables that were built, or of those there are, under a new identity. -/
inductive Source.Made (id : SetId) : Source → Prop
  | table {t : Table} : t.Built → t.id = id → Made id (.relation (.table t))
  | renamed {x a : Source} {name : String} : x ∈ sets → x.rename id name = .ok a → Made id a
  | view {q : Select} {name : String} {r : Relation} :
    q.Over sets labels → Relation.defineView id name q = .ok r → Made id (.relation r)
  | query {q : Query} : q.Over sets labels → Made id (.ofQuery id q)

end

/-- The sets and labels made, the identities handed out for further ones, and the supply left. -/
inductive Session :
    List Source → List (ColumnKey × AnyDescriptor) → List SetId → Supply → Prop
  | start : Session [] [] [] {}
  | param {sets : List Source} {labels : List (ColumnKey × AnyDescriptor)} {ahead : List SetId}
    {s : Supply} : Session sets labels ahead s → Session sets labels ahead s.param.2
  | identity {sets : List Source} {labels : List (ColumnKey × AnyDescriptor)}
    {ahead : List SetId} {s : Supply} :
    Session sets labels ahead s → Session sets labels (s.set.1 :: ahead) s.set.2
  | set {sets : List Source} {labels : List (ColumnKey × AnyDescriptor)}
    {front back : List SetId} {s : Supply} {id : SetId} {x : Source} :
    Session sets labels (front ++ id :: back) s → x.Made sets labels id →
      Session (x :: sets) labels (front ++ back) s
  | label {sets : List Source} {labels : List (ColumnKey × AnyDescriptor)}
    {front back : List SetId} {s : Supply} {id : SetId} {t : ValueType} {name : String}
    {e : Expression t} {p : Projection t} :
    Session sets labels (front ++ id :: back) s → Projection.label id name e = .ok p →
      Session sets ((p.key, p.descriptor.erase) :: labels) (front ++ back) s

/-! ## Known columns stay known -/

section

variable {sets sets' : List Source} {labels labels' : List (ColumnKey × AnyDescriptor)}

theorem ResultEntry.Known.mono (hs : sets ⊆ sets') (hl : labels ⊆ labels') {e : ResultEntry}
    (h : e.Known sets labels) : e.Known sets' labels' := by
  cases e with
  | column c =>
    obtain ⟨x, hx, hc⟩ := h
    exact ⟨x, hs hx, hc⟩
  | labelled key type => exact hl h

theorem Source.Over.known {s : Source} (h : s.Over sets) :
    ∀ c ∈ s.columns, (ResultEntry.column c).Known sets labels := by
  induction h with
  | set hx => exact fun c hc => ⟨_, hx, hc⟩
  | join kind on _ _ ihl ihr => exact List.forall_mem_append.2 ⟨ihl, ihr⟩

/-- The source is over the sets and the select list holds known columns and labels. -/
structure Select.Sound (sets : List Source) (labels : List (ColumnKey × AnyDescriptor))
    (q : Select) : Prop where
  source : ∀ s, q.source = some s → s.Over sets
  items : ∀ item ∈ q.items, item.entry.Known sets labels

namespace Select

variable {q : Select} {call : Call}

theorem Sound.known_source (h : q.Sound sets labels) :
    ∀ c ∈ (Scope.ofSource q.source).columns, (ResultEntry.column c).Known sets labels := by
  cases source : q.source with
  | none => exact List.forall_mem_nil _
  | some s => exact (h.source s source).known

theorem Sound.run (h : q.Sound sets labels) (uses : call.Uses sets labels) :
    (q.run call).Sound sets labels := by
  cases call with
  | fromSource s =>
    refine ⟨fun s' same => ?_, h.items⟩
    rw [← Option.some.inj same]
    exact uses
  | column c =>
    simp only [Select.run, column, columnRef_eq]
    refine ⟨h.source, List.forall_mem_append.2 ⟨h.items, ?_⟩⟩
    split
    · exact List.forall_mem_singleton.2 uses
    · exact List.forall_mem_nil _
  | composite c =>
    simp only [Select.run, composite, foldl_columnRef]
    refine ⟨h.source, List.forall_mem_append.2 ⟨h.items, List.forall_mem_map.2 ?_⟩⟩
    exact fun part mem => uses part (List.mem_of_mem_filter mem)
  | allColumns =>
    simp only [Select.run, allColumns_eq]
    exact ⟨h.source, List.forall_mem_append.2 ⟨h.items, List.forall_mem_map.2 h.known_source⟩⟩
  | project p =>
    exact ⟨h.source, List.forall_mem_append.2 ⟨h.items, List.forall_mem_singleton.2 uses⟩⟩
  | _ => exact ⟨h.source, h.items⟩

theorem Sound.foldl (h : q.Sound sets labels) {calls : List Call}
    (uses : ∀ call ∈ calls, call.Uses sets labels) :
    (calls.foldl Select.run q).Sound sets labels := by
  induction calls generalizing q with
  | nil => exact h
  | cons call rest ih =>
    rw [List.forall_mem_cons] at uses
    exact ih (h.run uses.1) uses.2

theorem Sound.known (h : q.Sound sets labels) : ∀ e ∈ q.entries, e.Known sets labels := by
  have whole := h.known_source
  obtain ⟨source, distinct, items, filter, groupBy, having, orderBy, l, o, errors⟩ := q
  cases items with
  | nil =>
    cases source with
    | none => exact List.forall_mem_nil _
    | some s => exact List.forall_mem_map.2 whole
  | cons item items => exact List.forall_mem_map.2 h.items

theorem Over.known (h : q.Over sets labels) : ∀ e ∈ q.entries, e.Known sets labels := by
  obtain ⟨calls, rfl, uses⟩ := h
  have empty : Select.empty.Sound sets labels :=
    ⟨fun s none => (nomatch none), List.forall_mem_nil _⟩
  exact (empty.foldl uses).known

end Select

theorem Query.Over.known {q : Query} (h : q.Over sets labels) :
    ∀ e ∈ q.entries, e.Known sets labels := by
  cases q with
  | select q => exact Select.Over.known h
  | compound q =>
    obtain ⟨first, branches, orderBy, l, o, errors⟩ := q
    exact Select.Over.known h.1

/-! ## What is made -/

namespace Source

variable {id : SetId} {x a : Source} {name : String}

theorem rename_eq_ok (h : x.rename id name = .ok a) :
    ∃ r, x = .relation r ∧ a = .alias id name r := by
  obtain ⟨⟨⟩, -, h⟩ := exists_of_bind_eq_ok h
  cases x with
  | relation r =>
    cases h
    exact ⟨r, rfl, rfl⟩
  | _ => cases h

/-- What is made has the identity it was made under, and so have its columns. -/
theorem Made.identity (h : x.Made sets labels id) :
    x.id? = some id ∧ ∀ c ∈ x.columns, c.key.set = id := by
  cases h with
  | table built same =>
    exact ⟨congrArg some same, fun c hc => (built.column c hc).set.trans same⟩
  | renamed _ renamed =>
    obtain ⟨r, rfl, rfl⟩ := rename_eq_ok renamed
    exact ⟨rfl, List.forall_mem_map.2 fun _ _ => rfl⟩
  | view _ defined =>
    rw [defineView_eq_ok defined]
    exact ⟨rfl, List.forall_mem_map.2 fun _ _ => rfl⟩
  | query _ => exact ⟨rfl, List.forall_mem_map.2 fun _ _ => rfl⟩

/-- The columns are copies of known columns and labels, those of a table of nothing. -/
theorem Made.copied (h : x.Made sets labels id) :
    List.Forall₂ ColumnRef.CopyOf x.columns x.originals
      ∧ ∀ e, some e ∈ x.originals → e.Known sets labels := by
  have selected {entries : List ResultEntry} (known : ∀ e ∈ entries, e.Known sets labels) :
      ∀ e, some e ∈ entries.map some → e.Known sets labels := fun e mem =>
    known e ((List.mem_map_of_injective fun _ _ => Option.some.inj).1 mem)
  cases h with
  | table built _ =>
    refine ⟨Source.copied _ (List.forall_mem_singleton.2 built), fun e mem => ?_⟩
    obtain ⟨c, -, none⟩ := List.mem_map.1 mem
    cases none
  | renamed hy renamed =>
    obtain ⟨r, rfl, rfl⟩ := rename_eq_ok renamed
    refine ⟨Source.copied _ (List.forall_mem_nil _), fun e mem => ?_⟩
    obtain ⟨c, hc, original⟩ := List.mem_map.1 mem
    cases original
    exact ⟨_, hy, hc⟩
  | view based defined =>
    rw [defineView_eq_ok defined]
    exact ⟨Source.copied _ (List.forall_mem_nil _), selected (Select.Over.known based)⟩
  | query based => exact ⟨Source.copied _ (List.forall_mem_nil _), selected based.known⟩

end Source

end

/-! ## Identities -/

namespace Session

variable {sets : List Source} {labels : List (ColumnKey × AnyDescriptor)} {ahead : List SetId}
  {s : Supply}

/-- The identities of sets and labels, and those handed out ahead. -/
def ids (sets : List Source) (labels : List (ColumnKey × AnyDescriptor)) (ahead : List SetId) :
    List (Option SetId) :=
  sets.map Source.id? ++ labels.map (fun l => some l.1.set) ++ ahead.map some

theorem ids_ahead_perm (sets : List Source) (labels : List (ColumnKey × AnyDescriptor))
    (front back : List SetId) (id : SetId) :
    (ids sets labels (front ++ id :: back)).Perm (some id :: ids sets labels (front ++ back)) := by
  unfold ids
  rw [List.map_append, List.map_cons, List.map_append, ← List.append_assoc, ← List.append_assoc]
  exact List.perm_middle

theorem ids_label_perm (sets : List Source) (labels : List (ColumnKey × AnyDescriptor))
    (label : ColumnKey × AnyDescriptor) (ahead : List SetId) :
    (ids sets (label :: labels) ahead).Perm (some label.1.set :: ids sets labels ahead) := by
  unfold ids
  rw [List.append_assoc, List.append_assoc, List.map_cons]
  exact List.perm_middle

theorem label_set {t : ValueType} {id : SetId} {name : String} {e : Expression t}
    {p : Projection t} (h : Projection.label id name e = .ok p) : p.key.set = id := by
  obtain ⟨⟨⟩, -, h⟩ := exists_of_bind_eq_ok h
  cases h
  rfl

/-- Identities handed out are behind those still to come, and no two are equal. -/
structure Apart (ids : List (Option SetId)) (s : Supply) : Prop where
  index_lt : ∀ id, some id ∈ ids → id.index < s.next
  nodup : ids.Nodup

theorem Apart.perm {l l' : List (Option SetId)} (h : Apart l s) (perm : l.Perm l') :
    Apart l' s where
  index_lt id hid := h.index_lt id (perm.mem_iff.2 hid)
  nodup := perm.nodup_iff.1 h.nodup

theorem Apart.next {l : List (Option SetId)} (h : Apart l s) :
    Apart (some s.set.1 :: l) s.set.2 where
  index_lt id hid := by
    rcases List.mem_cons.1 hid with new | old
    · cases new
      exact Nat.lt_succ_self _
    · exact Nat.lt_succ_of_lt (h.index_lt id old)
  nodup := List.nodup_cons.2 ⟨fun old => Nat.lt_irrefl _ (h.index_lt s.set.1 old), h.nodup⟩

/-- A set or a label takes an identity that was handed out ahead. -/
theorem apart (h : Session sets labels ahead s) : Apart (ids sets labels ahead) s := by
  induction h with
  | start => exact ⟨fun _ none => (nomatch none), List.nodup_nil⟩
  | param _ ih => exact ⟨fun id hid => Nat.lt_succ_of_lt (ih.index_lt id hid), ih.nodup⟩
  | identity _ ih => exact ih.next.perm (ids_ahead_perm _ _ [] _ _).symm
  | set _ made ih =>
    rw [ids, List.map_cons, made.identity.1]
    exact ih.perm (ids_ahead_perm _ _ _ _ _)
  | label _ labelled ih =>
    refine (ih.perm (ids_ahead_perm _ _ _ _ _)).perm ?_
    rw [← label_set labelled]
    exact (ids_label_perm _ _ (_, _) _).symm

/-- A column carries the identity of its set. -/
theorem id?_eq (h : Session sets labels ahead s) :
    ∀ x ∈ sets, ∀ c ∈ x.columns, x.id? = some c.key.set := by
  induction h with
  | start => exact List.forall_mem_nil _
  | param _ ih | identity _ ih | label _ _ ih => exact ih
  | set _ made ih =>
    refine List.forall_mem_cons.2 ⟨fun c hc => ?_, ih⟩
    rw [made.identity.1, made.identity.2 c hc]

theorem set_eq (h : Session sets labels ahead s) {x y : Source} (hx : x ∈ sets) (hy : y ∈ sets)
    (same : x.id? = y.id?) : x = y := by
  have nodup := h.apart.nodup
  rw [ids, List.append_assoc] at nodup
  exact List.inj_on_of_nodup_map (List.nodup_append.1 nodup).1 hx hy same

/-- A label has an identity no set has. -/
theorem label_ne (h : Session sets labels ahead s) {x : Source} (hx : x ∈ sets)
    {label : ColumnKey × AnyDescriptor} (hl : label ∈ labels) : x.id? ≠ some label.1.set := by
  have nodup := h.apart.nodup
  rw [ids, List.append_assoc] at nodup
  exact (List.nodup_append.1 nodup).2.2 _ (List.mem_map_of_mem hx) _
    (List.mem_append_left _ (List.mem_map_of_mem (f := fun l => some l.1.set) hl))

theorem label_eq (h : Session sets labels ahead s) {l l' : ColumnKey × AnyDescriptor}
    (hl : l ∈ labels) (hl' : l' ∈ labels) (same : l.1.set = l'.1.set) : l = l' := by
  have nodup := h.apart.nodup
  rw [ids, List.append_assoc] at nodup
  have own := (List.nodup_append.1 (List.nodup_append.1 nodup).2.1).1
  exact List.inj_on_of_nodup_map own hl hl' (congrArg some same)

/-! ## Originals -/

/-- Columns are copies of known columns and labels, those of tables of nothing. -/
theorem copied (h : Session sets labels ahead s) : ∀ x ∈ sets,
    List.Forall₂ ColumnRef.CopyOf x.columns x.originals
      ∧ ∀ e, some e ∈ x.originals → e.Known sets labels := by
  induction h with
  | start => exact List.forall_mem_nil _
  | param _ ih | identity _ ih => exact ih
  | label _ _ ih =>
    exact fun x hx => (ih x hx).imp_right fun known e mem =>
      (known e mem).mono (List.Subset.refl _) (List.subset_cons_self _ _)
  | set _ made ih =>
    have later {e : ResultEntry} {sets : List Source} {labels : List (ColumnKey × AnyDescriptor)}
        {x : Source} (known : e.Known sets labels) : e.Known (x :: sets) labels :=
      known.mono (List.subset_cons_self _ _) (List.Subset.refl _)
    refine List.forall_mem_cons.2 ⟨?_, fun x hx => ?_⟩
    · exact made.copied.imp_right fun known e mem => later (known e mem)
    · exact (ih x hx).imp_right fun known e mem => later (known e mem)

/-- Every column has an original, or comes from a table. -/
theorem original (h : Session sets labels ahead s) {x : Source} (hx : x ∈ sets) {c : ColumnRef}
    (hc : c ∈ x.columns) : ∃ o ∈ x.originals, c.CopyOf o := by
  have copies := (h.copied x hx).1
  obtain ⟨i, inside, rfl⟩ := List.mem_iff_getElem.1 hc
  have same : i < x.originals.length := copies.length_eq ▸ inside
  exact ⟨_, List.getElem_mem same, copies.get inside same⟩

/-- Only columns of tables are copies of nothing. -/
theorem table_of_none_mem (h : Session sets labels ahead s) {x : Source} (hx : x ∈ sets)
    {c : ColumnRef} (hc : c ∈ x.columns) (none : none ∈ x.originals) :
    ∃ t, x = .relation (.table t) := by
  have identity := h.id?_eq x hx c hc
  rcases x with (t | _ | _) | ⟨id, name, r⟩ | _
  · exact ⟨t, rfl⟩
  · obtain ⟨e, -, none⟩ := List.mem_map.1 none
    cases none
  · obtain ⟨e, -, none⟩ := List.mem_map.1 none
    cases none
  · obtain ⟨e, -, none⟩ := List.mem_map.1 none
    cases none
  · cases identity

theorem origins_eq_nil_iff (h : Session sets labels ahead s) {x : Source} (hx : x ∈ sets)
    {c : ColumnRef} (hc : c ∈ x.columns) :
    c.origins = [] ↔ ∃ t, .relation (.table t) ∈ sets ∧ c ∈ t.columns := by
  constructor
  · intro nothing
    obtain ⟨o, ho, copy⟩ := h.original hx hc
    cases o with
    | none =>
      obtain ⟨t, rfl⟩ := h.table_of_none_mem hx hc ho
      exact ⟨t, hx, hc⟩
    | some e => exact absurd (copy.1.symm.trans nothing) (List.cons_ne_nil _ _)
  · rintro ⟨t, ht, declared⟩
    have copies : List.Forall₂ ColumnRef.CopyOf t.columns (t.columns.map fun _ => none) :=
      (h.copied _ ht).1
    rw [List.forall₂_map_right_iff, List.forall₂_same] at copies
    exact copies c declared

end Session

/-! ## Columns alone under their names -/

/-- No other column of its set has the column's name. -/
def ResultEntry.Alone (sets : List Source) : ResultEntry → Prop
  | .column d => ∀ x ∈ sets, d ∈ x.columns → ∀ c ∈ x.columns, c.name = d.name → c = d
  | .labelled _ _ => True

theorem Unrepeated.nodup_results {entries : List ResultEntry}
    (h : Unrepeated [] (nameEntries [] entries)) (id : SetId) (qualifier : String) :
    (((resultColumns entries).map (·.toColumn id qualifier)).map ColumnRef.name).Nodup := by
  have names : ((resultColumns entries).map (·.toColumn id qualifier)).map ColumnRef.name
      = (nameEntries [] entries).map NamedEntry.name := by
    rw [List.map_map, ← map_name_resultColumns]
    rfl
  rw [names]
  exact h.nodup.1

namespace Session

variable {sets : List Source} {labels : List (ColumnKey × AnyDescriptor)} {ahead : List SetId}
  {s : Supply} {d e : ResultEntry}

/-- No other set has the column. -/
theorem alone (h : Session sets labels ahead s) {x : Source} (hx : x ∈ sets) {d : ColumnRef}
    (hd : d ∈ x.columns) (only : ∀ c ∈ x.columns, c.name = d.name → c = d) :
    (ResultEntry.column d).Alone sets := by
  intro y hy hd' c hc same
  have identity : y.id? = x.id? := by rw [h.id?_eq y hy d hd', h.id?_eq x hx d hd]
  rw [h.set_eq hy hx identity] at hc
  exact only c hc same

/-- In a query that can be built every column is alone under its name. -/
theorem alone_of_built (h : Session sets labels ahead s) {id : SetId} {q : Query}
    (hq : .ofQuery id q ∈ sets) {p p' : Pool} {dialect : Dialect} {seed : Seed}
    (built : (Statement.query q).buildWith p dialect = (.ok seed, p')) :
    ∀ c ∈ (Source.ofQuery id q).columns, (ResultEntry.column c).Alone sets :=
  fun _ hd => h.alone hq hd fun _ hc same =>
    List.inj_on_of_nodup_map ((q.unrepeated_of_built built).nodup_results id "") hc hd same

/-- A column that is alone under its name is known by its identity, and so is every label. -/
theorem eq_of_key_eq (h : Session sets labels ahead s) (hd : d.Known sets labels)
    (alone : d.Alone sets) (he : e.Known sets labels) (same : e.key = d.key) : e = d := by
  have sets_eq : some e.key.set = some d.key.set := congrArg (fun key => some key.set) same
  cases d with
  | column d =>
    obtain ⟨x, hx, hd⟩ := hd
    cases e with
    | column e =>
      obtain ⟨y, hy, he⟩ := he
      have identity : y.id? = x.id? := by
        rw [h.id?_eq y hy e he, h.id?_eq x hx d hd]
        exact sets_eq
      rw [h.set_eq hy hx identity] at he
      exact congrArg _ (alone x hx hd e he (congrArg ColumnKey.name same))
    | labelled key type => exact absurd ((h.id?_eq x hx d hd).trans sets_eq.symm) (h.label_ne hx he)
  | labelled key type =>
    cases e with
    | column e =>
      obtain ⟨y, hy, he⟩ := he
      exact absurd ((h.id?_eq y hy e he).trans sets_eq) (h.label_ne hy hd)
    | labelled key' type' =>
      cases h.label_eq he hd (congrArg ColumnKey.set same)
      rfl

/-! ### Two labels of one name -/

/-- The set takes the only identity that was handed out ahead. -/
theorem made {id : SetId} {x : Source} (h : Session sets labels [id] s)
    (made : x.Made sets labels id) : Session (x :: sets) labels [] s :=
  @Session.set sets labels [] [] s id x h made

theorem labelled {id : SetId} {t : ValueType} {name : String} {e : Expression t} {p : Projection t}
    (h : Session sets labels [id] s) (made : Projection.label id name e = .ok p) :
    Session sets ((p.key, p.descriptor.erase) :: labels) [] s :=
  @Session.label sets labels [] [] s id t name e p h made

end Session

def noteId : Column .int64 where
  ref := { key := ⟨⟨1⟩, "id"⟩, qualifier := "note", type := ⟨.int64, ⟨.int64, true⟩⟩ }
  descriptor := ⟨.int64, true⟩

def noteBody : Column .text where
  ref := { key := ⟨⟨1⟩, "body"⟩, qualifier := "note", type := ⟨.text, ⟨.text, true⟩⟩ }
  descriptor := ⟨.text, true⟩

def noteTable : Table := ⟨⟨1⟩, "note", [noteId.ref, noteBody.ref]⟩

theorem noteTable_built : noteTable.Built := by
  have id : TableDraft.add ⟨⟨1⟩, "note", []⟩
      (⟨"id", .int64, true, {}, none, none⟩ : ColumnSpec .int64)
      = .ok (noteId, ⟨⟨1⟩, "note", [noteId.ref]⟩) := rfl
  have body : TableDraft.add ⟨⟨1⟩, "note", [noteId.ref]⟩
      (⟨"body", .text, true, {}, none, none⟩ : ColumnSpec .text)
      = .ok (noteBody, ⟨⟨1⟩, "note", noteTable.columns⟩) := rfl
  exact ⟨_, .add (.add (.start ⟨1⟩ "note") id) body, rfl⟩

/-- The identities of the notes under the label `x`. -/
def idAsX : Projection .int64 := ⟨⟨⟨2⟩, "x"⟩, .column noteId.ref, ⟨.int64, true⟩⟩

/-- Their texts under the same label. -/
def bodyAsX : Projection .text := ⟨⟨⟨3⟩, "x"⟩, .column noteBody.ref, ⟨.text, true⟩⟩

def noteCalls : List Select.Call :=
  [.fromSource (.relation (.table noteTable)), .column noteId, .project idAsX, .project bodyAsX]

/-- A query with two columns `x`. -/
def notes : Query := .select (.ofCalls noteCalls)

def noteQuery : Source := .ofQuery ⟨4⟩ notes

def noteAlias : Source := .alias ⟨5⟩ "p" (.subquery ⟨4⟩ notes)

/-- The table, the query and the alias of it, the latest first. -/
def noteSets : List Source := [noteAlias, noteQuery, .relation (.table noteTable)]

def noteLabels : List (ColumnKey × AnyDescriptor) :=
  [(bodyAsX.key, bodyAsX.descriptor.erase), (idAsX.key, idAsX.descriptor.erase)]

theorem noteCalls_use : ∀ call ∈ noteCalls,
    call.Uses [.relation (.table noteTable)] noteLabels := by
  have id : (ResultEntry.column noteId.ref).Known [.relation (.table noteTable)] noteLabels :=
    ⟨_, List.mem_singleton_self _, List.mem_cons_self⟩
  simp only [noteCalls, List.forall_mem_cons]
  exact ⟨.set (List.mem_singleton_self _), id, List.mem_cons_of_mem _ (List.mem_singleton_self _),
    List.mem_cons_self, List.forall_mem_nil _⟩

theorem noteSession : Session noteSets noteLabels [] ⟨6⟩ := by
  have id : Projection.label ⟨2⟩ "x" noteId.toExpression = .ok idAsX := rfl
  have body : Projection.label ⟨3⟩ "x" noteBody.toExpression = .ok bodyAsX := rfl
  have table : Session [.relation (.table noteTable)] [] [] ⟨2⟩ :=
    (Session.identity .start).made (.table noteTable_built rfl)
  have labels : Session [.relation (.table noteTable)] noteLabels [] ⟨4⟩ :=
    (Session.identity ((Session.identity table).labelled id)).labelled body
  have query : Session [noteQuery, .relation (.table noteTable)] noteLabels [] ⟨5⟩ :=
    (Session.identity labels).made (.query ⟨noteCalls, rfl, noteCalls_use⟩)
  have renamed : noteQuery.rename ⟨5⟩ "p" = .ok noteAlias := rfl
  exact (Session.identity query).made (.renamed List.mem_cons_self renamed)

/-- The identities as a column of the query. -/
def queryId : ColumnRef := noteId.ref.copy ⟨4⟩ ""

/-- The label as a column of the query. -/
def queryX {t : ValueType} (p : Projection t) : ColumnRef where
  key := ⟨⟨4⟩, "x"⟩
  qualifier := ""
  type := p.descriptor.erase
  origins := [p.key]

theorem noteQuery_columns : noteQuery.columns = [queryId, queryX idAsX, queryX bodyAsX] := rfl

theorem noteQuery_mem : noteQuery ∈ noteSets := List.mem_cons_of_mem _ List.mem_cons_self

theorem queryId_mem : queryId ∈ noteQuery.columns := List.mem_cons_self

theorem queryId_alone : (ResultEntry.column queryId).Alone noteSets := by
  refine noteSession.alone noteQuery_mem queryId_mem fun c hc same => ?_
  have others : ∀ p ∈ [queryX idAsX, queryX bodyAsX], p.name ≠ queryId.name := by decide
  rw [noteQuery_columns, List.mem_cons] at hc
  exact hc.resolve_right fun other => others c other same

/-! ## Lineage -/

/-- The column or label has that identity, or was copied from one that has. -/
def ResultEntry.derivesFrom (e : ResultEntry) (key : ColumnKey) : Bool :=
  e.key == key || e.origins.contains key

theorem ResultEntry.derivesFrom_iff {e : ResultEntry} {key : ColumnKey} :
    e.derivesFrom key = true ↔ key ∈ e.ancestry := by
  rw [derivesFrom, ancestry, Bool.or_eq_true, beq_iff_eq, List.contains_iff_mem, List.mem_cons,
    eq_comm]

namespace Session

variable {sets : List Source} {labels : List (ColumnKey × AnyDescriptor)} {ahead : List SetId}
  {s : Supply} {d e : ResultEntry}

/-- What derives from a column has its type and ends in its ancestry. The induction is on the
origins, which get shorter by one with every original. -/
theorem suffix_of_mem_ancestry (h : Session sets labels ahead s) (hd : d.Known sets labels)
    (alone : d.Alone sets) (he : e.Known sets labels) (mem : d.key ∈ e.ancestry) :
    e.type = d.type ∧ d.ancestry <:+ e.ancestry := by
  induction origins : e.origins generalizing e with
  | nil =>
    rw [ResultEntry.ancestry, origins, List.mem_singleton] at mem
    rw [h.eq_of_key_eq hd alone he mem.symm]
    exact ⟨rfl, List.suffix_rfl⟩
  | cons key rest ih =>
    rcases List.mem_cons.1 mem with same | later
    · rw [h.eq_of_key_eq hd alone he same.symm]
      exact ⟨rfl, List.suffix_rfl⟩
    · cases e with
      | labelled key type => cases origins
      | column c =>
        obtain ⟨x, hx, hc⟩ := he
        obtain ⟨o, ho, copy⟩ := h.original hx hc
        cases o with
        | none =>
          rw [ResultEntry.origins, copy] at origins
          cases origins
        | some e' =>
          have ancestry : (ResultEntry.column c).origins = e'.ancestry := copy.1
          rw [ancestry] at later origins
          obtain ⟨type, suffix⟩ :=
            ih ((h.copied x hx).2 e' ho) later (List.cons.inj origins).2
          refine ⟨copy.2.trans type, suffix.trans ?_⟩
          rw [← ancestry]
          exact List.suffix_cons _ _

/-- **Origins are the chain of copies, and copying keeps the type.** A column that derives from
another one derives from whatever that one derives from, if the other one is alone under its name
in its set. -/
theorem lineage (h : Session sets labels ahead s) {src : Source} (based : src.Over sets) :
    (List.Forall₂ ColumnRef.CopyOf src.columns src.originals
      ∧ ∀ e, some e ∈ src.originals → e.Known sets labels)
    ∧ ∀ c ∈ src.columns,
      (c.isTableColumn = true ↔ ∃ t, .relation (.table t) ∈ sets ∧ c ∈ t.columns)
      ∧ ∀ d : ResultEntry, d.Known sets labels → d.Alone sets → c.derivesFrom d.key = true →
        c.type = d.type ∧ ∀ key, d.derivesFrom key = true → c.derivesFrom key = true := by
  refine ⟨?_, fun c hc => ?_⟩
  · induction based with
    | set hx => exact h.copied _ hx
    | join kind on _ _ ihl ihr =>
      refine ⟨List.rel_append ihl.1 ihr.1, fun e mem => ?_⟩
      rcases List.mem_append.1 mem with left | right
      · exact ihl.2 e left
      · exact ihr.2 e right
  · have known : (ResultEntry.column c).Known sets labels := based.known c hc
    refine ⟨?_, fun d hd alone derives => ?_⟩
    · obtain ⟨x, hx, hc⟩ := known
      rw [ColumnRef.isTableColumn, List.isEmpty_iff]
      exact h.origins_eq_nil_iff hx hc
    · obtain ⟨type, suffix⟩ := h.suffix_of_mem_ancestry hd alone known
        (ResultEntry.derivesFrom_iff.1 derives)
      refine ⟨type, fun key far => ?_⟩
      exact ResultEntry.derivesFrom_iff.2 (suffix.subset (ResultEntry.derivesFrom_iff.1 far))

/-- What the query and the alias copied in turn derives from the table. -/
theorem lineage_of_notes :
    (Session noteSets noteLabels [] ⟨6⟩ ∧ noteAlias.Over noteSets)
      ∧ ∃ c ∈ noteAlias.columns, c.isTableColumn = false
        ∧ (ResultEntry.column queryId).Known noteSets noteLabels
        ∧ (ResultEntry.column queryId).Alone noteSets
        ∧ c.derivesFrom queryId.key = true
        ∧ c.type = queryId.type ∧ c.derivesFrom noteId.ref.key = true := by
  have based : noteAlias.Over noteSets := .set List.mem_cons_self
  have hc : queryId.copy ⟨5⟩ "p" ∈ noteAlias.columns := List.mem_cons_self
  have known : (ResultEntry.column queryId).Known noteSets noteLabels :=
    ⟨noteQuery, noteQuery_mem, queryId_mem⟩
  have derives : (queryId.copy ⟨5⟩ "p").derivesFrom queryId.key = true := by decide
  obtain ⟨type, further⟩ :=
    ((lineage noteSession based).2 _ hc).2 (.column queryId) known queryId_alone derives
  exact ⟨⟨noteSession, based⟩, _, hc, rfl, known, queryId_alone, derives, type,
    further noteId.ref.key (by decide)⟩

/-- **Of two columns of one name either seems to be the original.** The identities as the alias has
them derive from the texts of the query, and not from what those derive from. -/
theorem misled_by_label :
    Session noteSets noteLabels [] ⟨6⟩
      ∧ ∃ c ∈ noteAlias.columns, ∃ d ∈ noteQuery.columns,
        c.derivesFrom d.key = true ∧ c.type.name ≠ d.type.name
          ∧ ∃ key, d.derivesFrom key = true ∧ c.derivesFrom key = false := by
  have hd : queryX bodyAsX ∈ noteQuery.columns := by simp [noteQuery_columns]
  have hc : (queryX idAsX).copy ⟨5⟩ "p" ∈ noteAlias.columns :=
    List.mem_map_of_mem (show queryX idAsX ∈ noteQuery.columns by simp [noteQuery_columns])
  exact ⟨noteSession, _, hc, _, hd, by decide, by decide, bodyAsX.key, by decide, by decide⟩

/-! ## Handles -/

/-- What is found has the identity searched for, or was copied from what has it. -/
theorem findColumn?_eq_some {columns : List ColumnRef} {key : ColumnKey} {c : ColumnRef}
    (h : findColumn? columns key = some c) : c ∈ columns ∧ c.derivesFrom key = true := by
  have keyed {p : ColumnRef → Bool} (found : columns.find? p = some c) : c ∈ columns ∧ p c = true :=
    ⟨List.mem_of_find?_eq_some found, List.find?_some found⟩
  rw [findColumn?, Option.orElse_eq_orElse, Option.orElse_eq_or, Option.or_eq_some_iff] at h
  rcases h with own | ⟨-, copied⟩
  · obtain ⟨mem, same⟩ := keyed own
    exact ⟨mem, Bool.or_eq_true_iff.2 (.inl same)⟩
  · exact keyed copied

/-- A handle that a source resolves is read with the descriptor of its column. -/
theorem type_of_resolve (h : Session sets labels ahead s) {src : Source} (based : src.Over sets)
    (hd : d.Known sets labels) (alone : d.Alone sets) {t : ValueType} {target : Target t}
    (key : target.key = d.key) (type : target.descriptor.erase = d.type) {c : Column t}
    (found : src.resolve target = .ok c) :
    c.ref ∈ src.columns ∧ c.ref.type = c.descriptor.erase := by
  unfold Source.resolve at found
  split at found
  case h_2 => cases found
  case h_1 ref search =>
    cases found
    obtain ⟨hc, derives⟩ := findColumn?_eq_some search
    refine ⟨hc, Eq.trans ?_ type.symm⟩
    refine (h.suffix_of_mem_ancestry hd alone (based.known ref hc) ?_).1
    rw [← key]
    exact ResultEntry.derivesFrom_iff.1 derives

end Session
end TypedSql
