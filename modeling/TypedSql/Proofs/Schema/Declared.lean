import Mathlib.Data.List.Nodup
import TypedSql.Proofs.Schema.Built

/-!
# Tables side by side

Any number of drafts may be open at a time, and columns are added to any of them. A draft gets its
identity from a supply when it is started; it is used up when its table is built, and may be given
up before.

**Theorem (`Declared.eq_of_id_eq`).** A table is determined by its identity.

The invariant is about the identities of drafts and tables together: no two are equal, and all are
behind those still to come.
-/

namespace TypedSql

/-- The open drafts and the tables built, with the supply that is left. -/
inductive Declared : List TableDraft → List Table → Supply → Prop
  | start : Declared [] [] {}
  | otherSet {drafts : List TableDraft} {tables : List Table} {s : Supply} :
    Declared drafts tables s → Declared drafts tables s.set.2
  | param {drafts : List TableDraft} {tables : List Table} {s : Supply} :
    Declared drafts tables s → Declared drafts tables s.param.2
  | draft {drafts : List TableDraft} {tables : List Table} {s : Supply} (name : String) :
    Declared drafts tables s → Declared ({ id := s.set.1, name } :: drafts) tables s.set.2
  | add {front back : List TableDraft} {d d' : TableDraft} {tables : List Table} {s : Supply}
    {t : ValueType} {spec : ColumnSpec t} {c : Column t} :
    Declared (front ++ d :: back) tables s → d.add spec = .ok (c, d') →
      Declared (front ++ d' :: back) tables s
  | addComposite {front back : List TableDraft} {d d' : TableDraft} {tables : List Table}
    {s : Supply} {α : Type} {name : String} {kind : CompositeKind α} {nullable : Bool}
    {c : CompositeColumn α} :
    Declared (front ++ d :: back) tables s → d.addComposite name kind nullable = .ok (c, d') →
      Declared (front ++ d' :: back) tables s
  | giveUp {front back : List TableDraft} {d : TableDraft} {tables : List Table} {s : Supply} :
    Declared (front ++ d :: back) tables s → Declared (front ++ back) tables s
  | build {front back : List TableDraft} {d : TableDraft} {t : Table} {tables : List Table}
    {s : Supply} :
    Declared (front ++ d :: back) tables s → d.build = .ok t →
      Declared (front ++ back) (t :: tables) s

namespace Declared

variable {drafts : List TableDraft} {tables : List Table} {s : Supply}

/-- The identities handed out to drafts and tables. -/
def ids (drafts : List TableDraft) (tables : List Table) : List SetId :=
  drafts.map TableDraft.id ++ tables.map Table.id

/-- A draft in any place, by itself in front. -/
theorem ids_perm (front back : List TableDraft) (d : TableDraft) (tables : List Table) :
    (ids (front ++ d :: back) tables).Perm (d.id :: ids (front ++ back) tables) := by
  simp only [ids, List.map_append, List.map_cons, List.append_assoc, List.cons_append]
  exact List.perm_middle

/-- Building a table takes the identity of its draft. -/
theorem ids_cons_perm (drafts : List TableDraft) (t : Table) (tables : List Table) :
    (ids drafts (t :: tables)).Perm (t.id :: ids drafts tables) := by
  simp only [ids, List.map_cons]
  exact List.perm_middle

/-- Identities handed out are behind those still to come. -/
theorem index_lt (h : Declared drafts tables s) : ∀ id ∈ ids drafts tables, id.index < s.next := by
  induction h with
  | start => simp [ids]
  | otherSet _ ih | param _ ih => exact fun id hid => Nat.lt_succ_of_lt (ih id hid)
  | draft name _ ih =>
    intro id hid
    rcases List.mem_cons.1 hid with rfl | old
    · exact Nat.lt_succ_self _
    · exact Nat.lt_succ_of_lt (ih id old)
  | add _ added ih =>
    obtain ⟨rfl, -⟩ := TableDraft.add_eq_ok added
    simpa [ids] using ih
  | addComposite _ added ih =>
    obtain ⟨rfl, -⟩ := TableDraft.addComposite_eq_ok added
    simpa [ids] using ih
  | giveUp _ ih =>
    intro id hid
    exact ih id ((ids_perm _ _ _ _).mem_iff.2 (List.mem_cons_of_mem _ hid))
  | build _ built ih =>
    obtain ⟨-, rfl⟩ := TableDraft.build_eq_ok built
    intro id hid
    exact ih id ((ids_perm _ _ _ _).mem_iff.2 ((ids_cons_perm _ _ _).mem_iff.1 hid))

theorem nodup_ids (h : Declared drafts tables s) : (ids drafts tables).Nodup := by
  induction h with
  | start => exact List.nodup_nil
  | otherSet _ ih | param _ ih => exact ih
  | @draft _ _ s name h ih =>
    refine List.nodup_cons.2 ⟨fun old => ?_, ih⟩
    exact Nat.lt_irrefl _ (h.index_lt s.set.1 old)
  | add _ added ih =>
    obtain ⟨rfl, -⟩ := TableDraft.add_eq_ok added
    simpa [ids] using ih
  | addComposite _ added ih =>
    obtain ⟨rfl, -⟩ := TableDraft.addComposite_eq_ok added
    simpa [ids] using ih
  | giveUp _ ih => exact ((ids_perm _ _ _ _).nodup_iff.1 ih).of_cons
  | build _ built ih =>
    obtain ⟨-, rfl⟩ := TableDraft.build_eq_ok built
    exact (ids_cons_perm _ _ _).nodup_iff.2 ((ids_perm _ _ _ _).nodup_iff.1 ih)

/-- **A table is determined by its identity.** -/
theorem eq_of_id_eq (h : Declared drafts tables s) :
    ∀ t ∈ tables, ∀ u ∈ tables, t.id = u.id → t = u := by
  have nodup : (tables.map Table.id).Nodup := (List.nodup_append.1 h.nodup_ids).2.1
  exact fun t ht u hu same => List.inj_on_of_nodup_map nodup ht hu same

end Declared

end TypedSql
