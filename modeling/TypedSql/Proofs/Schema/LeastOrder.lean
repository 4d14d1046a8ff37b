import Mathlib.Data.List.Lex
import TypedSql.Proofs.Schema.CreationOrder

/-!
# The first of all orders of creation

A list of tables can be put in order in many ways that have referenced tables in front. An order is
a list of positions, and orders are compared at the first place where they differ.

**Theorem (`creationOrder_least`).** The order of creation is the least of all orders with
referenced tables in front; tables that stand in such an order already stay where they are.

Any other order goes along with the placed positions for a while. Where it leaves them, its next
position is one that could have been placed too, and of those the first one was taken.
-/

namespace TypedSql

namespace CreationOrder

variable {tables : List Table} {placed positions before behind rest : List Nat} {i j k : Nat}

/-! ## Orders by position -/

/-- Every table once, by its position, and behind the tables it refers to. -/
structure Arranged (tables : List Table) (positions : List Nat) : Prop where
  perm : positions.Perm (List.range tables.length)
  ordered : Ordered tables (positions.filterMap (tables[·]?))

theorem Arranged.lt (h : Arranged tables positions) (hi : i ∈ positions) : i < tables.length :=
  List.mem_range.1 (h.perm.mem_iff.1 hi)

theorem Arranged.nodup (h : Arranged tables positions) : positions.Nodup :=
  h.perm.nodup_iff.2 List.nodup_range

/-- What a position refers to stands in front of it. -/
theorem Arranged.front (h : Arranged tables (before ++ i :: behind)) (nodup : tables.Nodup)
    (edge : Edge tables i j) : j ∈ before := by
  obtain ⟨t, ht, -⟩ := edge_iff.1 edge
  obtain ⟨u, hu⟩ : ∃ u, tables[j]? = some u := ⟨_, List.getElem?_eq_getElem edge.lt_right⟩
  have split : (before ++ i :: behind).filterMap (tables[·]?)
      = before.filterMap (tables[·]?) ++ t :: behind.filterMap (tables[·]?) := by
    rw [List.filterMap_append, List.filterMap_cons_some ht]
  have earlier := h.ordered.front _ t _ split u (refers_of_edge edge ht hu)
  obtain ⟨k, hk, at_k⟩ := List.mem_filterMap.1 earlier
  have same : j = k := (List.getElem?_inj edge.lt_right nodup).1 (hu.trans at_k.symm)
  exact same ▸ hk

/-- The position behind placed ones could be placed next. -/
theorem Arranged.ready (h : Arranged tables (placed ++ k :: rest)) (nodup : tables.Nodup) :
    Ready tables placed k where
  lt := h.lt (List.mem_append_right _ List.mem_cons_self)
  unplaced old := (List.nodup_append.1 h.nodup).2.2 k old k List.mem_cons_self rfl
  settled _ edge := h.front nodup edge

/-- A position that could be placed next is still to come. -/
theorem Arranged.mem_of_ready (h : Arranged tables (placed ++ rest))
    (ready : Ready tables placed i) : i ∈ rest :=
  (List.mem_append.1 (h.perm.mem_iff.2 (List.mem_range.2 ready.lt))).resolve_left ready.unplaced

theorem Arranged.next?_le (h : Arranged tables (placed ++ k :: rest)) (nodup : tables.Nodup) :
    ∃ i ≤ k, Ready tables placed i ∧ next? tables placed = some i := by
  have ready := h.ready nodup
  cases found : next? tables placed with
  | none => exact absurd ready (next?_eq_none_iff.1 found k)
  | some i =>
    obtain ⟨first, least⟩ := next?_eq_some_iff.1 found
    exact ⟨i, least k ready, first, rfl⟩

/-! ## Placing against other orders -/

theorem place_succ (found : next? tables placed = some i) (fuel : Nat) :
    place tables placed (fuel + 1) = place tables (placed ++ [i]) fuel := by
  simp only [place, found]

theorem exists_place_eq_append (tables : List Table) (placed : List Nat) (fuel : Nat) :
    ∃ more, place tables placed fuel = placed ++ more := by
  induction fuel generalizing placed with
  | zero => exact ⟨[], (List.append_nil _).symm⟩
  | succ fuel ih =>
    cases found : next? tables placed with
    | none => exact ⟨[], by rw [place_of_stuck found, List.append_nil]⟩
    | some i =>
      obtain ⟨more, h⟩ := ih (placed ++ [i])
      exact ⟨i :: more, by rw [place_succ found, h, ← List.append_cons]⟩

/-- Placing goes along with an order, or leaves it for a smaller position. -/
theorem Arranged.place_le (nodup : tables.Nodup) (h : Arranged tables (placed ++ rest)) :
    place tables placed rest.length = placed ++ rest
      ∨ List.Lex (· < ·) (place tables placed rest.length) (placed ++ rest) := by
  induction rest generalizing placed with
  | nil => exact .inl (List.append_nil _).symm
  | cons k rest ih =>
    obtain ⟨i, le, -, found⟩ := h.next?_le nodup
    rw [List.length_cons, place_succ found]
    rcases Nat.eq_or_lt_of_le le with rfl | less
    · rw [List.append_cons placed i rest] at h ⊢
      exact ih h
    · obtain ⟨more, placing⟩ := exists_place_eq_append tables (placed ++ [i]) rest.length
      rw [placing, ← List.append_cons]
      exact .inr (List.Lex.append_left _ (.rel less) placed)

/-- Placing goes along with an order that goes on upwards. -/
theorem Arranged.place_eq (nodup : tables.Nodup) (h : Arranged tables (placed ++ rest))
    (upwards : rest.Pairwise (· < ·)) : place tables placed rest.length = placed ++ rest := by
  induction rest generalizing placed with
  | nil => exact (List.append_nil _).symm
  | cons k rest ih =>
    obtain ⟨i, le, ready, found⟩ := h.next?_le nodup
    obtain ⟨first, onwards⟩ := List.pairwise_cons.1 upwards
    have same : i = k := by
      rcases List.mem_cons.1 (h.mem_of_ready ready) with same | later
      · exact same
      · exact absurd (first i later) (Nat.not_lt.2 le)
    rw [List.append_cons placed k rest] at h ⊢
    rw [List.length_cons, place_succ found, same]
    exact ih h onwards

theorem arranged_range (h : Ordered tables tables) :
    Arranged tables (List.range tables.length) where
  perm := .refl _
  ordered := by rwa [filterMap_getElem?_range]

end CreationOrder

open CreationOrder

variable {tables declared order : List Table} {drafts : List TableDraft} {s : Supply}

theorem not_repeats_of_eq_ok (found : creationOrder tables = .ok order) : ¬ Repeats tables := by
  intro repeats
  obtain ⟨name, failed⟩ := creationOrder_eq_duplicateTable_iff.2 repeats
  rw [found] at failed
  cases failed

/-- **The order of creation is the least of all orders with referenced tables in front.** A list
that has them in front stays as it is. -/
theorem creationOrder_least (h : Declared drafts declared s)
    (listed : ∀ t ∈ tables, t ∈ declared) :
    (∀ order, creationOrder tables = .ok order →
      ∃ positions, order = positions.filterMap (tables[·]?) ∧ Arranged tables positions
        ∧ ∀ other, Arranged tables other → positions = other ∨ List.Lex (· < ·) positions other)
    ∧ (¬ Repeats tables → Ordered tables tables → creationOrder tables = .ok tables) := by
  have unique : Unique tables := .of_declared h listed
  refine ⟨fun order found => ?_, fun distinct sorted => ?_⟩
  · have distinct := not_repeats_of_eq_ok found
    have nodup := nodup_of_not_repeats distinct
    obtain ⟨full, rfl⟩ := (creationOrder_eq_ok_iff distinct).1 found
    have placed : Placed tables (place tables [] tables.length) := placed_place .nil _
    refine ⟨_, rfl, ⟨?_, placed.ordered unique nodup full⟩, fun other arranged => ?_⟩
    · exact placed.subperm_range.perm_of_length_le (by simp [full])
    · have length : other.length = tables.length := by simpa using arranged.perm.length_eq
      rw [← length]
      exact Arranged.place_le nodup arranged
  · have nodup := nodup_of_not_repeats distinct
    have kept : place tables [] (List.range tables.length).length = List.range tables.length :=
      Arranged.place_eq nodup (arranged_range sorted) List.pairwise_lt_range
    rw [List.length_range] at kept
    rw [creationOrder_eq_ok_iff distinct, kept, filterMap_getElem?_range, List.length_range]
    exact ⟨rfl, rfl⟩

/-! ### A shelf with a cover -/

def covers : Table := pointing ⟨3⟩ "Cover" "id" none

/-- Authors come first, though covers could, and covers come last, as they are declared. In the
order found nothing moves any more. -/
theorem creationOrder_least_of_covered :
    let tables := [books, authors, covers]
    let order := [authors, books, covers]
    Declared [] [covers, books, authors] ⟨4⟩ ∧ creationOrder tables = .ok order
      ∧ (∃ positions, order = positions.filterMap (tables[·]?) ∧ Arranged tables positions
        ∧ ∀ other, Arranged tables other → positions = other ∨ List.Lex (· < ·) positions other)
      ∧ ¬ Repeats order ∧ Ordered order order ∧ creationOrder order = .ok order := by
  intro tables order
  have declared : Declared [] [covers, books, authors] ⟨4⟩ :=
    .pointing declared_shelf (by decide) (by decide) _
  have listed : ∀ t ∈ tables, t ∈ [covers, books, authors] := by simp [tables]
  have listed' : ∀ t ∈ order, t ∈ [covers, books, authors] := by simp [order]
  obtain ⟨least, kept⟩ := creationOrder_least declared listed'
  have found : creationOrder tables = .ok order := by rfl
  have distinct : ¬ Repeats order := duplicate?_eq_none_iff.1 rfl
  have ordered : Ordered order order := by
    obtain ⟨positions, same, arranged, -⟩ := least order rfl
    have ordered := arranged.ordered
    rwa [← same] at ordered
  exact ⟨declared, found, (creationOrder_least declared listed).1 order found, distinct, ordered,
    kept distinct ordered⟩

end TypedSql
