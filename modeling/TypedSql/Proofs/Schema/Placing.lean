import Mathlib.Data.Finset.Max
import Mathlib.Data.Fintype.Card
import Mathlib.Data.Fintype.EquivFin
import Mathlib.Data.List.Nodup
import TypedSql.Schema.CreationOrder

/-!
# Placing tables one after the other

A table is handled by its position in the list; `Edge tables i j` says that the table at position
`i` refers to the one at position `j`.

* **Placed lists (`Placed`).** Only a position whose references are all placed is added. Such a list
  has no position twice, and what a position refers to stands in front of it.
* **Circles (`Placed.full_iff`).** Placing stops with every position placed just if no path of
  references leads back to where it starts. A position without an unplaced reference is found by
  going down the references, which ends because there are finitely many positions.
* **Counters (`Loop.Reached.counting`).** A loop that keeps, for every table, the number of its
  references still to be placed, and the set of those where it has come down to zero, makes the same
  choices. Since no position refers to another twice, each counter is the length of a list.
-/

namespace TypedSql.CreationOrder

variable {tables : List Table} {placed : List Nat} {i j k : Nat} {id : SetId}

/-! ## References as edges -/

/-- The table at position `i` refers to the one at position `j`. -/
def Edge (tables : List Table) (i j : Nat) : Prop := j ∈ targets tables i

theorem of_position?_eq_some (h : position? tables id = some j) :
    ∃ t, tables[j]? = some t ∧ t.id = id := by
  have found := List.find?_some h
  simpa using found

theorem exists_position?_eq_some {t : Table} (h : t ∈ tables) :
    ∃ j, position? tables t.id = some j := by
  obtain ⟨i, hi, rfl⟩ := List.getElem_of_mem h
  refine Option.isSome_iff_exists.1 (List.find?_isSome.2 ⟨i, ?_, ?_⟩)
  · simpa using hi
  · simp [hi]

theorem edge_iff :
    Edge tables i j
      ↔ ∃ t, tables[i]? = some t ∧ ∃ id ∈ t.references, position? tables id = some j := by
  unfold Edge targets
  cases tables[i]? with
  | none => simp
  | some t => simp [List.mem_eraseDups]

theorem lt_length_of_getElem? {t : Table} (h : tables[i]? = some t) : i < tables.length :=
  (List.getElem?_eq_some_iff.1 h).1

theorem Edge.lt (h : Edge tables i j) : i < tables.length := by
  obtain ⟨t, ht, -⟩ := edge_iff.1 h
  exact lt_length_of_getElem? ht

theorem Edge.lt_right (h : Edge tables i j) : j < tables.length := by
  obtain ⟨t, -, id, -, found⟩ := edge_iff.1 h
  obtain ⟨u, hu, -⟩ := of_position?_eq_some found
  exact lt_length_of_getElem? hu

theorem nodup_eraseDups {α : Type} [BEq α] [LawfulBEq α] : ∀ l : List α, l.eraseDups.Nodup
  | [] => by rw [List.eraseDups_nil]; exact List.nodup_nil
  | a :: l => by
    rw [List.eraseDups_cons, List.nodup_cons, List.mem_eraseDups]
    exact ⟨by simp, nodup_eraseDups _⟩
termination_by l => l.length
decreasing_by exact Nat.lt_succ_of_le (List.length_filter_le _ l)

/-- Parallel references count once. -/
theorem nodup_targets (tables : List Table) (i : Nat) : (targets tables i).Nodup := by
  unfold targets
  cases tables[i]? with
  | none => exact List.nodup_nil
  | some t => exact nodup_eraseDups _

/-! ## References still waiting -/

theorem waiting_eq_zero_iff :
    waiting tables placed i = 0 ↔ ∀ j, Edge tables i j → j ∈ placed := by
  simp [waiting, Edge]

/-- Placing a position takes one reference off each table that refers to it. -/
theorem waiting_concat (h : j ∉ placed) :
    (waiting tables (placed ++ [j]) i : Int)
      = if j ∈ targets tables i then (waiting tables placed i : Int) - 1
        else waiting tables placed i := by
  have rest : (targets tables i).filter (!(placed ++ [j]).contains ·)
      = ((targets tables i).filter (!placed.contains ·)).erase j := by
    rw [((nodup_targets tables i).filter _).erase_eq_filter, List.filter_filter]
    refine List.filter_congr fun k _ => ?_
    by_cases same : k = j <;> simp [same]
  unfold waiting
  rw [rest, List.length_erase]
  by_cases edge : j ∈ targets tables i
  · have unplaced : j ∈ (targets tables i).filter (!placed.contains ·) := by simp [edge, h]
    have pos := List.length_pos_of_mem unplaced
    rw [if_pos unplaced, if_pos edge]
    omega
  · have absent : j ∉ (targets tables i).filter (!placed.contains ·) :=
      fun mem => edge (List.mem_of_mem_filter mem)
    rw [if_neg absent, if_neg edge]

/-! ## Ready positions -/

/-- The table has not been placed, and all it refers to has. -/
structure Ready (tables : List Table) (placed : List Nat) (i : Nat) : Prop where
  lt : i < tables.length
  unplaced : i ∉ placed
  settled : ∀ j, Edge tables i j → j ∈ placed

theorem ready_iff : Ready tables placed i ↔ i < tables.length
    ∧ (!placed.contains i && waiting tables placed i == 0) = true := by
  rw [Bool.and_eq_true, beq_iff_eq, waiting_eq_zero_iff]
  constructor
  · rintro ⟨lt, unplaced, settled⟩
    exact ⟨lt, by simpa using unplaced, settled⟩
  · rintro ⟨lt, unplaced, settled⟩
    exact ⟨lt, by simpa using unplaced, settled⟩

/-- The first of the ready positions comes next. -/
theorem next?_eq_some_iff :
    next? tables placed = some i ↔ Ready tables placed i ∧ ∀ k, Ready tables placed k → i ≤ k := by
  unfold next?
  rw [List.find?_range_eq_some, List.mem_range, ready_iff]
  constructor
  · rintro ⟨hi, lt, first⟩
    refine ⟨⟨lt, hi⟩, fun k hk => ?_⟩
    by_contra before
    have late := first k (Nat.lt_of_not_le before)
    rw [(ready_iff.1 hk).2] at late
    cases late
  · rintro ⟨⟨lt, hi⟩, first⟩
    refine ⟨hi, lt, fun k before => ?_⟩
    have unready : ¬ Ready tables placed k := fun hk => Nat.not_le_of_lt before (first k hk)
    rw [Bool.not_eq_true', ← Bool.not_eq_true]
    exact fun hk => unready (ready_iff.2 ⟨before.trans lt, hk⟩)

theorem next?_eq_none_iff : next? tables placed = none ↔ ∀ k, ¬ Ready tables placed k := by
  simp only [next?, List.find?_eq_none, List.mem_range, ready_iff, not_and]

/-! ## Placed lists -/

/-- The lists that come about by placing ready positions. -/
inductive Placed (tables : List Table) : List Nat → Prop
  | nil : Placed tables []
  | concat {placed : List Nat} {i : Nat} :
    Placed tables placed → Ready tables placed i → Placed tables (placed ++ [i])

namespace Placed

theorem nodup (h : Placed tables placed) : placed.Nodup := by
  induction h with
  | nil => exact List.nodup_nil
  | concat _ ready ih => exact List.nodup_append.2 ⟨ih, List.nodup_singleton _, by
      rintro a ha b hb rfl
      exact ready.unplaced (List.mem_singleton.1 hb ▸ ha)⟩

theorem lt (h : Placed tables placed) : ∀ i ∈ placed, i < tables.length := by
  induction h with
  | nil => exact List.forall_mem_nil _
  | concat _ ready ih => exact List.forall_mem_append.2 ⟨ih, by simpa using ready.lt⟩

theorem subperm_range (h : Placed tables placed) : placed.Subperm (List.range tables.length) :=
  List.subperm_of_subset h.nodup fun i hi => List.mem_range.2 (h.lt i hi)

theorem length_le (h : Placed tables placed) : placed.length ≤ tables.length := by
  simpa using h.subperm_range.length_le

/-- What a placed position refers to stands in front of it. -/
theorem front (h : Placed tables placed) :
    ∀ front i back, placed = front ++ i :: back → ∀ j, Edge tables i j → j ∈ front := by
  induction h with
  | nil =>
    intro front i back split
    simp at split
  | @concat placed last _ ready ih =>
    intro front i back split j edge
    rcases List.eq_nil_or_concat back with rfl | ⟨back, z, rfl⟩
    · obtain ⟨rfl, same⟩ := List.append_inj' split rfl
      rw [List.singleton_inj.1 same] at ready
      exact ready.settled j edge
    · have split : placed ++ [last] = (front ++ i :: back) ++ [z] := by simpa using split
      obtain ⟨rfl, -⟩ := List.append_inj' split rfl
      exact ih front i back rfl j edge

theorem closed (h : Placed tables placed) (hi : i ∈ placed) (edge : Edge tables i j) :
    j ∈ placed := by
  obtain ⟨front, back, rfl⟩ := List.append_of_mem hi
  exact List.mem_append_left _ (h.front front i back rfl j edge)

/-- No path of references leads out of a placed list. -/
theorem closed_path (h : Placed tables placed) (hi : i ∈ placed)
    (path : Relation.TransGen (Edge tables) i j) : j ∈ placed := by
  induction path with
  | single edge => exact h.closed hi edge
  | tail _ edge ih => exact h.closed ih edge

/-- No path of references in a placed list is a circle. -/
theorem no_circle (h : Placed tables placed) :
    ∀ i ∈ placed, ¬ Relation.TransGen (Edge tables) i i := by
  induction h with
  | nil => exact List.forall_mem_nil _
  | concat h ready ih =>
    refine List.forall_mem_append.2 ⟨ih, ?_⟩
    intro i hi circle
    obtain rfl := List.mem_singleton.1 hi
    obtain ⟨j, edge, path⟩ := (Relation.TransGen.head'_iff).1 circle
    rcases Relation.reflTransGen_iff_eq_or_transGen.1 path with rfl | path
    · exact ready.unplaced (ready.settled _ edge)
    · exact ready.unplaced (h.closed_path (ready.settled j edge) path)

theorem full_iff_mem (h : Placed tables placed) :
    placed.length = tables.length ↔ ∀ i < tables.length, i ∈ placed := by
  constructor
  · intro full i hi
    have perm := h.subperm_range.perm_of_length_le (by simp [full])
    exact perm.mem_iff.2 (List.mem_range.2 hi)
  · intro all
    have sub : (List.range tables.length).Subperm placed :=
      List.subperm_of_subset List.nodup_range fun i hi => all i (List.mem_range.1 hi)
    exact Nat.le_antisymm h.length_le (by simpa using sub.length_le)

/-- Without circles, going down the references ends. -/
theorem exists_ready (acyclic : ∀ i, ¬ Relation.TransGen (Edge tables) i i)
    (hi : i < tables.length) (unplaced : i ∉ placed) : ∃ k, Ready tables placed k := by
  let Below (a b : Fin tables.length) : Prop := Relation.TransGen (Edge tables) b a
  have trans : IsTrans _ Below := ⟨fun _ _ _ first second => second.trans first⟩
  have irrefl : Std.Irrefl Below := ⟨fun a => acyclic a⟩
  have wf : WellFounded Below := Finite.wellFounded_of_trans_of_irrefl Below
  obtain ⟨k, hk, least⟩ := wf.has_min {k | k.1 ∉ placed} ⟨⟨i, hi⟩, unplaced⟩
  refine ⟨k, k.2, hk, fun j edge => ?_⟩
  by_contra hj
  exact least ⟨j, edge.lt_right⟩ hj (Relation.TransGen.single edge)

/-- **Where nothing is ready, every position is placed just if there is no circle.** -/
theorem full_iff (h : Placed tables placed) (stuck : next? tables placed = none) :
    placed.length = tables.length ↔ ∀ i, ¬ Relation.TransGen (Edge tables) i i := by
  rw [h.full_iff_mem]
  constructor
  · intro all i circle
    obtain ⟨j, edge, -⟩ := Relation.TransGen.head'_iff.1 circle
    exact h.no_circle i (all i edge.lt) circle
  · intro acyclic i hi
    by_contra unplaced
    obtain ⟨k, ready⟩ := exists_ready acyclic hi unplaced
    exact next?_eq_none_iff.1 stuck k ready

end Placed

theorem placed_place (h : Placed tables placed) (fuel : Nat) :
    Placed tables (place tables placed fuel) := by
  induction fuel generalizing placed with
  | zero => exact h
  | succ fuel ih =>
    unfold place
    cases found : next? tables placed with
    | none => exact h
    | some i => exact ih (h.concat (next?_eq_some_iff.1 found).1)

theorem place_of_stuck (stuck : next? tables placed = none) (fuel : Nat) :
    place tables placed fuel = placed := by
  cases fuel with
  | zero => rfl
  | succ fuel => simp only [place, stuck]

/-- Placing goes on until nothing is ready, if there is room for every table. -/
theorem next?_place (h : Placed tables placed) {fuel : Nat}
    (room : tables.length ≤ placed.length + fuel) :
    next? tables (place tables placed fuel) = none := by
  induction fuel generalizing placed with
  | zero =>
    refine next?_eq_none_iff.2 fun k ready => ready.unplaced ?_
    exact h.full_iff_mem.1 (Nat.le_antisymm h.length_le room) k ready.lt
  | succ fuel ih =>
    unfold place
    cases found : next? tables placed with
    | none => exact found
    | some i =>
      refine ih (h.concat (next?_eq_some_iff.1 found).1) ?_
      rw [List.length_append, List.length_singleton]
      omega

/-! ## The loop with counters -/

/-- How many references of each table are left, which tables have none left and are not placed, and
the tables placed. -/
structure Loop where
  left : Nat → Int
  ready : Finset Nat
  order : List Nat

namespace Loop

/-- Every reference is left. -/
def start (tables : List Table) : Loop where
  left k := (targets tables k).length
  ready := (Finset.range tables.length).filter fun k => (targets tables k).length = 0
  order := []

/-- Takes the first of the ready tables out and one off the counter of each table that refers to
it; those whose counter comes down to zero are ready then. -/
def next (tables : List Table) (loop : Loop) : Option Loop :=
  if h : loop.ready.Nonempty then
    let i := loop.ready.min' h
    let left k := if i ∈ targets tables k then loop.left k - 1 else loop.left k
    let freed := (Finset.range tables.length).filter fun k => i ∈ targets tables k ∧ left k = 0
    some { left, ready := loop.ready.erase i ∪ freed, order := loop.order ++ [i] }
  else none

/-- The states of the loop. -/
def Reached (tables : List Table) : Loop → Prop :=
  Relation.ReflTransGen (fun loop loop' => loop.next tables = some loop') (start tables)

/-- What the loop keeps up. -/
structure Counting (tables : List Table) (loop : Loop) : Prop where
  placed : Placed tables loop.order
  left_eq : ∀ k, loop.left k = waiting tables loop.order k
  mem_ready : ∀ k, k ∈ loop.ready ↔ Ready tables loop.order k

variable {loop loop' : Loop}

theorem counting_start (tables : List Table) : Counting tables (start tables) where
  placed := .nil
  left_eq k := by simp [start, waiting]
  mem_ready k := by
    rw [ready_iff]
    simp [start, waiting]

/-- The loop takes the table that comes next. -/
theorem Counting.order_next (h : Counting tables loop) (stepped : loop.next tables = some loop') :
    ∃ i, next? tables loop.order = some i ∧ loop'.order = loop.order ++ [i] := by
  unfold next at stepped
  split at stepped
  · rename_i some_ready
    cases stepped
    refine ⟨_, next?_eq_some_iff.2 ⟨?_, fun k hk => ?_⟩, rfl⟩
    · exact (h.mem_ready _).1 (loop.ready.min'_mem some_ready)
    · exact loop.ready.min'_le k ((h.mem_ready k).2 hk)
  · cases stepped

theorem Counting.next_eq_none_iff (h : Counting tables loop) :
    loop.next tables = none ↔ next? tables loop.order = none := by
  rw [next?_eq_none_iff]
  unfold next
  split
  · rename_i some_ready
    obtain ⟨k, hk⟩ := some_ready
    exact iff_of_false (by simp) fun stuck => stuck k ((h.mem_ready k).1 hk)
  · rename_i none_ready
    refine iff_of_true rfl fun k hk => none_ready ⟨k, (h.mem_ready k).2 hk⟩

theorem Counting.next (h : Counting tables loop) (stepped : loop.next tables = some loop') :
    Counting tables loop' := by
  unfold Loop.next at stepped
  split at stepped
  swap
  · cases stepped
  rename_i some_ready
  cases stepped
  set i := loop.ready.min' some_ready
  have ready : Ready tables loop.order i := (h.mem_ready i).1 (loop.ready.min'_mem some_ready)
  have left_eq (k : Nat) : (if i ∈ targets tables k then loop.left k - 1 else loop.left k)
      = waiting tables (loop.order ++ [i]) k := by
    rw [waiting_concat ready.unplaced, h.left_eq]
  refine ⟨h.placed.concat ready, left_eq, fun k => ?_⟩
  simp only [left_eq, Finset.mem_union, Finset.mem_erase, Finset.mem_filter, Finset.mem_range,
    h.mem_ready, Int.natCast_eq_zero, waiting_eq_zero_iff]
  constructor
  · rintro (⟨other, hk⟩ | ⟨lt, edge, settled⟩)
    · refine ⟨hk.lt, ?_, fun j hj => List.mem_append_left _ (hk.settled j hj)⟩
      simpa [other] using hk.unplaced
    · -- a table that refers to `i` cannot be placed before it
      refine ⟨lt, fun placed => ready.unplaced ?_, settled⟩
      rcases List.mem_append.1 placed with old | new
      · exact h.placed.closed old edge
      · exact ready.settled i (List.mem_singleton.1 new ▸ edge)
  · intro hk
    have old : k ∉ loop.order := fun old => hk.unplaced (List.mem_append_left _ old)
    have other : k ≠ i := fun same => hk.unplaced (by simp [same])
    by_cases edge : i ∈ targets tables k
    · exact .inr ⟨hk.lt, edge, hk.settled⟩
    · refine .inl ⟨other, hk.lt, old, fun j hj => ?_⟩
      rcases List.mem_append.1 (hk.settled j hj) with before | last
      · exact before
      · exact absurd (List.mem_singleton.1 last ▸ hj) edge

theorem Reached.counting (h : Reached tables loop) : Counting tables loop := by
  induction h with
  | refl => exact counting_start tables
  | tail _ stepped ih => exact ih.next stepped

theorem Reached.left_nonneg (h : Reached tables loop) (k : Nat) : 0 ≤ loop.left k := by
  rw [h.counting.left_eq]
  exact Int.natCast_nonneg _

/-- Placing goes on from every state of the loop to the same end. -/
theorem Reached.place_eq (h : Reached tables loop) :
    place tables loop.order (tables.length - loop.order.length)
      = place tables [] tables.length := by
  induction h with
  | refl => rfl
  | @tail loop loop' before stepped ih =>
    have h : Counting tables loop := Reached.counting before
    obtain ⟨i, found, order⟩ := h.order_next stepped
    have room : loop'.order.length ≤ tables.length := (h.next stepped).placed.length_le
    rw [order, List.length_append, List.length_singleton] at room ⊢
    rw [← ih, show tables.length - loop.order.length
      = (tables.length - (loop.order.length + 1)) + 1 by omega]
    simp only [place, found]

/-- **The loop with counters places the tables that placing by readiness does.** -/
theorem Reached.order_eq (h : Reached tables loop) (ended : loop.next tables = none) :
    loop.order = place tables [] tables.length := by
  rw [← h.place_eq, place_of_stuck (h.counting.next_eq_none_iff.1 ended)]

end Loop
end TypedSql.CreationOrder
