import Mathlib.Data.Set.Finite.Basic
import TypedSql.Proofs.Schema.Placing

/-!
# Taking tables away

Where placing stops early, the tables left are taken away one after the other as long as there is
one that no remaining table refers to.

**Theorem (`mem_leftover_iff`).** In whatever order tables are taken away, those that remain are the
ones on a path of references from a circle to a circle.

A table cannot be placed just if a path leads from it to a circle: a table not placed refers to one
that is not placed, and going on like this among finitely many tables comes round. The same argument
against the direction of the references gives that each of the tables that remain is reached from a
circle. No table between circles is taken away, because one of those between them refers to it.
-/

namespace TypedSql.CreationOrder

/-! ## Going round -/

section Circles

variable {α : Type} {R : α → α → Prop} {S : List α} {i : α}

/-- Where each of finitely many things leads to another one, going on comes round. -/
theorem exists_circle (onward : ∀ a ∈ S, ∃ b ∈ S, R a b) (hi : i ∈ S) :
    ∃ c, Relation.ReflTransGen R i c ∧ Relation.TransGen R c c := by
  by_contra straight
  rw [not_exists] at straight
  let Reached := {a // a ∈ S ∧ Relation.ReflTransGen R i a}
  let Below (a b : Reached) : Prop := Relation.TransGen R b.1 a.1
  have finite : Finite Reached :=
    Set.Finite.subset (List.finite_toSet S) fun a (h : a ∈ S ∧ _) => h.1
  have trans : IsTrans _ Below := ⟨fun _ _ _ first second => second.trans first⟩
  have irrefl : Std.Irrefl Below := ⟨fun a circle => straight a.1 ⟨a.2.2, circle⟩⟩
  have wf : WellFounded Below := Finite.wellFounded_of_trans_of_irrefl Below
  obtain ⟨⟨a, ha, path⟩, -, last⟩ := wf.has_min Set.univ ⟨⟨i, hi, .refl⟩, trivial⟩
  obtain ⟨b, hb, step⟩ := onward a ha
  exact last ⟨b, hb, path.tail step⟩ trivial (.single step)

/-- On a path that leads from a circle to a circle. -/
def Between (R : α → α → Prop) (i : α) : Prop :=
  ∃ a b, Relation.TransGen R a a ∧ Relation.ReflTransGen R a i
    ∧ Relation.ReflTransGen R i b ∧ Relation.TransGen R b b

theorem Between.of_circle (circle : Relation.TransGen R i i) : Between R i :=
  ⟨i, i, circle, .refl, .refl, circle⟩

theorem between_swap : Between (Function.swap R) i ↔ Between R i := by
  unfold Between
  simp only [Relation.transGen_swap, Relation.reflTransGen_swap]
  constructor
  · rintro ⟨a, b, from_a, to_a, to_b, from_b⟩
    exact ⟨b, a, from_b, to_b, to_a, from_a⟩
  · rintro ⟨a, b, from_a, to_a, to_b, from_b⟩
    exact ⟨b, a, from_b, to_b, to_a, from_a⟩

/-- A path from circle to circle goes on. -/
theorem Between.next (h : Between R i) : ∃ j, R i j ∧ Between R j := by
  obtain ⟨a, b, start, before, behind, finish⟩ := h
  have onward : Relation.TransGen R i b := by
    rcases Relation.reflTransGen_iff_eq_or_transGen.1 behind with rfl | path
    · exact finish
    · exact path
  obtain ⟨j, step, rest⟩ := Relation.TransGen.head'_iff.1 onward
  exact ⟨j, step, a, b, start, before.tail step, rest, finish⟩

theorem Between.previous (h : Between R i) : ∃ j, R j i ∧ Between R j := by
  obtain ⟨j, step, between⟩ := (between_swap.2 h).next
  exact ⟨j, step, between_swap.1 between⟩

end Circles

variable {tables : List Table} {placed remaining rest start : List Nat} {i j k : Nat}

/-! ## What cannot be placed -/

/-- Where nothing is ready, a table is not placed just if a path leads from it to a circle. -/
theorem Placed.unplaced_iff (h : Placed tables placed) (stuck : next? tables placed = none)
    (hi : i < tables.length) : i ∉ placed ↔
      ∃ c, Relation.ReflTransGen (Edge tables) i c ∧ Relation.TransGen (Edge tables) c c := by
  constructor
  · intro unplaced
    have onward : ∀ a ∈ (List.range tables.length).filter (!placed.contains ·),
        ∃ b ∈ (List.range tables.length).filter (!placed.contains ·), Edge tables a b := by
      simp only [List.mem_filter, List.mem_range, Bool.not_eq_true', List.contains_eq_mem,
        decide_eq_false_iff_not]
      rintro a ⟨lt, old⟩
      by_contra settled
      refine next?_eq_none_iff.1 stuck a ⟨lt, old, fun b edge => ?_⟩
      by_contra new
      exact settled ⟨b, ⟨edge.lt_right, new⟩, edge⟩
    exact exists_circle onward (by simp [hi, unplaced])
  · rintro ⟨c, path, circle⟩ old
    refine h.no_circle c ?_ circle
    rcases Relation.reflTransGen_iff_eq_or_transGen.1 path with rfl | path
    · exact old
    · exact h.closed_path old path

/-! ## Taking away -/

/-- A table that no remaining one refers to is taken away. -/
def Peel (tables : List Table) (remaining rest : List Nat) : Prop :=
  ∃ i ∈ remaining, (∀ j ∈ remaining, ¬ Edge tables j i) ∧ rest = remaining.filter (· != i)

theorem length_filter_ne_lt (hi : i ∈ remaining) :
    (remaining.filter (· != i)).length < remaining.length :=
  List.length_filter_lt_length_iff_exists.2 ⟨i, hi, by simp⟩

theorem Peel.length_lt (h : Peel tables remaining rest) : rest.length < remaining.length := by
  obtain ⟨i, hi, -, rfl⟩ := h
  exact length_filter_ne_lt hi

/-- **Taking tables away ends, whichever is taken.** -/
theorem peel_wellFounded (tables : List Table) :
    WellFounded fun rest remaining => Peel tables remaining rest :=
  Subrelation.wf Peel.length_lt (measure List.length).wf

theorem isReferenced_eq_false_iff :
    isReferenced tables remaining i = false ↔ ∀ j ∈ remaining, ¬ Edge tables j i := by
  simp [isReferenced, Edge]

theorem peel_steps (remaining : List Nat) (fuel : Nat) :
    Relation.ReflTransGen (Peel tables) remaining (peel tables remaining fuel) := by
  induction fuel generalizing remaining with
  | zero => exact .refl
  | succ fuel ih =>
    unfold peel
    cases found : remaining.find? fun i => !isReferenced tables remaining i with
    | none => exact .refl
    | some i =>
      have free : isReferenced tables remaining i = false := by
        simpa using List.find?_some found
      exact .head ⟨i, List.mem_of_find?_eq_some found, isReferenced_eq_false_iff.1 free, rfl⟩ (ih _)

/-- Tables are taken away until each that remains is referred to. -/
theorem peel_stuck {fuel : Nat} (room : remaining.length ≤ fuel) :
    ∀ rest, ¬ Peel tables (peel tables remaining fuel) rest := by
  induction fuel generalizing remaining with
  | zero =>
    rintro rest ⟨i, hi, -⟩
    rw [List.length_eq_zero_iff.1 (Nat.le_zero.1 room)] at hi
    cases hi
  | succ fuel ih =>
    unfold peel
    cases found : remaining.find? fun i => !isReferenced tables remaining i with
    | none =>
      rintro rest ⟨i, hi, free, -⟩
      have referenced := List.find?_eq_none.1 found i hi
      rw [isReferenced_eq_false_iff.2 free] at referenced
      exact referenced rfl
    | some i =>
      have shorter := length_filter_ne_lt (List.mem_of_find?_eq_some found)
      exact ih (by omega)

theorem Peel.sublist (h : Peel tables remaining rest) : rest.Sublist remaining := by
  obtain ⟨i, -, -, rfl⟩ := h
  exact List.filter_sublist

theorem sublist_of_steps (steps : Relation.ReflTransGen (Peel tables) start rest) :
    rest.Sublist start := by
  induction steps with
  | refl => exact .refl _
  | tail _ step ih => exact step.sublist.trans ih

/-- No table between circles is taken away. -/
theorem Peel.mem_of_between (h : Peel tables remaining rest)
    (all : ∀ i, Between (Edge tables) i → i ∈ remaining) :
    ∀ i, Between (Edge tables) i → i ∈ rest := by
  obtain ⟨k, -, free, rfl⟩ := h
  intro i between
  obtain ⟨j, edge, before⟩ := between.previous
  have other : i ≠ k := fun same => free j (all j before) (same ▸ edge)
  exact List.mem_filter.2 ⟨all i between, by simpa using other⟩

theorem mem_of_between (steps : Relation.ReflTransGen (Peel tables) start rest)
    (all : ∀ i, Between (Edge tables) i → i ∈ start) :
    ∀ i, Between (Edge tables) i → i ∈ rest := by
  induction steps with
  | refl => exact all
  | tail _ step ih => exact step.mem_of_between ih

/-- Where nothing can be taken away, each table is reached from a circle. -/
theorem exists_circle_of_stuck (stuck : ∀ next, ¬ Peel tables rest next) (hi : i ∈ rest) :
    ∃ c, Relation.TransGen (Edge tables) c c ∧ Relation.ReflTransGen (Edge tables) c i := by
  have back : ∀ a ∈ rest, ∃ b ∈ rest, Function.swap (Edge tables) a b := by
    intro a ha
    by_contra free
    simp only [not_exists, not_and] at free
    exact stuck _ ⟨a, ha, free, rfl⟩
  obtain ⟨c, path, circle⟩ := exists_circle back hi
  exact ⟨c, Relation.transGen_swap.1 circle, Relation.reflTransGen_swap.1 path⟩

/-! ## Both loops -/

/-- The tables with references left. -/
def Loop.blocked (tables : List Table) (loop : Loop) : List Nat :=
  (List.range tables.length).filter (0 < loop.left ·)

/-- The positions that remain when nothing can be placed and then nothing can be taken away, in
whatever order tables are taken away. -/
def Leftover (tables : List Table) (rest : List Nat) : Prop :=
  ∃ loop, Loop.Reached tables loop ∧ loop.next tables = none
    ∧ Relation.ReflTransGen (Peel tables) (loop.blocked tables) rest
    ∧ ∀ next, ¬ Peel tables rest next

/-- Placing ends: every state of its loop leads to one where nothing is ready. -/
theorem Loop.Reached.exists_ended {loop : Loop} (h : Loop.Reached tables loop) :
    ∃ last, Loop.Reached tables last ∧ last.next tables = none := by
  cases stepped : loop.next tables with
  | none => exact ⟨loop, h, stepped⟩
  | some after => exact exists_ended (h.tail stepped)
termination_by tables.length - loop.order.length
decreasing_by
  obtain ⟨i, -, order⟩ := h.counting.order_next stepped
  have room : after.order.length ≤ tables.length := (h.counting.next stepped).placed.length_le
  rw [order, List.length_append, List.length_singleton] at room ⊢
  omega

/-- A loop that ended has references left for the tables not placed. -/
theorem Loop.Reached.mem_blocked {loop : Loop} (h : Loop.Reached tables loop)
    (ended : loop.next tables = none) :
    i ∈ loop.blocked tables ↔ i < tables.length ∧ i ∉ loop.order := by
  have stuck := h.counting.next_eq_none_iff.1 ended
  have left : 0 < loop.left i ↔ waiting tables loop.order i ≠ 0 := by
    rw [h.counting.left_eq]
    omega
  rw [blocked, List.mem_filter, List.mem_range, decide_eq_true_iff, left, ne_eq,
    waiting_eq_zero_iff]
  refine and_congr_right fun lt => not_congr ⟨fun settled => ?_, fun old j edge => ?_⟩
  · by_contra unplaced
    exact next?_eq_none_iff.1 stuck i ⟨lt, unplaced, settled⟩
  · exact h.counting.placed.closed old edge

/-- **What remains are the tables on paths from circles to circles.** -/
theorem mem_leftover_iff (h : Leftover tables rest) : i ∈ rest ↔ Between (Edge tables) i := by
  obtain ⟨loop, reached, ended, steps, stuck⟩ := h
  have idle := reached.counting.next_eq_none_iff.1 ended
  have unplaced {k : Nat} : k ∈ loop.blocked tables ↔ k < tables.length
      ∧ ∃ c, Relation.ReflTransGen (Edge tables) k c ∧ Relation.TransGen (Edge tables) c c := by
    rw [reached.mem_blocked ended]
    exact and_congr_right (reached.counting.placed.unplaced_iff idle)
  constructor
  · intro hi
    obtain ⟨-, b, behind, finish⟩ := unplaced.1 ((sublist_of_steps steps).subset hi)
    obtain ⟨a, start, before⟩ := exists_circle_of_stuck stuck hi
    exact ⟨a, b, start, before, behind, finish⟩
  · refine mem_of_between steps (fun k between => unplaced.2 ⟨?_, ?_⟩) i
    · obtain ⟨j, edge, -⟩ := between.next
      exact edge.lt
    · obtain ⟨a, b, -, -, behind, finish⟩ := between
      exact ⟨b, behind, finish⟩

theorem Leftover.sublist_range (h : Leftover tables rest) :
    rest.Sublist (List.range tables.length) := by
  obtain ⟨loop, -, -, steps, -⟩ := h
  exact (sublist_of_steps steps).trans List.filter_sublist

/-- What remains does not depend on the order of taking away. -/
theorem Leftover.eq {rest' : List Nat} (h : Leftover tables rest) (h' : Leftover tables rest') :
    rest = rest' := by
  have upwards := List.pairwise_lt_range.sublist h.sublist_range
  have upwards' := List.pairwise_lt_range.sublist h'.sublist_range
  refine List.Perm.eq_of_pairwise' upwards upwards' ?_
  refine (List.perm_ext_iff_of_nodup (upwards.imp Nat.ne_of_lt) (upwards'.imp Nat.ne_of_lt)).2 ?_
  intro i
  rw [mem_leftover_iff h, mem_leftover_iff h']

/-- Taking away the first table there is, as often as there are tables, is one of these ways. -/
theorem leftover_peel (tables : List Table) :
    Leftover tables (peel tables
      ((List.range tables.length).filter (!(place tables [] tables.length).contains ·))
      tables.length) := by
  obtain ⟨loop, reached, ended⟩ := Loop.Reached.exists_ended (.refl : Loop.Reached tables _)
  have blocked : (List.range tables.length).filter
      (!(place tables [] tables.length).contains ·) = loop.blocked tables := by
    refine List.filter_congr fun k hk => ?_
    have same : k ∈ loop.blocked tables ↔ _ := reached.mem_blocked ended
    rw [Loop.blocked, List.mem_filter, ← List.mem_range, and_congr_right_iff] at same
    rw [← reached.order_eq ended, Bool.eq_iff_iff, same hk]
    simp
  refine ⟨loop, reached, ended, ?_, ?_⟩
  · rw [blocked]
    exact peel_steps _ _
  · refine peel_stuck ?_
    exact (List.length_filter_le _ _).trans_eq List.length_range

end TypedSql.CreationOrder
