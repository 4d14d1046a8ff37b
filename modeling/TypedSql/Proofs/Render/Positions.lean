import TypedSql.Render.Seed

/-!
# Positions of tokens

**Theorem (`Positions.get_ofSlots`).** Recorded slot by slot, a token is found at exactly the slots
that carry it, in ascending order.

A seed is indexed if its positions are those of its slots. Copies of an indexed seed are indexed,
whatever their text.
-/

namespace TypedSql

namespace Positions

theorem get_push (ps : Positions) (id other : ParamId) (i : Nat) :
    (ps.push id i).get other = if other = id then ps.get other ++ [i] else ps.get other := by
  induction ps with
  | nil =>
    simp only [push, get, beq_iff_eq, eq_comm (a := other)]
    split <;> rfl
  | cons entry rest ih =>
    obtain ⟨known, is⟩ := entry
    by_cases same : known = id
    · subst same
      by_cases asked : other = known
      · simp [push, get, asked]
      · simp [push, get, asked, Ne.symm asked]
    · by_cases asked : known = other
      · simp [push, get, asked, asked ▸ same]
      · simp [push, get, same, asked, ih]

theorem get_record (ps : Positions) (s : Slot) (i : Nat) (id : ParamId) :
    (ps.record s i).get id = ps.get id ++ if s.param = some id then [i] else [] := by
  unfold record
  cases s.param with
  | none => simp
  | some other =>
    simp only [get_push, Option.some.injEq, eq_comm (a := id)]
    split <;> simp

/-- Records slots one after the other, the first at position `i`. -/
def recordAll (ps : Positions) (i : Nat) : List Slot → Positions
  | [] => ps
  | s :: rest => (ps.record s i).recordAll (i + 1) rest

theorem recordAll_append (ps : Positions) (i : Nat) (xs ys : List Slot) :
    ps.recordAll i (xs ++ ys) = (ps.recordAll i xs).recordAll (i + xs.length) ys := by
  induction xs generalizing ps i with
  | nil => rfl
  | cons s rest ih =>
    rw [List.cons_append, recordAll, ih, recordAll, List.length_cons, Nat.add_assoc,
      Nat.add_comm 1]

/-- The slots that carry a token, the first slot being at position `i`. -/
def carriers (id : ParamId) (i : Nat) (slots : List Slot) : List Nat :=
  (List.range' i slots.length).filter fun j => (slots[j - i]?.bind Slot.param) == some id

theorem carriers_cons (id : ParamId) (i : Nat) (s : Slot) (rest : List Slot) :
    carriers id i (s :: rest)
      = (if s.param = some id then [i] else []) ++ carriers id (i + 1) rest := by
  have later : ∀ j ∈ List.range' (i + 1) rest.length,
      (((s :: rest)[j - i]?.bind Slot.param) == some id)
        = ((rest[j - (i + 1)]?.bind Slot.param) == some id) := by
    intro j hj
    have below : i + 1 ≤ j := (List.mem_range'_1.1 hj).1
    obtain ⟨k, rfl⟩ := Nat.exists_eq_add_of_le below
    rw [show i + 1 + k - i = k + 1 by omega, Nat.add_sub_cancel_left, List.getElem?_cons_succ]
  rw [carriers, List.length_cons, List.range'_succ, List.filter_cons, List.filter_congr later,
    Nat.sub_self, List.getElem?_cons_zero, Option.bind_some]
  by_cases carries : s.param = some id
  · simp [carries, carriers]
  · simp [carries, carriers]

theorem get_recordAll (ps : Positions) (i : Nat) (slots : List Slot) (id : ParamId) :
    (ps.recordAll i slots).get id = ps.get id ++ carriers id i slots := by
  induction slots generalizing ps i with
  | nil => exact (List.append_nil _).symm
  | cons s rest ih => rw [recordAll, ih, get_record, carriers_cons, List.append_assoc]

/-- The positions of slots recorded in order. -/
def ofSlots (slots : List Slot) : Positions := recordAll [] 0 slots

theorem get_ofSlots (slots : List Slot) (id : ParamId) :
    (ofSlots slots).get id
      = (List.range slots.length).filter fun i => (slots[i]?.bind Slot.param) == some id := by
  rw [ofSlots, get_recordAll, List.range_eq_range']
  rfl

end Positions

namespace Seed

/-- The seed with those slots, recorded in order. -/
def ofSlots (sql : String) (slots : List Slot) (columns : List ResultColumn) : Seed :=
  ⟨sql, slots, .ofSlots slots, columns⟩

/-- Every token is registered at the slots that carry it. -/
def Indexed (s : Seed) : Prop := s.registered = .ofSlots s.params

theorem indexed_ofSlots (sql : String) (slots : List Slot) (columns : List ResultColumn) :
    (ofSlots sql slots columns).Indexed := rfl

variable {s : Seed} {id : ParamId} {i : Nat}

theorem Indexed.withSql (h : s.Indexed) (sql : String) : (s.withSql sql).Indexed := h

theorem Indexed.countRows (h : s.Indexed) (id : SetId) : (s.countRows id).Indexed := h

/-- The stored positions are those of the slots that carry the token. -/
theorem Indexed.positions_eq (h : s.Indexed) (id : ParamId) :
    s.positions id
      = (List.range s.params.length).filter fun i => (s.params[i]?.bind Slot.param) == some id := by
  rw [positions, h, Positions.get_ofSlots]

theorem Indexed.mem_positions (h : s.Indexed) :
    i ∈ s.positions id ↔ ∃ slot, s.params[i]? = some slot ∧ slot.param = some id := by
  rw [h.positions_eq, List.mem_filter, List.mem_range, beq_iff_eq, Option.bind_eq_some_iff]
  refine and_iff_right_of_imp ?_
  rintro ⟨slot, found, -⟩
  exact (List.getElem?_eq_some_iff.1 found).1

theorem Indexed.pairwise_positions (h : s.Indexed) (id : ParamId) :
    (s.positions id).Pairwise (· < ·) := by
  rw [h.positions_eq]
  exact List.pairwise_lt_range.filter _

/-- A token has no position exactly if no slot carries it. -/
theorem Indexed.positions_eq_nil_iff (h : s.Indexed) :
    s.positions id = [] ↔ ∀ slot ∈ s.params, slot.param ≠ some id := by
  rw [List.eq_nil_iff_forall_not_mem]
  constructor
  · intro none slot hslot carries
    obtain ⟨i, hi⟩ := List.mem_iff_getElem?.1 hslot
    exact none i (h.mem_positions.2 ⟨slot, hi, carries⟩)
  · intro none i hi
    obtain ⟨slot, found, carries⟩ := h.mem_positions.1 hi
    exact none slot (List.mem_of_getElem? found) carries

end Seed
end TypedSql
