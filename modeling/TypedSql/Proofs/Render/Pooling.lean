import Mathlib.Data.List.Nodup
import TypedSql.Proofs.Render.Placeholders
import TypedSql.Render.Lending

/-!
# Building with any pool

**Theorem (`Statement.buildWith_pool_independent`).** What a statement is built to does not depend
on the pool its builders come from, and the build gives back as many builders as it takes.

**Theorem (`Statement.fst_buildWith_eq_of_shared`).** Nor does it depend on what other threads did
with the pool before, whether they found it locked or not.

A pool is reached by handing builders out and taking them back, whoever writes into them meanwhile.
Two facts are kept on the way: idle builders are empty, and the counters account for every builder
in use. The first makes the text that of the pieces. The second says what a build leaves behind,
once the builders of nested queries are counted as they start and end.
-/

namespace TypedSql

/-! ## The states of a pool -/

namespace Pool

/-- How often a builder was handed out. -/
def acquired (p : Pool) : Nat := p.hits + p.misses

/-- How often one was taken back. It was handed out again since, dropped, or is idle. -/
def released (p : Pool) : Nat := p.hits + p.dropped + p.idle.length

/-- Builders handed out and not yet taken back. -/
def inUse (p : Pool) : Nat := p.acquired - p.released

/-- The pool is reached from a new one by handing out and taking back, with that many builders
still out. Nothing is known of a builder that comes back. -/
inductive Reached : Pool → Nat → Prop where
  | new (config : PoolConfig) : Reached (.new config) 0
  | acquire {p : Pool} {n : Nat} : Reached p n → Reached p.acquire.2 (n + 1)
  | release {p : Pool} {n : Nat} (b : Builder) : Reached p (n + 1) → Reached (p.release b) n

theorem acquired_acquire (p : Pool) : p.acquire.2.acquired = p.acquired + 1 := by
  obtain ⟨config, idle, hits, misses, contended, dropped⟩ := p
  cases idle with
  | nil => exact (Nat.add_assoc hits misses 1).symm
  | cons b rest => exact Nat.add_right_comm hits 1 misses

theorem released_acquire (p : Pool) : p.acquire.2.released = p.released := by
  obtain ⟨config, idle, hits, misses, contended, dropped⟩ := p
  cases idle with
  | nil => rfl
  | cons b rest =>
    simp only [Pool.acquire, released, List.length_cons]
    omega

theorem acquired_release (p : Pool) (b : Builder) : (p.release b).acquired = p.acquired := by
  unfold release
  split
  · rfl
  · split <;> rfl

theorem released_release (p : Pool) (b : Builder) : (p.release b).released = p.released + 1 := by
  unfold release
  split
  · simp only [released]
    omega
  · split
    · rfl
    · simp only [released]
      omega

variable {p p' : Pool} {n n' : Nat}

theorem Reached.clean (h : p.Reached n) : p.Clean := by
  induction h with
  | new config => exact clean_new config
  | acquire _ ih => exact clean_acquire ih
  | release b _ ih => exact clean_release ih b

/-- The counters account for every builder. -/
theorem Reached.accounted (h : p.Reached n) : p.acquired = p.released + n := by
  induction h with
  | new config => rfl
  | acquire _ ih => rw [acquired_acquire, released_acquire, ih, Nat.add_assoc]
  | release b _ ih => rw [acquired_release, released_release, ih]; omega

theorem Reached.inUse_eq (h : p.Reached n) : p.inUse = n := by
  rw [inUse, h.accounted, Nat.add_sub_cancel_left]

/-! ### Contention -/

/-- The pool is reached from a new one by that many calls of any number of threads, some of which
find it locked. -/
inductive Shared : Pool → Nat → Prop where
  | new (config : PoolConfig) : Shared (.new config) 0
  | acquire {p : Pool} {n : Nat} : Shared p n → Shared p.acquire.2 (n + 1)
  | acquireLocked {p : Pool} {n : Nat} : Shared p n → Shared p.acquireLocked.2 (n + 1)
  | release {p : Pool} {n : Nat} (b : Builder) : Shared p n → Shared (p.release b) (n + 1)
  | releaseLocked {p : Pool} {n : Nat} (b : Builder) :
    Shared p n → Shared (p.releaseLocked b) (n + 1)

theorem contended_acquire (p : Pool) : p.acquire.2.contended = p.contended := by
  unfold acquire
  split <;> rfl

theorem contended_release (p : Pool) (b : Builder) : (p.release b).contended = p.contended := by
  unfold release
  split
  · rfl
  · split <;> rfl

theorem idle_releaseLocked (p : Pool) (b : Builder) : (p.releaseLocked b).idle = p.idle := by
  unfold releaseLocked
  split <;> rfl

theorem Shared.clean (h : p.Shared n) : p.Clean := by
  induction h with
  | new config => exact clean_new config
  | acquire _ ih => exact clean_acquire ih
  | acquireLocked _ ih => exact ih
  | release b _ ih => exact clean_release ih b
  | releaseLocked b _ ih =>
    rw [Clean, idle_releaseLocked]
    exact ih

/-- Every call is counted once. -/
theorem Shared.counted (h : p.Shared n) : p.acquired + p.released + p.contended = n := by
  induction h with
  | new config => rfl
  | acquire _ ih => rw [acquired_acquire, released_acquire, contended_acquire]; omega
  | acquireLocked _ ih => exact congrArg (· + 1) ih
  | release b _ ih => rw [acquired_release, released_release, contended_release]; omega
  | releaseLocked b _ ih =>
    simp only [acquired, released] at ih ⊢
    unfold Pool.releaseLocked
    split <;> dsimp only <;> omega

end Pool

/-! ## Borrowers -/

/-- The builders out are those of the borrowers, who differ in name. -/
structure Lending.Sound (l : Lending) : Prop where
  reached : l.pool.Reached l.live.length
  names : (l.live.map Prod.fst).Nodup

namespace Lending

variable {l l' : Lending} {name text : String} {loan : Loan}

theorem sound_new (config : PoolConfig) : Sound { pool := .new config } where
  reached := .new config
  names := List.nodup_nil

theorem others_of_find?_eq_none (h : l.find? name = none) : l.others name = l.live := by
  refine List.filter_eq_self.2 fun pair mem => ?_
  have other := List.find?_eq_none.1 (Option.map_eq_none_iff.1 h) pair mem
  exact bne_iff_ne.2 fun same => other (beq_iff_eq.2 same)

/-- Every borrower has one builder. -/
theorem Sound.length_others (h : l.Sound) (found : l.find? name = some loan) :
    l.live.length = (l.others name).length + 1 := by
  obtain ⟨pair, first, rfl⟩ := Option.map_eq_some_iff.1 found
  obtain ⟨same, before, behind, split, -⟩ := List.find?_eq_some_iff_append.1 first
  have distinct := h.names
  rw [split, List.map_append, List.map_cons, List.nodup_middle, ← List.map_append,
    List.nodup_cons] at distinct
  have apart : ∀ other ∈ before ++ behind, (other.1 != name) = true := fun other mem =>
    bne_iff_ne.2 fun taken => distinct.1 <|
      List.mem_map.2 ⟨other, mem, taken.trans (beq_iff_eq.1 same).symm⟩
  have rest : l.others name = before ++ behind := by
    rw [others, split, List.filter_append, List.filter_cons_of_neg (by simpa using same),
      ← List.filter_append, List.filter_eq_self.2 apart]
  rw [rest, split, List.length_append, List.length_append, List.length_cons, Nat.add_assoc]

theorem Sound.names_cons (h : l.Sound) (loan : Loan) :
    (((name, loan) :: l.others name).map Prod.fst).Nodup := by
  refine List.nodup_cons.2 ⟨?_, h.names.sublist (List.filter_sublist.map _)⟩
  rintro mem
  obtain ⟨pair, kept, same⟩ := List.mem_map.1 mem
  exact bne_iff_ne.1 (List.mem_filter.1 kept).2 same

/-- A borrower gives the builder it had back for the new one. -/
theorem Sound.acquire (h : l.Sound) (name : String) : (l.acquire name).2.Sound where
  names := h.names_cons _
  reached := by
    have taken := h.reached.acquire
    unfold Lending.acquire
    cases found : l.find? name with
    | none =>
      simp only [List.length_cons, others_of_find?_eq_none found]
      exact taken
    | some old =>
      rw [h.length_others found] at taken
      exact .release old.builder taken

theorem Sound.push (h : l.Sound) (pushed : l.push? name text = some (loan, l')) : l'.Sound := by
  obtain ⟨old, found, same⟩ := Option.map_eq_some_iff.1 pushed
  cases same
  refine ⟨?_, h.names_cons _⟩
  rw [List.length_cons, ← h.length_others found]
  exact h.reached

theorem Sound.drop (h : l.Sound) (dropped : l.drop? name = some l') : l'.Sound := by
  obtain ⟨old, found, rfl⟩ := Option.map_eq_some_iff.1 dropped
  have held := h.reached
  rw [h.length_others found] at held
  exact ⟨.release old.builder held, h.names.sublist (List.filter_sublist.map _)⟩

end Lending

/-! ## Writing -/

variable {d : Dialect} {p p' : Pool} {n n' : Nat}

/-- The nested queries that start among the pieces. -/
def Piece.nestings (ps : List Piece) : Nat := ps.countP fun
  | .enter => true
  | _ => false

/-- Every nested query takes one builder. -/
theorem Writer.acquired_foldl (w : Writer) (ps : List Piece) :
    (ps.foldl (Writer.piece d) w).pool.acquired = w.pool.acquired + Piece.nestings ps := by
  induction ps generalizing w with
  | nil => rfl
  | cons p ps ih =>
    rw [List.foldl_cons, ih, Piece.nestings, Piece.nestings, List.countP_cons]
    cases p with
    | enter =>
      have taken : (w.piece d .enter).pool.acquired = w.pool.acquired + 1 :=
        Pool.acquired_acquire w.pool
      rw [taken, if_pos rfl, Nat.add_assoc, Nat.add_comm 1]
    | leave =>
      have kept : (w.piece d .leave).pool.acquired = w.pool.acquired := by
        change w.leave.pool.acquired = _
        unfold Writer.leave
        split
        · rfl
        · exact Pool.acquired_release _ _
      rw [kept]
      rfl
    | text s => rfl
    | name s => rfl
    | slot s => rfl
    | fault s => rfl

theorem Writer.pool_level (w : Writer) {ps : List Piece} (hp : ps.all Piece.isLevel = true) :
    (ps.foldl (Writer.piece d) w).pool = w.pool := by
  induction ps generalizing w with
  | nil => rfl
  | cons p ps ih =>
    rw [List.all_cons, Bool.and_eq_true] at hp
    rw [List.foldl_cons, ih _ hp.2]
    cases p with
    | enter => cases hp.1
    | leave => cases hp.1
    | text s => rfl
    | name s => rfl
    | slot s => rfl
    | fault s => rfl

/-- Nested queries give their builders back. -/
theorem Balanced.reached {ps : List Piece} (h : Balanced ps) {w : Writer}
    (hw : w.pool.Reached n) : (ps.foldl (Writer.piece d) w).pool.Reached n := by
  induction h generalizing w n with
  | level hp =>
    rw [w.pool_level hp]
    exact hw
  | append _ _ ih₁ ih₂ =>
    rw [List.foldl_append]
    exact ih₂ (ih₁ hw)
  | nested body ih =>
    rename_i ps
    have inside : (ps.foldl (Writer.piece d) w.enter).pool.Reached (n + 1) := ih hw.acquire
    have below := (body.gains (d := d) w.enter hw.acquire.clean).below
    have written : (Piece.nested ps).foldl (Writer.piece d) w
        = (ps.foldl (Writer.piece d) w.enter).leave := by
      simp [Piece.nested, Writer.piece]
    rw [written, Writer.leave, below]
    exact inside.release _

/-! ## Building -/

namespace Statement

variable (s : Statement)

/-- The builders in use when the text is complete. -/
def writer (p : Pool) (d : Dialect) : Writer := s.pieces.foldl (Writer.piece d) (.start p)

/-- Only the first builder is still in use then. -/
theorem pool_buildWith (h : p.Clean) :
    (s.buildWith p d).2 = (s.writer p d).pool.release (s.writer p d).top := by
  have below : (s.writer p d).below = [] :=
    (s.written.balanced.gains (.start p) (Pool.clean_acquire h)).below
  rw [s.buildWith_eq]
  change (s.writer p d).finish = _
  rw [Writer.finish, below]
  rfl

theorem reached_buildWith (h : p.Reached n) : (s.buildWith p d).2.Reached n := by
  rw [s.pool_buildWith h.clean]
  exact (s.written.balanced.reached (w := .start p) h.acquire).release _

theorem acquired_buildWith (h : p.Clean) :
    (s.buildWith p d).2.acquired = p.acquired + (1 + Piece.nestings s.pieces) := by
  have first : (Writer.start p).pool.acquired = p.acquired + 1 := p.acquired_acquire
  rw [s.pool_buildWith h, Pool.acquired_release, writer, Writer.acquired_foldl, first,
    Nat.add_assoc]

/-- Clean pools leave no trace in what a statement is built to. -/
theorem fst_buildWith_eq_of_clean (h : p.Clean) (h' : p'.Clean) (d : Dialect) :
    (s.buildWith p d).1 = (s.buildWith p' d).1 := by
  simp only [s.buildWith_eq, s.write_eq h, s.write_eq h']

/-- Neither do the calls of other threads before the build, whether they found the pool locked or
not. -/
theorem fst_buildWith_eq_of_shared (h : p.Shared n) (h' : p'.Shared n') (d : Dialect) :
    (s.buildWith p d).1 = (s.buildWith p' d).1 :=
  s.fst_buildWith_eq_of_clean h.clean h'.clean d

/-- **What a statement is built to is independent of the pool, and every builder taken for it is
given back.** -/
theorem buildWith_pool_independent (h : p.Reached n) (h' : p'.Reached n') (d : Dialect) :
    (s.buildWith p d).1 = (s.buildWith p' d).1
      ∧ (s.buildWith p d).2.acquired = p.acquired + (1 + Piece.nestings s.pieces)
      ∧ (s.buildWith p d).2.released = p.released + (1 + Piece.nestings s.pieces)
      ∧ p.inUse = n ∧ (s.buildWith p d).2.inUse = n := by
  have after := s.reached_buildWith (d := d) h
  have taken := s.acquired_buildWith (d := d) h.clean
  have back := after.accounted
  rw [taken, h.accounted] at back
  exact ⟨s.fst_buildWith_eq_of_clean h.clean h'.clean d, taken, by omega, h.inUse_eq,
    after.inUse_eq⟩

end Statement

/-- A builder is made every time, and another comes out of a used pool beside one in use. -/
theorem buildWith_pool_independent_of_pets :
    let fresh := Pool.new ⟨0, 16, 0⟩
    let used := ((Pool.new {}).acquire.2.release ⟨"SELECT", 256⟩).acquire.2.acquire.2
    (petStatement.buildWith fresh .generic).1 = (petStatement.buildWith used .generic).1
      ∧ Piece.nestings petStatement.pieces = 1
      ∧ (petStatement.buildWith fresh .generic).2.acquired = 2
      ∧ (petStatement.buildWith fresh .generic).2.released = 2
      ∧ fresh.inUse = 0 ∧ (petStatement.buildWith fresh .generic).2.inUse = 0 := by
  have fresh : (Pool.new ⟨0, 16, 0⟩).Reached 0 := .new _
  have used : ((Pool.new {}).acquire.2.release ⟨"SELECT", 256⟩).acquire.2.acquire.2.Reached 2 :=
    .acquire (.acquire (.release _ (.acquire (.new _))))
  obtain ⟨same, taken, back, before, after⟩ :=
    petStatement.buildWith_pool_independent fresh used .generic
  have nestings : Piece.nestings petStatement.pieces = 1 := by decide
  rw [nestings] at taken back
  exact ⟨same, nestings, taken, back, before, after⟩

end TypedSql
