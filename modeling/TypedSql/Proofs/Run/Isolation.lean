import TypedSql.Proofs.Run.Binding
import TypedSql.Proofs.Run.Contract
import TypedSql.Run.Scripted

/-!
# What a run sees

**Theorem (`Compiled.runs_see_own_values`).** In any sequence of calls on a compiled statement,
whichever of them fail, a call that comes to run the statement runs it with its own values at the
positions of the slots. A call whose arguments are refused leaves the handle as it is.

Nothing is known of what a handle keeps when a bind or a run fails. Of a bind that succeeds it is
known that the position holds the value then and the other positions hold what they held before
(`Recall`). So a run sees its own values exactly because all positions are bound in front of it, and
this is what a pass over the values gives (`Recall.held_bindFrom`).

What a call runs the statement with is seen by a handle that notes its state at every run and
otherwise does what the handle inside does (`Call.run_watched`).
-/

namespace TypedSql

variable {σ : Type}

/-! ## Values of arguments -/

namespace Arguments

variable {tokens : List AnyParam} {seed : Seed} {a : Arguments}

theorem length_of_values {values : List StorageValue} (h : a.values = .ok values) :
    values.length = a.slots.length := by
  cases complete : a.isComplete with
  | true =>
    rw [values_of_isComplete complete] at h
    cases h
    exact List.length_map _
  | false =>
    obtain ⟨i, -, -, unbound⟩ := values_of_not_isComplete complete
    rw [unbound] at h
    cases h

/-- The arguments belong to the seed and have a slot for each of its parameters. -/
def Fits (seed : Seed) (a : Arguments) : Prop :=
  a.seed = seed ∧ a.slots.length = seed.params.length

theorem fits_storeWith (h : a.Fits seed) (i : Nat) (v : StorageValue)
    (convert : AnyDescriptor → StorageValue → Except ConversionError StorageValue) :
    (a.storeWith i v convert).2.Fits seed := by
  unfold storeWith
  split
  · exact h
  · split
    · exact ⟨h.1, List.length_set.trans h.2⟩
    · exact h

theorem fits_storeAll (h : a.Fits seed) (v : StorageValue)
    (convert : AnyDescriptor → StorageValue → Except ConversionError StorageValue)
    (targets : List Nat) : (a.storeAll v convert targets).2.Fits seed := by
  induction targets generalizing a with
  | nil => exact h
  | cons i rest ih =>
    have first := fits_storeWith h i v convert
    rw [storeAll]
    split
    case h_1 kept stored =>
      rw [stored] at first
      exact ih first
    case h_2 => exact first

theorem BindCall.fits_run (h : a.Fits seed) (c : BindCall) : (c.run a).2.Fits seed := by
  cases c with
  | set i v => exact fits_storeWith h i _ _
  | setNull i => exact fits_storeWith h i _ _
  | bind p v =>
    rw [run, Arguments.bind]
    split
    · exact h
    · split
      · exact fits_storeAll h _ _ _
      · exact h
  | bindPlain p v =>
    rw [run, Arguments.bindPlain]
    split
    · exact h
    · exact fits_storeAll h _ _ _

/-- Whatever is bound, there is a slot for each parameter. -/
theorem Reached.fits (h : Reached tokens seed a) : a.Fits seed := by
  induction h with
  | new => exact ⟨rfl, List.length_map _⟩
  | bind _ _ ih => exact BindCall.fits_run ih _
  | reset _ ih => exact ⟨ih.1, (length_restore _ _).trans ih.2⟩

end Arguments

/-- The values of accepted arguments fill the slots of the statement. -/
theorem Compiled.values_of_check {c : Compiled σ} {a : Arguments} {values : List StorageValue}
    {seed : Seed} (fits : a.Fits seed) (accepted : c.check a = .ok values) :
    a.values = .ok values ∧ values.length = c.seed.params.length := by
  obtain ⟨rfl, length⟩ := fits
  rw [check] at accepted
  split at accepted
  case isTrue same =>
    refine ⟨accepted, ?_⟩
    rw [Arguments.length_of_values accepted, length, Seed.length_eq_of_sameContract same]
  case isFalse => cases accepted

/-! ## Handles that note their runs -/

/-- A handle with the states in which it was run. -/
structure Watched (σ : Type) where
  handle : σ
  runs : List σ := []

/-- The statement with a watched handle that was not run yet. -/
def Compiled.watched (c : Compiled σ) : Compiled (Watched σ) := ⟨c.seed, { handle := c.handle }⟩

theorem Compiled.check_watched (c : Compiled σ) (a : Arguments) : c.watched.check a = c.check a :=
  rfl

variable [Handle σ]

/-! ## Memory -/

/-- The handle remembers the value last bound at a position. -/
structure Recall (σ : Type) [Handle σ] where
  held : σ → Nat → Option StorageValue
  held_bind : ∀ {i : Nat} {v : StorageValue} {h h' : σ}, Handle.bind i v h = (.ok (), h') →
    ∀ j, held h' j = if j = i then some v else held h j

/-- Binding values from a position on fills their positions and leaves those in front. -/
theorem Recall.held_bindFrom (m : Recall σ) {i : Nat} {values : List StorageValue} {h h' : σ}
    (bound : Compiled.bindFrom i values h = (.ok (), h')) :
    (∀ j < i, m.held h' j = m.held h j) ∧
      ∀ k v, values[k]? = some v → m.held h' (i + k) = some v := by
  induction values generalizing i h with
  | nil =>
    cases bound
    exact ⟨fun _ _ => rfl, fun k v none => nomatch none⟩
  | cons v rest ih =>
    rw [Compiled.bindFrom] at bound
    split at bound
    case h_1 next first =>
      obtain ⟨front, behind⟩ := ih bound
      refine ⟨fun j hj => ?_, fun k w hk => ?_⟩
      · rw [front j (Nat.lt_succ_of_lt hj), m.held_bind first, if_neg (Nat.ne_of_lt hj)]
      · cases k with
        | zero =>
          cases hk
          rw [Nat.add_zero, front i i.lt_succ_self, m.held_bind first, if_pos rfl]
        | succ k => exact Nat.add_right_comm i 1 k ▸ behind k w hk
    case h_2 refused => exact absurd bound (refused h')

instance : Handle (Watched σ) where
  bind i v w :=
    let (r, h) := Handle.bind i v w.handle
    (r, { w with handle := h })
  execute w :=
    let (r, h) := Handle.execute w.handle
    (r, ⟨h, w.runs ++ [w.handle]⟩)
  query visit b w :=
    let (r, h) := Handle.query visit b w.handle
    (r, ⟨h, w.runs ++ [w.handle]⟩)

namespace Compiled

theorem bindFrom_watched (i : Nat) (values : List StorageValue) (w : Watched σ) :
    bindFrom i values w
      = ((bindFrom i values w.handle).1, { w with handle := (bindFrom i values w.handle).2 }) := by
  induction values generalizing i w with
  | nil => rfl
  | cons v rest ih =>
    have first : Handle.bind i v w
        = ((Handle.bind i v w.handle).1, { w with handle := (Handle.bind i v w.handle).2 }) := rfl
    rw [bindFrom, bindFrom, first]
    cases Handle.bind i v w.handle with
    | mk r h =>
      cases r with
      | error e => rfl
      | ok u => exact ih (i + 1) { w with handle := h }

/-- The state in which the statement is run with these arguments, if it comes so far. -/
def atRun (c : Compiled σ) (a : Arguments) : List σ :=
  match c.check a with
  | .error _ => []
  | .ok values =>
    match bindFrom 0 values c.handle with
    | (.error _, _) => []
    | (.ok (), h) => [h]

theorem mem_atRun {c : Compiled σ} {a : Arguments} {h : σ} :
    h ∈ c.atRun a ↔
      ∃ values, c.check a = .ok values ∧ bindFrom 0 values c.handle = (.ok (), h) := by
  unfold atRun
  split
  case h_1 e refused => simp [refused]
  case h_2 values accepted =>
    split
    case h_1 e stuck failed => simp [accepted, failed]
    case h_2 full bound => simp [accepted, bound, eq_comm]

theorem length_atRun {c : Compiled σ} {a : Arguments} {values : List StorageValue}
    (accepted : c.check a = .ok values) (bound : (bindFrom 0 values c.handle).1 = .ok ()) :
    (c.atRun a).length = 1 := by
  unfold atRun
  rw [accepted]
  dsimp only
  split
  case h_1 e stuck failed =>
    rw [failed] at bound
    cases bound
  case h_2 => rfl

variable (c : Compiled σ) (a : Arguments)

theorem execute_watched :
    c.watched.execute a = ((c.execute a).1, ⟨c.seed, (c.execute a).2.handle, c.atRun a⟩) := by
  simp only [execute, atRun, check_watched, bindFrom_watched]
  cases c.check a with
  | error e => rfl
  | ok values =>
    simp only [watched]
    cases bindFrom 0 values c.handle with
    | mk r h =>
      cases r <;> rfl

theorem query_watched {β : Type} (visit : Visitor ResultRow β) (b : β) :
    c.watched.query a visit b
      = ((c.query a visit b).1, ⟨c.seed, (c.query a visit b).2.handle, c.atRun a⟩) := by
  simp only [query, atRun, check_watched, bindFrom_watched]
  cases c.check a with
  | error e => rfl
  | ok values =>
    simp only [watched]
    cases bindFrom 0 values c.handle with
    | mk r h =>
      cases r <;> rfl

theorem seed_execute : (c.execute a).2.seed = c.seed := by
  unfold execute
  split
  · rfl
  · split <;> rfl

theorem seed_query {β : Type} (visit : Visitor ResultRow β) (b : β) :
    (c.query a visit b).2.seed = c.seed := by
  unfold query
  split
  · rfl
  · split <;> rfl

/-! ## Calls -/

/-- A call that runs the statement. -/
inductive Call : Type 1 where
  | execute (a : Arguments)
  | query {β : Type} (a : Arguments) (visit : Visitor ResultRow β) (b : β)
  | queryFirst {α : Type} (a : Arguments) (read : ResultRow → Except Error α)
  | queryAll {α : Type} (a : Arguments) (read : ResultRow → Except Error α)

namespace Call

def arguments : Call → Arguments
  | .execute a | .query a _ _ | .queryFirst a _ | .queryAll a _ => a

/-- What the call answers with. -/
def Answer : Call → Type
  | .execute _ => Except Error Execution
  | @query β _ _ _ => Except Error Unit × β
  | @queryFirst α _ _ => Except Error (Option α)
  | @queryAll α _ _ => Except Error (List α)

def run (c : Compiled σ) : (call : Call) → call.Answer × Compiled σ
  | .execute a => c.execute a
  | .query a visit b => c.query a visit b
  | .queryFirst a read => c.queryFirst a read
  | .queryAll a read => c.queryAll a read

/-- **Watching changes nothing**, and notes the state in which the statement is run. -/
theorem run_watched (call : Call) :
    call.run c.watched
      = ((call.run c).1, ⟨c.seed, (call.run c).2.handle, c.atRun call.arguments⟩) := by
  cases call with
  | execute a => exact c.execute_watched a
  | query a visit b => exact c.query_watched a visit b
  | queryFirst a read =>
    simp only [run, Compiled.queryFirst, query_watched]
    rfl
  | queryAll a read =>
    simp only [run, Compiled.queryAll, query_watched]
    rfl

/-- A call whose arguments are refused leaves the statement as it is. -/
theorem run_of_refused {call : Call} {e : Error} (refused : c.check call.arguments = .error e) :
    (call.run c).2 = c := by
  cases call with
  | execute a =>
    rw [arguments] at refused
    simp only [run, Compiled.execute, refused]
  | query a visit b =>
    rw [arguments] at refused
    simp only [run, Compiled.query, refused]
  | queryFirst a read =>
    rw [arguments] at refused
    simp only [run, Compiled.queryFirst, Compiled.query, refused]
  | queryAll a read =>
    rw [arguments] at refused
    simp only [run, Compiled.queryAll, Compiled.query, refused]

theorem seed_run (call : Call) : (call.run c).2.seed = c.seed := by
  cases call with
  | execute a => exact c.seed_execute a
  | query a visit b => exact c.seed_query a visit b
  | queryFirst a read =>
    rw [run, Compiled.queryFirst]
    exact c.seed_query a _ none
  | queryAll a read =>
    rw [run, Compiled.queryAll]
    exact c.seed_query a _ []

/-- The states in which the call runs the statement. -/
def seen (call : Call) : List σ := (call.run c.watched).2.handle.runs

theorem seen_eq (call : Call) : call.seen c = c.atRun call.arguments := by
  rw [seen, run_watched]

end Call

/-- What happened to the handle in a call. -/
structure Record (σ : Type) where
  call : Call
  before : σ
  /-- The states in which the call ran the statement. -/
  seen : List σ
  after : σ

/-- Calls one after the other. -/
def history (c : Compiled σ) : List Call → List (Record σ)
  | [] => []
  | call :: rest =>
    ⟨call, c.handle, call.seen c, (call.run c).2.handle⟩ :: history (call.run c).2 rest

/-- Every call has its record. -/
theorem calls_history (calls : List Call) : (c.history calls).map Record.call = calls := by
  induction calls generalizing c with
  | nil => rfl
  | cons call rest ih => rw [history, List.map_cons, ih]

theorem call_mem_of_mem_history {calls : List Call} {r : Record σ} (h : r ∈ c.history calls) :
    r.call ∈ calls := by
  have called := List.mem_map_of_mem (f := Record.call) h
  rwa [calls_history] at called

/-- Every call of a history is made on the statement with some handle. -/
theorem exists_of_mem_history {calls : List Call} {r : Record σ} (h : r ∈ c.history calls) :
    ∃ c' : Compiled σ, c'.seed = c.seed ∧ c'.handle = r.before
      ∧ r.seen = r.call.seen c' ∧ r.after = (r.call.run c').2.handle := by
  induction calls generalizing c with
  | nil => cases h
  | cons call rest ih =>
    rcases List.mem_cons.1 h with rfl | later
    · exact ⟨c, rfl, rfl, rfl, rfl⟩
    · obtain ⟨c', seed, others⟩ := ih _ later
      exact ⟨c', seed.trans (Call.seed_run c call), others⟩

/-! ## Runs -/

/-- **Whatever calls came before, a call runs the statement with exactly its own values at the
positions of the slots.** It does nothing if its arguments are refused, and comes to run the
statement if they are not and all values can be bound. -/
theorem runs_see_own_values (m : Recall σ) {calls : List Call}
    (reached : ∀ call ∈ calls, ∃ tokens seed, Arguments.Reached tokens seed call.arguments) :
    ∀ r ∈ c.history calls,
      (∀ h ∈ r.seen, ∃ values, r.call.arguments.values = .ok values
        ∧ values.length = c.seed.params.length
        ∧ ∀ i < c.seed.params.length, m.held h i = values[i]?)
      ∧ (∀ e, c.check r.call.arguments = .error e → r.seen = [] ∧ r.after = r.before)
      ∧ ∀ values, c.check r.call.arguments = .ok values →
        (bindFrom 0 values r.before).1 = .ok () → r.seen.length = 1 := by
  intro r hr
  obtain ⟨c', seed, before, seen, after⟩ := c.exists_of_mem_history hr
  obtain ⟨tokens, origin, made⟩ := reached r.call (c.call_mem_of_mem_history hr)
  have check : c'.check r.call.arguments = c.check r.call.arguments := by
    rw [Compiled.check, seed, Compiled.check]
  rw [Call.seen_eq] at seen
  refine ⟨fun h run => ?_, fun e refused => ?_, fun values accepted bound => ?_⟩
  · obtain ⟨values, accepted, bound⟩ := mem_atRun.1 (seen ▸ run)
    obtain ⟨own, length⟩ := values_of_check made.fits (check ▸ accepted)
    refine ⟨values, own, length, fun i hi => ?_⟩
    have inside : i < values.length := length.symm ▸ hi
    have held := (m.held_bindFrom bound).2 i values[i] (List.getElem?_eq_getElem inside)
    rw [List.getElem?_eq_getElem inside, ← held, Nat.zero_add]
  · rw [← check] at refused
    refine ⟨?_, ?_⟩
    · rw [seen]
      refine List.eq_nil_iff_forall_not_mem.2 fun h run => ?_
      obtain ⟨values, accepted, -⟩ := mem_atRun.1 run
      rw [refused] at accepted
      cases accepted
    · rw [after, Call.run_of_refused c' refused, before]
  · rw [seen, length_atRun (check.trans accepted) (before ▸ bound)]

end Compiled

/-! ### A scripted handle -/

/-- A scripted handle remembers the last value of its record. -/
def Scripted.recall : Recall Scripted where
  held h i := (h.bound.reverse.find? (·.1 == i)).map Prod.snd
  held_bind := by
    intro i v h h' bound j
    simp only [Handle.bind] at bound
    split at bound
    case h_1 => cases bound
    case h_2 =>
      cases bound
      rw [List.reverse_concat, List.find?_cons]
      by_cases same : j = i
      · rw [if_pos same, beq_iff_eq.2 same.symm]
        rfl
      · rw [if_neg same, beq_false_of_ne (Ne.symm same)]

namespace Arguments

/-- A handle with a value left at the second position, which fails to execute. -/
def petsCompiled : Compiled Scripted where
  seed := petsSeed
  handle := { script := { failExecute := some ⟨"busy", some 5⟩ }, bound := [(1, .text "left")] }

/-- The arguments after the token was bound to eight. -/
def eightBound : Arguments := ((BindCall.bind petToken (some 8)).run (.new petsSeed)).2

/-- An execution that fails, one with a slot left empty, and a query. -/
def petsCalls : List Compiled.Call :=
  [.execute sevenBound, .execute (.new petsSeed), .queryAll eightBound fun _ => .ok ()]

theorem reached_of_mem_petsCalls {call : Compiled.Call} (h : call ∈ petsCalls) :
    ∃ tokens seed, Reached tokens seed call.arguments := by
  have bound (n : Int64) : Reached [petToken.erase] petsSeed
      ((BindCall.bind petToken (some n)).run (.new petsSeed)).2 :=
    .bind .new (List.mem_singleton_self _)
  simp only [petsCalls, List.mem_cons, List.not_mem_nil, or_false] at h
  rcases h with rfl | rfl | rfl
  · exact ⟨_, _, bound 7⟩
  · exact ⟨[], _, .new⟩
  · exact ⟨_, _, bound 8⟩

/-- The query sees eight, although the values of the first call are still bound when it comes. -/
theorem runs_see_own_values_of_pets :
    ∃ first second third, petsCompiled.history petsCalls = [first, second, third]
      ∧ Scripted.recall.held third.before 0 = some (.integer 7)
      ∧ second.seen = [] ∧ second.after = second.before
      ∧ third.seen.length = 1 ∧ ∀ h ∈ third.seen, ∀ i < 3,
        Scripted.recall.held h i = [.integer 8, .integer 5, .integer 8][i]? := by
  have each := petsCompiled.runs_see_own_values Scripted.recall
    (fun _ => reached_of_mem_petsCalls)
  refine ⟨_, _, _, rfl, rfl, ?_⟩
  obtain ⟨-, refused, -⟩ := each _ (.tail _ (.head _))
  obtain ⟨own, -, comes⟩ := each _ (.tail _ (.tail _ (.head _)))
  refine ⟨(refused _ rfl).1, (refused _ rfl).2, comes _ rfl rfl, fun h run => ?_⟩
  obtain ⟨values, taken, -, held⟩ := own h run
  cases taken
  exact held

end Arguments
end TypedSql
