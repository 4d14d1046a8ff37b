import Mathlib.Logic.Function.Basic
import TypedSql.Proofs.Render.Pooling

/-!
# The accounts of a pool

Borrowers take builders from a pool, append to them and give them back, in any order and with any
number of builders out at a time. A ledger kept beside the pool notes the steps and nothing of the
pool: how many builders were taken and given back, and what each borrower has appended since it
took the builder it has.

**Theorem (`Lending.run_accounts`).** After any steps the counters of the pool agree with the
ledger, every live builder holds what the ledger says, and the idle builders are empty and within
the limits of the pool.

**Theorem (`Lending.inUse_run`).** The builders in use by the counters are those of the borrowers.

The proof follows the steps. An acquisition and a return each move a builder between the idle ones
and the borrowers, so that the pool's side is settled by one lemma for each of the two.
-/

namespace TypedSql

/-! ## Limits -/

/-- The idle builders are as many and as large as the pool allows, and empty. -/
structure Pool.Bounded (p : Pool) : Prop where
  count : p.idle.length ≤ p.config.capacity
  clean : p.Clean
  room : ∀ b ∈ p.idle, b.capacity ≤ p.config.maxRetainedBytes

namespace Pool

variable {p : Pool}

theorem config_acquire (p : Pool) : p.acquire.2.config = p.config := by
  unfold acquire
  split <;> rfl

theorem idle_acquire (p : Pool) : p.acquire.2.idle = p.idle.tail := by
  unfold acquire
  split
  · next b rest idle => rw [idle, List.tail_cons]
  · next idle => rw [idle, List.tail_nil]

theorem config_release (p : Pool) (b : Builder) : (p.release b).config = p.config := by
  unfold release
  split
  · rfl
  · split <;> rfl

/-- A builder that comes back is kept within the limits, or dropped. -/
theorem idle_release (p : Pool) (b : Builder) :
    (b.capacity ≤ p.config.maxRetainedBytes ∧ p.idle.length < p.config.capacity
        ∧ (p.release b).idle = b.clear :: p.idle)
      ∨ (p.release b).idle = p.idle := by
  unfold release
  split
  · exact .inr rfl
  · next small =>
    split
    · next free => exact .inl ⟨Nat.le_of_not_lt small, free, rfl⟩
    · exact .inr rfl

theorem Bounded.new (config : PoolConfig) : (Pool.new config).Bounded where
  count := Nat.zero_le _
  clean := clean_new config
  room := List.forall_mem_nil _

theorem Bounded.acquire (h : p.Bounded) : p.acquire.2.Bounded where
  count := by
    rw [idle_acquire, config_acquire, List.length_tail]
    exact Nat.le_trans (Nat.sub_le _ 1) h.count
  clean := clean_acquire h.clean
  room := by
    rw [idle_acquire, config_acquire]
    exact fun b hb => h.room b (List.mem_of_mem_tail hb)

theorem Bounded.release (h : p.Bounded) (b : Builder) : (p.release b).Bounded := by
  have clean := clean_release h.clean b
  rcases p.idle_release b with ⟨small, free, kept⟩ | dropped
  · refine ⟨?_, clean, ?_⟩
    · rw [kept, config_release, List.length_cons]
      exact free
    · rw [kept, config_release, List.forall_mem_cons]
      exact ⟨small, h.room⟩
  · refine ⟨?_, clean, ?_⟩
    · rw [dropped, config_release]
      exact h.count
    · rw [dropped, config_release]
      exact h.room

end Pool

/-! ## Steps -/

namespace Lending

/-- What a borrower can do. -/
inductive Step where
  | acquire (name : String)
  | append (name text : String)
  | drop (name : String)

def Step.borrower : Step → String
  | .acquire name | .append name _ | .drop name => name

/-- Takes a step. Without a builder there is nothing to append to and nothing to give back. -/
def step (l : Lending) : Step → Lending
  | .acquire name => (l.acquire name).2
  | .append name text => ((l.push? name text).map Prod.snd).getD l
  | .drop name => (l.drop? name).getD l

/-- The steps, begun with a new pool. -/
def run (config : PoolConfig) (steps : List Step) : Lending :=
  steps.foldl step { pool := .new config }

variable {l : Lending} {name other text : String} {loan : Loan} {p : Pool}

/-! ### Builders of borrowers -/

theorem find?_others (l : Lending) (p : Pool) (h : other ≠ name) :
    find? ⟨p, l.others name⟩ other = l.find? other := by
  unfold find? others
  rw [List.find?_filter]
  congr 2
  funext pair
  by_cases mine : pair.1 = other
  · simp [mine, h]
  · simp [mine]

theorem find?_others_self (p : Pool) : find? ⟨p, l.others name⟩ name = none := by
  unfold find? others
  rw [List.find?_filter, Option.map_eq_none_iff, List.find?_eq_none]
  simp

theorem find?_cons_self (p : Pool) : find? ⟨p, (name, loan) :: l.others name⟩ name = some loan := by
  simp [find?]

theorem find?_cons_ne (p : Pool) (h : other ≠ name) :
    find? ⟨p, (name, loan) :: l.others name⟩ other = l.find? other := by
  rw [← l.find?_others p h]
  simp [find?, h.symm]

theorem find?_acquire : (l.step (.acquire name)).find? name = some l.pool.acquire.1 :=
  find?_cons_self _

theorem find?_append :
    (l.step (.append name text)).find? name
      = (l.find? name).map fun loan => { loan with builder := loan.builder.push text } := by
  rw [step, push?]
  cases found : l.find? name with
  | none => exact found
  | some loan => exact find?_cons_self _

theorem find?_drop : (l.step (.drop name)).find? name = none := by
  rw [step, drop?]
  cases found : l.find? name with
  | none => exact found
  | some loan => exact find?_others_self _

/-- The text a borrower is left with, from the one it had. -/
def Step.leaves : Step → Option String → Option String
  | .acquire _, _ => some ""
  | .append _ text, held => held.map (· ++ text)
  | .drop _, _ => none

theorem text_step (s : Step) (clean : l.pool.Clean) :
    ((l.step s).find? s.borrower).map (·.builder.text)
      = s.leaves ((l.find? s.borrower).map (·.builder.text)) := by
  cases s with
  | acquire name =>
    rw [Step.borrower, find?_acquire, Option.map_some, Pool.text_acquire clean]
    rfl
  | append name text =>
    rw [Step.borrower, find?_append, Step.leaves, Option.map_map, Option.map_map]
    rfl
  | drop name =>
    rw [Step.borrower, find?_drop]
    rfl

/-- No other borrower's builder is touched. -/
theorem find?_step_ne {s : Step} (h : other ≠ s.borrower) :
    (l.step s).find? other = l.find? other := by
  cases s with
  | acquire name => exact find?_cons_ne _ h
  | append name text =>
    rw [step, push?]
    cases found : l.find? name with
    | none => rfl
    | some loan => exact find?_cons_ne _ h
  | drop name =>
    rw [step, drop?]
    cases found : l.find? name with
    | none => rfl
    | some loan => exact l.find?_others _ h

end Lending

/-! ### Builders in use -/

namespace Lending

theorem Sound.step {l : Lending} (h : l.Sound) (s : Step) : (l.step s).Sound := by
  cases s with
  | acquire name => exact h.acquire name
  | append name text =>
    rw [Lending.step]
    cases pushed : l.push? name text with
    | none => exact h
    | some given => exact h.push pushed
  | drop name =>
    rw [Lending.step]
    cases dropped : l.drop? name with
    | none => exact h
    | some after => exact h.drop dropped

/-- After a run the builders out are those of the borrowers. -/
theorem sound_run (config : PoolConfig) (steps : List Step) : (run config steps).Sound :=
  List.foldlRecOn steps Lending.step (sound_new config) fun _ h s _ => h.step s

/-- The counters of the pool give the number of borrowers that have a builder. -/
theorem inUse_run (config : PoolConfig) (steps : List Step) :
    (run config steps).pool.inUse = (run config steps).live.length :=
  (sound_run config steps).reached.inUse_eq

end Lending

/-! ## The ledger -/

/-- What the borrowers know: how many builders they took, how many they gave back, and what each
one has appended since it took the builder it has. -/
structure Ledger where
  taken : Nat := 0
  returned : Nat := 0
  text : String → Option String := fun _ => none

namespace Ledger

/-- The builder of that borrower is given back, if it has one. -/
def returnOf (g : Ledger) (name : String) : Nat :=
  g.returned + if (g.text name).isSome then 1 else 0

/-- Notes a step. -/
def note (g : Ledger) : Lending.Step → Ledger
  | .acquire name =>
    { taken := g.taken + 1
      returned := g.returnOf name
      text := Function.update g.text name (some "") }
  | .append name text =>
    { g with text := Function.update g.text name ((g.text name).map (· ++ text)) }
  | .drop name =>
    { g with
      returned := g.returnOf name
      text := Function.update g.text name none }

theorem text_note_self (g : Ledger) (s : Lending.Step) :
    (g.note s).text s.borrower = s.leaves (g.text s.borrower) := by
  cases s <;> exact Function.update_self ..

theorem text_note_ne (g : Ledger) {s : Lending.Step} {other : String} (h : other ≠ s.borrower) :
    (g.note s).text other = g.text other := by
  cases s <;> exact Function.update_of_ne h ..

def ofSteps (steps : List Lending.Step) : Ledger := steps.foldl note {}

end Ledger

/-! ## The pool -/

/-- A builder is given back, or none. -/
def Pool.giveBack (p : Pool) : Option Loan → Pool
  | some loan => p.release loan.builder
  | none => p

namespace Pool

variable {p : Pool} {loan? : Option Loan}

theorem Bounded.giveBack (h : p.Bounded) : (p.giveBack loan?).Bounded := by
  cases loan? with
  | none => exact h
  | some loan => exact h.release loan.builder

theorem acquired_giveBack : (p.giveBack loan?).acquired = p.acquired := by
  cases loan? with
  | none => rfl
  | some loan => exact acquired_release p loan.builder

theorem released_giveBack :
    (p.giveBack loan?).released = p.released + if loan?.isSome then 1 else 0 := by
  cases loan? with
  | none => rfl
  | some loan => exact released_release p loan.builder

theorem config_giveBack : (p.giveBack loan?).config = p.config := by
  cases loan? with
  | none => rfl
  | some loan => exact config_release p loan.builder

end Pool

namespace Lending

variable {l : Lending} {name text : String}

theorem pool_acquire :
    (l.step (.acquire name)).pool = l.pool.acquire.2.giveBack (l.find? name) := by
  simp only [step, acquire]
  cases l.find? name <;> rfl

theorem pool_append : (l.step (.append name text)).pool = l.pool := by
  simp only [step, push?]
  cases l.find? name <;> rfl

theorem pool_drop : (l.step (.drop name)).pool = l.pool.giveBack (l.find? name) := by
  simp only [step, drop?]
  cases l.find? name <;> rfl

/-- The pool and the live builders are as the ledger has it. -/
structure Accounted (l : Lending) (config : PoolConfig) (g : Ledger) : Prop where
  config : l.pool.config = config
  bounded : l.pool.Bounded
  taken : l.pool.acquired = g.taken
  returned : l.pool.released = g.returned
  text : ∀ name, (l.find? name).map (·.builder.text) = g.text name

variable {config : PoolConfig} {g : Ledger}

theorem Accounted.isSome (h : l.Accounted config g) (name : String) :
    (l.find? name).isSome = (g.text name).isSome := by
  rw [← h.text name, Option.isSome_map]

theorem Accounted.step (h : l.Accounted config g) (s : Step) :
    (l.step s).Accounted config (g.note s) := by
  have text (name : String) :
      ((l.step s).find? name).map (·.builder.text) = (g.note s).text name := by
    by_cases own : name = s.borrower
    · rw [own, text_step s h.bounded.clean, h.text, g.text_note_self]
    · rw [find?_step_ne own, h.text, g.text_note_ne own]
  cases s with
  | acquire name =>
    refine ⟨?_, ?_, ?_, ?_, text⟩
    · rw [pool_acquire, Pool.config_giveBack, Pool.config_acquire, h.config]
    · rw [pool_acquire]
      exact h.bounded.acquire.giveBack
    · rw [pool_acquire, Pool.acquired_giveBack, Pool.acquired_acquire, h.taken]
      rfl
    · rw [pool_acquire, Pool.released_giveBack, Pool.released_acquire, h.returned, h.isSome]
      rfl
  | append name added =>
    have same : (l.step (.append name added)).pool = l.pool := pool_append
    exact ⟨same ▸ h.config, same ▸ h.bounded, same ▸ h.taken, same ▸ h.returned, text⟩
  | drop name =>
    refine ⟨?_, ?_, ?_, ?_, text⟩
    · rw [pool_drop, Pool.config_giveBack, h.config]
    · rw [pool_drop]
      exact h.bounded.giveBack
    · rw [pool_drop, Pool.acquired_giveBack]
      exact h.taken
    · rw [pool_drop, Pool.released_giveBack, h.returned, h.isSome]
      rfl

theorem Accounted.new (config : PoolConfig) :
    Accounted { pool := .new config } config {} where
  config := rfl
  bounded := .new config
  taken := rfl
  returned := rfl
  text _ := rfl

/-- The ledger kept during a run. -/
theorem accounted (config : PoolConfig) (steps : List Step) :
    (run config steps).Accounted config (Ledger.ofSteps steps) := by
  have further (steps : List Step) {l : Lending} {g : Ledger} (h : l.Accounted config g) :
      (steps.foldl Lending.step l).Accounted config (steps.foldl Ledger.note g) := by
    induction steps generalizing l g with
    | nil => exact h
    | cons s steps ih => exact ih (h.step s)
  exact further steps (.new config)

/-- **The counters of a pool account for every builder taken and given back, and idle builders stay
within the limits; a live builder holds what its borrower has appended.** -/
theorem run_accounts (config : PoolConfig) (steps : List Step) :
    let l := run config steps
    let g := Ledger.ofSteps steps
    l.pool.idle.length ≤ config.capacity
      ∧ (∀ b ∈ l.pool.idle, b.text = "" ∧ b.capacity ≤ config.maxRetainedBytes)
      ∧ (∀ name, (l.acquire name).1.builder.text = "")
      ∧ l.pool.hits + l.pool.misses = g.taken
      ∧ l.pool.idle.length + l.pool.hits + l.pool.dropped = g.returned
      ∧ (∀ name, (l.find? name).map (·.builder.text) = g.text name)
      ∧ ∀ s name, name ≠ s.borrower → (l.step s).find? name = l.find? name := by
  intro l g
  have h : l.Accounted config g := accounted config steps
  have limits := h.bounded
  refine ⟨h.config ▸ limits.count, fun b hb => ⟨limits.clean b hb, h.config ▸ limits.room b hb⟩,
    fun _ => Pool.text_acquire limits.clean, h.taken, ?_, h.text, fun _ _ => find?_step_ne⟩
  rw [← h.returned, Pool.released]
  omega

end Lending
end TypedSql
