import TypedSql.Proofs.Run.Slots
import TypedSql.Run.Arguments

/-!
# Arguments under any calls

**Theorem (`Arguments.Reached.slots_kept`).** Whatever is bound to the arguments of a seed, by
position or by token, successfully or not, every slot stays empty or holds a value that its
descriptor admits. The values can be taken exactly if no slot is empty.

**Theorem (`Arguments.BindCall.all_or_nothing`).** A call that fails leaves the arguments as they
are; one that succeeds puts one value into the slots it is for and leaves the others as they are.

Both follow from what a single call can do (`BindCall.run_cases`): it fails without effect, or
writes one admitted value to all its targets. A token is stored slot by slot and could fail on the
way, if the slots of the token had different descriptors; they have one.
-/

namespace TypedSql

namespace Arguments

/-! ## Writing to several slots -/

/-- Stores one value in several slots. -/
def write (a : Arguments) (v : StorageValue) (targets : List Nat) : Arguments :=
  { a with slots := targets.foldl (fun slots i => slots.set i (some v)) a.slots }

theorem length_write (a : Arguments) (v : StorageValue) (targets : List Nat) :
    (a.write v targets).slots.length = a.slots.length := by
  have each : ∀ (is : List Nat) (slots : List (Option StorageValue)),
      (is.foldl (fun slots i => slots.set i (some v)) slots).length = slots.length := by
    intro is
    induction is with
    | nil => exact fun _ => rfl
    | cons i is ih => exact fun slots => (ih _).trans List.length_set
  exact each targets a.slots

theorem getElem?_write (a : Arguments) (v : StorageValue) (targets : List Nat) (j : Nat) :
    (a.write v targets).slots[j]?
      = if j ∈ targets ∧ j < a.slots.length then some (some v) else a.slots[j]? := by
  have each : ∀ (is : List Nat) (slots : List (Option StorageValue)),
      (is.foldl (fun slots i => slots.set i (some v)) slots)[j]?
        = if j ∈ is ∧ j < slots.length then some (some v) else slots[j]? := by
    intro is
    induction is with
    | nil => simp
    | cons i is ih =>
      intro slots
      rw [List.foldl_cons, ih]
      by_cases same : i = j
      · subst same
        by_cases inside : i < slots.length <;> simp [inside]
      · simp [same, Ne.symm same]
  exact each targets a.slots

/-! ## Storing at the positions of a token -/

section StoreAll

variable {d : AnyDescriptor} {v w : StorageValue} {e : ConversionError}
  {convert : AnyDescriptor → StorageValue → Except ConversionError StorageValue}

/-- Where every slot has the descriptor that takes the value, all of them take it. -/
theorem storeAll_of_ok (h : convert d v = .ok w) (targets : List Nat) (a : Arguments)
    (slots : ∀ i ∈ targets, ∃ slot, a.seed.params[i]? = some slot ∧ slot.type = d) :
    a.storeAll v convert targets = (.ok (), a.write w targets) := by
  induction targets generalizing a with
  | nil => rfl
  | cons i rest ih =>
    rw [List.forall_mem_cons] at slots
    obtain ⟨⟨slot, found, rfl⟩, others⟩ := slots
    have first : a.storeWith i v convert = (.ok (), a.write w [i]) := by
      simp only [storeWith, found, h, write, List.foldl_cons, List.foldl_nil]
    rw [storeAll, first]
    exact ih (a.write w [i]) others

/-- Where the first slot has the descriptor that refuses the value, nothing is stored. -/
theorem storeAll_of_error (h : convert d v = .error e) {i : Nat} {rest : List Nat}
    {a : Arguments} {slot : Slot} (found : a.seed.params[i]? = some slot) (type : slot.type = d) :
    a.storeAll v convert (i :: rest) = (.error (.bind i d.name a.seed.sql e), a) := by
  subst type
  have first : a.storeWith i v convert = (.error (.bind i slot.type.name a.seed.sql e), a) := by
    simp only [storeWith, found, h]
  rw [storeAll, first]

end StoreAll

/-! ## What a call can do -/

/-- A call that binds something. -/
inductive BindCall where
  | set (i : Nat) (v : PlainValue)
  | setNull (i : Nat)
  | bind {t : ValueType} (p : Param t) (v : Option t.Value)
  | bindPlain {t : ValueType} (p : Param t) (v : PlainValue)

namespace BindCall

def run : BindCall → Arguments → Binding
  | .set i v, a => a.set i v
  | .setNull i, a => a.setNull i
  | .bind p v, a => a.bind p v
  | .bindPlain p v, a => a.bindPlain p.id v

/-- The positions the call is for. -/
def targets (seed : Seed) : BindCall → List Nat
  | .set i _ | .setNull i => [i]
  | .bind p _ | .bindPlain p _ => seed.positions p.id

/-- The token of the call is one of these. -/
def Uses (tokens : List AnyParam) : BindCall → Prop
  | .set _ _ | .setNull _ => True
  | .bind p _ | .bindPlain p _ => p.erase ∈ tokens

/-- The call failed and had no effect, or wrote one admitted value to all its targets. -/
def Outcome (targets : List Nat) (a : Arguments) (result : Binding) : Prop :=
  (∃ e, result = (.error e, a)) ∨
    ∃ v, targets ≠ [] ∧ result = (.ok (), a.write v targets)
      ∧ ∀ i ∈ targets, ∃ slot, a.seed.params[i]? = some slot ∧ slot.type.Admits v

variable {a : Arguments} {tokens : List AnyParam} {s : Supply}

theorem outcome_storeWith (i : Nat) (v : StorageValue) :
    Outcome [i] a (a.storeWith i v AnyDescriptor.coerce) := by
  cases found : a.seed.params[i]? with
  | none =>
    refine .inl ⟨.parameterIndex i a.slots.length a.seed.sql, ?_⟩
    simp only [storeWith, found]
  | some slot =>
    cases stored : slot.type.coerce v with
    | error e =>
      refine .inl ⟨.bind i slot.type.name a.seed.sql e, ?_⟩
      simp only [storeWith, found, stored]
    | ok w =>
      refine .inr ⟨w, List.cons_ne_nil _ _, ?_, ?_⟩
      · simp only [storeWith, found, stored, write, List.foldl_cons, List.foldl_nil]
      · exact List.forall_mem_singleton.2 ⟨slot, found, AnyDescriptor.admits_of_coerce stored⟩

theorem outcome_storeAll {d : AnyDescriptor} {v : StorageValue} {i : Nat} {rest : List Nat}
    {convert : AnyDescriptor → StorageValue → Except ConversionError StorageValue}
    (slots : ∀ j ∈ i :: rest, ∃ slot, a.seed.params[j]? = some slot ∧ slot.type = d)
    (admits : ∀ w, convert d v = .ok w → d.Admits w) :
    Outcome (i :: rest) a (a.storeAll v convert (i :: rest)) := by
  cases stored : convert d v with
  | error e =>
    obtain ⟨slot, found, type⟩ := slots i List.mem_cons_self
    exact .inl ⟨_, storeAll_of_error stored found type⟩
  | ok w =>
    refine .inr ⟨w, List.cons_ne_nil _ _, storeAll_of_ok stored _ a slots, ?_⟩
    intro j hj
    obtain ⟨slot, found, rfl⟩ := slots j hj
    exact ⟨slot, found, admits w stored⟩

/-- The slots of a token have the descriptor of the token. -/
theorem type_eq_of_mem_positions (handedOut : HandedOut tokens s)
    (obtained : Seed.Obtained tokens a.seed) {t : ValueType} {p : Param t}
    (uses : p.erase ∈ tokens) :
    ∀ i ∈ a.seed.positions p.id,
      ∃ slot, a.seed.params[i]? = some slot ∧ slot.type = p.descriptor.erase :=
  fun _ hi => obtained.descriptor_eq handedOut uses hi

/-- **A call has no effect, or writes one admitted value to all its targets.** -/
theorem run_cases (handedOut : HandedOut tokens s) (obtained : Seed.Obtained tokens a.seed)
    {c : BindCall} (uses : c.Uses tokens) : Outcome (c.targets a.seed) a (c.run a) := by
  cases c with
  | set i v => exact outcome_storeWith i v.toStorage
  | setNull i => exact outcome_storeWith i .null
  | bind p v =>
    have slots := type_eq_of_mem_positions handedOut obtained uses
    rw [targets, run, Arguments.bind]
    cases positions : a.seed.positions p.id with
    | nil => exact .inl ⟨_, rfl⟩
    | cons i rest =>
      rw [positions] at slots
      cases encoded : p.descriptor.bindValue v with
      | error e => exact .inl ⟨_, rfl⟩
      | ok w =>
        exact outcome_storeAll slots fun w' accepted =>
          AnyDescriptor.admits_of_acceptEncoded (Descriptor.fits_of_bindValue encoded) accepted
  | bindPlain p v =>
    have slots := type_eq_of_mem_positions handedOut obtained uses
    rw [targets, run, Arguments.bindPlain]
    cases positions : a.seed.positions p.id with
    | nil => exact .inl ⟨_, rfl⟩
    | cons i rest =>
      rw [positions] at slots
      exact outcome_storeAll slots fun w => AnyDescriptor.admits_of_coerce

end BindCall

/-! ## Runs -/

/-- The arguments that calls with these tokens lead to, starting from new ones. -/
inductive Reached (tokens : List AnyParam) (seed : Seed) : Arguments → Prop
  | new : Reached tokens seed (new seed)
  | bind {a : Arguments} {c : BindCall} :
    Reached tokens seed a → c.Uses tokens → Reached tokens seed (c.run a).2
  | reset {a : Arguments} : Reached tokens seed a → Reached tokens seed a.reset

/-- A slot for each parameter, empty or with a value it admits. -/
structure WellFormed (seed : Seed) (a : Arguments) : Prop where
  seed_eq : a.seed = seed
  length_eq : a.slots.length = seed.params.length
  admitted : ∀ (i : Nat) (v : StorageValue), a.slots[i]? = some (some v) →
    ∃ slot : Slot, seed.params[i]? = some slot ∧ slot.type.Admits v

variable {tokens : List AnyParam} {s : Supply} {seed : Seed} {a : Arguments}

theorem wellFormed_new (obtained : Seed.Obtained tokens seed) : (new seed).WellFormed seed where
  seed_eq := rfl
  length_eq := List.length_map _
  admitted i v h := by
    rw [new, List.getElem?_map, Option.map_eq_some_iff] at h
    obtain ⟨slot, found, preset⟩ := h
    exact ⟨slot, found, (obtained.sound slot (List.mem_of_getElem? found)).preset v preset⟩

theorem length_restore (values : List (Option StorageValue)) (slots : List Slot) :
    (restore values slots).length = values.length := by
  induction values generalizing slots with
  | nil => cases slots <;> rfl
  | cons v values ih =>
    cases slots with
    | nil => rfl
    | cons slot slots => exact congrArg (· + 1) (ih slots)

/-- Where there is a value for each slot, every value is put back. -/
theorem restore_eq {values : List (Option StorageValue)} {slots : List Slot}
    (h : values.length = slots.length) : restore values slots = slots.map Slot.preset := by
  induction values generalizing slots with
  | nil =>
    cases slots with
    | nil => rfl
    | cons slot slots => cases h
  | cons v values ih =>
    cases slots with
    | nil => cases h
    | cons slot slots => exact congrArg (slot.preset :: ·) (ih (Nat.succ.inj h))

/-- Well formed arguments are fresh again after a reset: none of their slots is passed over. -/
theorem WellFormed.reset_eq (h : a.WellFormed seed) : a.reset = new seed := by
  rw [reset, new, h.seed_eq, restore_eq h.length_eq]

theorem WellFormed.write (h : a.WellFormed seed) {v : StorageValue} {targets : List Nat}
    (admits : ∀ i ∈ targets, ∃ slot : Slot, seed.params[i]? = some slot ∧ slot.type.Admits v) :
    (a.write v targets).WellFormed seed where
  seed_eq := h.seed_eq
  length_eq := (length_write a v targets).trans h.length_eq
  admitted i w holds := by
    rw [getElem?_write] at holds
    split at holds
    case isTrue target =>
      cases holds
      exact admits i target.1
    case isFalse => exact h.admitted i w holds

/-- A call keeps arguments well formed, whether it succeeds or fails. -/
theorem WellFormed.run (handedOut : HandedOut tokens s) (obtained : Seed.Obtained tokens seed)
    (h : a.WellFormed seed) {c : BindCall} (uses : c.Uses tokens) :
    (c.run a).2.WellFormed seed := by
  have seed_eq := h.seed_eq
  subst seed_eq
  rcases BindCall.run_cases handedOut obtained uses with ⟨e, failed⟩ | ⟨v, -, done, admits⟩
  · rw [failed]
    exact h
  · rw [done]
    exact h.write admits

/-- Arguments are well formed after any calls. -/
theorem Reached.wellFormed (handedOut : HandedOut tokens s) (obtained : Seed.Obtained tokens seed)
    (h : Reached tokens seed a) : a.WellFormed seed := by
  induction h with
  | new => exact wellFormed_new obtained
  | bind _ uses ih => exact ih.run handedOut obtained uses
  | reset _ ih => exact ih.reset_eq ▸ wellFormed_new obtained

/-! ## Taking the values -/

theorem valuesFrom_eq (sql : String) (i : Nat) (slots : List (Option StorageValue)) :
    valuesFrom sql i slots
      = match slots.findIdx? Option.isNone with
        | none => .ok (slots.map (·.getD .null))
        | some k => .error (.unbound (i + k) sql) := by
  induction slots generalizing i with
  | nil => rfl
  | cons slot rest ih =>
    cases slot with
    | none => rfl
    | some v =>
      rw [valuesFrom, ih, List.findIdx?_cons]
      cases rest.findIdx? Option.isNone with
      | none => rfl
      | some k => simp [Except.map, Nat.add_comm, Nat.add_left_comm]

theorem values_of_isComplete (h : a.isComplete = true) : a.values = .ok a.snapshot := by
  have full : a.slots.findIdx? Option.isNone = none := by
    rw [List.findIdx?_eq_none_iff]
    intro slot hslot
    rw [Option.isNone_eq_false_iff]
    exact List.all_eq_true.1 h slot hslot
  rw [values, valuesFrom_eq, full, snapshot]

theorem values_of_not_isComplete (h : a.isComplete = false) :
    ∃ i : Nat, a.slots[i]? = some none ∧ (∀ j < i, a.slots[j]? ≠ some none)
      ∧ a.values = .error (.unbound i a.seed.sql) := by
  cases first : a.slots.findIdx? Option.isNone with
  | none =>
    have full : a.isComplete = true := by
      refine List.all_eq_true.2 fun slot hslot => ?_
      rw [← Option.isNone_eq_false_iff]
      exact List.findIdx?_eq_none_iff.1 first slot hslot
    rw [full] at h
    cases h
  | some i =>
    obtain ⟨inside, empty, before⟩ := List.findIdx?_eq_some_iff_getElem.1 first
    refine ⟨i, ?_, fun j hj held => ?_, ?_⟩
    · rw [List.getElem?_eq_getElem inside, Option.isNone_iff_eq_none.1 empty]
    · obtain ⟨hlt, held⟩ := List.getElem?_eq_some_iff.1 held
      exact before j hj (by rw [held]; rfl)
    · rw [values, valuesFrom_eq, first]
      simp only [Nat.zero_add]

/-- **Slots stay well formed under any calls, and the values can be taken exactly if all slots are
filled.** -/
theorem Reached.slots_kept (handedOut : HandedOut tokens s) (obtained : Seed.Obtained tokens seed)
    (h : Reached tokens seed a) :
    a.seed = seed ∧ a.slots.length = seed.params.length
      ∧ (∀ (i : Nat) (v : StorageValue), a.slots[i]? = some (some v) →
        ∃ slot : Slot, seed.params[i]? = some slot ∧ slot.type.Admits v)
      ∧ (∀ vs : List StorageValue, a.values = .ok vs → vs.length = seed.params.length
        ∧ ∀ (i : Nat) (v : StorageValue), vs[i]? = some v →
          ∃ slot : Slot, seed.params[i]? = some slot ∧ slot.type.Admits v)
      ∧ (a.isComplete = true → a.values = .ok a.snapshot)
      ∧ (a.isComplete = false → ∃ i : Nat, a.slots[i]? = some none
        ∧ (∀ j < i, a.slots[j]? ≠ some none) ∧ a.values = .error (.unbound i seed.sql))
      ∧ a.reset = Arguments.new seed := by
  have kept := h.wellFormed handedOut obtained
  refine ⟨kept.seed_eq, kept.length_eq, kept.admitted, fun vs taken => ?_,
    values_of_isComplete, ?_, kept.reset_eq⟩
  · cases complete : a.isComplete with
    | false =>
      obtain ⟨i, -, -, failed⟩ := values_of_not_isComplete complete
      rw [failed] at taken
      cases taken
    | true =>
      rw [values_of_isComplete complete] at taken
      cases taken
      refine ⟨(List.length_map _).trans kept.length_eq, fun i v held => ?_⟩
      rw [snapshot, List.getElem?_map, Option.map_eq_some_iff] at held
      obtain ⟨slot, found, rfl⟩ := held
      obtain ⟨w, rfl⟩ := Option.isSome_iff_exists.1
        (List.all_eq_true.1 complete slot (List.mem_of_getElem? found))
      exact kept.admitted i w found
  · exact kept.seed_eq ▸ values_of_not_isComplete

/-! ### A token at two places -/

def petColumn : Column .int64 := ⟨petId, ⟨.int64, true⟩⟩

/-- The first token handed out, for whole numbers other than NULL. -/
def petToken : Param .int64 := ⟨⟨1⟩, ⟨.int64, false⟩⟩

/-- Compares with the token, with a plain value, and with the token again. -/
def petsBetween : Select :=
  let id := petColumn.toExpression
  let bound := Operand.ofExpression petToken.toExpression
  ((Select.empty.fromSource (.relation (.table petTable))).column petColumn).andWhere
    (((id.compare .ge bound).and (id.compare .ne (.value (some 5)))).and (id.compare .le bound))

/-- The seed of `petsBetween`. -/
def petsSeed : Seed where
  sql := "SELECT pet.id FROM pet WHERE pet.id >= ? AND pet.id <> ? AND pet.id <= ?"
  params := [⟨petToken.descriptor.erase, none, some ⟨1⟩⟩, ⟨petId.type, some (.integer 5), none⟩,
    ⟨petToken.descriptor.erase, none, some ⟨1⟩⟩]
  registered := [(⟨1⟩, [0, 2])]
  columns := [⟨"id", petId.type, petId.key, []⟩]

/-- The arguments after the token was bound to seven. -/
def sevenBound : Arguments := ((BindCall.bind petToken (some 7)).run (.new petsSeed)).2

theorem petToken_handedOut : HandedOut [petToken.erase] { next := 2 } := .param _ .start

theorem petsSeed_obtained : Seed.Obtained [petToken.erase] petsSeed := by
  have token : Assembled [petToken.erase] (.operand .int64)
      (.ofExpression petToken.toExpression) :=
    .ofExpression (.ofParam (.param (List.mem_singleton_self _)))
  have id : Assembled [petToken.erase] (.expression .int64) petColumn.toExpression :=
    .ofColumn (.column _)
  have query : Assembled [petToken.erase] .select petsBetween :=
    .andWhere (.selectColumn (.fromSource .empty (.table _)) (.column _))
      (.and (.and (.compare _ id token) (.compare _ id (.value _))) (.compare _ id token))
  have built : (Statement.query (.select petsBetween)).build = .ok petsSeed := rfl
  exact .built (.query (.ofSelect query)) (Prod.ext built rfl)

theorem slots_kept_of_pets :
    Reached [petToken.erase] petsSeed sevenBound
      ∧ sevenBound.values = .ok [.integer 7, .integer 5, .integer 7]
      ∧ ∀ (i : Nat) (v : StorageValue), sevenBound.slots[i]? = some (some v) →
        ∃ slot : Slot, petsSeed.params[i]? = some slot ∧ slot.type.Admits v := by
  have reached : Reached [petToken.erase] petsSeed sevenBound :=
    .bind .new (List.mem_singleton_self _)
  obtain ⟨-, -, admitted, -, complete, -⟩ :=
    Reached.slots_kept petToken_handedOut petsSeed_obtained reached
  exact ⟨reached, complete rfl, admitted⟩

/-- **A call fails without effect, or puts one value into all its targets and nothing anywhere
else.** -/
theorem BindCall.all_or_nothing (handedOut : HandedOut tokens s)
    (obtained : Seed.Obtained tokens seed) (h : Reached tokens seed a) {c : BindCall}
    (uses : c.Uses tokens) :
    (∀ e, (c.run a).1 = .error e → (c.run a).2 = a)
      ∧ ((c.run a).1 = .ok () → c.targets seed ≠ [] ∧ (c.run a).2.seed = seed
        ∧ ∃ v, ∀ i : Nat, (c.run a).2.slots[i]?
          = if i ∈ c.targets seed then some (some v) else a.slots[i]?) := by
  have kept := h.wellFormed handedOut obtained
  have seed_eq := kept.seed_eq
  subst seed_eq
  rcases run_cases handedOut obtained uses with ⟨e, failed⟩ | ⟨v, nonempty, done, admits⟩
  · rw [failed]
    exact ⟨fun _ _ => rfl, fun ok => (nomatch ok)⟩
  · rw [done]
    refine ⟨fun _ error => (nomatch error), fun _ => ⟨nonempty, rfl, v, fun i => ?_⟩⟩
    rw [getElem?_write]
    by_cases target : i ∈ c.targets a.seed
    · obtain ⟨slot, found, -⟩ := admits i target
      have inside : i < a.slots.length := by
        rw [kept.length_eq]
        exact (List.getElem?_eq_some_iff.1 found).1
      rw [if_pos ⟨target, inside⟩, if_pos target]
    · rw [if_neg fun both => target both.1, if_neg target]

/-- The token fills the first and the third slot. -/
theorem all_or_nothing_of_pets :
    ((BindCall.bind petToken (some 7)).run (.new petsSeed)).1 = .ok ()
      ∧ (BindCall.bind petToken (some 7)).targets petsSeed = [0, 2]
      ∧ ∃ v, ∀ i : Nat, ((BindCall.bind petToken (some 7)).run (.new petsSeed)).2.slots[i]?
        = if i ∈ [0, 2] then some (some v) else (Arguments.new petsSeed).slots[i]? := by
  have done : ((BindCall.bind petToken (some 7)).run (.new petsSeed)).1 = .ok () := rfl
  obtain ⟨-, filled⟩ := BindCall.all_or_nothing petToken_handedOut petsSeed_obtained .new
    (c := .bind petToken (some 7)) (List.mem_singleton_self _)
  exact ⟨done, rfl, (filled done).2.2⟩

end Arguments

end TypedSql
