import TypedSql.Proofs.Kind.Coercion
import TypedSql.Proofs.Run.Interchange

/-!
# By token and by position

A value can be bound to a token in three ways: as a value of the token's type, as a plain value by
the token, and as a plain value at each position of the token in turn.

**Theorem (`Arguments.Reached.routes_agree`).** For a kind whose values are plain values, all three
come to the same. The value is stored at every position of the token, or nothing is stored and the
error names the first position; in which case the value was absent and the token does not allow
NULL.

The first way encodes the value once and asks each slot only for its nullability; the others decode
and encode again in every slot. Each of them does with the value what one descriptor says, that of
the token (`storeAll_eq_settle`, `bind_eq_settle`), and for plain values the descriptor says the
same both times (`Kind.Plain.coerce_eq_bindValue`).
-/

namespace TypedSql

variable {t : ValueType}

/-! ## Kinds of plain values -/

/-- The plain value that stands for a value of the kind. -/
inductive Kind.Plain : {t : ValueType} → Kind t → (t.Value → PlainValue) → Prop
  | int8 : Plain .int8 PlainValue.int8
  | int16 : Plain .int16 PlainValue.int16
  | int32 : Plain .int32 PlainValue.int32
  | int64 : Plain .int64 PlainValue.int64
  | bool : Plain .bool PlainValue.bool
  | text : Plain .text PlainValue.text
  | blob : Plain .blob PlainValue.bytes

namespace Kind.Plain

variable {k : Kind t} {plain : t.Value → PlainValue}

theorem lossless (h : k.Plain plain) : k.Lossless := by
  cases h <;> constructor

theorem reads (h : k.Plain plain) (a : t.Value) : k.Reads a := by
  cases h <;> trivial

/-- A plain value is stored as the kind stores it. -/
theorem encode_eq (h : k.Plain plain) (a : t.Value) : k.encode a = .ok (plain a).toStorage := by
  cases h <;> rfl

/-- What the kind stores is coerced to itself. -/
theorem coerce_eq (h : k.Plain plain) (a : t.Value) :
    k.coerce (plain a).toStorage = .ok (plain a).toStorage := by
  have written := h.encode_eq a
  have read := decode_of_encode standardCalendar_fields standardCalendar_writes
    standardCalendar_reads standardUuids_documented h.lossless (h.reads a) written
  exact (coerce_eq_ok_iff h.lossless).2 ⟨a, read, written⟩

theorem isNull_eq (h : k.Plain plain) (a : t.Value) : (plain a).toStorage.isNull = false := by
  cases h <;> rfl

/-- An optional value as a plain one. -/
def optional (plain : t.Value → PlainValue) (v : Option t.Value) : PlainValue :=
  v.elim .absent plain

/-- **Coercing the plain value and encoding the value are the same, NULL included.** -/
theorem coerce_eq_bindValue {d : Descriptor t} (h : d.kind.Plain plain) (v : Option t.Value) :
    d.erase.coerce (optional plain v).toStorage = d.bindValue v := by
  cases v with
  | none =>
    cases allowed : d.nullable <;>
      simp [optional, PlainValue.toStorage, AnyDescriptor.coerce, AnyDescriptor.acceptEncoded,
        StorageValue.isNull, Descriptor.erase, AnyDescriptor.nullable, AnyDescriptor.name,
        Descriptor.bindValue, allowed]
  | some a =>
    have present : (optional plain (some a)).toStorage.isNull = false := h.isNull_eq a
    rw [AnyDescriptor.coerce, present, if_neg Bool.false_ne_true, Descriptor.bindValue,
      h.encode_eq a]
    exact h.coerce_eq a

end Kind.Plain

/-- Only an absent value is refused, where NULL is not allowed. -/
theorem Descriptor.bindValue_eq_error_iff {d : Descriptor t} {plain : t.Value → PlainValue}
    (h : d.kind.Plain plain) {v : Option t.Value} {e : ConversionError} :
    d.bindValue v = .error e ↔ v = none ∧ d.nullable = false ∧ e = .nullNotAllowed d.kind.name := by
  cases v with
  | none => cases allowed : d.nullable <;> simp [bindValue, allowed, eq_comm]
  | some a => simp [bindValue, h.encode_eq a]

namespace Arguments

variable {a : Arguments} {i : Nat} {rest : List Nat} {d : AnyDescriptor}

/-- A value that is taken is stored in all the slots; of one that is refused, the error names the
first slot. -/
def settle (a : Arguments) (d : AnyDescriptor) (i : Nat) (rest : List Nat) :
    Except ConversionError StorageValue → Binding
  | .ok v => (.ok (), a.write v (i :: rest))
  | .error e => (.error (.bind i d.name a.seed.sql e), a)

/-- Binds a plain value at one position after the other, until one refuses. -/
def setEach (a : Arguments) (v : PlainValue) : List Nat → Binding
  | [] => (.ok (), a)
  | i :: rest =>
    match a.set i v with
    | (.ok (), a) => a.setEach v rest
    | failed => failed

theorem setEach_eq_storeAll (a : Arguments) (v : PlainValue) (targets : List Nat) :
    a.setEach v targets = a.storeAll v.toStorage AnyDescriptor.coerce targets := by
  induction targets generalizing a with
  | nil => rfl
  | cons i rest ih =>
    rw [setEach, storeAll, set]
    rcases a.storeWith i v.toStorage AnyDescriptor.coerce with ⟨_ | ⟨⟨⟩⟩, a'⟩
    · rfl
    · exact ih a'

/-- Slots of one descriptor do what the descriptor says. -/
theorem storeAll_eq_settle
    (slots : ∀ j ∈ i :: rest, ∃ slot, a.seed.params[j]? = some slot ∧ slot.type = d)
    (v : StorageValue)
    (convert : AnyDescriptor → StorageValue → Except ConversionError StorageValue) :
    a.storeAll v convert (i :: rest) = a.settle d i rest (convert d v) := by
  cases converted : convert d v with
  | ok w => exact storeAll_of_ok converted _ a slots
  | error e =>
    obtain ⟨slot, found, type⟩ := slots i List.mem_cons_self
    exact storeAll_of_error converted found type

section Token

variable {p : Param t}

theorem bind_eq_settle
    (slots : ∀ j ∈ i :: rest, ∃ slot, a.seed.params[j]? = some slot
      ∧ slot.type = p.descriptor.erase)
    (positions : a.seed.positions p.id = i :: rest) (v : Option t.Value) :
    a.bind p v = a.settle p.descriptor.erase i rest (p.descriptor.bindValue v) := by
  rw [bind, positions]
  cases encoded : p.descriptor.bindValue v with
  | error e => rfl
  | ok w =>
    exact (storeAll_eq_settle slots w _).trans
      (congrArg _ (Descriptor.acceptEncoded_of_bindValue encoded))

theorem bindPlain_eq_settle
    (slots : ∀ j ∈ i :: rest, ∃ slot, a.seed.params[j]? = some slot
      ∧ slot.type = p.descriptor.erase)
    (positions : a.seed.positions p.id = i :: rest) (v : PlainValue) :
    a.bindPlain p.id v
      = a.settle p.descriptor.erase i rest (p.descriptor.erase.coerce v.toStorage) := by
  rw [bindPlain, positions]
  exact storeAll_eq_settle slots v.toStorage _

variable {tokens : List AnyParam} {s : Supply} {seed : Seed} {plain : t.Value → PlainValue}

/-- **The ways of binding a value to a token agree.** -/
theorem Reached.routes_agree (handedOut : HandedOut tokens s)
    (obtained : Seed.Obtained tokens seed) (reached : Reached tokens seed a)
    (uses : p.erase ∈ tokens) (registered : seed.positions p.id ≠ [])
    (h : p.descriptor.kind.Plain plain) (v : Option t.Value) :
    a.bindPlain p.id (Kind.Plain.optional plain v) = a.bind p v
      ∧ a.setEach (Kind.Plain.optional plain v) (seed.positions p.id) = a.bind p v
      ∧ (∀ w, p.descriptor.bindValue v = .ok w →
        a.bind p v = (.ok (), a.write w (seed.positions p.id)))
      ∧ (∀ e, p.descriptor.bindValue v = .error e →
        ∃ i, (seed.positions p.id).head? = some i
          ∧ a.bind p v = (.error (.bind i p.descriptor.kind.name seed.sql e), a))
      ∧ ∀ e, p.descriptor.bindValue v = .error e ↔
        v = none ∧ p.descriptor.nullable = false
          ∧ e = .nullNotAllowed p.descriptor.kind.name := by
  have seed_eq := (reached.wellFormed handedOut obtained).seed_eq
  subst seed_eq
  obtain ⟨i, rest, positions⟩ := List.exists_cons_of_ne_nil registered
  have slots := BindCall.type_eq_of_mem_positions handedOut obtained uses
  rw [positions] at slots
  have typed := bind_eq_settle slots positions v
  rw [positions, setEach_eq_storeAll, bindPlain_eq_settle slots positions,
    storeAll_eq_settle slots, Kind.Plain.coerce_eq_bindValue h, typed]
  refine ⟨rfl, rfl, fun w encoded => ?_, fun e refused => ⟨i, rfl, ?_⟩,
    fun e => Descriptor.bindValue_eq_error_iff h⟩
  · rw [encoded]
    rfl
  · rw [refused]
    rfl

end Token

/-- The token of the pets takes eight in both of its slots, and no NULL in either. -/
theorem routes_agree_of_pets :
    Reached [petToken.erase] petsSeed sevenBound ∧ petsSeed.positions petToken.id = [0, 2]
      ∧ petToken.descriptor.kind.Plain PlainValue.int64
      ∧ sevenBound.setEach (.int64 8) [0, 2] = sevenBound.bind petToken (some 8)
      ∧ sevenBound.bind petToken (some 8) = (.ok (), sevenBound.write (.integer 8) [0, 2])
      ∧ sevenBound.setEach .absent [0, 2] = sevenBound.bind petToken none
      ∧ sevenBound.bind petToken none
        = (.error (.bind 0 "i64" petsSeed.sql (.nullNotAllowed "i64")), sevenBound) := by
  have reached : Reached [petToken.erase] petsSeed sevenBound :=
    .bind .new (List.mem_singleton_self _)
  have positions : petsSeed.positions petToken.id = [0, 2] := rfl
  have registered : petsSeed.positions petToken.id ≠ [] := List.cons_ne_nil _ _
  obtain ⟨-, each, stored, -⟩ := Reached.routes_agree petToken_handedOut petsSeed_obtained reached
    (List.mem_singleton_self _) registered .int64 (some 8)
  obtain ⟨-, none, -, refused, -⟩ := Reached.routes_agree petToken_handedOut petsSeed_obtained
    reached (List.mem_singleton_self _) registered .int64 none
  obtain ⟨i, first, failed⟩ := refused _ rfl
  cases first
  exact ⟨reached, positions, .int64, each, stored _ rfl, none, failed⟩

end Arguments

end TypedSql
