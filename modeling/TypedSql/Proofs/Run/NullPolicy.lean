import TypedSql.Run.ResultRow

/-!
# Reading NULL

NULL read through a descriptor that does not allow it is an error, and no value through one that
does. A stored value can be read through a descriptor, from a row of the engine, and from a result
row by position, by handle, with a default in place of NULL, and together with other components.

**Theorem (`ResultRow.null_policy`).** Every way of reading keeps to that policy except the one with
a default, which keeps to it exactly where NULL is allowed: else it gives the default for NULL where
the others fail. A value other than NULL is decoded alike by all of them.

Only `Descriptor.read` looks at the nullability. The other ways are reduced to it, whatever the
kind; reading with a default looks for NULL by itself.
-/

namespace TypedSql

/-- What reading NULL ends in: `absent` where NULL is allowed, else an error made of the reason. -/
def nullOutcome {ε α : Type} (nullable : Bool) (kind : String) (fail : ConversionError → ε)
    (absent : α) : Except ε α :=
  if nullable then .ok absent else .error (fail (.unexpectedNull kind))

variable {t : ValueType}

/-! ## Descriptors -/

namespace Descriptor

variable {d : Descriptor t} {v : StorageValue}

theorem read_null : d.read .null = nullOutcome d.nullable d.kind.name id none := rfl

theorem read_of_ne_null (h : v ≠ .null) : d.read v = (d.kind.decode v).map some := by
  cases v with
  | null => exact absurd rfl h
  | integer _ | real _ | text _ | blob _ => rfl

theorem mapError_read_null {ε : Type} {fail : ConversionError → ε} :
    (d.read .null).mapError fail = nullOutcome d.nullable d.kind.name fail none := by
  rw [read_null, nullOutcome, nullOutcome]
  cases d.nullable <;> rfl

end Descriptor

/-! ## Result rows -/

namespace ResultRow

variable {r : ResultRow} {i : Nat} {v : StorageValue}

theorem raw_eq (stored : r.row.value i = .ok v) : r.raw i = .ok v := by
  rw [raw, stored]
  rfl

theorem getAt_eq (stored : r.row.value i = .ok v) (d : Descriptor t) :
    r.getAt i d = (d.read v).mapError (r.decodeError i) := by
  rw [getAt, raw_eq stored]
  rfl

theorem locate_eq {key : ColumnKey} {display : String}
    (located : resultIndex? r.seed.columns key = some i) : r.locate key display = .ok i := by
  rw [locate, located]

variable {target : Target t}

theorem get_eq (located : resultIndex? r.seed.columns target.key = some i) :
    r.get target = r.getAt i target.descriptor := by
  rw [get, locate_eq located]
  rfl

theorem getD_null (located : resultIndex? r.seed.columns target.key = some i)
    (stored : r.row.value i = .ok .null) (default : t.Value) :
    r.getD target default = .ok default := by
  rw [getD, locate_eq located]
  simp only [raw_eq stored, bind, Except.bind]
  rfl

theorem getD_of_ne_null (located : resultIndex? r.seed.columns target.key = some i)
    (stored : r.row.value i = .ok v) (h : v ≠ .null) (default : t.Value) :
    r.getD target default = (target.descriptor.kind.decode v).mapError (r.decodeError i) := by
  rw [getD, locate_eq located]
  simp only [raw_eq stored, bind, Except.bind]
  cases v with
  | null => exact absurd rfl h
  | integer _ | real _ | text _ | blob _ => rfl

/-! ### Components -/

theorem mapM_eq_ok {ε α β : Type} {f : α → Except ε β} {g : α → β} {xs : List α}
    (h : ∀ x ∈ xs, f x = .ok (g x)) : xs.mapM f = .ok (xs.map g) := by
  induction xs with
  | nil => rfl
  | cons x xs ih =>
    rw [List.forall_mem_cons] at h
    rw [List.mapM_cons, h.1, ih h.2]
    rfl

/-- The position of a component, if it was selected. -/
def position (r : ResultRow) (part : ColumnRef) : Nat :=
  (resultIndex? r.seed.columns part.key).getD 0

/-- Components that are all NULL. -/
theorem getComposite_null {α : Type} {c : CompositeColumn α}
    (null : ∀ part ∈ c.parts, ∃ i, resultIndex? r.seed.columns part.key = some i
      ∧ r.row.value i = .ok .null) :
    r.getComposite c
      = nullOutcome c.nullable c.kind.name
          (r.decodeError ((c.parts.map r.position).head?.getD 0)) none := by
  have located : ∀ part ∈ c.parts,
      r.locate part.key part.display = .ok (r.position part) := by
    intro part hp
    obtain ⟨i, found, -⟩ := null part hp
    rw [locate_eq found, position, found]
    rfl
  have stored : ∀ i ∈ c.parts.map r.position, r.raw i = .ok ((fun _ => .null) i) := by
    intro i hi
    obtain ⟨part, hp, rfl⟩ := List.mem_map.1 hi
    obtain ⟨i, found, stored⟩ := null part hp
    rw [position, found]
    exact raw_eq stored
  have all : ((c.parts.map r.position).map fun _ => StorageValue.null).all
      StorageValue.isNull = true := by
    simp [StorageValue.isNull]
  simp only [getComposite, mapM_eq_ok located, mapM_eq_ok stored, bind, Except.bind]
  rw [if_pos all, nullOutcome]
  rfl

/-! ## The policy -/

/-- **NULL ends alike in every way of reading but one.** With a default in place of NULL a
descriptor that does not allow NULL is not asked. -/
theorem null_policy (r : ResultRow) :
    (∀ {t : ValueType} (d : Descriptor t) (i : Nat), r.row.value i = .ok .null →
      d.read .null = nullOutcome d.nullable d.kind.name id none
        ∧ d.readColumn r.row i = nullOutcome d.nullable d.kind.name .conversion none
        ∧ r.getAt i d = nullOutcome d.nullable d.kind.name (r.decodeError i) none)
    ∧ (∀ {t : ValueType} (target : Target t) (default : t.Value) (i : Nat),
      resultIndex? r.seed.columns target.key = some i → r.row.value i = .ok .null →
      let d := target.descriptor
      r.get target = nullOutcome d.nullable d.kind.name (r.decodeError i) none
        ∧ r.getD target default = .ok default
        ∧ (r.getD target default = nullOutcome d.nullable d.kind.name (r.decodeError i) default
          ↔ d.nullable = true))
    ∧ (∀ {t : ValueType} (target : Target t) (default : t.Value) (i : Nat) (v : StorageValue),
      resultIndex? r.seed.columns target.key = some i → r.row.value i = .ok v → v ≠ .null →
      let read := (target.descriptor.kind.decode v).mapError (r.decodeError i)
      r.get target = read.map some ∧ r.getAt i target.descriptor = read.map some
        ∧ r.getD target default = read)
    ∧ ∀ {α : Type} (c : CompositeColumn α),
      (∀ part ∈ c.parts, ∃ i, resultIndex? r.seed.columns part.key = some i
        ∧ r.row.value i = .ok .null) →
      r.getComposite c
        = nullOutcome c.nullable c.kind.name
            (r.decodeError ((c.parts.map r.position).head?.getD 0)) none := by
  refine ⟨?_, ?_, ?_, fun c => getComposite_null⟩
  · intro t d i stored
    refine ⟨d.read_null, ?_, ?_⟩
    · rw [Descriptor.readColumn, stored]
      exact Descriptor.mapError_read_null
    · rw [getAt_eq stored, Descriptor.mapError_read_null]
  · intro t target default i located stored d
    have shown := getD_null located stored default
    refine ⟨?_, shown, ?_⟩
    · rw [get_eq located, getAt_eq stored, Descriptor.mapError_read_null]
    · rw [shown, nullOutcome]
      cases d.nullable <;> simp
  · intro t target default i v located stored present read
    have decoded : r.getAt i target.descriptor = read.map some := by
      rw [getAt_eq stored, Descriptor.read_of_ne_null present]
      simp only [read]
      cases target.descriptor.kind.decode v <;> rfl
    exact ⟨(get_eq located).trans decoded, decoded, getD_of_ne_null located stored present default⟩

/-! ### A guest without a name -/

def guestName : Column .text where
  ref :=
    { key := ⟨⟨1⟩, "name"⟩
      qualifier := "guest"
      type := (⟨.text, false⟩ : Descriptor .text).erase }
  descriptor := ⟨.text, false⟩

def guestSeen : CompositeColumn OffsetInstant where
  kind := .offsetTimestamp
  name := "seen"
  nullable := false
  parts :=
    [{ key := ⟨⟨1⟩, "seen_utc_ms"⟩
       qualifier := "guest"
       type := (⟨.int64, false⟩ : Descriptor .int64).erase },
     { key := ⟨⟨1⟩, "seen_offset_s"⟩
       qualifier := "guest"
       type := (⟨.int32, false⟩ : Descriptor .int32).erase }]

def guestTable : Table := ⟨⟨1⟩, "guest", guestName.ref :: guestSeen.parts⟩

def guests : Select :=
  { Select.empty with
    source := some (.relation (.table guestTable))
    items := guestTable.columns.map .column }

def guestSeed : Seed where
  sql := "SELECT guest.name, guest.seen_utc_ms, guest.seen_offset_s FROM guest"
  params := []
  registered := []
  columns := guests.resultColumns

/-- A row of NULLs, in columns that do not allow NULL. -/
def unnamedGuest : ResultRow := ⟨.ofValues [] [.null, .null, .null], guestSeed⟩

def namedGuest : ResultRow := ⟨.ofValues [] [.text "Ada", .integer 0, .integer 60], guestSeed⟩

/-- A name and a composite value are not read from NULL, and a name that is there is read alike. -/
theorem null_policy_of_guests :
    resultIndex? guestSeed.columns guestName.target.key = some 0
      ∧ unnamedGuest.get guestName.target
        = .error (.decode "name" guestSeed.sql (.unexpectedNull "text"))
      ∧ unnamedGuest.getComposite guestSeen
        = .error (.decode "seen_utc_ms" guestSeed.sql (.unexpectedNull "offset timestamp"))
      ∧ guestName.descriptor.readColumn unnamedGuest.row 0
        = .error (.conversion (.unexpectedNull "text"))
      ∧ namedGuest.get guestName.target = .ok (some "Ada")
      ∧ namedGuest.getD guestName.target "nobody" = .ok "Ada" := by
  have located : resultIndex? guestSeed.columns guestName.target.key = some 0 := rfl
  obtain ⟨null, target, -, composite⟩ := unnamedGuest.null_policy
  obtain ⟨-, -, present, -⟩ := namedGuest.null_policy
  obtain ⟨got, -, defaulted⟩ :=
    present guestName.target "nobody" 0 (.text "Ada") located rfl nofun
  have parts : ∀ part ∈ guestSeen.parts, ∃ i,
      resultIndex? guestSeed.columns part.key = some i
        ∧ unnamedGuest.row.value i = .ok .null := by
    simp only [guestSeen, List.forall_mem_cons]
    exact ⟨⟨1, rfl, rfl⟩, ⟨2, rfl, rfl⟩, List.forall_mem_nil _⟩
  exact ⟨located, (target guestName.target "nobody" 0 located rfl).1, composite guestSeen parts,
    (null guestName.descriptor 0 rfl).2.1, got, defaulted⟩

/-- **A default hides a NULL that is not allowed.** The query is built, its column does not allow
NULL, and reading the column fails; with a default in place of NULL the default is read. -/
theorem null_hidden_by_default :
    (Statement.query (.select guests)).build = .ok guestSeed
      ∧ guestName.descriptor.nullable = false
      ∧ unnamedGuest.row.value 0 = .ok .null
      ∧ unnamedGuest.get guestName.target
        = .error (.decode "name" guestSeed.sql (.unexpectedNull "text"))
      ∧ unnamedGuest.getD guestName.target "nobody" = .ok "nobody" :=
  ⟨rfl, rfl, rfl, rfl, rfl⟩

end ResultRow
end TypedSql
