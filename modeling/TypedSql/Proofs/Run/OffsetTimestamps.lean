import TypedSql.Proofs.Calendar.Standard
import TypedSql.Proofs.Grammar.Composites
import TypedSql.Proofs.Render.Placeholders
import TypedSql.Proofs.Run.NullPolicy

/-!
# Timestamps with an offset, stored and read

A timestamp with an offset is stored as a count of milliseconds and an offset in seconds.

**Theorem (`CompositeKind.offsetTimestamp_consistent`).** Outside leap seconds a timestamp comes
back rounded down to the millisecond, before 1970 as after, with its offset. Two stored integers
that are a timestamp are what it is stored as; they are one unless the offset is a day or more or
the count is beyond the calendar. What an INSERT presets in a composite column is read as the
rounded timestamp.

The count of milliseconds and the offset tell timestamps apart, and there is one for each that is in
range (`CompositeKind.joinOffset_eq_ok_iff`). Rounding is what is lost between nanoseconds and
milliseconds (`CalendarLibrary.IsMilliFloor`).
-/

namespace TypedSql

/-! ## Milliseconds of the library -/

namespace CalendarLibrary

variable {L : CalendarLibrary}

/-- `j` is `v` rounded down to the millisecond, with the same offset. -/
structure IsMilliFloor (v j : L.OffsetInstant) : Prop where
  unixNano : L.unixNano (L.toUtc j) = 1000000 * (L.unixNano (L.toUtc v) / 1000000)
  ordinary : L.nanosecond (L.time (L.naive (L.toUtc j))) < 1000000000
  offset : L.offset j = L.offset v

variable (counts : L.Counts)
include counts

/-- A count of milliseconds gives the instant of that count, outside leap seconds, that is a whole
number of milliseconds. -/
theorem ofMillis?_eq_some_iff {ms : Int64} {i : L.Instant} :
    L.ofMillis? ms = some i
      ↔ L.unixNano i = 1000000 * ms.toInt ∧ L.nanosecond (L.time (L.naive i)) < 1000000000 := by
  constructor
  · intro found
    have second := counts.unixSecond_of_ofMillis? found
    have nanosecond := counts.nanosecond_of_ofMillis? found
    unfold unixNano
    omega
  · rintro ⟨count, ordinary⟩
    unfold unixNano at count
    have lower := counts.unixSecond_first_le i
    have upper := counts.unixSecond_le_last i
    have start := counts.nanosecond_first
    have finish := counts.nanosecond_last
    obtain ⟨j, found⟩ : ∃ j, L.ofMillis? ms = some j :=
      counts.exists_ofMillis? (by unfold unixMilli; omega) (by unfold unixMilli; omega)
    have second := counts.unixSecond_of_ofMillis? found
    have nanosecond := counts.nanosecond_of_ofMillis? found
    rw [found, counts.eq_of_unixSecond (i := j) (j := i) (by omega) (by omega)]

/-- The counts with an instant are those from the first one to the last one. -/
theorem exists_ofMillis?_iff {ms : Int64} :
    (∃ i, L.ofMillis? ms = some i)
      ↔ L.unixMilli L.first ≤ ms.toInt ∧ ms.toInt ≤ L.unixMilli L.last := by
  refine ⟨?_, fun within => counts.exists_ofMillis? within.1 within.2⟩
  rintro ⟨i, found⟩
  have lower := counts.unixSecond_first_le i
  have upper := counts.unixSecond_le_last i
  have start := counts.nanosecond_first
  have finish := counts.nanosecond_last
  have second := counts.unixSecond_of_ofMillis? found
  unfold unixMilli
  omega

/-- Offsets are the seconds of less than a day. -/
theorem offset?_eq_some_iff {seconds : Int32} {o : L.Offset} :
    L.offset? seconds = some o ↔ L.eastSeconds o = seconds := by
  refine ⟨counts.eastSeconds_of_offset?, ?_⟩
  rintro rfl
  obtain ⟨lower, upper⟩ := counts.eastSeconds_bounds o
  obtain ⟨p, found⟩ := counts.exists_offset? lower upper
  rw [found, counts.eastSeconds_injective (counts.eastSeconds_of_offset? found)]

end CalendarLibrary

/-! ## Splitting and joining -/

namespace CompositeKind

open CalendarLibrary

section Libraries

variable [lib : Libraries] (counts : lib.calendar.Counts)
include counts

/-- A stored offset fits 32 bits if it is one. -/
theorem bind_offset?_eq_some_iff {off : Int64} {o : lib.calendar.Offset} :
    (int32? off).bind lib.calendar.offset? = some o
      ↔ (lib.calendar.eastSeconds o).toInt64 = off := by
  rw [Option.bind_eq_some_iff]
  constructor
  · rintro ⟨seconds, narrow, found⟩
    obtain ⟨fits, same⟩ := Option.ite_none_right_eq_some.1 narrow
    cases same
    rw [(offset?_eq_some_iff counts).1 found, ← Int64.toInt_inj, Int32.toInt_toInt64,
      Int64.toInt_toInt32, Int.bmod_eq_of_le] <;> omega
  · rintro rfl
    obtain ⟨lower, upper⟩ := counts.eastSeconds_bounds o
    refine ⟨lib.calendar.eastSeconds o, ?_, (offset?_eq_some_iff counts).2 rfl⟩
    rw [int32?, Int32.toInt_toInt64, if_pos (by omega), Int32.toInt32_toInt64]

theorem exists_bind_offset?_iff {off : Int64} :
    (∃ o, (int32? off).bind lib.calendar.offset? = some o)
      ↔ -86400 < off.toInt ∧ off.toInt < 86400 := by
  simp only [bind_offset?_eq_some_iff counts]
  constructor
  · rintro ⟨o, rfl⟩
    rw [Int32.toInt_toInt64]
    exact counts.eastSeconds_bounds o
  · rintro ⟨lower, upper⟩
    have back : (Int32.ofInt off.toInt).toInt = off.toInt :=
      Int32.toInt_ofInt_of_le (by omega) (by omega)
    obtain ⟨o, found⟩ : ∃ o, lib.calendar.offset? (.ofInt off.toInt) = some o :=
      counts.exists_offset? (by omega) (by omega)
    refine ⟨o, ?_⟩
    rw [(offset?_eq_some_iff counts).1 found, ← Int64.toInt_inj, Int32.toInt_toInt64, back]

omit counts in
theorem joinOffset_integers (ms off : Int64) :
    joinOffset [.integer ms, .integer off]
      = match (int32? off).bind lib.calendar.offset?, lib.calendar.ofMillis? ms with
        | none, _ => .error (.outOfRange "offset timestamp" (toString off.toInt))
        | some _, none => .error (.outOfRange "offset timestamp" (toString ms.toInt))
        | some o, some i => .ok (lib.calendar.withOffset i o) := by
  unfold joinOffset
  simp only [StorageValue.toInt64, bind, Except.bind]
  split <;> split <;> simp_all

/-- Two integers are a timestamp if the first is the count of its instant and the second its
offset. -/
theorem joinOffset_eq_ok_iff {ms off : Int64} {v : lib.calendar.OffsetInstant} :
    joinOffset [.integer ms, .integer off] = .ok v
      ↔ lib.calendar.ofMillis? ms = some (lib.calendar.toUtc v)
        ∧ (lib.calendar.eastSeconds (lib.calendar.offset v)).toInt64 = off := by
  rw [joinOffset_integers, ← bind_offset?_eq_some_iff counts]
  split
  · next none => simp [none]
  · next none => simp [none]
  · next o i offset instant =>
    rw [offset, instant, Except.ok.injEq, Option.some.injEq, Option.some.injEq]
    constructor
    · rintro rfl
      exact ⟨(counts.toUtc_withOffset i o).symm, (counts.offset_withOffset i o).symm⟩
    · rintro ⟨rfl, rfl⟩
      exact counts.withOffset_toUtc v

/-- The integers are no timestamp if the offset is a day or more or the count is beyond the
calendar. -/
theorem joinOffset_eq_error_iff {ms off : Int64} :
    (∃ e, joinOffset [.integer ms, .integer off] = .error e)
      ↔ ¬(-86400 < off.toInt ∧ off.toInt < 86400)
        ∨ ms.toInt < lib.calendar.unixMilli lib.calendar.first
        ∨ lib.calendar.unixMilli lib.calendar.last < ms.toInt := by
  have instants : (∃ i, lib.calendar.ofMillis? ms = some i) ↔ _ := exists_ofMillis?_iff counts
  rw [← exists_bind_offset?_iff counts, joinOffset_integers]
  split
  · next none => simp [none]
  · next offset none =>
    have beyond : ¬ (lib.calendar.unixMilli lib.calendar.first ≤ ms.toInt
        ∧ ms.toInt ≤ lib.calendar.unixMilli lib.calendar.last) := by
      rw [← instants, none]
      simp
    exact iff_of_true ⟨_, rfl⟩ (.inr (by omega))
  · next offset instant =>
    have within := instants.1 ⟨_, instant⟩
    refine iff_of_false (by simp) ?_
    rintro (none | beyond)
    · exact none ⟨_, offset⟩
    · omega

omit counts in
/-- What a timestamp is stored as. -/
theorem split_offsetTimestamp (v : lib.calendar.OffsetInstant) :
    offsetTimestamp.split v
      = .ok [.integer (lib.calendar.millis v),
        .integer (lib.calendar.eastSeconds (lib.calendar.offset v)).toInt64] := rfl

/-- What is stored for a timestamp is the timestamp rounded down. -/
theorem joinOffset_split_iff {v j : lib.calendar.OffsetInstant} :
    joinOffset [.integer (lib.calendar.millis v),
        .integer (lib.calendar.eastSeconds (lib.calendar.offset v)).toInt64] = .ok j
      ↔ IsMilliFloor v j := by
  have floor : (lib.calendar.millis v).toInt
      = lib.calendar.unixNano (lib.calendar.toUtc v) / 1000000 := by
    rw [counts.toInt_millis]
    unfold CalendarLibrary.unixMilli CalendarLibrary.unixNano
    omega
  rw [joinOffset_eq_ok_iff counts, ofMillis?_eq_some_iff counts, floor, ← Int64.toInt_inj,
    Int32.toInt_toInt64, Int32.toInt_toInt64, Int32.toInt_inj]
  constructor
  · rintro ⟨⟨nano, below⟩, offset⟩
    exact ⟨nano, below, counts.eastSeconds_injective offset⟩
  · rintro ⟨nano, below, offset⟩
    exact ⟨⟨nano, below⟩, by rw [offset]⟩

/-- The count of an instant that is no leap second has an instant. -/
theorem exists_joinOffset_split {v : lib.calendar.OffsetInstant}
    (ordinary : lib.calendar.nanosecond
      (lib.calendar.time (lib.calendar.naive (lib.calendar.toUtc v))) < 1000000000) :
    ∃ j, joinOffset [.integer (lib.calendar.millis v),
        .integer (lib.calendar.eastSeconds (lib.calendar.offset v)).toInt64] = .ok j := by
  cases joined : joinOffset [.integer (lib.calendar.millis v),
      .integer (lib.calendar.eastSeconds (lib.calendar.offset v)).toInt64] with
  | ok j => exact ⟨j, rfl⟩
  | error e =>
    have bounds := counts.eastSeconds_bounds (lib.calendar.offset v)
    have lower := counts.unixSecond_first_le (lib.calendar.toUtc v)
    have upper := counts.unixSecond_le_last (lib.calendar.toUtc v)
    have start := counts.nanosecond_first
    have finish := counts.nanosecond_last
    have beyond := (joinOffset_eq_error_iff counts).1 ⟨e, joined⟩
    rw [counts.toInt_millis, Int32.toInt_toInt64] at beyond
    unfold CalendarLibrary.unixMilli at beyond
    omega

/-- Integers that are a timestamp are what it is stored as. -/
theorem split_of_joinOffset {ms off : Int64} {v : lib.calendar.OffsetInstant}
    (joined : joinOffset [.integer ms, .integer off] = .ok v) :
    offsetTimestamp.split v = .ok [.integer ms, .integer off] := by
  obtain ⟨instant, offset⟩ := (joinOffset_eq_ok_iff counts).1 joined
  obtain ⟨nano, below⟩ := (ofMillis?_eq_some_iff counts).1 instant
  have count : lib.calendar.millis v = ms := by
    rw [← Int64.toInt_inj, counts.toInt_millis]
    unfold CalendarLibrary.unixNano at nano
    unfold CalendarLibrary.unixMilli
    omega
  rw [split_offsetTimestamp, count, offset]

end Libraries

end CompositeKind

/-! ## Composite columns -/

variable {α : Type} {c : CompositeColumn α} {v : α}

/-- The placeholders of a value are among those of the INSERT it is given to. -/
theorem Insert.slot_mem_params {table : Table} {calls : List Call} {p p' : Pool} {d : Dialect}
    {seed : Seed} (called : .setComposite c v ∈ calls)
    (built : (Statement.insert (.ofCalls table calls)).buildWith p d = (.ok seed, p'))
    {q : Placeholder} (h : q ∈ c.presets v) : q.slot ∈ seed.params := by
  obtain ⟨k, hk, rfl⟩ := List.mem_iff_getElem.1 h
  have inside : k < c.parts.length := c.length_presets v ▸ hk
  have pair : (c.parts[k], (c.presets v)[k]) ∈ c.parts.zip (c.presets v) :=
    List.mem_iff_getElem.2 ⟨k, by rw [List.length_zip]; omega, List.getElem_zip⟩
  have given := mem_pairs_ofCalls (errors_of_built built) called pair
  rw [Statement.params_of_buildWith built]
  refine List.mem_map_of_mem ?_
  rw [(Statement.written _).slots_eq]
  have part : Part.bind (c.presets v)[k] ∈ (Insert.ofCalls table calls).parts :=
    List.mem_append_right _ (List.mem_flatMap.2 ⟨_, given, List.mem_singleton_self _⟩)
  exact List.mem_filterMap.2 ⟨_, part, rfl⟩

namespace ResultRow

variable {r : ResultRow} {vs : List StorageValue}

/-- The row has the value in the result column that is read for a column. -/
def Has (r : ResultRow) (part : ColumnRef) (v : StorageValue) : Prop :=
  ∃ k, resultIndex? r.seed.columns part.key = some k ∧ r.row.value k = .ok v

/-- The row has the values of the components. -/
def Holds (r : ResultRow) (c : CompositeColumn α) (vs : List StorageValue) : Prop :=
  List.Forall₂ r.Has c.parts vs

/-- The row has what an INSERT presets in the components. -/
def ShowsPresets (r : ResultRow) (i : Insert) (c : CompositeColumn α) : Prop :=
  ∀ pair ∈ i.values.pairs, pair.1 ∈ c.parts →
    ∀ p v, pair.2 = .bind p → p.slot.preset = some v → r.Has pair.1 v

/-- The components are found, and their values. -/
theorem mapM_raw_eq_ok {parts : List ColumnRef} (h : List.Forall₂ r.Has parts vs) :
    parts.mapM (fun part => r.locate part.key part.display) = .ok (parts.map r.position)
      ∧ (parts.map r.position).mapM r.raw = .ok vs := by
  induction h with
  | nil => exact ⟨rfl, rfl⟩
  | @cons part v parts vs h _ ih =>
    obtain ⟨k, located, stored⟩ := h
    obtain ⟨located_rest, stored_rest⟩ := ih
    have position : r.position part = k := by
      rw [ResultRow.position, located]
      rfl
    constructor
    · rw [List.mapM_cons, locate_eq located, located_rest, List.map_cons, position]
      rfl
    · rw [List.map_cons, List.mapM_cons, position, raw_eq stored, stored_rest]
      rfl

/-- Components of which one is not NULL are joined. -/
theorem getComposite_of_holds (h : r.Holds c vs) (present : vs.all StorageValue.isNull = false) :
    r.getComposite c
      = ((c.kind.join vs).map some).mapError
          (r.decodeError ((c.parts.map r.position).head?.getD 0)) := by
  obtain ⟨located, stored⟩ := mapM_raw_eq_ok h
  simp only [getComposite, located, stored, bind, Except.bind, present]
  rfl

end ResultRow

/-! ### Columns of timestamps -/

section Timestamps

variable [lib : Libraries] {c : CompositeColumn lib.calendar.OffsetInstant}
  {v : lib.calendar.OffsetInstant}

/-- A column of timestamps with an offset has two components. -/
theorem TableDraft.addComposite_offsetTimestamp {draft draft' : TableDraft} {name : String}
    {nullable : Bool}
    (added : draft.addComposite name .offsetTimestamp nullable = .ok (c, draft')) :
    c.kind = .offsetTimestamp ∧ ∃ ms off, c.parts = [ms, off] := by
  unfold addComposite at added
  obtain ⟨⟨⟩, -, added⟩ := exists_of_bind_eq_ok added
  injection added with added
  injection added with column _
  subst column
  exact ⟨rfl, _, _, rfl⟩

variable {ms off : ColumnRef}

theorem CompositeColumn.presets_offsetTimestamp (kind : c.kind = .offsetTimestamp)
    (parts : c.parts = [ms, off]) (v : lib.calendar.OffsetInstant) :
    c.presets v
      = [.preset ms.type (.ok (.integer (lib.calendar.millis v))),
        .preset off.type
          (.ok (.integer (lib.calendar.eastSeconds (lib.calendar.offset v)).toInt64))] := by
  simp only [presets, kind, parts, CompositeKind.split_offsetTimestamp]
  rfl

/-- A row with what the INSERT of a timestamp presets has what the timestamp is stored as. -/
theorem ResultRow.holds_of_showsPresets {r : ResultRow} {table : Table}
    {calls : List Insert.Call} {p p' : Pool} {d : Dialect} {seed : Seed}
    (kind : c.kind = .offsetTimestamp) (parts : c.parts = [ms, off])
    (called : .setComposite c v ∈ calls)
    (built : (Statement.insert (.ofCalls table calls)).buildWith p d = (.ok seed, p'))
    (shown : r.ShowsPresets (.ofCalls table calls) c) :
    r.Holds c [.integer (lib.calendar.millis v),
      .integer (lib.calendar.eastSeconds (lib.calendar.offset v)).toInt64] := by
  have errors := Insert.errors_of_built built
  -- Each placeholder of the value is in the INSERT, so the row read has its value.
  have shown_of {part : ColumnRef} {q : Placeholder} {w : StorageValue}
      (h : (part, q) ∈ c.parts.zip (c.presets v)) (preset : q.slot.preset = some w) :=
    shown _ (Insert.mem_pairs_ofCalls errors called h) (List.of_mem_zip h).1 q w rfl preset
  rw [CompositeColumn.presets_offsetTimestamp kind parts v, parts] at shown_of
  unfold Holds
  rw [parts]
  exact .cons (shown_of (.head _) rfl) (.cons (shown_of (.tail _ (.head _)) rfl) .nil)

/-- Two integers are read as the timestamp they are, and are read if they are one. -/
theorem ResultRow.getComposite_integers {r : ResultRow} {m o : Int64}
    (kind : c.kind = .offsetTimestamp) (row : r.Holds c [.integer m, .integer o]) :
    r.getComposite c
      = ((CompositeKind.joinOffset [.integer m, .integer o]).map some).mapError
          (r.decodeError ((c.parts.map r.position).head?.getD 0)) := by
  rw [getComposite_of_holds row rfl, kind]
  rfl

/-- A row of two integers is read as a timestamp exactly if the integers are one. -/
theorem ResultRow.getComposite_eq_ok_iff {r : ResultRow} {m o : Int64}
    (kind : c.kind = .offsetTimestamp) (row : r.Holds c [.integer m, .integer o]) :
    r.getComposite c = .ok (some v)
      ↔ CompositeKind.joinOffset [.integer m, .integer o] = .ok v := by
  rw [getComposite_integers kind row]
  cases CompositeKind.joinOffset [.integer m, .integer o] <;> simp [Except.map, Except.mapError]

theorem ResultRow.getComposite_eq_error_iff {r : ResultRow} {m o : Int64}
    (kind : c.kind = .offsetTimestamp) (row : r.Holds c [.integer m, .integer o]) :
    (∃ e, r.getComposite c = .error e)
      ↔ ∃ e, CompositeKind.joinOffset [.integer m, .integer o] = .error e := by
  rw [getComposite_integers kind row]
  cases CompositeKind.joinOffset [.integer m, .integer o] <;> simp [Except.map, Except.mapError]

end Timestamps

/-! ## Back and forth -/

/-- **A timestamp with an offset comes back rounded down to the millisecond.** Integers that are a
timestamp are what it is stored as, and an offset of a day or more or a count beyond the calendar is
the only reason not to be one. The same holds of what an INSERT presets in a composite column and of
what is read from it. -/
theorem CompositeKind.offsetTimestamp_consistent [lib : Libraries] (counts : lib.calendar.Counts) :
    (∀ v : lib.calendar.OffsetInstant,
      lib.calendar.nanosecond (lib.calendar.time (lib.calendar.naive (lib.calendar.toUtc v)))
        < 1000000000 →
      ∃ parts j, offsetTimestamp.split v = .ok parts ∧ offsetTimestamp.join parts = .ok j
        ∧ ∀ k, CalendarLibrary.IsMilliFloor v k ↔ k = j)
    ∧ (∀ ms off : Int64,
      (∀ v, offsetTimestamp.join [.integer ms, .integer off] = .ok v →
        offsetTimestamp.split v = .ok [.integer ms, .integer off])
      ∧ ((∃ e, offsetTimestamp.join [.integer ms, .integer off] = .error e)
        ↔ ¬(-86400 < off.toInt ∧ off.toInt < 86400)
          ∨ ms.toInt < lib.calendar.unixMilli lib.calendar.first
          ∨ lib.calendar.unixMilli lib.calendar.last < ms.toInt))
    ∧ ∀ {draft draft' : TableDraft} {name : String} {nullable : Bool}
        {c : CompositeColumn lib.calendar.OffsetInstant},
      draft.addComposite name offsetTimestamp nullable = .ok (c, draft') →
      (∀ {table : Table} {calls : List Insert.Call} {p p' : Pool} {d : Dialect} {seed : Seed}
          {v : lib.calendar.OffsetInstant},
        .setComposite c v ∈ calls →
        (Statement.insert (.ofCalls table calls)).buildWith p d = (.ok seed, p') →
        (∃ parts, offsetTimestamp.split v = .ok parts
          ∧ (c.presets v).map (fun q => q.slot.preset) = parts.map some
          ∧ ∀ q ∈ c.presets v, q.slot ∈ seed.params)
        ∧ ∀ r : ResultRow, r.ShowsPresets (.ofCalls table calls) c →
          ∀ j, CalendarLibrary.IsMilliFloor v j → r.getComposite c = .ok (some j))
      ∧ ∀ (r : ResultRow) (ms off : Int64), r.Holds c [.integer ms, .integer off] →
        (∀ v, r.getComposite c = .ok (some v)
          ↔ offsetTimestamp.join [.integer ms, .integer off] = .ok v)
        ∧ ((∃ e, r.getComposite c = .error e)
          ↔ ∃ e, offsetTimestamp.join [.integer ms, .integer off] = .error e) := by
  refine ⟨fun v ordinary => ?_,
    fun ms off => ⟨fun v => split_of_joinOffset counts, joinOffset_eq_error_iff counts⟩,
    fun added => ?_⟩
  · obtain ⟨j, joined⟩ := exists_joinOffset_split counts ordinary
    refine ⟨_, j, split_offsetTimestamp v, joined, fun k => ?_⟩
    rw [← joinOffset_split_iff counts, joined, Except.ok.injEq, eq_comm]
  · obtain ⟨kind, ms, off, parts⟩ := TableDraft.addComposite_offsetTimestamp added
    refine ⟨fun {table calls p p' d seed v} called built => ⟨?_, fun r shown j floor => ?_⟩,
      fun r ms off row => ?_⟩
    · refine ⟨_, split_offsetTimestamp v, ?_, fun q => Insert.slot_mem_params called built⟩
      rw [CompositeColumn.presets_offsetTimestamp kind parts v]
      rfl
    · have row := ResultRow.holds_of_showsPresets kind parts called built shown
      exact (ResultRow.getComposite_eq_ok_iff kind row).2 ((joinOffset_split_iff counts).2 floor)
    · exact ⟨fun v => ResultRow.getComposite_eq_ok_iff kind row,
        ResultRow.getComposite_eq_error_iff kind row⟩

/-! ### Half a millisecond before 1970 -/

/-- The time in New York half a millisecond before 1970 in Greenwich. -/
def newYearsEve : OffsetInstant where
  instant := (Instant.ofUnix? (-1) 999500000).get rfl
  offset := ⟨-18000, by decide, by decide⟩

/-- The last whole millisecond in front of it. -/
def lastMilli : OffsetInstant where
  instant := (Instant.ofUnix? (-1) 999000000).get rfl
  offset := ⟨-18000, by decide, by decide⟩

def eveGuest : ResultRow :=
  ⟨.ofValues [] [.text "Ada", .integer (-1), .integer (-18000)], ResultRow.guestSeed⟩

/-- A guest whose offset is a whole day. -/
def strayGuest : ResultRow :=
  ⟨.ofValues [] [.text "Bob", .integer 0, .integer 86400], ResultRow.guestSeed⟩

def eveInsert : Insert :=
  .ofCalls ResultRow.guestTable [.setComposite ResultRow.guestSeen newYearsEve]

/-- The time is stored as the millisecond before 1970 and read from it; a day is no offset. -/
theorem CompositeKind.offsetTimestamp_consistent_of_eve :
    standardCalendar.Counts
      ∧ ∃ seed p', (Statement.insert eveInsert).buildWith (.new {}) .generic = (.ok seed, p')
      ∧ (ResultRow.guestSeen.presets newYearsEve).map (fun q => q.slot.preset)
        = [some (.integer (-1)), some (.integer (-18000))]
      ∧ (∀ q ∈ ResultRow.guestSeen.presets newYearsEve, q.slot ∈ seed.params)
      ∧ offsetTimestamp.join [.integer (-1), .integer (-18000)] = .ok lastMilli
      ∧ offsetTimestamp.split lastMilli = .ok [.integer (-1), .integer (-18000)]
      ∧ eveGuest.getComposite ResultRow.guestSeen = .ok (some lastMilli)
      ∧ ∃ e, strayGuest.getComposite ResultRow.guestSeen = .error e := by
  obtain ⟨rounded, stored, column⟩ := offsetTimestamp_consistent standardCalendar_counts
  have built := (Statement.insert eveInsert).buildWith_eq_ok (p := .new {}) (d := .generic) rfl
  have added : (TableDraft.mk ⟨1⟩ "guest" [ResultRow.guestName.ref]).addComposite "seen"
      offsetTimestamp false
        = .ok (ResultRow.guestSeen, ⟨⟨1⟩, "guest", ResultRow.guestTable.columns⟩) := rfl
  have ordinary : newYearsEve.instant.utc.time.nanosecond < 1000000000 := by decide
  obtain ⟨parts, j, split, joined, unique⟩ := rounded newYearsEve ordinary
  cases split
  have floor : j = lastMilli := Except.ok.inj (joined.symm.trans rfl)
  subst floor
  obtain ⟨inserted, read⟩ := column added
  obtain ⟨⟨parts, split, presets, slots⟩, shown⟩ := inserted (List.mem_singleton_self _) built
  cases split
  have shows : eveGuest.ShowsPresets eveInsert ResultRow.guestSeen := by
    intro pair h
    rcases h with _ | ⟨_, _ | ⟨_, ⟨⟩⟩⟩
    · rintro - p v ⟨⟩ ⟨⟩
      exact ⟨1, rfl, rfl⟩
    · rintro - p v ⟨⟩ ⟨⟩
      exact ⟨2, rfl, rfl⟩
  have stray : strayGuest.Holds ResultRow.guestSeen [.integer 0, .integer 86400] :=
    .cons ⟨1, rfl, rfl⟩ (.cons ⟨2, rfl, rfl⟩ .nil)
  have refused := (read strayGuest 0 86400 stray).2.2 ((stored 0 86400).2.2 (.inl (by decide)))
  exact ⟨standardCalendar_counts, _, _, built, presets, slots, joined, (stored _ _).1 _ joined,
    shown eveGuest shows _ ((unique _).2 rfl), refused⟩

end TypedSql
