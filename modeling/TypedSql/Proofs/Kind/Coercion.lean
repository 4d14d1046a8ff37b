import TypedSql.Proofs.Calendar.Lossless
import TypedSql.Proofs.Run.Contract
import TypedSql.Proofs.Run.Slots

/-!
# Coercion gives each value one stored form

**Theorem (`Kind.coerce_canonical`).** Of a kind that stores its values without loss, coercion makes
a stored value of the kind's storage class, which is decoded as before and coerced to itself. What
cannot be decoded is refused with the error of decoding, and nothing else is refused. So two stored
values are coerced alike exactly if they are decoded alike.

A kind may read several storage classes and several spellings of one value; coercion decodes and
encodes again. Everything follows from one fact: encoding what has been decoded gives something that
is decoded to it once more (`Kind.decode_of_encode`). A member of an enumeration is found again
because the decoded ones are listed, a time because a leap second that is read is one at second 59.
-/

namespace TypedSql

/-! ## Members of enumerations -/

namespace Enumeration

variable {e : Enumeration} {m : e.Variant}

theorem exists_findIdx?_of_mem (listed : m.name ∈ e.variants) :
    ∃ i, e.ordinal m = i ∧ ∃ inside : i < e.variants.length, e.variants[i] = m.name := by
  cases found : e.variants.findIdx? (· == m.name) with
  | none =>
    have unequal := List.findIdx?_eq_none_iff.1 found m.name listed
    rw [beq_self_eq_true] at unequal
    cases unequal
  | some i =>
    obtain ⟨inside, same, -⟩ := List.findIdx?_eq_some_iff_getElem.1 found
    exact ⟨i, by rw [ordinal, found]; rfl, inside, eq_of_beq same⟩

theorem ordinal_lt (listed : m.name ∈ e.variants) : e.ordinal m < e.variants.length := by
  obtain ⟨i, rfl, inside, -⟩ := exists_findIdx?_of_mem listed
  exact inside

/-- A listed member stands at its position. -/
theorem at?_ordinal (listed : m.name ∈ e.variants) : e.at? (e.ordinal m) = some m := by
  obtain ⟨i, position, inside, same⟩ := exists_findIdx?_of_mem listed
  rw [position, at?, if_neg (Int.not_lt.2 (Int.natCast_nonneg i)), Int.toNat_natCast,
    List.getElem?_eq_getElem inside, same]
  rfl

theorem mem_of_named? {s : String} (found : e.named? s = some m) : m.name ∈ e.variants := by
  obtain ⟨name, first, rfl⟩ := Option.map_eq_some_iff.1 found
  exact List.mem_of_find?_eq_some first

theorem mem_of_at? {i : Int} (found : e.at? i = some m) : m.name ∈ e.variants := by
  unfold at? at found
  split at found
  · cases found
  · obtain ⟨name, there, rfl⟩ := Option.map_eq_some_iff.1 found
    exact List.mem_of_getElem? there

end Enumeration

/-! ## Identifiers -/

/-- The identifiers of the project are sixteen octets. -/
theorem standardUuids_documented : standardUuids.Documented where
  length_bytes := Uuid.length_eq
  bytes_injective := by
    rintro ⟨_, _⟩ ⟨_, _⟩ rfl
    rfl
  exists_ofBytes? length := ⟨_, dif_pos length⟩
  bytes_of_ofBytes? made := by
    obtain ⟨length, same⟩ := Option.dite_none_right_eq_some.1 made
    cases same
    rfl

namespace Kind

variable {t : ValueType}

/-- The kinds that store a value so that it can be read again: all but reals, decimals and instants.
The positions of an enumeration are numbers of 64 bits, as those of any list in memory. -/
inductive Lossless : {t : ValueType} → Kind t → Prop
  | int8 : Lossless .int8
  | int16 : Lossless .int16
  | int32 : Lossless .int32
  | int64 : Lossless .int64
  | bool : Lossless .bool
  | text : Lossless .text
  | blob : Lossless .blob
  | uuid : Lossless .uuid
  | date : Lossless .date
  | time : Lossless .time
  | dateTime : Lossless .dateTime
  | ordinal {e : Enumeration} (positions : e.variants.length ≤ 2 ^ 63) : Lossless (.ordinal e)
  | named (e : Enumeration) : Lossless (.named e)

/-! ## What is decoded -/

theorem reads_of_decodeOrdinal {e : Enumeration} {m : e.Variant} {v : StorageValue}
    (read : decodeOrdinal e v = .ok m) : m.name ∈ e.variants := by
  unfold decodeOrdinal at read
  extract_lets byPosition at read
  have position (read : byPosition = .ok m) : m.name ∈ e.variants := by
    obtain ⟨i, -, there⟩ := exists_of_bind_eq_ok read
    split at there
    · next found =>
      cases there
      exact Enumeration.mem_of_at? found
    · cases there
  split at read
  · split at read
    · next found =>
      cases read
      exact Enumeration.mem_of_named? found
    · exact position read
  · exact position read

theorem reads_of_decodeNamed {e : Enumeration} {m : e.Variant} {v : StorageValue}
    (read : decodeNamed e v = .ok m) : m.name ∈ e.variants := by
  obtain ⟨s, -, found⟩ := exists_of_bind_eq_ok read
  split at found
  · next member =>
    cases found
    exact Enumeration.mem_of_named? member
  · cases found

/-- A decoded time or date is one that the parser gave. -/
theorem exists_of_decodeCalendar {α : Type} {target : String} {read? : String → Option α}
    {v : StorageValue} {a : α} (read : decodeCalendar target read? v = .ok a) :
    ∃ s, read? s = some a := by
  obtain ⟨s, -, parsed⟩ := exists_of_bind_eq_ok read
  split at parsed
  · next found =>
    cases parsed
    exact ⟨_, found⟩
  · cases parsed

theorem narrow_of_fits {α : Type} {target : String} {low high : Int} {cast : Int64 → α} {n : Int64}
    {a : α} (fits : low ≤ n.toInt ∧ n.toInt ≤ high) (back : cast n = a) :
    narrow target low high cast n = .ok a := by
  rw [narrow, if_pos fits, back]

section Libraries

variable [lib : Libraries]

/-- The value is one that the kind reads: of an enumeration, a listed member, and of times, one with
no leap second but at second 59. -/
def Reads : Kind t → t.Value → Prop
  | .ordinal e, m | .named e, m => m.name ∈ e.variants
  | .time, v => lib.calendar.LeapAtEnd v
  | .dateTime, v => lib.calendar.LeapAtEnd (lib.calendar.time v)
  | _, _ => True

variable {k : Kind t}

theorem leapAtEnd_of_readTime? (reads : lib.calendar.Reads) {s : String} {a : lib.calendar.Time}
    (read : readTime? s = some a) : lib.calendar.LeapAtEnd a :=
  reads.leapAtEnd_of_time (((Option.orElse_eq_some _ _ _).1 read).imp_right And.right)

theorem leapAtEnd_of_readLocal? (reads : lib.calendar.Reads) {s : String}
    {a : lib.calendar.DateTime} (read : readLocal? s = some a) :
    lib.calendar.LeapAtEnd (lib.calendar.time a) :=
  reads.leapAtEnd_of_dateTime (((Option.orElse_eq_some _ _ _).1 read).imp_right And.right)

/-- Midnight is in no leap second. -/
theorem leapAtEnd_of_readDateTime? (fields : lib.calendar.Fields) (reads : lib.calendar.Reads)
    {s : String} {a : lib.calendar.DateTime} (read : readDateTime? s = some a) :
    lib.calendar.LeapAtEnd (lib.calendar.time a) := by
  rcases (Option.orElse_eq_some _ _ _).1 read with read | ⟨-, read⟩
  · exact leapAtEnd_of_readLocal? reads read
  · obtain ⟨day, -, midnight⟩ := Option.bind_eq_some_iff.1 read
    rw [fields.atTime?_eq] at midnight
    obtain ⟨time, made, rfl⟩ := Option.map_eq_some_iff.1 midnight
    rw [fields.time_dateTime]
    exact fields.leapAtEnd_of_time? made

/-- A decoded value is one that the kind reads. -/
theorem reads_of_decode (fields : lib.calendar.Fields) (reads : lib.calendar.Reads)
    {v : StorageValue} {a : t.Value} (read : k.decode v = .ok a) : k.Reads a := by
  cases k with
  | ordinal e => exact reads_of_decodeOrdinal read
  | named e => exact reads_of_decodeNamed read
  | time =>
    obtain ⟨s, parsed⟩ := exists_of_decodeCalendar read
    exact leapAtEnd_of_readTime? reads parsed
  | dateTime =>
    obtain ⟨s, parsed⟩ := exists_of_decodeCalendar read
    exact leapAtEnd_of_readDateTime? fields reads parsed
  | _ => trivial

/-! ## What is encoded is decoded again -/

theorem decode_int8 (n : Int8) : Kind.int8.decode (.integer n.toInt64) = .ok n := by
  have lower := n.le_toInt
  have upper := n.toInt_lt
  refine narrow_of_fits ?_ n.toInt8_toInt64
  rw [n.toInt_toInt64]
  omega

theorem decode_int16 (n : Int16) : Kind.int16.decode (.integer n.toInt64) = .ok n := by
  have lower := n.le_toInt
  have upper := n.toInt_lt
  refine narrow_of_fits ?_ n.toInt16_toInt64
  rw [n.toInt_toInt64]
  omega

theorem decode_int32 (n : Int32) : Kind.int32.decode (.integer n.toInt64) = .ok n := by
  have lower := n.le_toInt
  have upper := n.toInt_lt
  refine narrow_of_fits ?_ n.toInt32_toInt64
  rw [n.toInt_toInt64]
  omega

theorem decode_bool (b : Bool) : Kind.bool.decode (.integer (if b then 1 else 0)) = .ok b := by
  cases b <;> rfl

/-- The octets of an identifier are those of no other one. -/
theorem decode_uuid (identifiers : lib.uuids.Documented) (u : lib.uuids.Uuid) :
    Kind.uuid.decode (.blob (lib.uuids.bytes u)) = .ok u := by
  obtain ⟨u', made⟩ := identifiers.exists_ofBytes? (identifiers.length_bytes u)
  obtain rfl : u' = u := identifiers.bytes_injective (identifiers.bytes_of_ofBytes? made)
  simp only [decode, decodeUuid, made]

theorem decode_ordinal {e : Enumeration} (positions : e.variants.length ≤ 2 ^ 63) {m : e.Variant}
    (listed : m.name ∈ e.variants) :
    (Kind.ordinal e).decode (.integer (Int64.ofNat (e.ordinal m))) = .ok m := by
  have position : (Int64.ofNat (e.ordinal m)).toInt = e.ordinal m :=
    Int64.toInt_ofNat_of_lt (Nat.lt_of_lt_of_le (Enumeration.ordinal_lt listed) positions)
  simp only [decode, decodeOrdinal, StorageValue.toInt64, bind, Except.bind, position,
    Enumeration.at?_ordinal listed]

theorem decode_named {e : Enumeration} {m : e.Variant} (listed : m.name ∈ e.variants) :
    (Kind.named e).decode (.text m.name) = .ok m := by
  simp only [decode, decodeNamed, StorageValue.toText, bind, Except.bind,
    Enumeration.named?_of_mem listed]

section Documented

variable (fields : lib.calendar.Fields) (writes : lib.calendar.Writes)
  (reads : lib.calendar.Reads) (identifiers : lib.uuids.Documented)
include fields writes reads identifiers

/-- **What encodes a value that the kind reads is decoded to it.** -/
theorem decode_of_encode (h : k.Lossless) {a : t.Value} (read : k.Reads a) {v : StorageValue}
    (written : k.encode a = .ok v) : k.decode v = .ok a := by
  cases h <;> cases written
  case int8 => exact decode_int8 a
  case int16 => exact decode_int16 a
  case int32 => exact decode_int32 a
  case int64 | text | blob => rfl
  case bool => exact decode_bool a
  case uuid => exact decode_uuid identifiers a
  case date => exact decode_dateText fields writes reads a
  case time => exact decode_timeText fields writes reads read
  case dateTime => exact decode_dateTimeText fields writes reads read
  case ordinal positions => exact decode_ordinal positions read
  case named => exact decode_named read

end Documented

/-! ## Coercion -/

/-- Nothing is refused by encoding. -/
theorem exists_encode (h : k.Lossless) (a : t.Value) : ∃ v, k.encode a = .ok v := by
  cases h <;> exact ⟨_, rfl⟩

theorem coerce_eq (h : k.Lossless) (v : StorageValue) : k.coerce v = k.decode v >>= k.encode := by
  cases h <;> rfl

/-- What is coerced has been decoded, and is encoded. -/
theorem coerce_eq_ok_iff (h : k.Lossless) {v w : StorageValue} :
    k.coerce v = .ok w ↔ ∃ a, k.decode v = .ok a ∧ k.encode a = .ok w := by
  rw [coerce_eq h]
  refine ⟨exists_of_bind_eq_ok, ?_⟩
  rintro ⟨a, read, written⟩
  rw [read]
  exact written

theorem coerce_eq_error_iff (h : k.Lossless) {v : StorageValue} {e : ConversionError} :
    k.coerce v = .error e ↔ k.decode v = .error e := by
  rw [coerce_eq h]
  cases read : k.decode v with
  | error e' => simp only [bind, Except.bind, Except.error.injEq]
  | ok a =>
    obtain ⟨w, written⟩ := exists_encode h a
    exact iff_of_false (fun failed => nomatch written.symm.trans failed) nofun

theorem coerce_of_decode_eq (h : k.Lossless) {v w : StorageValue} (same : k.decode v = k.decode w) :
    k.coerce v = k.coerce w := by
  rw [coerce_eq h, coerce_eq h, same]

section Documented

variable (fields : lib.calendar.Fields) (writes : lib.calendar.Writes)
  (reads : lib.calendar.Reads) (identifiers : lib.uuids.Documented)
include fields writes reads identifiers

theorem decode_of_coerce (h : k.Lossless) {v w : StorageValue} (coerced : k.coerce v = .ok w) :
    k.decode w = k.decode v := by
  obtain ⟨a, read, written⟩ := (coerce_eq_ok_iff h).1 coerced
  rw [read, decode_of_encode fields writes reads identifiers h (reads_of_decode fields reads read)
    written]

theorem decode_of_coerce_eq (h : k.Lossless) {v w : StorageValue} (same : k.coerce v = k.coerce w) :
    k.decode v = k.decode w := by
  cases coerced : k.coerce w with
  | error e =>
    rw [(coerce_eq_error_iff h).1 coerced, (coerce_eq_error_iff h).1 (same.trans coerced)]
  | ok u =>
    have decoded {v : StorageValue} (coerced : k.coerce v = .ok u) :=
      decode_of_coerce fields writes reads identifiers h coerced
    rw [← decoded coerced, ← decoded (same.trans coerced)]

/-- **Coercion picks one stored form for each value, and refuses what cannot be decoded.** -/
theorem coerce_canonical (h : k.Lossless) (v : StorageValue) :
    (∀ w, k.coerce v = .ok w → w.storageClass? = some k.storageClass
        ∧ k.decode w = k.decode v ∧ k.coerce w = .ok w)
      ∧ (∀ e, k.coerce v = .error e ↔ k.decode v = .error e)
      ∧ ∀ w, k.coerce v = k.coerce w ↔ k.decode v = k.decode w := by
  refine ⟨fun w coerced => ?_, fun e => coerce_eq_error_iff h,
    fun w => ⟨decode_of_coerce_eq fields writes reads identifiers h, coerce_of_decode_eq h⟩⟩
  have same := decode_of_coerce fields writes reads identifiers h coerced
  exact ⟨storageClass?_of_coerce coerced, same, (coerce_of_decode_eq h same).trans coerced⟩

end Documented

end Libraries

/-- Two members of which the first has the position of the second as its name. -/
def oddlyNamed : Enumeration := ⟨["1", "folk"]⟩

/-- A text is taken for a name before it is taken for a position. -/
theorem coerce_canonical_of_oddlyNamed :
    standardCalendar.Fields ∧ standardCalendar.Writes ∧ standardCalendar.Reads
      ∧ standardUuids.Documented ∧ Kind.Lossless (.ordinal oddlyNamed)
      ∧ (Kind.ordinal oddlyNamed).coerce (.text "1") = .ok (.integer 0)
      ∧ (Kind.ordinal oddlyNamed).coerce (.text " 1") = .ok (.integer 1)
      ∧ (Kind.ordinal oddlyNamed).coerce (.integer 0) = .ok (.integer 0)
      ∧ (Kind.ordinal oddlyNamed).decode (.integer 1)
        = (Kind.ordinal oddlyNamed).decode (.text " 1") := by
  have lossless : Kind.Lossless (.ordinal oddlyNamed) := .ordinal (by decide)
  have named : (Kind.ordinal oddlyNamed).coerce (.text "1") = .ok (.integer 0) := rfl
  have numbered : (Kind.ordinal oddlyNamed).coerce (.text " 1") = .ok (.integer 1) := rfl
  obtain ⟨-, -, again⟩ := (coerce_canonical standardCalendar_fields standardCalendar_writes
    standardCalendar_reads standardUuids_documented lossless _).1 _ named
  obtain ⟨-, same, -⟩ := (coerce_canonical standardCalendar_fields standardCalendar_writes
    standardCalendar_reads standardUuids_documented lossless _).1 _ numbered
  exact ⟨standardCalendar_fields, standardCalendar_writes, standardCalendar_reads,
    standardUuids_documented, lossless, named, numbered, again, same⟩

/-- A leap second stays one. -/
example : Kind.dateTime.coerce (.text " 2016-12-31T23:59:60.5")
    = .ok (.text "2016-12-31 23:59:60.500") := rfl

end Kind
end TypedSql
