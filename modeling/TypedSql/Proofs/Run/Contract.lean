import TypedSql.Proofs.Calendar.Fields
import TypedSql.Proofs.Number.ScaledStorage
import TypedSql.Proofs.Schema.Built
import TypedSql.Run.Compiled

/-!
# What a contract leaves open

Arguments of one seed are accepted by a statement compiled from another one if both seeds have the
same text and their slots the same name, storage class and nullability of their kinds.

**What is fixed.** The names tell the kinds apart up to their settings (`Kind.name_eq_iff_akin`):
the places of a decimal and the members of an enumeration.

**What is not.** Two kinds of one name store every value alike exactly if their settings say the
same (`Kind.Akin.alike_iff`). Decimals of different scale never do: one unit of the last of the
more places is nothing in the fewer ones. An enumeration stored by name must have the same members,
one stored by position must number them alike.

Main statement: under the same contract, arguments filled through the slots of either seed hold the
same values, whatever is bound, exactly if all slots store alike
(`Seed.filled_alike_iff_of_sameContract`).
-/

namespace TypedSql

/-! ## Decimals -/

namespace Kind

open Calendar Numeral

/-- One unit of the last of `places` places as text, with all the places there can be. -/
def unitText (places : Scale) : String :=
  let digits := padded 29 (10 ^ (28 - places : ℕ))
  String.ofList (digits.take 1 ++ '.' :: digits.drop 1)

/-- One digit in front of the point, and 28 behind it. -/
theorem exists_digits_unitText (places : Scale) :
    ∃ c cs, unitText places = String.ofList ([c] ++ '.' :: cs)
      ∧ (∀ d ∈ [c] ++ cs, Text.isAsciiDigit d = true) ∧ cs.length = 28
      ∧ ofDigits 0 ([c] ++ cs) = 10 ^ (28 - places : ℕ) := by
  have power : 10 ^ (28 - places : ℕ) ≤ 10 ^ 28 :=
    Nat.pow_le_pow_right (by decide) (Nat.sub_le _ _)
  have length : (padded 29 (10 ^ (28 - places : ℕ))).length = 29 :=
    length_padded (by decide) (by omega)
  obtain ⟨c, cs, digits⟩ := List.exists_cons_of_ne_nil (padded_ne_nil 29 (10 ^ (28 - places : ℕ)))
  refine ⟨c, cs, ?_, fun d mem => ?_, ?_, ?_⟩
  · rw [unitText, digits]
    rfl
  · rw [List.singleton_append, ← digits] at mem
    exact isAsciiDigit_of_mem_padded mem
  · rw [digits, List.length_cons] at length
    omega
  · rw [List.singleton_append, ← digits, ofDigits_padded]

theorem trim_unitText (places : Scale) : Text.trim (unitText places) = unitText places := by
  obtain ⟨c, cs, text, digits, length, -⟩ := exists_digits_unitText places
  have front : BeginsVisibly ([c] ++ '.' :: cs) :=
    ⟨c, '.' :: cs, rfl, Text.isBlank_of_isAsciiDigit (digits c (by simp))⟩
  have nonempty : cs ≠ [] := List.ne_nil_of_length_pos (by omega)
  have back : EndsVisibly cs :=
    ⟨_, _, (List.dropLast_concat_getLast nonempty).symm,
      Text.isBlank_of_isAsciiDigit (digits _ (List.mem_append_right _ (List.getLast_mem nonempty)))⟩
  rw [text, trim_of_visible front ((back.cons '.').append [c])]

section Decimals

variable [lib : Libraries]

/-- The text is read as the unit. -/
theorem exists_read?_unitText (documented : lib.decimals.Documented) (places : Scale) :
    ∃ d, lib.decimals.read? (unitText places) = some d
      ∧ lib.decimals.value d * 10 ^ (places : ℕ) = 1 := by
  obtain ⟨c, cs, text, digits, length, number⟩ := exists_digits_unitText places
  have power : 10 ^ (28 - places : ℕ) ≤ 10 ^ 28 :=
    Nat.pow_le_pow_right (by decide) (Nat.sub_le _ _)
  obtain ⟨d, read, unit⟩ := documented.value_of_read? digits (List.cons_ne_nil c [])
    (List.ne_nil_of_length_pos (by omega)) length.le (by omega)
  have sum : (10 : ℚ) ^ (28 - places : ℕ) * 10 ^ (places : ℕ) = 10 ^ 28 := by
    rw [← pow_add, Nat.sub_add_cancel (by omega)]
  refine ⟨d, by rw [text, read], ?_⟩
  rw [unit, number, length, div_mul_eq_mul_div]
  push_cast
  rw [sum, div_self (by positivity)]

/-- A decimal kind rounds a unit of some other kind's last place, and rounds again to store it. -/
theorem coerce_unitText (documented : lib.decimals.Documented) (scale places : Scale) {n : Int64}
    (units : ∀ x : ℚ, x * 10 ^ (places : ℕ) = 1 → halfEven (x * 10 ^ (scale : ℕ)) = n.toInt) :
    (Kind.decimal scale).coerce (.text (unitText places)) = .ok (.integer n) := by
  obtain ⟨d, read, unit⟩ := exists_read?_unitText documented places
  have decoded : (Kind.decimal scale).decode (.text (unitText places))
      = .ok (lib.decimals.roundTo d scale) := by
    simp only [decode, decodeDecimal, trim_unitText, read]
  have rounded :
      lib.decimals.value (lib.decimals.roundTo d scale) = n.toInt / 10 ^ (scale : ℕ) := by
    rw [DecimalLibrary.value_roundTo documented, units _ unit]
  exact (congrArg (· >>= encodeDecimal scale) decoded).trans
    (encodeDecimal_of_units documented rounded)

/-- A unit of the last place is counted as one. -/
theorem coerce_unitText_self (documented : lib.decimals.Documented) (scale : Scale) :
    (Kind.decimal scale).coerce (.text (unitText scale)) = .ok (.integer 1) :=
  coerce_unitText documented scale scale fun x unit => by
    rw [unit]
    exact_mod_cast halfEven_intCast 1

/-- A unit of the last place is rounded away in fewer places. -/
theorem coerce_unitText_of_lt (documented : lib.decimals.Documented) {scale places : Scale}
    (h : scale < places) :
    (Kind.decimal scale).coerce (.text (unitText places)) = .ok (.integer 0) :=
  coerce_unitText documented scale places fun x unit => by
    obtain ⟨more, enough⟩ := Nat.exists_eq_add_of_lt h
    have whole : x * 10 ^ (scale : ℕ) * 10 ^ (more + 1) = 1 := by
      rw [mul_assoc, ← pow_add, ← Nat.add_assoc, ← enough, unit]
    have ten : (10 : ℚ) ≤ 10 ^ (more + 1) := by
      rw [pow_succ]
      have one : (1 : ℚ) ≤ 10 ^ more := one_le_pow₀ (by norm_num)
      linarith
    have pos : 0 < x * 10 ^ (scale : ℕ) :=
      pos_of_mul_pos_left (whole ▸ one_pos) (by positivity)
    refine halfEven_eq_iff.mpr (.inl ?_)
    have small : x * 10 ^ (scale : ℕ) * 10 ≤ 1 := by
      rw [← whole]
      exact mul_le_mul_of_nonneg_left ten pos.le
    rw [Int64.toInt_zero, Int.cast_zero, sub_zero, abs_of_pos pos]
    linarith

end Decimals

/-! ## Enumerations -/

end Kind

namespace Enumeration

variable {e e' : Enumeration}

/-- What is stored for a position: that of the first member of the same name. -/
def storedAt (e : Enumeration) (n : Int64) : Option Int64 :=
  (e.at? n.toInt).map fun m => Int64.ofNat (e.ordinal m)

/-- What is stored for text: the position of the member of that name, or else of the one that is
numbered so. -/
def storedFor (e : Enumeration) (s : String) : Option Int64 :=
  match e.named? s with
  | some m => some (Int64.ofNat (e.ordinal m))
  | none => (Numeral.readInt64? (Text.trim s)).bind e.storedAt

/-- Positions and names are stored alike. Only the names of members need to be looked at. -/
structure NumberedAlike (e e' : Enumeration) : Prop where
  position : ∀ n, e.storedAt n = e'.storedAt n
  member : ∀ s, s ∈ e.variants ∨ s ∈ e'.variants → e.storedFor s = e'.storedFor s

theorem named?_of_mem {s : String} (h : s ∈ e.variants) : e.named? s = some ⟨s⟩ := by
  cases found : e.variants.find? (· == s) with
  | none => simpa using List.find?_eq_none.1 found s h
  | some other =>
    obtain rfl : other = s := by simpa using List.find?_some found
    simp [named?, found]

theorem named?_of_not_mem {s : String} (h : s ∉ e.variants) : e.named? s = none := by
  simp only [named?, Option.map_eq_none_iff, List.find?_eq_none, beq_iff_eq]
  rintro other listed rfl
  exact h listed

theorem NumberedAlike.storedFor_eq (h : NumberedAlike e e') (s : String) :
    e.storedFor s = e'.storedFor s := by
  by_cases known : s ∈ e.variants ∨ s ∈ e'.variants
  · exact h.member s known
  · obtain ⟨unknown, unknown'⟩ := not_or.1 known
    simp only [storedFor, named?_of_not_mem unknown, named?_of_not_mem unknown',
      funext h.position]

end Enumeration

namespace Kind

section Positions

variable [lib : Libraries]

theorem byPosition_toOption (e : Enumeration) (n : Except ConversionError Int64) :
    ((n >>= fun n => match e.at? n.toInt with
        | some m => .ok m
        | none => .error (.outOfRange "enum ordinal" (toString n.toInt)))
      >>= (Kind.ordinal e).encode).toOption
      = (n.toOption.bind e.storedAt).map .integer := by
  cases n with
  | error x => rfl
  | ok n =>
    show Except.toOption ((match e.at? n.toInt with
        | some m => .ok m
        | none => .error (.outOfRange "enum ordinal" (toString n.toInt)))
      >>= (Kind.ordinal e).encode) = (e.storedAt n).map .integer
    cases found : e.at? n.toInt <;> simp only [Enumeration.storedAt, found] <;> rfl

/-- An ordinal kind stores text by `storedFor` and everything else as the integer it is. -/
theorem coerce_ordinal (e : Enumeration) (v : StorageValue) :
    ((Kind.ordinal e).coerce v).toOption
      = (match v with
        | .text s => e.storedFor s
        | v => (v.toInt64 "enum ordinal").toOption.bind e.storedAt).map .integer := by
  cases v with
  | text s =>
    show Except.toOption ((match e.named? s with
      | some m => .ok m
      | none => _) >>= (Kind.ordinal e).encode) = (e.storedFor s).map .integer
    cases found : e.named? s with
    | some m =>
      simp only [Enumeration.storedFor, found]
      rfl
    | none =>
      simp only [Enumeration.storedFor, found]
      have numeral : ((StorageValue.text s).toInt64 "enum ordinal").toOption
          = Numeral.readInt64? (Text.trim s) := by
        simp only [StorageValue.toInt64]
        split <;> simp_all [Except.toOption]
      rw [← numeral]
      exact byPosition_toOption e _
  | null => exact byPosition_toOption e _
  | integer n => exact byPosition_toOption e _
  | real x => exact byPosition_toOption e _
  | blob bytes => exact byPosition_toOption e _

/-- A kind that stores names takes the names of members as they are, and nothing else. -/
theorem coerce_named (e : Enumeration) (v : StorageValue) :
    ((Kind.named e).coerce v).toOption
      = match v with
        | .text s => if s ∈ e.variants then some (.text s) else none
        | _ => none := by
  cases v with
  | text s =>
    show Except.toOption ((match e.named? s with
      | some m => .ok m
      | none => .error (.unreadable "enum name" s)) >>= (Kind.named e).encode) = _
    by_cases listed : s ∈ e.variants
    · simp only [Enumeration.named?_of_mem listed, listed, if_true]
      rfl
    · simp only [Enumeration.named?_of_not_mem listed, listed, if_false]
      rfl
  | _ => rfl

end Positions

/-! ## Kinds of one name -/

variable {t u : ValueType}

/-- The same kind, whatever its settings. -/
inductive Akin : {t u : ValueType} → Kind t → Kind u → Prop where
  | same {t : ValueType} (k : Kind t) : Akin k k
  | decimal (scale scale' : Scale) : Akin (.decimal scale) (.decimal scale')
  | ordinal (e e' : Enumeration) : Akin (.ordinal e) (.ordinal e')
  | named (e e' : Enumeration) : Akin (.named e) (.named e')

/-- The same kind with settings that say the same. -/
inductive Alike : {t u : ValueType} → Kind t → Kind u → Prop where
  | same {t : ValueType} (k : Kind t) : Alike k k
  | ordinal {e e' : Enumeration} (h : e.NumberedAlike e') : Alike (.ordinal e) (.ordinal e')
  | named {e e' : Enumeration} (h : ∀ s, s ∈ e.variants ↔ s ∈ e'.variants) :
    Alike (.named e) (.named e')

/-- **The name of a kind tells everything but its settings.** -/
theorem name_eq_iff_akin {k : Kind t} {k' : Kind u} : k.name = k'.name ↔ Akin k k' := by
  constructor
  · intro h
    cases k <;> cases k' <;> first | constructor | simp [name] at h
  · rintro (_ | _ | _ | _) <;> rfl

/-- **Two kinds of one name store alike exactly if their settings say the same.** -/
theorem Akin.alike_iff [lib : Libraries] (documented : lib.decimals.Documented) {k : Kind t}
    {k' : Kind u} (h : Akin k k') :
    (∀ v, (k.coerce v).toOption = (k'.coerce v).toOption) ↔ Alike k k' := by
  cases h with
  | same => exact ⟨fun _ => .same k, fun _ _ => rfl⟩
  | decimal scale scale' =>
    refine ⟨fun agree => ?_, fun alike => by cases alike; exact fun _ => rfl⟩
    rcases Nat.lt_trichotomy scale scale' with less | same | more
    · have := agree (.text (unitText scale'))
      rw [coerce_unitText_of_lt documented less, coerce_unitText_self documented] at this
      cases this
    · obtain rfl : scale = scale' := Fin.ext same
      exact .same _
    · have := agree (.text (unitText scale))
      rw [coerce_unitText_of_lt documented more, coerce_unitText_self documented] at this
      cases this
  | ordinal e e' =>
    have injective : Function.Injective (Option.map StorageValue.integer) :=
      Option.map_injective fun _ _ same => StorageValue.integer.inj same
    constructor
    · intro agree
      refine .ordinal ⟨fun n => ?_, fun s _ => ?_⟩
      · have := agree (.integer n)
        rw [coerce_ordinal, coerce_ordinal] at this
        exact injective this
      · have := agree (.text s)
        rw [coerce_ordinal, coerce_ordinal] at this
        exact injective this
    · intro alike v
      cases alike with
      | same => rfl
      | ordinal h =>
        rw [coerce_ordinal, coerce_ordinal, funext h.position, funext h.storedFor_eq]
  | named e e' =>
    constructor
    · intro agree
      refine .named fun s => ?_
      have := agree (.text s)
      rw [coerce_named, coerce_named] at this
      by_cases l : s ∈ e.variants <;> by_cases l' : s ∈ e'.variants <;> simp_all
    · intro alike v
      cases alike with
      | same => rfl
      | named h => simp only [coerce_named, h]

end Kind

/-! ## Slots -/

/-- What may be missing is known by what stands in for it. -/
theorem StorageValue.eq_of_getD_eq {v w : Option StorageValue}
    (h : ∀ rest, v.getD rest = w.getD rest) : v = w := by
  cases v with
  | none =>
    cases w with
    | none => rfl
    | some w => exact absurd ((h .null).trans (h (.integer 0)).symm) nofun
  | some v =>
    cases w with
    | none => exact absurd ((h .null).symm.trans (h (.integer 0))) nofun
    | some w => exact congrArg some (h .null)

namespace Kind

theorem coerce_null {t : ValueType} (k : Kind t) : (k.coerce .null).toOption = none := by
  cases k <;> rfl

end Kind

namespace AnyDescriptor

/-- Both give every value the same stored form, or both refuse it. -/
def StoreAlike (a b : AnyDescriptor) : Prop :=
  ∀ v, (a.coerce v).toOption = (b.coerce v).toOption

theorem storeAlike_iff {a b : AnyDescriptor} (akin : a.descriptor.kind.Akin b.descriptor.kind)
    (nullable : a.nullable = b.nullable) :
    a.StoreAlike b ↔ a.descriptor.kind.Alike b.descriptor.kind := by
  rw [← akin.alike_iff standardDecimals_documented]
  have value : ∀ (d : AnyDescriptor) (v : StorageValue), v.isNull = false →
      d.coerce v = d.descriptor.kind.coerce v := by
    intro d v h
    simp [coerce, h]
  constructor
  · intro agree v
    cases null : v.isNull with
    | true =>
      obtain rfl : v = .null := by cases v <;> simp_all [StorageValue.isNull]
      rw [Kind.coerce_null, Kind.coerce_null]
    | false => rw [← value a v null, ← value b v null, agree v]
  · intro agree v
    cases null : v.isNull with
    | true =>
      cases h : b.nullable <;> simp [coerce, acceptEncoded, null, nullable, h, Except.toOption]
    | false => rw [value a v null, value b v null, agree v]

end AnyDescriptor

namespace Seed

variable {a b : Seed}

theorem akin_of_sameSlot {x y : Slot} (h : sameSlot x y = true) :
    x.type.descriptor.kind.Akin y.type.descriptor.kind ∧ x.type.nullable = y.type.nullable := by
  simp only [sameSlot, Bool.and_eq_true, beq_iff_eq] at h
  exact ⟨Kind.name_eq_iff_akin.1 h.1.1, h.2⟩

theorem sameContract_refl (s : Seed) : s.sameContract s = true := by
  simp only [sameContract, beq_self_eq_true, Bool.true_and, List.all_eq_true]
  rintro ⟨x, y⟩ member
  obtain rfl : x = y := by
    obtain ⟨i, h, same⟩ := List.mem_iff_getElem.1 member
    simp only [List.getElem_zip, Prod.mk.injEq] at same
    exact same.1.symm.trans same.2
  simp [sameSlot]

theorem sql_eq_of_sameContract (h : a.sameContract b = true) : a.sql = b.sql := by
  simp only [sameContract, Bool.and_eq_true, beq_iff_eq] at h
  exact h.1.1

theorem length_eq_of_sameContract (h : a.sameContract b = true) :
    a.params.length = b.params.length := by
  simp only [sameContract, Bool.and_eq_true, beq_iff_eq] at h
  exact h.1.2

/-- The types of the slots at every position are related. -/
def EachSlot (R : AnyDescriptor → AnyDescriptor → Prop) (a b : Seed) : Prop :=
  ∀ (i : Nat) (x y : Slot), a.params[i]? = some x → b.params[i]? = some y → R x.type y.type

/-- **Slots of one contract store alike exactly if their kinds do.** -/
theorem storeAlike_iff_of_sameContract (h : a.sameContract b = true) :
    EachSlot (fun x y => x.StoreAlike y ↔ x.descriptor.kind.Alike y.descriptor.kind) a b := by
  intro i x y hx hy
  simp only [sameContract, Bool.and_eq_true, List.all_eq_true] at h
  have paired : (x, y) ∈ a.params.zip b.params := by
    rw [List.mem_iff_getElem?]
    exact ⟨i, by simp [List.getElem?_zip_eq_some, hx, hy]⟩
  obtain ⟨akin, nullable⟩ := akin_of_sameSlot (h.2 (x, y) paired)
  exact AnyDescriptor.storeAlike_iff akin nullable

end Seed

/-! ## Filling arguments -/

namespace Arguments

/-- Binds values by position one after another; one that is refused leaves its slot as it is. -/
def fill (a : Arguments) (calls : List (Nat × PlainValue)) : Arguments :=
  calls.foldl (fun a (i, v) => (a.set i v).2) a

/-- What a slot holds after a value was bound to it. -/
theorem set_slots (a : Arguments) (i : Nat) (v : PlainValue) :
    (a.set i v).2 = { a with
      slots := match (a.seed.params[i]?).bind fun x => (x.type.coerce v.toStorage).toOption with
        | some w => a.slots.set i (some w)
        | none => a.slots } := by
  simp only [set, storeWith]
  cases a.seed.params[i]? with
  | none => rfl
  | some x => cases h : x.type.coerce v.toStorage <;> simp [h, Except.toOption]

variable {a b : Seed}

/-- One binding keeps arguments of two seeds with slots that store alike the same. -/
theorem set_alike (length : a.params.length = b.params.length)
    (alike : Seed.EachSlot AnyDescriptor.StoreAlike a b)
    (slots : List (Option StorageValue)) (i : Nat) (v : PlainValue) :
    ((Arguments.mk a slots).set i v).2.slots = ((Arguments.mk b slots).set i v).2.slots := by
  simp only [set_slots]
  cases hx : a.params[i]? with
  | none =>
    have : b.params[i]? = none := by
      rw [List.getElem?_eq_none_iff] at hx ⊢
      omega
    simp only [this, Option.bind_none]
  | some x =>
    cases hy : b.params[i]? with
    | none =>
      rw [List.getElem?_eq_none_iff, ← length, ← List.getElem?_eq_none_iff, hx] at hy
      cases hy
    | some y => simp only [Option.bind_some, alike i x y hx hy v.toStorage]

theorem fill_alike (length : a.params.length = b.params.length)
    (alike : Seed.EachSlot AnyDescriptor.StoreAlike a b)
    (calls : List (Nat × PlainValue)) (slots : List (Option StorageValue)) :
    ((Arguments.mk a slots).fill calls).slots = ((Arguments.mk b slots).fill calls).slots := by
  induction calls generalizing slots with
  | nil => rfl
  | cons call rest ih =>
    obtain ⟨i, v⟩ := call
    have step := set_alike length alike slots i v
    simp only [set_slots] at step
    simp only [fill, List.foldl_cons, set_slots] at ih ⊢
    rw [step]
    exact ih _

theorem fill_seed (a : Arguments) (calls : List (Nat × PlainValue)) :
    (a.fill calls).seed = a.seed := by
  induction calls generalizing a with
  | nil => rfl
  | cons call rest ih =>
    simp only [fill, List.foldl_cons, set_slots] at ih ⊢
    exact ih _

theorem valuesFrom_some (sql : String) (i : Nat) (vs : List StorageValue) :
    valuesFrom sql i (vs.map some) = .ok vs := by
  induction vs generalizing i with
  | nil => rfl
  | cons v rest ih => simp [valuesFrom, ih, Except.map]

end Arguments

namespace Compiled

variable {σ : Type} {c : Compiled σ} {b : Seed}

/-- Accepted arguments give what their slots hold. -/
theorem check_fill (h : c.seed.sameContract b = true) (slots : List (Option StorageValue))
    (calls : List (Nat × PlainValue)) :
    c.check ((Arguments.mk b slots).fill calls)
      = Arguments.valuesFrom c.seed.sql 0 ((Arguments.mk b slots).fill calls).slots := by
  simp only [check, Arguments.values, Arguments.fill_seed, h, if_true,
    Seed.sql_eq_of_sameContract h]

/-- What a statement runs with at position `i`, after one value was bound there to arguments full
of `rest`. -/
theorem check_set (h : c.seed.sameContract b = true) {i n : Nat} {y : Slot}
    (hy : b.params[i]? = some y) (inside : i < n) (rest v : StorageValue) :
    ((c.check ((Arguments.mk b ((List.replicate n rest).map some)).fill [(i, .stored v)])).toOption
        >>= (·[i]?))
      = some ((y.type.coerce v).toOption.getD rest) := by
  rw [check_fill h]
  simp only [Arguments.fill, List.foldl_cons, List.foldl_nil, Arguments.set_slots, hy,
    Option.bind_some, PlainValue.toStorage]
  cases (y.type.coerce v).toOption with
  | none =>
    simp only [Arguments.valuesFrom_some]
    simp [Except.toOption, inside]
  | some w =>
    simp only [← List.map_set, Arguments.valuesFrom_some]
    simp [Except.toOption, inside]

/-- **What a statement runs with.** A statement accepts arguments of every seed with its contract.
Slots of one contract store every value alike exactly if their kinds have settings that say the
same; exactly if all do, the statement runs with the values its own arguments would hold, whatever
they started with and whatever is bound. -/
theorem check_alike_iff_of_sameContract (h : c.seed.sameContract b = true) :
    Seed.EachSlot (fun x y => x.StoreAlike y ↔ x.descriptor.kind.Alike y.descriptor.kind) c.seed b
      ∧ ((∀ slots calls, c.check ((Arguments.mk b slots).fill calls)
          = c.check ((Arguments.mk c.seed slots).fill calls))
        ↔ Seed.EachSlot (fun x y => x.descriptor.kind.Alike y.descriptor.kind) c.seed b) := by
  have settings := Seed.storeAlike_iff_of_sameContract h
  refine ⟨settings, fun same i x y hx hy => ?_, fun alike slots calls => ?_⟩
  · refine (settings i x y hx hy).1 fun v => ?_
    have inside : i < c.seed.params.length := (List.getElem?_eq_some_iff.1 hx).1
    refine StorageValue.eq_of_getD_eq fun rest => Option.some.inj ?_
    rw [← check_set c.seed.sameContract_refl hx inside, ← check_set h hy inside, same]
  · rw [check_fill h, check_fill c.seed.sameContract_refl]
    rw [Arguments.fill_alike (Seed.length_eq_of_sameContract h)
      (fun i x y hx hy => (settings i x y hx hy).2 (alike i x y hx hy))]

end Compiled

/-! ### Amounts of two and of four places -/

/-- The places of cents, and of a hundredth of them. -/
def centPlaces : Scale := .standard

def finePlaces : Scale := ⟨4, by decide⟩

/-- Selects the prices of one amount; amounts have so many places. -/
def pricesOf (scale : Scale) : Except Error Seed := do
  let spec : ColumnSpec .decimal := { name := "amount", kind := .decimal scale, nullable := false }
  let (amount, draft) ← (TableDraft.add ⟨⟨1⟩, "Price", []⟩ spec).mapError .schema
  let table ← draft.build.mapError .schema
  let wanted := amount.toExpression.compare .eq (.ofExpression (amount.param ⟨1⟩).toExpression)
  let query := ((Select.empty.fromSource (.relation (.table table))).column amount).andWhere wanted
  (Statement.query (.select query)).build

/-- The seed of `pricesOf`. -/
def pricesSeed (scale : Scale) : Seed where
  sql := "SELECT Price.amount FROM Price WHERE Price.amount = ?"
  params := [⟨⟨_, ⟨.decimal scale, false⟩⟩, none, some ⟨1⟩⟩]
  registered := [(⟨1⟩, [0])]
  columns := [⟨"amount", ⟨_, ⟨.decimal scale, false⟩⟩, ⟨⟨1⟩, "amount"⟩, []⟩]

theorem check_alike_iff_of_prices :
    (pricesSeed centPlaces).sameContract (pricesSeed finePlaces) = true
      ∧ ¬ ∀ slots calls,
        (Compiled.mk (pricesSeed centPlaces) ()).check
            ((Arguments.mk (pricesSeed finePlaces) slots).fill calls)
          = (Compiled.mk (pricesSeed centPlaces) ()).check
            ((Arguments.mk (pricesSeed centPlaces) slots).fill calls) := by
  have contract : (pricesSeed centPlaces).sameContract (pricesSeed finePlaces) = true := by decide
  refine ⟨contract, fun same => ?_⟩
  have alike := (Compiled.check_alike_iff_of_sameContract
    (c := Compiled.mk (pricesSeed centPlaces) ()) contract).2.1 same
  cases alike 0 _ _ rfl rfl

/-- Both queries build to one contract, and the statement over cents runs with a hundred times the
amount that was bound through the other query. -/
theorem fine_amount_bound_to_cents :
    pricesOf centPlaces = .ok (pricesSeed centPlaces)
      ∧ pricesOf finePlaces = .ok (pricesSeed finePlaces)
      ∧ (pricesSeed centPlaces).sameContract (pricesSeed finePlaces) = true
      ∧ (Compiled.mk (pricesSeed centPlaces) ()).check
          ((Arguments.new (pricesSeed centPlaces)).fill [(0, .int64 12)]) = .ok [.integer 1200]
      ∧ (Compiled.mk (pricesSeed centPlaces) ()).check
          ((Arguments.new (pricesSeed finePlaces)).fill [(0, .int64 12)]) = .ok [.integer 120000] :=
  ⟨rfl, rfl, by decide, rfl, rfl⟩

end TypedSql
