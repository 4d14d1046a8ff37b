import TypedSql.Proofs.Query.Labels

/-!
# The rule by which result columns are named

Names are given in order. A column keeps its own unless an earlier entry has taken it, and else gets
the first of `name_1`, `name_2`, … that is not taken. Labels are kept.

**Theorem (`namesGiven_nameEntries`).** Select lists are named by the rule for names that are
compared exactly.

**Theorem (`NamesGiven.apart_iff`).** No two of the names are the same for another way of comparing
exactly if the rule for that gives these names, and no label repeats one.
-/

namespace TypedSql

section

variable (same : String → String → Bool)

/-- An earlier name is the same. -/
def Taken (taken : List String) (name : String) : Prop := ∃ n ∈ taken, same n name = true

/-- The names given to the entries in order, behind those that are taken. -/
inductive NamesGiven : List String → List ResultEntry → List String → Prop where
  | nil {taken : List String} : NamesGiven taken [] []
  | kept {taken names : List String} {c : ColumnRef} {rest : List ResultEntry}
      (free : ¬ Taken same taken c.name) (later : NamesGiven (c.name :: taken) rest names) :
      NamesGiven taken (.column c :: rest) (c.name :: names)
  | numbered {taken names : List String} {c : ColumnRef} {rest : List ResultEntry} {j : Nat}
      (clash : Taken same taken c.name) (positive : 1 ≤ j)
      (free : ¬ Taken same taken (c.name ++ "_" ++ toString j))
      (least : ∀ i, 1 ≤ i → i < j → Taken same taken (c.name ++ "_" ++ toString i))
      (later : NamesGiven ((c.name ++ "_" ++ toString j) :: taken) rest names) :
      NamesGiven taken (.column c :: rest) ((c.name ++ "_" ++ toString j) :: names)
  | labelled {taken names : List String} {key : ColumnKey} {type : AnyDescriptor}
      {rest : List ResultEntry} (later : NamesGiven (key.name :: taken) rest names) :
      NamesGiven taken (.labelled key type :: rest) (key.name :: names)

end

theorem taken_eq_iff {taken : List String} {name : String} :
    Taken (· == ·) taken name ↔ name ∈ taken := by
  simp [Taken]

/-- **Select lists are named by the rule.** -/
theorem namesGiven_nameEntries (taken : List String) (entries : List ResultEntry) :
    NamesGiven (· == ·) taken entries ((nameEntries taken entries).map NamedEntry.name) := by
  induction entries generalizing taken with
  | nil => exact .nil
  | cons entry rest ih =>
    cases entry with
    | labelled key type => exact .labelled (ih _)
    | column c =>
      by_cases clash : c.name ∈ taken
      · obtain ⟨j, positive, named, free, least⟩ := freshName_least taken c.name
        rw [nameEntries_of_mem clash, List.map_cons, named]
        refine .numbered (taken_eq_iff.2 clash) positive ?_ ?_ (ih _)
        · exact fun again => free (taken_eq_iff.1 again)
        · exact fun i one less => taken_eq_iff.2 (least i one less)
      · rw [nameEntries_of_not_mem clash, List.map_cons]
        exact .kept (fun again => clash (taken_eq_iff.1 again)) (ih _)

/-! ## Another way of comparing -/

variable {same : String → String → Bool}

theorem Taken.of_eq (refl : ∀ n, same n n = true) {taken : List String} {name : String}
    (h : Taken (· == ·) taken name) : Taken same taken name := by
  obtain ⟨n, hn, equal⟩ := h
  exact ⟨n, hn, (beq_iff_eq.1 equal) ▸ refl n⟩

theorem taken_cons_iff {taken : List String} {earlier name : String} :
    Taken same (earlier :: taken) name ↔ same earlier name = true ∨ Taken same taken name :=
  List.exists_mem_cons_iff ..

variable (same)

/-- No name is the same as one that is taken or an earlier one. -/
def NamesApart : List String → List String → Prop
  | _, [] => True
  | taken, name :: names => ¬ Taken same taken name ∧ NamesApart (name :: taken) names

/-- No label is the same as a name that is taken or an earlier one. -/
def LabelsApart (taken : List String) (entries : List ResultEntry) (names : List String) : Prop :=
  ∀ (i : Nat) (key : ColumnKey) (type : AnyDescriptor),
    entries[i]? = some (.labelled key type) →
      ¬ Taken same taken key.name ∧ ¬ Taken same (names.take i) key.name

variable {same}

theorem namesApart_iff {taken names : List String} :
    NamesApart same taken names
      ↔ (∀ n ∈ names, ¬ Taken same taken n) ∧ names.Pairwise fun m n => same m n = false := by
  induction names generalizing taken with
  | nil => exact iff_of_true trivial ⟨List.forall_mem_nil _, .nil⟩
  | cons name names ih =>
    rw [NamesApart, ih, List.forall_mem_cons, List.pairwise_cons]
    simp only [taken_cons_iff, not_or, Bool.not_eq_true, forall_and]
    tauto

theorem labelsApart_cons {taken names : List String} {entry : ResultEntry}
    {rest : List ResultEntry} {name : String} :
    LabelsApart same taken (entry :: rest) (name :: names)
      ↔ (∀ key type, entry = .labelled key type → ¬ Taken same taken key.name)
        ∧ LabelsApart same (name :: taken) rest names := by
  have none (key : ColumnKey) : ¬ Taken same [] key.name := by simp [Taken]
  constructor
  · intro h
    refine ⟨fun key type first => (h 0 key type (congrArg some first)).1, ?_⟩
    intro i key type found
    obtain ⟨free, new⟩ := h (i + 1) key type found
    rw [List.take_succ_cons, taken_cons_iff, not_or] at new
    rw [taken_cons_iff, not_or]
    exact ⟨⟨new.1, free⟩, new.2⟩
  · rintro ⟨first, later⟩ i key type found
    cases i with
    | zero => exact ⟨first key type (Option.some.inj found), none key⟩
    | succ i =>
      obtain ⟨free, new⟩ := later i key type found
      rw [taken_cons_iff, not_or] at free
      rw [List.take_succ_cons, taken_cons_iff, not_or]
      exact ⟨free.2, free.1, new⟩

/-- Whatever name a column is given, it is not taken. -/
theorem NamesGiven.of_column {taken names : List String} {c : ColumnRef}
    {rest : List ResultEntry} {name : String}
    (h : NamesGiven same taken (.column c :: rest) (name :: names)) :
    ¬ Taken same taken name ∧ NamesGiven same (name :: taken) rest names := by
  cases h with
  | kept free later => exact ⟨free, later⟩
  | numbered _ _ free _ later => exact ⟨free, later⟩

/-- **Names given by the rule for one way of comparing are apart in another** exactly if the rule
gives the same names for that, and no label repeats one. -/
theorem NamesGiven.apart_iff (refl : ∀ n, same n n = true) {taken names : List String}
    {entries : List ResultEntry} (h : NamesGiven (· == ·) taken entries names) :
    NamesApart same taken names
      ↔ NamesGiven same taken entries names ∧ LabelsApart same taken entries names := by
  induction h with
  | nil => exact iff_of_true trivial ⟨.nil, fun i key type found => nomatch found⟩
  | @kept taken names c rest free later ih =>
    have none : ∀ key type, ResultEntry.column c = .labelled key type →
        ¬ Taken same taken key.name := fun key type other => nomatch other
    rw [NamesApart, ih, labelsApart_cons, and_iff_right none]
    constructor
    · exact fun ⟨new, given, labels⟩ => ⟨.kept new given, labels⟩
    · exact fun ⟨given, labels⟩ => ⟨given.of_column.1, given.of_column.2, labels⟩
  | @numbered taken names c rest j clash positive free least later ih =>
    have none : ∀ key type, ResultEntry.column c = .labelled key type →
        ¬ Taken same taken key.name := fun key type other => nomatch other
    rw [NamesApart, ih, labelsApart_cons, and_iff_right none]
    constructor
    · rintro ⟨new, given, labels⟩
      refine ⟨.numbered (clash.of_eq refl) positive new (fun i one less => ?_) given, labels⟩
      exact (least i one less).of_eq refl
    · exact fun ⟨given, labels⟩ => ⟨given.of_column.1, given.of_column.2, labels⟩
  | @labelled taken names key type rest later ih =>
    rw [NamesApart, ih, labelsApart_cons]
    constructor
    · rintro ⟨new, given, labels⟩
      refine ⟨.labelled given, fun key' type' same => ?_, labels⟩
      cases same
      exact new
    · rintro ⟨given, first, labels⟩
      cases given with
      | labelled given => exact ⟨first key type rfl, given, labels⟩

end TypedSql
