import Mathlib.Data.List.Perm.Subperm
import Mathlib.Data.List.Nodup
import TypedSql.Query.Columns

/-!
# Names that occur again

**Theorem (`freshName_least`).** The name given to a column whose own name is taken is the first
candidate that is not taken. There is one, as there is one more candidate than there are names.

**Theorem (`unrepeated_nameEntries`).** So only a label can repeat the name of an earlier entry.
-/

namespace TypedSql

/-! ## Fresh names -/

theorem numbered_injective (name : String) :
    Function.Injective fun n : Nat => name ++ "_" ++ toString (n + 1) := by
  intro m n same
  have numbers : toString (m + 1) = toString (n + 1) := (String.append_right_inj _).1 same
  have digits : Nat.toDigits 10 (m + 1) = Nat.toDigits 10 (n + 1) := by
    rw [← Nat.toList_repr, ← Nat.toList_repr]
    exact congrArg String.toList numbers
  have value := congrArg (Nat.ofDigitChars 10 · 0) digits
  rw [Nat.ofDigitChars_toDigits (by decide) (by decide),
    Nat.ofDigitChars_toDigits (by decide) (by decide)] at value
  exact Nat.succ.inj value

/-- There is one more candidate than there are names taken. -/
theorem exists_candidate (taken : List String) (name : String) :
    ∃ n, (List.range (taken.length + 1)).find?
      (fun n => !taken.contains (name ++ "_" ++ toString (n + 1))) = some n := by
  rw [← Option.isSome_iff_exists, Option.isSome_iff_ne_none]
  intro none
  have subset : (List.range (taken.length + 1)).map (fun n => name ++ "_" ++ toString (n + 1))
      ⊆ taken := by
    intro candidate h
    obtain ⟨n, hn, rfl⟩ := List.mem_map.1 h
    simpa using List.find?_eq_none.1 none n hn
  have nodup : ((List.range (taken.length + 1)).map
      fun n => name ++ "_" ++ toString (n + 1)).Nodup :=
    List.nodup_range.map (numbered_injective name)
  have le := (List.subperm_of_subset nodup subset).length_le
  rw [List.length_map, List.length_range] at le
  exact absurd le (Nat.not_succ_le_self _)

/-- **A fresh name is the first candidate that is not taken.** -/
theorem freshName_least (taken : List String) (name : String) :
    ∃ j, 1 ≤ j ∧ freshName taken name = name ++ "_" ++ toString j
      ∧ name ++ "_" ++ toString j ∉ taken
      ∧ ∀ i, 1 ≤ i → i < j → name ++ "_" ++ toString i ∈ taken := by
  obtain ⟨n, found⟩ := exists_candidate taken name
  obtain ⟨free, -, before⟩ := List.find?_range_eq_some.1 found
  refine ⟨n + 1, Nat.le_add_left 1 n, ?_, by simpa using free, fun i positive less => ?_⟩
  · rw [freshName, found]
  · have earlier := before (i - 1) (by omega)
    rw [Nat.sub_add_cancel positive] at earlier
    simpa using earlier

theorem freshName_not_mem (taken : List String) (name : String) : freshName taken name ∉ taken := by
  obtain ⟨j, -, same, free, -⟩ := freshName_least taken name
  exact same ▸ free

/-! ## Repeated names -/

theorem length_nameEntries (taken : List String) (entries : List ResultEntry) :
    (nameEntries taken entries).length = entries.length := by
  induction entries generalizing taken with
  | nil => rfl
  | cons entry rest ih => cases entry <;> exact congrArg Nat.succ (ih _)

theorem nameEntries_of_mem {taken : List String} {c : ColumnRef} (clash : c.name ∈ taken)
    (rest : List ResultEntry) :
    nameEntries taken (.column c :: rest)
      = ⟨.column c, freshName taken c.name, true⟩
        :: nameEntries (freshName taken c.name :: taken) rest := by
  simp [nameEntries, clash]

theorem nameEntries_of_not_mem {taken : List String} {c : ColumnRef} (free : c.name ∉ taken)
    (rest : List ResultEntry) :
    nameEntries taken (.column c :: rest)
      = ⟨.column c, c.name, false⟩ :: nameEntries (c.name :: taken) rest := by
  simp [nameEntries, free]

/-- A column gets a name that is not taken, a label keeps its own. -/
theorem nameEntries_cons (taken : List String) (entry : ResultEntry) (rest : List ResultEntry) :
    ∃ e : NamedEntry, nameEntries taken (entry :: rest) = e :: nameEntries (e.name :: taken) rest
      ∧ (∀ c, entry = .column c → e.name ∉ taken)
      ∧ ∀ key type, entry = .labelled key type → e.name = key.name := by
  cases entry with
  | column c =>
    by_cases clash : c.name ∈ taken
    · refine ⟨_, nameEntries_of_mem clash rest, fun c' _ => ?_, fun key type h => nomatch h⟩
      exact freshName_not_mem taken c.name
    · exact ⟨_, nameEntries_of_not_mem clash rest, fun c' _ => clash, fun key type h => nomatch h⟩
  | labelled key type =>
    refine ⟨_, rfl, fun c h => (nomatch h), fun key' type' h => ?_⟩
    rw [(ResultEntry.labelled.inj h).1]

/-- No entry has a name that is taken, or that an earlier entry has. -/
def Unrepeated (taken : List String) : List NamedEntry → Prop
  | [] => True
  | e :: rest => e.name ∉ taken ∧ Unrepeated (e.name :: taken) rest

theorem Unrepeated.nodup {taken : List String} {es : List NamedEntry} (h : Unrepeated taken es) :
    (es.map NamedEntry.name).Nodup ∧ ∀ e ∈ es, e.name ∉ taken := by
  induction es generalizing taken with
  | nil => exact ⟨List.nodup_nil, List.forall_mem_nil _⟩
  | cons e rest ih =>
    obtain ⟨nodup, later⟩ := ih h.2
    simp only [List.mem_cons, not_or] at later
    refine ⟨List.nodup_cons.2 ⟨fun again => ?_, nodup⟩, List.forall_mem_cons.2 ⟨h.1, ?_⟩⟩
    · obtain ⟨e', he', same⟩ := List.mem_map.1 again
      exact (later e' he').1 same
    · exact fun e' he' => (later e' he').2

/-- **Only labels repeat names.** -/
theorem unrepeated_nameEntries (taken : List String) (entries : List ResultEntry) :
    Unrepeated taken (nameEntries taken entries)
      ↔ ∀ (i : Nat) (key : ColumnKey) (type : AnyDescriptor),
        entries[i]? = some (.labelled key type) →
          key.name ∉ taken ∧ ∀ e ∈ (nameEntries taken entries).take i, e.name ≠ key.name := by
  induction entries generalizing taken with
  | nil => exact iff_of_true trivial fun i key type h => nomatch h
  | cons entry rest ih =>
    obtain ⟨e, named, fresh, kept⟩ := nameEntries_cons taken entry rest
    rw [named, Unrepeated, ih (e.name :: taken)]
    constructor
    · rintro ⟨new, labels⟩ i key type h
      cases i with
      | zero =>
        rw [kept key type (Option.some.inj h)] at new
        exact ⟨new, List.forall_mem_nil _⟩
      | succ i =>
        obtain ⟨notin, before⟩ := labels i key type h
        rw [List.mem_cons, not_or] at notin
        rw [List.take_succ_cons, List.forall_mem_cons]
        exact ⟨notin.2, Ne.symm notin.1, before⟩
    · intro labels
      refine ⟨?_, fun i key type h => ?_⟩
      · cases entry with
        | column c => exact fresh c rfl
        | labelled key type =>
          rw [kept key type rfl]
          exact (labels 0 key type rfl).1
      · obtain ⟨notin, before⟩ := labels (i + 1) key type h
        rw [List.take_succ_cons, List.forall_mem_cons] at before
        exact ⟨List.not_mem_cons_of_ne_of_not_mem before.1.symm notin, before.2⟩

end TypedSql
