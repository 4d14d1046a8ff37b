import TypedSql.Proofs.Render.Own

/-!
# Nodes without mistakes

**Theorem (`Node.clear_iff`).** The parts written for a node are free of mistakes exactly if every
node reached from it is, taken by itself.

What a node writes by itself is clear exactly if the node is faultless (`Node.clear_own`), and the
parts of a node are what the nodes reached from it write by themselves (`Node.mem_parts_iff`).
-/

namespace TypedSql

/-! ## Parts without mistakes -/

/-- The part is no mistake, and passes the check of its kind. -/
def Part.Clear : Part → Prop
  | .mistake _ => False
  | .column levels c => levels = [] ∨ Visible levels c
  | .bind p => p.Storable
  | .selected _ | .resultName _ | .name _ | .castType _ => True

/-- All of the parts are clear. -/
def Clear (xs : List Part) : Prop := ∀ x ∈ xs, x.Clear

@[simp] theorem clear_nil : Clear [] := List.forall_mem_nil _

@[simp] theorem clear_cons {x : Part} {xs : List Part} : Clear (x :: xs) ↔ x.Clear ∧ Clear xs :=
  List.forall_mem_cons

theorem clear_singleton {x : Part} : Clear [x] ↔ x.Clear := List.forall_mem_singleton

@[simp] theorem clear_append {xs ys : List Part} : Clear (xs ++ ys) ↔ Clear xs ∧ Clear ys :=
  List.forall_mem_append

theorem clear_flatten {xss : List (List Part)} : Clear xss.flatten ↔ ∀ xs ∈ xss, Clear xs :=
  forall_flatten

@[simp] theorem clear_mistakes {es : List SchemaError} : Clear (es.map Part.mistake) ↔ es = [] := by
  cases es with
  | nil => exact iff_of_true clear_nil rfl
  | cons e es => exact iff_of_false (fun h => h _ List.mem_cons_self) (List.cons_ne_nil _ _)

theorem clear_optionParts {levels : List Level} {e : Option Expr} :
    Clear (optionParts levels e) ↔ ∀ f ∈ e.toList, Clear (f.parts levels) :=
  forall_optionParts

/-! ## Select lists -/

theorem resultColumn_name (e : NamedEntry) : e.resultColumn.name = e.name := by
  unfold NamedEntry.resultColumn
  split <;> rfl

theorem map_name_resultColumns (entries : List ResultEntry) :
    (resultColumns entries).map ResultColumn.name
      = (nameEntries [] entries).map NamedEntry.name := by
  rw [resultColumns, List.map_map]
  exact List.map_congr_left fun e _ => resultColumn_name e

theorem Select.labelsNew_iff (q : Select) :
    q.LabelsNew ↔ Unrepeated [] (nameEntries [] q.entries) := by
  simp only [unrepeated_nameEntries, LabelsNew, Select.resultColumns, TypedSql.resultColumns,
    ← List.map_take, List.forall_mem_map, resultColumn_name, List.not_mem_nil, not_false_eq_true,
    true_and]

/-- Of the names of a select list, only one that occurs again is a mistake. -/
theorem clear_names (entries : List NamedEntry) (seen : List String) :
    Clear (selectListParts seen (entries.map fun e => (e, []))).flatten
      ↔ Unrepeated seen entries := by
  induction entries generalizing seen with
  | nil => exact iff_of_true clear_nil trivial
  | cons e entries ih =>
    have repeated : Clear (if seen.contains e.name then
        [Part.mistake (.duplicateColumn "result" e.name)] else []) ↔ e.name ∉ seen := by
      split
      · next taken =>
        refine iff_of_false (fun clear => clear _ List.mem_cons_self) (not_not_intro ?_)
        simpa using taken
      · next free => exact iff_of_true clear_nil (by simpa using free)
    have name : Clear [Part.resultName e] := clear_singleton.2 trivial
    rw [List.map_cons, selectListParts, List.flatten_cons, clear_append, clear_append, clear_append,
      repeated, and_iff_left clear_nil, ih, Unrepeated]
    refine and_congr_left' (and_iff_left ?_)
    split
    · exact name
    · split
      · exact name
      · exact clear_nil

theorem clear_items (items : List ResultItem) :
    ∀ xs ∈ items.map ResultItem.own, Clear xs := by
  refine List.forall_mem_map.2 fun item _ => ?_
  cases item with
  | column c => exact clear_singleton.2 trivial
  | labelled key e type => exact clear_nil

theorem clear_listed (source : Level) (items : List ResultItem) :
    ∀ xs ∈ listedParts source items (items.map ResultItem.own), Clear xs := by
  cases items with
  | nil => exact List.forall_mem_map.2 fun c _ => clear_singleton.2 trivial
  | cons item items => exact clear_items _

theorem Select.clear_own (q : Select) :
    Clear q.own ↔ q.errors = [] ∧ q.entries ≠ [] ∧ q.LabelsNew := by
  have some_entry : Clear (if q.entries.isEmpty then [Part.mistake .noResultColumns] else [])
      ↔ q.entries ≠ [] := by
    split
    · next none =>
      refine iff_of_false (fun clear => clear _ List.mem_cons_self) (not_not_intro ?_)
      exact List.isEmpty_iff.1 none
    · next some => exact iff_of_true clear_nil fun none => some (List.isEmpty_iff.2 none)
  rw [own, clear_append, clear_append, clear_append, clear_mistakes, some_entry, clear_names,
    clear_flatten, and_iff_left (clear_listed _ _), labelsNew_iff, and_assoc]

/-! ## Nodes -/

namespace Node

theorem clear_own (n : Node) : Clear n.own ↔ n.Faultless := by
  have named : ∀ name, Clear [.name name] := fun name => clear_singleton.2 trivial
  cases n with
  | expr levels e =>
    cases e with
    | column c => exact clear_singleton
    | label name => exact iff_of_true (named name) trivial
    | cast e type => exact iff_of_true (clear_singleton.2 trivial) trivial
    | _ => exact iff_of_true clear_nil trivial
  | bind p => exact clear_singleton
  | select outer q => exact q.clear_own
  | query outer q =>
    cases q with
    | select q => exact iff_of_true clear_nil trivial
    | compound q => exact clear_mistakes
  | source levels s =>
    cases s with
    | relation r =>
      cases r with
      | table t => exact iff_of_true (named t.name) trivial
      | view id name q => exact iff_of_true (named name) trivial
      | subquery id q => exact iff_of_true clear_nil trivial
    | «alias» id name r => exact iff_of_true (named name) trivial
    | join kind lhs rhs on => exact clear_mistakes

/-- **The parts are clear exactly if all nodes reached are faultless, each by itself.** -/
theorem clear_iff (n : Node) : Clear n.parts ↔ ∀ m, n.Reaches m → m.Faultless := by
  simp only [Clear, mem_parts_iff, ← clear_own]
  exact ⟨fun h m reached x own => h x ⟨m, reached, own⟩,
    fun h x ⟨m, reached, own⟩ => h m reached x own⟩

end Node

theorem Statement.clear_roots_iff {s : Statement} :
    (∀ root ∈ s.roots, Clear root.parts) ↔ ∀ n, s.Reaches n → n.Faultless := by
  simp only [Node.clear_iff]
  exact ⟨fun h n ⟨root, hroot, path⟩ => h root hroot n path,
    fun h root hroot n path => h n ⟨root, hroot, path⟩⟩

end TypedSql
