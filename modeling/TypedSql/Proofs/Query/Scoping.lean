import TypedSql.Proofs.Query.Names

/-!
# What a written name denotes

SQL looks a name up in the query levels around it, the innermost first. A qualified name belongs to
the first level with a source of that name, an unqualified one to the first level with a column of
that name; whatever the level has under the name is denoted.

**Theorem (`denoted_iff`).** A column that carries the name of its set is denoted by its written
name, and by nothing else, exactly if no level inside its own takes the name and its own level has
the name once.

How names are compared is left open, as long as every name is the same as itself.
-/

namespace TypedSql

/-- What a query level reads from. -/
abbrev Level := Option Source

/-! ## The rule -/

/-- The name a set is called by in a qualifier; a query has none. -/
def Relation.exposedName? : Relation → Option String
  | .table t => some t.name
  | .view _ name _ => some name
  | .subquery _ _ => none

/-- The sets a source consists of, with what they are called by. -/
def Source.exposures : Source → List (Option String × List ColumnRef)
  | .relation r => [(r.exposedName?, r.columns)]
  | .alias id name r => [(some name, r.columns.map (·.copy id name))]
  | .join _ lhs rhs _ => lhs.exposures ++ rhs.exposures

section

variable (same : String → String → Bool)

/-- The columns a qualifier leads to; without one, all. -/
def Source.qualifiedColumns (qualifier : String) (s : Source) : List ColumnRef :=
  if qualifier.isEmpty then s.columns
  else (s.exposures.filter fun e => e.1.any (same · qualifier)).flatMap Prod.snd

/-- The columns that a written name denotes in a source. -/
def Source.denoted (qualifier name : String) (s : Source) : List ColumnRef :=
  (s.qualifiedColumns same qualifier).filter fun c => same c.name name

/-- The search for a written name ends at a level that reads from the source. -/
def Source.takes (qualifier name : String) (s : Source) : Bool :=
  if qualifier.isEmpty then s.columns.any fun c => same c.name name
  else s.exposures.any fun e => e.1.any (same · qualifier)

/-- The columns that a written name denotes among the query levels around it, the innermost
first. -/
def denoted (levels : List Level) (qualifier name : String) : List ColumnRef :=
  match levels.find? fun l => l.any (Source.takes same qualifier name) with
  | some (some s) => s.denoted same qualifier name
  | _ => []

end

/-! ## Sets and their names -/

theorem Source.mem_columns_iff (s : Source) {c : ColumnRef} :
    c ∈ s.columns ↔ ∃ e ∈ s.exposures, c ∈ e.2 := by
  induction s using Source.exposures.induct with
  | case1 r => simp [Source.columns, Source.exposures]
  | case2 id name r => simp [Source.columns, Source.exposures]
  | case3 kind lhs rhs on ihl ihr =>
      simp only [Source.columns, Source.exposures, List.mem_append, ihl, ihr, or_and_right,
        exists_or]

/-- A set is called by the qualifier of its columns. -/
theorem Relation.exposedName_eq {r : Relation} (built : ∀ l ∈ r.leaves, l.Built) {c : ColumnRef}
    (hc : c ∈ r.columns) (hq : c.qualifier ≠ "") : r.exposedName? = some c.qualifier := by
  cases r with
  | table t =>
      have table := built _ (List.mem_singleton_self _)
      cases table with
      | table ht => exact congrArg some (ht.column c hc).qualifier.symm
  | view id name q =>
      obtain ⟨result, -, rfl⟩ := List.mem_map.1 hc
      rfl
  | subquery id q =>
      obtain ⟨result, -, rfl⟩ := List.mem_map.1 hc
      exact absurd rfl hq

theorem Source.exposures_name {s : Source} (built : ∀ l ∈ s.leaves, l.Built)
    {e : Option String × List ColumnRef} (he : e ∈ s.exposures) {c : ColumnRef} (hc : c ∈ e.2)
    (hq : c.qualifier ≠ "") : e.1 = some c.qualifier := by
  induction s using Source.exposures.induct with
  | case1 r =>
      rw [Source.exposures, List.mem_singleton] at he
      subst he
      exact Relation.exposedName_eq built hc hq
  | case2 id name r =>
      rw [Source.exposures, List.mem_singleton] at he
      subst he
      obtain ⟨original, -, rfl⟩ := List.mem_map.1 hc
      rfl
  | case3 kind lhs rhs on ihl ihr =>
      simp only [Source.leaves, List.forall_mem_append] at built
      rcases List.mem_append.1 he with left | right
      · exact ihl built.1.1 left
      · exact ihr built.1.2 right

/-! ## Owners -/

/-- Every set has one name, which its columns carry. -/
def Leaf.Owned (owner : SetId → String) : Leaf → Prop
  | .column c => c.qualifier = owner c.key.set
  | .table t => owner t.id = t.name
  | .named id name => owner id = name
  | .anonymous id => owner id = ""
  | .label _ | .bind _ | .castType _ => True

variable {owner : SetId → String} {same : String → String → Bool}

/-- The columns of a source carry the names of their sets. -/
theorem Source.columns_owned {s : Source} (h : ∀ l ∈ s.leaves, l.Built ∧ l.Owned owner)
    {c : ColumnRef} (hc : c ∈ s.columns) : c.qualifier = owner c.key.set := by
  obtain ⟨l, hl, exposes⟩ := s.exposed hc
  obtain ⟨built, owned⟩ := h l hl
  cases l with
  | table t =>
      cases built with
      | table ht =>
          have own := ht.column c exposes
          rw [own.qualifier, own.set]
          exact owned.symm
  | named id name =>
      rw [exposes.1, exposes.2]
      exact owned.symm
  | anonymous id =>
      rw [exposes.1, exposes.2]
      exact owned.symm
  | column _ => cases exposes
  | label _ => cases exposes
  | bind _ => cases exposes
  | castType _ => cases exposes

/-! ## Names at home -/

/-- A column is among those that its written name denotes in its source. -/
theorem Source.mem_denoted {s : Source} (refl : ∀ n, same n n = true)
    (built : ∀ l ∈ s.leaves, l.Built) {c : ColumnRef} (hc : c ∈ s.columns) :
    c ∈ s.denoted same c.qualifier c.name := by
  refine List.mem_filter.2 ⟨?_, refl _⟩
  unfold Source.qualifiedColumns
  split
  · exact hc
  · next qualified =>
    obtain ⟨e, he, inside⟩ := s.mem_columns_iff.1 hc
    have name : e.1 = some c.qualifier := by
      refine Source.exposures_name built he inside fun none => qualified ?_
      rw [none]
      rfl
    refine List.mem_flatMap.2 ⟨e, List.mem_filter.2 ⟨he, ?_⟩, inside⟩
    rw [name]
    exact refl _

/-- A source that has a column under a written name takes the name. -/
theorem Source.takes_of_mem_denoted {s : Source} {qualifier name : String} {c : ColumnRef}
    (h : c ∈ s.denoted same qualifier name) : s.takes same qualifier name = true := by
  obtain ⟨inside, named⟩ := List.mem_filter.1 h
  unfold Source.qualifiedColumns at inside
  unfold Source.takes
  split at inside
  · next unqualified =>
    rw [if_pos unqualified]
    exact List.any_eq_true.2 ⟨c, inside, named⟩
  · next qualified =>
    rw [if_neg qualified]
    obtain ⟨e, he, -⟩ := List.mem_flatMap.1 inside
    obtain ⟨mem, called⟩ := List.mem_filter.1 he
    exact List.any_eq_true.2 ⟨e, mem, called⟩

theorem Source.mem_columns_of_mem_denoted {s : Source} {qualifier name : String} {c : ColumnRef}
    (h : c ∈ s.denoted same qualifier name) : c ∈ s.columns := by
  obtain ⟨inside, -⟩ := List.mem_filter.1 h
  unfold Source.qualifiedColumns at inside
  split at inside
  · exact inside
  · obtain ⟨e, he, hc⟩ := List.mem_flatMap.1 inside
    exact s.mem_columns_iff.2 ⟨e, (List.mem_filter.1 he).1, hc⟩

/-! ## Names among levels -/

variable {inner outer : List Level} {s : Source} {qualifier name : String}

/-- Without a level inside that takes the name, the level of the source is searched. -/
theorem denoted_eq_home
    (passed : ∀ l ∈ inner, l.any (Source.takes same qualifier name) = false)
    (taken : s.takes same qualifier name = true) :
    denoted same (inner ++ some s :: outer) qualifier name = s.denoted same qualifier name := by
  have none : inner.find? (fun l => l.any (Source.takes same qualifier name)) = none := by
    refine List.find?_eq_none.2 fun l hl => ?_
    rw [passed l hl]
    exact Bool.false_ne_true
  have found : (inner ++ some s :: outer).find? (fun l => l.any (Source.takes same qualifier name))
      = some (some s) := by
    rw [List.find?_append, none, Option.none_or]
    exact List.find?_cons_of_pos taken
  rw [denoted, found]

/-- A level inside that takes the name is searched instead. -/
theorem denoted_eq_inner (s : Source) (outer : List Level) {l : Level} (hl : l ∈ inner)
    (taken : l.any (Source.takes same qualifier name) = true) :
    ∃ nearer, some nearer ∈ inner
      ∧ denoted same (inner ++ some s :: outer) qualifier name
        = nearer.denoted same qualifier name := by
  cases found : inner.find? fun l => l.any (Source.takes same qualifier name) with
  | none => exact absurd taken (List.find?_eq_none.1 found l hl)
  | some first =>
      have takes := List.find?_some found
      cases first with
      | none => cases takes
      | some nearer =>
          refine ⟨nearer, List.mem_of_find?_eq_some found, ?_⟩
          rw [denoted, List.find?_append, found, Option.some_or]

/-- Where the level of the source is the first that has the column, its written name denotes the
column alone exactly if no level inside takes the name and the source has the name once. -/
theorem denoted_iff (refl : ∀ n, same n n = true)
    (home : ∀ l ∈ s.leaves, l.Built ∧ l.Owned owner) {c : ColumnRef}
    (own : c.qualifier = owner c.key.set) (hs : s.contains c.key = true)
    (nearest : ∀ nearer, some nearer ∈ inner → nearer.contains c.key = false) :
    (denoted same (inner ++ some s :: outer) c.qualifier c.name).map ColumnRef.key = [c.key]
      ↔ (∀ l ∈ inner, l.any (Source.takes same c.qualifier c.name) = false)
        ∧ (s.denoted same c.qualifier c.name).length = 1 := by
  -- The source has the column itself or a twin of it, with the same name and qualifier.
  obtain ⟨twin, ht, key⟩ := List.any_eq_true.1 hs
  rw [beq_iff_eq] at key
  have qualifier : twin.qualifier = c.qualifier := by
    rw [Source.columns_owned home ht, own, key]
  have name : twin.name = c.name := congrArg ColumnKey.name key
  have mem : twin ∈ s.denoted same c.qualifier c.name := by
    rw [← qualifier, ← name]
    exact Source.mem_denoted refl (fun l hl => (home l hl).1) ht
  have taken := Source.takes_of_mem_denoted mem
  constructor
  · intro kept
    have passed : ∀ l ∈ inner, l.any (Source.takes same c.qualifier c.name) = false := by
      intro l hl
      refine Bool.eq_false_iff.2 fun takes => ?_
      obtain ⟨nearer, hn, searched⟩ := denoted_eq_inner s outer hl takes
      have found : c.key ∈ (nearer.denoted same c.qualifier c.name).map ColumnRef.key := by
        rw [← searched, kept]
        exact List.mem_singleton_self _
      obtain ⟨c', hc', same_key⟩ := List.mem_map.1 found
      have contains : nearer.contains c.key = true :=
        List.any_eq_true.2 ⟨c', Source.mem_columns_of_mem_denoted hc', beq_iff_eq.2 same_key⟩
      rw [nearest nearer hn] at contains
      cases contains
    rw [denoted_eq_home passed taken] at kept
    exact ⟨passed, by simpa using congrArg List.length kept⟩
  · rintro ⟨passed, once⟩
    rw [denoted_eq_home passed taken]
    obtain ⟨only, single⟩ := List.length_eq_one_iff.1 once
    rw [single, List.mem_singleton] at mem
    rw [single, List.map_singleton, ← mem, key]

end TypedSql
