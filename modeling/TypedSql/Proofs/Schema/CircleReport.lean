import TypedSql.Proofs.Schema.CreationOrder
import TypedSql.Proofs.Schema.Peeling

/-!
# What stops an order of creation

Where references go round there is no order of creation, and the error names tables.

**Theorem (`creationOrder_names_between`).** The tables named are those on a chain of references
from a circle to a circle, each once and in the order of declaration; every table on a circle is
among them. Taking tables away ends, and ends in these tables whichever is taken away first.

**Theorem (`creationOrder_names_circles_iff`).** All tables named lie on circles exactly if no chain
from a circle to a circle goes over a table on none. A table between two circles is named without
being on one.
-/

namespace TypedSql

namespace CreationOrder

variable {tables : List Table} {names : List String} {rest : List Nat} {t u : Table} {i j : Nat}

/-! ## Circles of tables and of positions -/

theorem Between.map {α β : Type} {R : α → α → Prop} {S : β → β → Prop} {a : α} (h : Between R a)
    (f : α → β) (step : ∀ a b, R a b → S (f a) (f b)) : Between S (f a) := by
  obtain ⟨b, c, start, before, behind, finish⟩ := h
  exact ⟨f b, f c, start.lift f step, before.lift f step, behind.lift f step, finish.lift f step⟩

theorem refers_of_steps (steps : Relation.ReflTransGen (Edge tables) i j)
    (ht : tables[i]? = some t) (hu : tables[j]? = some u) :
    Relation.ReflTransGen (Refers tables) t u := by
  rcases Relation.reflTransGen_iff_eq_or_transGen.1 steps with rfl | path
  · obtain rfl : t = u := Option.some.inj (ht.symm.trans hu)
    exact .refl
  · exact (refers_of_path path ht hu).to_reflTransGen

theorem exists_table_of_circle (circle : Relation.TransGen (Edge tables) i i) :
    ∃ t, tables[i]? = some t := by
  obtain ⟨j, edge, -⟩ := Relation.TransGen.head'_iff.1 circle
  exact ⟨_, List.getElem?_eq_getElem edge.lt⟩

/-- A table lies between circles just if its position does. -/
theorem Unique.between_iff (unique : Unique tables) (nodup : tables.Nodup)
    (ht : tables[i]? = some t) : Between (Edge tables) i ↔ Between (Refers tables) t := by
  constructor
  · rintro ⟨a, b, start, before, behind, finish⟩
    obtain ⟨ta, ha⟩ := exists_table_of_circle start
    obtain ⟨tb, hb⟩ := exists_table_of_circle finish
    exact ⟨ta, tb, refers_of_path start ha ha, refers_of_steps before ha ht,
      refers_of_steps behind ht hb, refers_of_path finish hb hb⟩
  · intro between
    have at_t := unique.getElem?_positionOf (List.mem_of_getElem? ht)
    have same : i = positionOf tables t :=
      (List.getElem?_inj (lt_length_of_getElem? ht) nodup).1 (ht.trans at_t.symm)
    exact same ▸ between.map (positionOf tables) fun _ _ refers => refers.edge unique

/-- No table refers to itself. -/
theorem Refers.ne (h : Refers tables t u) : u ≠ t := by
  rintro rfl
  exact h.other rfl

/-! ## The report -/

/-- The error for a circle is the report of the tables that remain. -/
theorem of_creationOrder_eq_foreignKeyCycle
    (failed : creationOrder tables = .error (.foreignKeyCycle names)) :
    ¬ Repeats tables ∧ ¬ (place tables [] tables.length).length = tables.length
      ∧ ∃ rest, Leftover tables rest ∧ names = (rest.filterMap (tables[·]?)).map Table.name := by
  unfold creationOrder at failed
  cases found : duplicate? tables with
  | some t =>
    rw [found] at failed
    cases failed
  | none =>
    rw [found] at failed
    dsimp only at failed
    split_ifs at failed with full
    refine ⟨duplicate?_eq_none_iff.1 found, full, _, leftover_peel tables, ?_⟩
    cases failed
    exact List.map_filterMap.symm

/-- The tables a report names. -/
structure Named (tables : List Table) (names : List String) (named : List Table) : Prop where
  names_eq : names = named.map Table.name
  sublist : named.Sublist tables
  mem_iff : ∀ t, t ∈ named ↔ Between (Refers tables) t
  leftover : ∀ rest, Leftover tables rest → rest.filterMap (tables[·]?) = named

theorem exists_named (unique : Unique tables)
    (failed : creationOrder tables = .error (.foreignKeyCycle names)) :
    ∃ named, Named tables names named := by
  obtain ⟨distinct, -, rest, left, shown⟩ := of_creationOrder_eq_foreignKeyCycle failed
  have nodup := nodup_of_not_repeats distinct
  refine ⟨_, shown, ?_, fun t => ?_, fun rest' left' => by rw [left.eq left']⟩
  · have sub := left.sublist_range.filterMap (tables[·]?)
    rwa [filterMap_getElem?_range] at sub
  · rw [List.mem_filterMap]
    constructor
    · rintro ⟨i, hi, ht⟩
      exact (unique.between_iff nodup ht).1 ((mem_leftover_iff left).1 hi)
    · intro between
      obtain ⟨u, refers, -⟩ := between.next
      have ht := unique.getElem?_positionOf refers.mem
      exact ⟨_, (mem_leftover_iff left).2 ((unique.between_iff nodup ht).2 between), ht⟩

theorem nodup_names (distinct : ¬ Repeats tables) : (tables.map Table.name).Nodup := by
  refine List.pairwise_map.2 ((not_repeats_iff.1 distinct).imp ?_)
  intro t u apart same
  exact apart (same ▸ Text.sameName_refl t.name)

/-- A listed table is named just if it lies between circles. -/
theorem mem_names_iff {named : List Table} (h : Named tables names named)
    (distinct : ¬ Repeats tables) (ht : t ∈ tables) :
    t.name ∈ names ↔ Between (Refers tables) t := by
  have nodup := nodup_names distinct
  rw [h.names_eq, List.mem_map, ← h.mem_iff]
  constructor
  · rintro ⟨u, hu, same⟩
    exact List.inj_on_of_nodup_map nodup (h.sublist.subset hu) ht same ▸ hu
  · exact fun mem => ⟨t, mem, rfl⟩

/-- A report names a table. -/
theorem Named.ne_nil {named : List Table} (h : Named tables names named) (unique : Unique tables)
    (failed : creationOrder tables = .error (.foreignKeyCycle names)) : named ≠ [] := by
  obtain ⟨-, partly, -⟩ := of_creationOrder_eq_foreignKeyCycle failed
  have placed : Placed tables (place tables [] tables.length) := placed_place .nil _
  rw [placed.full_iff (next?_place .nil (by simp)), unique.acyclic_iff] at partly
  obtain ⟨t, circle⟩ := not_forall_not.1 partly
  exact List.ne_nil_of_mem ((h.mem_iff t).2 (.of_circle circle))

end CreationOrder

open CreationOrder

variable {tables declared : List Table} {names : List String} {drafts : List TableDraft}
  {s : Supply}

/-! ## A bank -/

namespace TableDraft

/-- A draft with a key. -/
def keyed (id : SetId) (name : String) : TableDraft := ⟨id, name, [Table.wholeColumn id name "id"]⟩

/-- A column that refers to the key of another draft. -/
def linked (d : TableDraft) (column : String) (target : TableDraft) : TableDraft :=
  let foreignKey : ForeignKey := { tableId := target.id, table := target.name, column := "id" }
  { d with columns := d.columns
      ++ [{ Table.wholeColumn d.id d.name column with constraints.foreignKey := foreignKey }] }

/-- The table as it stands. -/
def table (d : TableDraft) : Table := ⟨d.id, d.name, d.columns⟩

end TableDraft

section Drafting

variable {d : TableDraft}

theorem Declared.keyed (h : Declared drafts declared s) (name : String) :
    Declared (.keyed s.set.1 name :: drafts) declared s.set.2 :=
  have added : TableDraft.add ⟨s.set.1, name, []⟩ ({ name := "id", kind := .int64 } : ColumnSpec _)
      = .ok (_, .keyed s.set.1 name) := TableDraft.add_of_checkName rfl rfl rfl
  have opened : Declared ([] ++ ⟨s.set.1, name, []⟩ :: drafts) declared s.set.2 := .draft name h
  .add opened added

theorem Declared.linked (h : Declared ([] ++ d :: drafts) declared s) (column : String)
    (target : TableDraft) (free : d.checkName column = .ok ()) :
    Declared (d.linked column target :: drafts) declared s := by
  let foreignKey : ForeignKey := { tableId := target.id, table := target.name, column := "id" }
  let spec : ColumnSpec .int64 :=
    { name := column, kind := .int64, constraints.foreignKey := foreignKey }
  have checked : d.checkName spec.name = .ok () := free
  have added : d.add spec = .ok (_, d.linked column target) :=
    TableDraft.add_of_checkName rfl checked rfl
  exact .add h added

theorem Declared.table (h : Declared ([] ++ d :: drafts) declared s)
    (built : d.build = .ok d.table) : Declared drafts (d.table :: declared) s :=
  .build h built

end Drafting

def personDraft : TableDraft := .keyed ⟨1⟩ "Person"
def householdDraft : TableDraft := .keyed ⟨2⟩ "Household"
def accountDraft : TableDraft := .keyed ⟨3⟩ "Account"
def cardDraft : TableDraft := .keyed ⟨4⟩ "Card"
def contractDraft : TableDraft := .keyed ⟨5⟩ "Contract"

/-- A person belongs to a household, which has a person at its head. -/
def person : Table := (personDraft.linked "household" householdDraft).table

def household : Table := (householdDraft.linked "head" personDraft).table

/-- An account has an owner. -/
def account : Table := (accountDraft.linked "owner" personDraft).table

def card : Table := (cardDraft.linked "contract" contractDraft).table

/-- A contract is about a card and an account. -/
def contract : Table :=
  ((contractDraft.linked "card" cardDraft).linked "account" accountDraft).table

/-- A payment is made from an account. -/
def payment : Table := ((TableDraft.keyed ⟨6⟩ "Payment").linked "account" accountDraft).table

def bank : List Table := [person, household, account, card, contract]

theorem declared_bank : Declared [] bank ⟨6⟩ := by
  have opened : Declared [contractDraft, cardDraft, accountDraft, householdDraft, personDraft] []
      ⟨6⟩ :=
    ((((Declared.start.keyed "Person").keyed "Household").keyed "Account").keyed "Card").keyed
      "Contract"
  have contract := (opened.linked "card" cardDraft (by rfl)).linked "account" accountDraft (by rfl)
  have card := (contract.table (by rfl)).linked "contract" contractDraft (by rfl)
  have account := (card.table (by rfl)).linked "owner" personDraft (by rfl)
  have household := (account.table (by rfl)).linked "head" personDraft (by rfl)
  have person := (household.table (by rfl)).linked "household" householdDraft (by rfl)
  exact person.table (by rfl)

theorem declared_payment : Declared [] (payment :: bank) ⟨7⟩ := by
  have payment := (declared_bank.keyed "Payment").linked "account" accountDraft (by rfl)
  exact payment.table (by rfl)

theorem creationOrder_bank : creationOrder bank
    = .error (.foreignKeyCycle ["Person", "Household", "Account", "Card", "Contract"]) := by rfl

theorem creationOrder_payment : creationOrder (payment :: bank)
    = .error (.foreignKeyCycle ["Person", "Household", "Account", "Card", "Contract"]) := by rfl

/-- From the account one gets to the person and the household only. -/
theorem account_on_no_circle : ¬ Relation.TransGen (Refers bank) account account := by
  intro circle
  have unique : Unique bank := .of_declared declared_bank fun _ h => h
  have positions : Relation.TransGen (Edge bank) 2 2 :=
    circle.lift (positionOf bank) fun _ _ refers => refers.edge unique
  have below : ∀ j, Relation.TransGen (Edge bank) 2 j → j = 0 ∨ j = 1 := by
    intro j path
    induction path with
    | single edge => exact .inl (List.mem_singleton.1 edge)
    | tail _ edge ih =>
      rcases ih with rfl | rfl
      · exact .inr (List.mem_singleton.1 edge)
      · exact .inl (List.mem_singleton.1 edge)
  exact absurd (below 2 positions) (by decide)

/-! ## The tables named -/

/-- **The tables named are those on chains of references from circles to circles.** Both loops end,
and in whatever order tables are taken away, these remain. -/
theorem creationOrder_names_between (h : Declared drafts declared s)
    (listed : ∀ t ∈ tables, t ∈ declared)
    (failed : creationOrder tables = .error (.foreignKeyCycle names)) :
    (WellFounded fun rest remaining => Peel tables remaining rest)
      ∧ ∃ named, names = named.map Table.name
        ∧ named ≠ [] ∧ names.Nodup ∧ named.Sublist tables
        ∧ (∀ t, Relation.TransGen (Refers tables) t t → t ∈ named)
        ∧ (∀ t, t ∈ named ↔ Between (Refers tables) t)
        ∧ (∀ t ∈ named, (∃ u ∈ named, u ≠ t ∧ Refers tables t u)
          ∧ ∃ u ∈ named, u ≠ t ∧ Refers tables u t)
        ∧ (∃ rest, Leftover tables rest)
        ∧ ∀ rest, Leftover tables rest → rest.filterMap (tables[·]?) = named := by
  have unique : Unique tables := .of_declared h listed
  obtain ⟨distinct, -, rest, left, -⟩ := of_creationOrder_eq_foreignKeyCycle failed
  obtain ⟨named, report⟩ := exists_named unique failed
  have nodup : names.Nodup := by
    rw [report.names_eq]
    exact (nodup_names distinct).sublist (report.sublist.map _)
  refine ⟨peel_wellFounded tables, named, report.names_eq, report.ne_nil unique failed, nodup,
    report.sublist, fun t circle => (report.mem_iff t).2 (.of_circle circle), report.mem_iff,
    fun t ht => ⟨?_, ?_⟩, ⟨rest, left⟩, report.leftover⟩
  · obtain ⟨u, refers, between⟩ := ((report.mem_iff t).1 ht).next
    exact ⟨u, (report.mem_iff u).2 between, refers.ne, refers⟩
  · obtain ⟨u, refers, between⟩ := ((report.mem_iff t).1 ht).previous
    exact ⟨u, (report.mem_iff u).2 between, refers.ne.symm, refers⟩

/-- A payment refers to an account and is referred to by nothing: it is no table between circles. -/
theorem creationOrder_names_between_of_payments :
    let tables := payment :: bank
    let names := ["Person", "Household", "Account", "Card", "Contract"]
    Declared [] tables ⟨7⟩ ∧ creationOrder tables = .error (.foreignKeyCycle names)
      ∧ ∃ named, names = named.map Table.name ∧ (∀ t, t ∈ named ↔ Between (Refers tables) t)
        ∧ (∃ rest, Leftover tables rest)
        ∧ ∀ rest, Leftover tables rest → rest.filterMap (tables[·]?) = named := by
  intro tables names
  obtain ⟨-, named, shown, -, -, -, -, between, -, left, all⟩ :=
    creationOrder_names_between declared_payment (fun _ h => h) creationOrder_payment
  exact ⟨declared_payment, creationOrder_payment, named, shown, between, left, all⟩

/-- **All tables named lie on circles exactly if no chain between circles leaves them.** It is so
where every circle leads to every other one. -/
theorem creationOrder_names_circles_iff (h : Declared drafts declared s)
    (listed : ∀ t ∈ tables, t ∈ declared)
    (failed : creationOrder tables = .error (.foreignKeyCycle names)) :
    let Leads := Relation.TransGen (Refers tables)
    ((∀ t ∈ tables, t.name ∈ names → Leads t t) ↔
        ∀ a t b, Leads a a → Leads a t → Leads t b → Leads b b → Leads t t)
      ∧ ((∀ a b, Leads a a → Leads b b → Leads a b) →
        ∀ t ∈ tables, t.name ∈ names → Leads t t) := by
  intro Leads
  have unique : Unique tables := .of_declared h listed
  obtain ⟨distinct, -⟩ := of_creationOrder_eq_foreignKeyCycle failed
  obtain ⟨named, report⟩ := exists_named unique failed
  have culprits : (∀ t ∈ tables, t.name ∈ names → Leads t t) ↔
      ∀ t, Between (Refers tables) t → Leads t t := by
    constructor
    · intro all t between
      obtain ⟨u, refers, -⟩ := between.next
      exact all t refers.mem ((mem_names_iff report distinct refers.mem).2 between)
    · exact fun all t ht shown => all t ((mem_names_iff report distinct ht).1 shown)
  have closed : (∀ t, Between (Refers tables) t → Leads t t) ↔
      ∀ a t b, Leads a a → Leads a t → Leads t b → Leads b b → Leads t t := by
    constructor
    · intro all a t b start before behind finish
      exact all t ⟨a, b, start, before.to_reflTransGen, behind.to_reflTransGen, finish⟩
    · rintro all t ⟨a, b, start, before, behind, finish⟩
      rcases Relation.reflTransGen_iff_eq_or_transGen.1 before with rfl | before
      · exact start
      rcases Relation.reflTransGen_iff_eq_or_transGen.1 behind with rfl | behind
      · exact finish
      exact all a t b start before behind finish
  refine ⟨culprits.trans closed, fun together => culprits.2 (closed.2 ?_)⟩
  intro a t b start before behind finish
  exact behind.trans ((together b a finish start).trans before)

/-- The chain from the contract over the account to the person leaves both circles, and the person
does not lead back to the contract. -/
theorem creationOrder_names_circles_of_bank :
    let Leads := Relation.TransGen (Refers bank)
    Declared [] bank ⟨6⟩
      ∧ ¬ (∀ a t b, Leads a a → Leads a t → Leads t b → Leads b b → Leads t t)
      ∧ ¬ ∀ a b, Leads a a → Leads b b → Leads a b := by
  intro Leads
  obtain ⟨exact_iff, together⟩ :=
    creationOrder_names_circles_iff declared_bank (fun _ h => h) creationOrder_bank
  have listed : account ∈ bank := by simp [bank]
  refine ⟨declared_bank, fun closed => ?_, fun joined => ?_⟩
  · exact account_on_no_circle (exact_iff.2 closed account listed (by decide))
  · exact account_on_no_circle (together joined account listed (by decide))

/-- **A table is named that lies on no circle.** -/
theorem account_named_on_no_circle :
    ∃ names, creationOrder bank = .error (.foreignKeyCycle names) ∧ Declared [] bank ⟨6⟩
      ∧ account ∈ bank ∧ account.name ∈ names
      ∧ ¬ Relation.TransGen (Refers bank) account account :=
  ⟨_, creationOrder_bank, declared_bank, by simp [bank], by decide, account_on_no_circle⟩

end TypedSql
