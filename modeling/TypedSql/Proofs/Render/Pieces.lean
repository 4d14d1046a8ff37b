import TypedSql.Proofs.Render.StatementPieces

/-!
# Pieces with other placeholders

**Theorem (`Piece.sqlText_subst`).** The text of pieces is the same whatever their placeholders are.

What puts pieces together leaves placeholders alone, so that a substitution may come before or after
it.
-/

namespace TypedSql

section

variable (σ : Placeholder → Placeholder)

def Piece.subst : Piece → Piece
  | .slot p => .slot (σ p)
  | p => p

theorem Piece.sql_subst (d : Dialect) (p : Piece) : (p.subst σ).sql d = p.sql d := by
  cases p <;> rfl

/-- A placeholder is marked the same whatever it is. -/
theorem Piece.sqlText_subst (d : Dialect) (ps : List Piece) :
    Piece.sqlText d (ps.map (Piece.subst σ)) = Piece.sqlText d ps := by
  simp only [Piece.sqlText, List.map_map]
  exact congrArg String.join (List.map_congr_left fun p _ => p.sql_subst σ d)

theorem Piece.slots_subst (ps : List Piece) :
    Piece.slots (ps.map (Piece.subst σ)) = (Piece.slots ps).map σ := by
  simp only [Piece.slots, List.filterMap_map, List.map_filterMap]
  refine congrArg (List.filterMap · ps) (funext fun p => ?_)
  cases p <;> rfl

theorem Piece.map_subst_fault (errors : List SchemaError) :
    (errors.map Piece.fault).map (Piece.subst σ) = errors.map Piece.fault := by
  rw [List.map_map]
  rfl

/-! ## Composition -/

theorem Piece.separated_subst (s : String) (pss : List (List Piece)) :
    Piece.separated s (pss.map (·.map (Piece.subst σ)))
      = (Piece.separated s pss).map (Piece.subst σ) := by
  induction pss with
  | nil => rfl
  | cons ps rest ih =>
    cases rest with
    | nil => rfl
    | cons qs rest =>
      simp only [List.map_cons, Piece.separated, List.map_append] at ih ⊢
      rw [ih]
      rfl

theorem Piece.guarded_subst (needed : Bool) (ps : List Piece) :
    Piece.guarded needed (ps.map (Piece.subst σ))
      = (Piece.guarded needed ps).map (Piece.subst σ) := by
  cases needed with
  | false => rfl
  | true =>
    simp only [Piece.guarded, Piece.parenthesised, if_true, List.cons_append, List.map_cons,
      List.map_append]
    rfl

theorem Piece.nested_subst (ps : List Piece) :
    Piece.nested (ps.map (Piece.subst σ)) = (Piece.nested ps).map (Piece.subst σ) := by
  simp only [Piece.nested, List.cons_append, List.map_cons, List.map_append]
  rfl

theorem Piece.qualified_subst (qualifier name : String) :
    (Piece.qualified qualifier name).map (Piece.subst σ) = Piece.qualified qualifier name := by
  unfold Piece.qualified
  split <;> rfl

theorem scopeFaults_subst (scopes : List Scope) (c : ColumnRef) :
    (scopeFaults scopes c).map (Piece.subst σ) = scopeFaults scopes c := by
  unfold scopeFaults
  split
  · rfl
  · split <;> rfl

theorem clausePieces_subst (k : String) (pss : List (List Piece)) :
    clausePieces k (pss.map (·.map (Piece.subst σ)))
      = (clausePieces k pss).map (Piece.subst σ) := by
  cases pss with
  | nil => rfl
  | cons ps rest => exact congrArg (.text k :: ·) (Piece.separated_subst σ ", " (ps :: rest))

theorem limitPieces_subst (limit offset : Option Placeholder) :
    limitPieces (limit.map σ) (offset.map σ) = (limitPieces limit offset).map (Piece.subst σ) := by
  cases limit <;> cases offset <;> rfl

theorem selectList_subst (seen : List String) (entries : List (NamedEntry × List Piece)) :
    selectList seen (entries.map (Prod.map id (·.map (Piece.subst σ))))
      = (selectList seen entries).map (·.map (Piece.subst σ)) := by
  induction entries generalizing seen with
  | nil => rfl
  | cons pair rest ih =>
    obtain ⟨⟨entry, name, renamed⟩, ps⟩ := pair
    have repeated : ∀ known : Bool,
        (if known then [Piece.fault (.duplicateColumn "result" name)] else []).map (Piece.subst σ)
          = if known then [Piece.fault (.duplicateColumn "result" name)] else [] := by
      rintro (_ | _) <;> rfl
    simp only [List.map_cons, Prod.map, id, selectList, List.map_append, ← ih, repeated]
    refine List.cons_eq_cons.2 ⟨congrArg _ ?_, rfl⟩
    cases entry with
    | labelled key type => rfl
    | column c => cases renamed <;> rfl

end

end TypedSql
