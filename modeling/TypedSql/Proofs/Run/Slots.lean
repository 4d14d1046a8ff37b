import TypedSql.Proofs.Query.Placeholders
import TypedSql.Proofs.Render.Placeholders

/-!
# The slots of a seed

**Theorem (`Seed.Obtained.sound`).** In every seed that was built, or copied from one, a slot with a
token has the descriptor the token was handed out with, and a preset value is one the slot's
descriptor admits.

Since a token is determined by its identity, all positions of a token have one descriptor, whatever
clauses and nested queries it was written in (`Seed.Obtained.descriptor_eq`).
-/

namespace TypedSql

/-! ## Values that slots admit -/

/-- Coercion reads the value and encodes it again. -/
theorem Kind.storageClass?_of_coerce [Libraries] {t : ValueType} {k : Kind t} {v w : StorageValue}
    (h : k.coerce v = .ok w) : w.storageClass? = some k.storageClass := by
  have encoded : (k.decode v >>= k.encode) = .ok w → w.storageClass? = some k.storageClass := by
    intro h
    obtain ⟨value, -, encoded⟩ := exists_of_bind_eq_ok h
    exact storageClass?_of_encode encoded
  cases k with
  | decimal scale =>
    cases v with
    | integer n => exact storageClass?_of_encodeDecimal h
    | _ => exact encoded h
  | _ => exact encoded h

namespace AnyDescriptor

/-- NULL where the descriptor is nullable, any other value if it has the storage class. -/
structure Admits (d : AnyDescriptor) (v : StorageValue) : Prop where
  null : v.isNull = true → d.nullable = true
  stored : v.isNull = false → v.storageClass? = some d.storageClass

variable {d : AnyDescriptor} {v w : StorageValue}

theorem admits_of_storageClass? (h : v.storageClass? = some d.storageClass) : d.Admits v where
  null null := by
    rw [v.isNull_iff_storageClass?_eq_none.1 null] at h
    cases h
  stored _ := h

/-- What fits and is accepted is admitted. -/
theorem admits_of_acceptEncoded (fits : d.Fits v) (h : d.acceptEncoded v = .ok w) :
    d.Admits w := by
  obtain ⟨rfl, nullable⟩ := acceptEncoded_eq_ok h
  rcases fits with null | stored
  · exact ⟨nullable, fun h => absurd null (by rw [h]; decide)⟩
  · exact admits_of_storageClass? stored

theorem admits_of_coerce (h : d.coerce v = .ok w) : d.Admits w := by
  rw [coerce] at h
  split at h
  case isTrue null => exact admits_of_acceptEncoded (.inl null) h
  case isFalse => exact admits_of_storageClass? (Kind.storageClass?_of_coerce h)

end AnyDescriptor

/-! ## Seeds -/

/-- The slot has the descriptor of its token and holds an admitted value, if it has them. -/
structure Slot.Sound (tokens : List AnyParam) (s : Slot) : Prop where
  token : ∀ id, s.param = some id → ⟨id, s.type⟩ ∈ tokens
  preset : ∀ v, s.preset = some v → s.type.Admits v

variable {tokens : List AnyParam}

theorem Placeholder.Sound.slot {p : Placeholder} (h : p.Sound tokens) : p.slot.Sound tokens where
  token id carries := by
    cases p with
    | token id' type =>
      cases carries
      exact h
    | blank type => cases carries
    | preset type value => cases carries
  preset v held := by
    cases p with
    | token id type => cases held
    | blank type => cases held
    | preset type value =>
      cases value with
      | error e => cases held
      | ok w =>
        have accepted : type.acceptEncoded w = .ok v := by
          change ((type.acceptEncoded w).map some).toOption.join = some v at held
          cases result : type.acceptEncoded w with
          | error e =>
            rw [result] at held
            cases held
          | ok w' =>
            rw [result] at held
            cases held
            rfl
        exact AnyDescriptor.admits_of_acceptEncoded (h w rfl) accepted

namespace Seed

/-- The seed was built from a statement put together with these tokens, or is a copy of such a seed
under another text. -/
inductive Obtained (tokens : List AnyParam) : Seed → Prop
  | built {s : Statement} {p p' : Pool} {d : Dialect} {seed : Seed} :
    Assembled tokens .statement s → s.buildWith p d = (.ok seed, p') → Obtained tokens seed
  | withSql {seed : Seed} (sql : String) : Obtained tokens seed → Obtained tokens (seed.withSql sql)
  | countRows {seed : Seed} (id : SetId) :
    Obtained tokens seed → Obtained tokens (seed.countRows id)

namespace Obtained

variable {seed : Seed}

/-- **The slots of a seed have the descriptors of their tokens and hold admitted values.** -/
theorem sound (h : Obtained tokens seed) : ∀ slot ∈ seed.params, slot.Sound tokens := by
  induction h with
  | @built s p p' d seed assembled done =>
    have leaves : ∀ l ∈ s.leaves, l.Sound tokens := assembled.sound
    have parts : ∀ x ∈ s.parts, x.Within (Leaf.Sound tokens) fun _ => True :=
      s.within (fun _ _ _ _ => trivial) leaves (fun _ _ => trivial)
    rw [Statement.params_of_buildWith done, s.written.slots_eq]
    intro slot hslot
    obtain ⟨p, hp, rfl⟩ := List.mem_map.1 hslot
    obtain ⟨x, hx, bind⟩ := List.mem_filterMap.1 hp
    cases x with
    | bind q =>
      cases bind
      exact Placeholder.Sound.slot (parts _ hx)
    | _ => cases bind
  | withSql sql _ ih => exact ih
  | countRows id _ ih => exact ih

/-- The positions of a seed are those of its slots, and so are those of its copies. -/
theorem indexed (h : Obtained tokens seed) : seed.Indexed := by
  induction h with
  | built _ done => exact Statement.indexed_of_buildWith done
  | withSql sql _ ih => exact ih.withSql sql
  | countRows id _ ih => exact ih.countRows id

/-- All positions of a token have the descriptor it was handed out with. -/
theorem descriptor_eq {s : Supply} (h : Obtained tokens seed) (handedOut : HandedOut tokens s)
    {p : AnyParam} (hp : p ∈ tokens) {i : Nat} (hi : i ∈ seed.positions p.id) :
    ∃ slot, seed.params[i]? = some slot ∧ slot.type = p.type := by
  obtain ⟨slot, found, carries⟩ := h.indexed.mem_positions.1 hi
  have token := (h.sound slot (List.mem_of_getElem? found)).token p.id carries
  exact ⟨slot, found, congrArg AnyParam.type (handedOut.eq_of_id_eq _ token p hp rfl)⟩

end Obtained

end Seed

end TypedSql
