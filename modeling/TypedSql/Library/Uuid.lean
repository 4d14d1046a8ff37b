/-!
# The library of identifiers

Universally unique identifiers are the values of a library. What is documented of its functions is
stated in `UuidLibrary.Documented`; nothing is said there about the texts that are identifiers.
-/

namespace TypedSql

structure UuidLibrary where
  Uuid : Type
  /-- The octets of an identifier: `as_bytes`. -/
  bytes : Uuid → List UInt8
  /-- The identifier of these octets, if there is one: `from_slice`. -/
  ofBytes? : List UInt8 → Option Uuid
  /-- The identifier a text denotes, if it denotes one: `parse_str`. -/
  read? : String → Option Uuid

namespace UuidLibrary

variable (L : UuidLibrary)

/-- An identifier is its sixteen octets. -/
structure Documented : Prop where
  length_bytes : ∀ u, (L.bytes u).length = 16
  bytes_injective : ∀ {u v : L.Uuid}, L.bytes u = L.bytes v → u = v
  exists_ofBytes? : ∀ {bytes : List UInt8}, bytes.length = 16 → ∃ u, L.ofBytes? bytes = some u
  bytes_of_ofBytes? : ∀ {bytes : List UInt8} {u : L.Uuid}, L.ofBytes? bytes = some u →
    L.bytes u = bytes

end UuidLibrary
end TypedSql
