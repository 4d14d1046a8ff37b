import TypedSql.Text.Quoted

/-!
# Conversion errors

Why a value could not be converted between its semantic form and its stored form.
-/

namespace TypedSql

/-- A failed conversion; `target` names the kind. -/
inductive ConversionError where
  /-- No value of the storage class can be converted. -/
  | incompatible (target source : String)
  /-- The value lies outside the kind. -/
  | outOfRange (target value : String)
  /-- The text is no writing of a value. -/
  | unreadable (target input : String)
  /-- NULL was bound where it is not allowed. -/
  | nullNotAllowed (target : String)
  /-- NULL was read where it is not allowed. -/
  | unexpectedNull (target : String)
deriving DecidableEq, Repr

/-- The reason in one word, for programs that treat reasons differently. -/
def ConversionError.tag : ConversionError → String
  | .incompatible .. => "Incompatible"
  | .outOfRange .. => "OutOfRange"
  | .unreadable .. => "Parse"
  | .nullNotAllowed .. => "NullNotAllowed"
  | .unexpectedNull .. => "UnexpectedNull"

def ConversionError.message : ConversionError → String
  | .incompatible target source => s!"cannot convert {source} to {target}"
  | .outOfRange target value => s!"value {value} is out of range for {target}"
  | .unreadable target input => "cannot parse " ++ Text.quoted input ++ " as " ++ target
  | .nullNotAllowed target => s!"NULL is not allowed for non-nullable {target}"
  | .unexpectedNull target => s!"unexpected NULL for non-nullable {target}"

end TypedSql
