import TypedSql.Error.Conversion
import TypedSql.Error.Schema
import TypedSql.Storage.Value

/-!
# Errors of building, binding, running and reading

Every error that concerns a statement carries the statement's text, so that a message can be
understood away from the code that caused it.
-/

namespace TypedSql

/-- An error reported by an engine, with the engine's own number for it. -/
structure EngineError where
  text : String
  code : Option Int := none
deriving DecidableEq, Repr

/-- Everything that can go wrong with a statement. -/
inductive Error where
  /-- The definition is wrong. -/
  | schema (cause : SchemaError)
  /-- A value was converted outside a statement. -/
  | conversion (cause : ConversionError)
  /-- A value does not fit its slot. -/
  | bind (index : Nat) (type sql : String) (cause : ConversionError)
  /-- There is no slot of that number. -/
  | parameterIndex (index count : Nat) (sql : String)
  /-- The placeholder was not written into the statement. -/
  | unknownParameter (sql : String)
  /-- The arguments were filled for another statement. -/
  | seedMismatch (sql found : String)
  /-- A slot was left empty. -/
  | unbound (index : Nat) (sql : String)
  /-- A stored result does not fit its column. -/
  | decode (column sql : String) (cause : ConversionError)
  /-- The column was not selected. -/
  | notInResult (column sql : String)
  /-- The engine failed. -/
  | engine (cause : EngineError)
  /-- The engine failed at a statement. -/
  | execution (sql : String) (arguments : List StorageValue) (cause : EngineError)

/-- The error in one word, with its cause behind a slash. -/
def Error.tag : Error → String
  | .schema cause => "Schema/" ++ cause.tag
  | .conversion cause => "Conversion/" ++ cause.tag
  | .bind _ _ _ cause => "Bind/" ++ cause.tag
  | .parameterIndex .. => "ParameterIndex"
  | .unknownParameter .. => "UnknownParameter"
  | .seedMismatch .. => "SeedMismatch"
  | .unbound .. => "Unbound"
  | .decode _ _ cause => "Decode/" ++ cause.tag
  | .notInResult .. => "NotInResult"
  | .engine _ => "Engine"
  | .execution .. => "Execution"

/-- What the engine reported. -/
def Error.engineError? : Error → Option EngineError
  | .engine cause => some cause
  | .execution _ _ cause => some cause
  | _ => none

/-- The statement's text between backquotes. -/
def Error.shown (sql : String) : String := "\x60" ++ sql ++ "\x60"

def Error.message : Error → String
  | .schema cause => cause.message
  | .conversion cause => cause.message
  | .bind index type sql cause =>
    s!"cannot bind parameter {index} ({type}) of " ++ shown sql ++ ": " ++ cause.message
  | .parameterIndex index count sql =>
    s!"parameter index {index} is out of range ({count} parameters) for " ++ shown sql
  | .unknownParameter sql => "placeholder is not part of " ++ shown sql
  | .seedMismatch sql found => "arguments were built for " ++ shown found ++ ", not " ++ shown sql
  | .unbound index sql => s!"parameter {index} is unbound in " ++ shown sql
  | .decode column sql cause =>
    s!"cannot decode column '{column}' of " ++ shown sql ++ ": " ++ cause.message
  | .notInResult column sql => s!"'{column}' is not a result column of " ++ shown sql
  | .engine cause => "engine error: " ++ cause.text
  | .execution sql arguments cause =>
    "failed to execute " ++ shown sql ++ " with arguments " ++ StorageValue.listings arguments
      ++ ": " ++ cause.text

end TypedSql
