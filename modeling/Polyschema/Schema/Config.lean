/-
Polyschema.Schema.Config — how a compilation is to be done.
-/
import Polyschema.Dialect

namespace Polyschema

/-- The settings of a compilation. -/
structure Config where
  /-- The dialects to compile, each at most once. -/
  dialects : List Dialect
  variant : Variant
  failOnWarnings : Bool
  /-- Whether to look for mistakes before anything is emitted. -/
  validateFirst : Bool
  /-- Whether a migration says when it was made. -/
  includeTimestamp : Bool
  deriving DecidableEq, Repr

namespace Config

/-- The settings where none are given. -/
def standard : Config where
  dialects := Dialect.all
  variant := .postgres
  failOnWarnings := false
  validateFirst := true
  includeTimestamp := false

end Config

end Polyschema
