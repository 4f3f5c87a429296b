/-
Polyschema.Dialect — the languages that schemas are emitted in.

* `Dialect` — SQL, Drizzle, Prisma and Convex.
* `Variant` — the SQL of three database systems.

Both are written as tags; reading a tag inverts writing it.
-/
import Polyschema.Text.Lines
import Polyschema.Text.Case

namespace Polyschema

/-! ## Dialects -/

/-- A language for schemas. -/
inductive Dialect where
  | sql
  | drizzle
  | prisma
  | convex
  deriving DecidableEq, Repr, Inhabited

namespace Dialect

def all : List Dialect := [sql, drizzle, prisma, convex]

def tag : Dialect → String
  | sql => "sql"
  | drizzle => "drizzle"
  | prisma => "prisma"
  | convex => "convex"

def ofTag? (s : String) : Option Dialect := all.find? (·.tag == s)

/-- A tag names the dialect it was written for. -/
theorem ofTag?_tag (d : Dialect) : ofTag? d.tag = some d := by
  cases d <;> decide

/-- The dialect of a tag in any casing, blanks around it allowed. -/
def ofText? (s : String) : Option Dialect :=
  ofTag? (Text.lower (Text.trim s))

end Dialect

/-! ## SQL variants -/

/-- A database system whose SQL is emitted. -/
inductive Variant where
  | postgres
  | mysql
  | sqlite
  deriving DecidableEq, Repr, Inhabited

namespace Variant

def all : List Variant := [postgres, mysql, sqlite]

def tag : Variant → String
  | postgres => "postgres"
  | mysql => "mysql"
  | sqlite => "sqlite"

def ofTag? (s : String) : Option Variant := all.find? (·.tag == s)

/-- A tag names the variant it was written for. -/
theorem ofTag?_tag (v : Variant) : ofTag? v.tag = some v := by
  cases v <;> decide

/-- The variant that options ask for; without options it is postgres. -/
def ofOptions (options : Option Variant) : Variant := options.getD postgres

end Variant

end Polyschema
