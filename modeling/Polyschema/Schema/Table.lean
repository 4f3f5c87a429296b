/-
Polyschema.Schema.Table — tables and their keys.

* `Table` — named columns in order, with what holds across them.
* `Table.resolveKey` — the primary key on which the declaration of the
  table and the flags of its columns agree.
-/
import Polyschema.Schema.Column
import Polyschema.Schema.Keyed
import Polyschema.Fault

namespace Polyschema

open Polyschema.Text

/-- A named condition on the rows of a table. -/
structure Check where
  name : String
  expression : String
  deriving DecidableEq, Repr

/-- A table. Its columns keep the order in which every schema lists
them. -/
structure Table where
  name : String
  columns : Keyed Column
  primaryKey : List String
  uniques : List (List String)
  checks : List Check
  comment : Option String

namespace Table

def columnNames (t : Table) : List String := t.columns.names

def flagged (t : Table) : List String :=
  (t.columns.entries.filter fun e => e.2.primary).map Prod.fst

/-- Whether two lists have the same members. -/
def sameMembers (a b : List String) : Bool :=
  a.all b.contains && b.all a.contains

/-- The first of some names that is no column. -/
def firstAbsent? (t : Table) (names : List String) : Option String :=
  names.find? fun n => !t.columns.has n

/-- The first name in a key or a unique group that is no column. -/
def absentReference? (t : Table) : Option Defect :=
  match t.firstAbsent? t.primaryKey with
  | some column => some (.absentKeyColumn t.name column)
  | none => (t.firstAbsent? t.uniques.flatten).map (.absentUniqueColumn t.name)

/-- The primary key. The table may declare it, or one column may be
flagged; if both are there they must agree. -/
def resolveKey (t : Table) : Except Defect (List String) :=
  match t.absentReference? with
  | some d => .error d
  | none =>
    if t.primaryKey.isEmpty then
      match t.flagged with
      | [] => .error (.noKey t.name)
      | [only] => .ok [only]
      | flagged => .error (.manyFlagged t.name flagged)
    else if !t.flagged.isEmpty && !sameMembers t.flagged t.primaryKey then
      .error (.keysDisagree t.name t.primaryKey t.flagged)
    else .ok t.primaryKey

def shown (t : Table) : String :=
  s!"<Table {t.name} ({t.columns.size} cols, pk={shownStrings t.primaryKey})>"

end Table

end Polyschema
