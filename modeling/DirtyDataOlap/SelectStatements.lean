import Mathlib.Data.String.Basic

/-!
# Grouped SELECT statements

A SELECT over one table with left joins, a conjunction of parameterised conditions, a grouping and an
order, together with the text it is written as.
-/
namespace DirtyDataOlap.Sql

/-- A column of the table with an alias, its scope. -/
structure ColumnRef where
  scope : String
  column : String

/-- A quoted identifier. -/
def quote (name : String) : String := "\"" ++ name ++ "\""

def ColumnRef.text (c : ColumnRef) : String := c.scope ++ "." ++ quote c.column

/-- A condition on a column, with a placeholder for each value it is compared with. -/
inductive Condition
  | isNull (c : ColumnRef)
  | equals (c : ColumnRef)
  | isIn (c : ColumnRef) (count : Nat)
  | between (c : ColumnRef)

/-- A condition with placeholders. -/
def Condition.text : Condition → String
  | .isNull c => c.text ++ " IS NULL"
  | .equals c => c.text ++ " = ?"
  | .isIn c count => c.text ++ " IN (" ++ String.intercalate ", " (List.replicate count "?") ++ ")"
  | .between c => c.text ++ " >= ? AND " ++ c.text ++ " <= ?"

/-- What a condition is about. -/
def Condition.column : Condition → ColumnRef
  | .isNull c | .equals c | .isIn c _ | .between c => c

/-- The columns whose values its parameters are compared with. -/
def Condition.placeholders : Condition → List ColumnRef
  | .isNull _ => []
  | .equals c => [c]
  | .isIn c count => List.replicate count c
  | .between c => [c, c]

structure GroupColumn where
  source : ColumnRef
  name : String

def GroupColumn.text (g : GroupColumn) : String := g.source.text ++ " AS " ++ quote g.name

/-- An aggregate over a column and the name it is returned under. -/
structure Aggregate where
  operation : String
  source : ColumnRef
  name : String

def Aggregate.text (a : Aggregate) : String :=
  a.operation ++ "(" ++ a.source.text ++ ") AS " ++ quote a.name

structure LeftJoin where
  table : String
  left : ColumnRef
  right : ColumnRef

def LeftJoin.text (j : LeftJoin) : String :=
  "LEFT JOIN " ++ quote j.table ++ " AS " ++ j.right.scope ++ " ON " ++ j.left.text ++ " = " ++
    j.right.text

structure SortKey where
  name : String
  descending : Bool

def SortKey.text (k : SortKey) : String := quote k.name ++ if k.descending then " DESC" else " ASC"

/-- A grouped `SELECT` over a star of joins. -/
structure SelectStatement where
  groups : List GroupColumn
  aggregates : List Aggregate
  table : String
  scope : String
  joins : List LeftJoin
  conditions : List Condition
  order : List SortKey
  limit : Nat

/-- A clause that is left out where it has no parts. -/
def clause (head separator : String) (parts : List String) : List String :=
  if parts = [] then [] else [head ++ String.intercalate separator parts]

namespace SelectStatement

variable (s : SelectStatement)

/-- The clauses of the statement. -/
def lines : List String :=
  ["SELECT " ++ String.intercalate ", " (s.groups.map GroupColumn.text ++
      s.aggregates.map Aggregate.text),
    "FROM " ++ quote s.table ++ " AS " ++ s.scope] ++
    s.joins.map LeftJoin.text ++
    clause "WHERE " " AND " (s.conditions.map Condition.text) ++
    clause "GROUP BY " ", " (s.groups.map fun g => g.source.text) ++
    clause "ORDER BY " ", " (s.order.map SortKey.text) ++
    ["LIMIT " ++ toString s.limit]

/-- The text of the statement. -/
def text : String := String.intercalate "\n" s.lines

end SelectStatement

end DirtyDataOlap.Sql
