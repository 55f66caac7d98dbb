import Mathlib.Data.List.Basic

/-!
# `QueryBuilder`

`QueryBuilder` (query.py) collects a table, selected columns, `where` triples, `order_by` pairs and
an optional `limit` and `offset`; `build` renders them as one `SELECT` statement in which every
`where` value stands as a `?`, and `params` is the list of those values. `build` appends its
`WHERE` and `ORDER BY` clauses the same way (`listSql`), and its `LIMIT` and `OFFSET` clauses the
same way (`valueSql`). A builder is reached from `QueryBuilder(table)` by a list of calls (`Call`,
`run`). Every call keeps `params` equal to the values of the `where` clauses, in call order, so a
builder can carry that invariant (`Aligned`), and `run` reaches only such builders (`params_run`). `mapValues` changes the values and nothing else; `run_map` says that mapping the
calls maps the builder. Python's `str.join` is `join`; its characters are those of the parts and
separators (`join_data`).
-/

namespace DriftDB.Query

/-- Python's `sep.join(parts)`. -/
def join (sep : String) : List String → String
  | [] => ""
  | [s] => s
  | s :: t :: rest => s ++ sep ++ join sep (t :: rest)

@[simp] theorem join_nil (sep : String) : join sep [] = "" := rfl

@[simp] theorem join_singleton (sep s : String) : join sep [s] = s := rfl

@[simp] theorem join_cons_cons (sep s t : String) (rest : List String) :
    join sep (s :: t :: rest) = s ++ sep ++ join sep (t :: rest) := rfl

/-- The characters of `sep.join(s :: rest)`: the first part, then each further part after a
separator. -/
theorem join_data (sep s : String) (rest : List String) :
    (join sep (s :: rest)).data = s.data ++ (rest.map fun t => sep.data ++ t.data).flatten := by
  induction rest generalizing s with
  | nil => simp
  | cons t rest ih => simp [ih]

/-- A `where` value is inert text here: `α` is the type of the values passed to `where`. -/
structure QueryBuilder (α : Type) where
  table : String
  selectColumns : List String
  whereClauses : List (String × String × α)
  orderByClauses : List (String × String)
  limitValue : Option Int
  offsetValue : Option Int
  params : List α

/-- The direction `order_by` uses when none is given. -/
def defaultDirection : String := "ASC"

namespace QueryBuilder

variable {α β : Type}

/-- `QueryBuilder(table)`. -/
def new (table : String) : QueryBuilder α := ⟨table, [], [], [], none, none, []⟩

/-- `select(*columns)`. -/
def select (qb : QueryBuilder α) (columns : List String) : QueryBuilder α :=
  { qb with selectColumns := qb.selectColumns ++ columns }

/-- `where(column, operator, value)`: the triple is recorded and the value is appended to the
parameters. -/
def «where» (qb : QueryBuilder α) (column operator : String) (value : α) : QueryBuilder α :=
  { qb with whereClauses := qb.whereClauses ++ [(column, operator, value)],
            params := qb.params ++ [value] }

/-- `order_by(column, direction)`. -/
def orderBy (qb : QueryBuilder α) (column direction : String) : QueryBuilder α :=
  { qb with orderByClauses := qb.orderByClauses ++ [(column, direction)] }

/-- `limit(limit)`. -/
def limit (qb : QueryBuilder α) (limit : Int) : QueryBuilder α := { qb with limitValue := some limit }

/-- `offset(offset)`. -/
def offset (qb : QueryBuilder α) (offset : Int) : QueryBuilder α :=
  { qb with offsetValue := some offset }

/-! ### `build` -/

/-- `columns` in `build`: the selected columns joined by `", "`, or `*` when none was selected. -/
def columns (qb : QueryBuilder α) : String :=
  match qb.selectColumns with
  | [] => "*"
  | cs => join ", " cs

/-- `f"SELECT {columns} FROM {self.table}"`. -/
def selectSql (qb : QueryBuilder α) : String := "SELECT " ++ qb.columns ++ " FROM " ++ qb.table

/-- `sql += keyword + sep.join(parts)` when there are parts: how `build` appends the `WHERE` and
`ORDER BY` clauses. -/
def listSql (keyword sep : String) : List String → String
  | [] => ""
  | part :: parts => keyword ++ join sep (part :: parts)

/-- `sql += f"{keyword}{value}"` when the value is set: how `build` appends the `LIMIT` and
`OFFSET` clauses. -/
def valueSql (keyword : String) : Option Int → String
  | none => ""
  | some n => keyword ++ toString n

/-- `f"{col} {op} ?"`. -/
def wherePart (clause : String × String × α) : String := clause.1 ++ " " ++ clause.2.1 ++ " ?"

/-- The `WHERE` clause: the `where` triples joined by `" AND "`. -/
def whereSql (qb : QueryBuilder α) : String := listSql " WHERE " " AND " (qb.whereClauses.map wherePart)

/-- `f"{col} {direction}"`. -/
def orderPart (clause : String × String) : String := clause.1 ++ " " ++ clause.2

/-- The `ORDER BY` clause: the `order_by` pairs joined by `", "`. -/
def orderBySql (qb : QueryBuilder α) : String :=
  listSql " ORDER BY " ", " (qb.orderByClauses.map orderPart)

/-- `f" LIMIT {self._limit_value}"` when a limit is set. -/
def limitSql (qb : QueryBuilder α) : String := valueSql " LIMIT " qb.limitValue

/-- `f" OFFSET {self._offset_value}"` when an offset is set. -/
def offsetSql (qb : QueryBuilder α) : String := valueSql " OFFSET " qb.offsetValue

/-- `build()`: the clauses in the order the source appends them to `sql`. -/
def build (qb : QueryBuilder α) : String :=
  qb.selectSql ++ qb.whereSql ++ qb.orderBySql ++ qb.limitSql ++ qb.offsetSql

/-! ### Call sequences -/

/-- One builder call. -/
inductive Call (α : Type)
  | select (columns : List String)
  | «where» (column operator : String) (value : α)
  | orderBy (column direction : String)
  | limit (limit : Int)
  | offset (offset : Int)

/-- The effect of one call. -/
def apply (qb : QueryBuilder α) : Call α → QueryBuilder α
  | .select cs => qb.select cs
  | .where column operator value => qb.where column operator value
  | .orderBy column direction => qb.orderBy column direction
  | .limit n => qb.limit n
  | .offset n => qb.offset n

/-- `QueryBuilder(table)` followed by `calls`, in order. -/
def run (table : String) (calls : List (Call α)) : QueryBuilder α := calls.foldl apply (new table)

/-- The value a call adds to the parameters. -/
def Call.value : Call α → Option α
  | .where _ _ value => some value
  | _ => none

theorem params_foldl (calls : List (Call α)) (qb : QueryBuilder α) :
    (calls.foldl apply qb).params = qb.params ++ calls.filterMap Call.value := by
  induction calls generalizing qb with
  | nil => simp
  | cons c calls ih =>
    cases c <;> simp [ih, apply, select, «where», orderBy, limit, offset, Call.value]

theorem params_eq_values (table : String) (calls : List (Call α)) :
    (run table calls).params = calls.filterMap Call.value := by
  simp [run, params_foldl, new]

/-! ### Aligned builders -/

/-- Every method keeps `params()` equal to the values of the `where` clauses, in order. -/
theorem apply_params_eq {qb : QueryBuilder α} (h : qb.params = qb.whereClauses.map (·.2.2))
    (c : Call α) : (qb.apply c).params = (qb.apply c).whereClauses.map (·.2.2) := by
  cases c <;> simp [h, apply, select, «where», orderBy, limit, offset]

/-- A builder whose `params()` lists the values of its `where` clauses, in order. -/
structure Aligned (α : Type) where
  builder : QueryBuilder α
  params_eq : builder.params = builder.whereClauses.map (·.2.2)

namespace Aligned

/-- `QueryBuilder(table)`. -/
def new (table : String) : Aligned α := ⟨QueryBuilder.new table, rfl⟩

/-- The effect of one call. -/
def apply (b : Aligned α) (c : Call α) : Aligned α := ⟨b.builder.apply c, apply_params_eq b.params_eq c⟩

/-- `QueryBuilder(table)` followed by `calls`, in order. -/
def run (table : String) (calls : List (Call α)) : Aligned α := calls.foldl apply (new table)

theorem builder_foldl (calls : List (Call α)) (b : Aligned α) :
    (calls.foldl apply b).builder = calls.foldl QueryBuilder.apply b.builder := by
  induction calls generalizing b with
  | nil => rfl
  | cons c calls ih => exact ih (b.apply c)

/-- The aligned run is the builder's own run. -/
theorem builder_run (table : String) (calls : List (Call α)) :
    (run table calls).builder = QueryBuilder.run table calls :=
  builder_foldl calls (new table)

end Aligned

/-- The builder invariant: `params()` lists the values of the `where` clauses, in order. -/
theorem params_run (table : String) (calls : List (Call α)) :
    (run table calls).params = (run table calls).whereClauses.map (·.2.2) := by
  rw [← Aligned.builder_run]
  exact (Aligned.run table calls).params_eq

/-! ### Changing the values -/

/-- The same builder with every `where` value mapped by `f`. -/
def mapValues (f : α → β) (qb : QueryBuilder α) : QueryBuilder β :=
  ⟨qb.table, qb.selectColumns, qb.whereClauses.map (fun c => (c.1, c.2.1, f c.2.2)),
    qb.orderByClauses, qb.limitValue, qb.offsetValue, qb.params.map f⟩

/-- The same call with its value, if any, mapped by `f`. -/
def Call.map (f : α → β) : Call α → Call β
  | .select cs => .select cs
  | .where column operator value => .where column operator (f value)
  | .orderBy column direction => .orderBy column direction
  | .limit n => .limit n
  | .offset n => .offset n

theorem apply_map (f : α → β) (qb : QueryBuilder α) (c : Call α) :
    apply (qb.mapValues f) (c.map f) = (apply qb c).mapValues f := by
  cases c <;> simp [apply, Call.map, mapValues, select, «where», orderBy, limit, offset]

theorem run_map (f : α → β) (table : String) (calls : List (Call α)) :
    run table (calls.map (Call.map f)) = (run table calls).mapValues f := by
  suffices h : ∀ qb : QueryBuilder α,
      (calls.map (Call.map f)).foldl apply (qb.mapValues f) = (calls.foldl apply qb).mapValues f from
    h (new table)
  induction calls with
  | nil => intro qb; rfl
  | cons c calls ih => intro qb; simp [apply_map, ih]

@[simp] theorem wherePart_mapValue (f : α → β) (c : String × String × α) :
    wherePart (c.1, c.2.1, f c.2.2) = wherePart c := rfl

theorem whereSql_mapValues (f : α → β) (qb : QueryBuilder α) :
    (qb.mapValues f).whereSql = qb.whereSql := by
  simp [whereSql, mapValues, Function.comp_def]

/-- `build` never reads a `where` value. -/
theorem build_mapValues (f : α → β) (qb : QueryBuilder α) : (qb.mapValues f).build = qb.build := by
  unfold build
  rw [whereSql_mapValues]
  rfl

end QueryBuilder

end DriftDB.Query
