import DriftDB.Query.Builder
import Mathlib.Data.Nat.Digits

/-!
# Placeholders and parameters

`build()` and `params()` are sent together, and the server binds the `k`-th `?` of the statement to
the `k`-th parameter (`bindParams`). `build_params_aligned`: when no table, column, operator or
direction contains `?`, the statement has one `?` per parameter, all of them in the `WHERE` clause,
the parameters are the values of the `where` calls in call order, and binding them gives the
statement with every value written into its own clause (`inlineBuild`), however values are rendered.
`build_eq_of_erase_eq`: two call sequences that differ only in their `where` values build the same
text, so a value reaches the server only as a parameter.

The integers of `limit` and `offset` are rendered by `toString`, whose digits are never `?`
(`mark_not_mem_int`).
-/

namespace DriftDB.Query

theorem digitChar_ne_mark : ∀ k : Nat, Nat.digitChar k ≠ '?'
  | 0 | 1 | 2 | 3 | 4 | 5 | 6 | 7 | 8 | 9 | 10 | 11 | 12 | 13 | 14 | 15 => by decide
  | k + 16 => by simp [Nat.digitChar]

theorem mark_not_mem_toDigitsCore (fuel n : Nat) (ds : List Char) (h : '?' ∉ ds) :
    '?' ∉ Nat.toDigitsCore 10 fuel n ds := by
  induction fuel generalizing n ds with
  | zero => exact h
  | succ fuel ih =>
    have hd : '?' ∉ Nat.digitChar (n % 10) :: ds := by
      simp [h, (digitChar_ne_mark _).symm]
    simp only [Nat.toDigitsCore]
    split
    · exact hd
    · exact ih _ _ hd

theorem mark_not_mem_int (n : Int) : '?' ∉ (toString n).data := by
  have hnat : ∀ m : Nat, '?' ∉ (toString m).data := fun m =>
    mark_not_mem_toDigitsCore _ _ _ (List.not_mem_nil _)
  cases n with
  | ofNat m => exact hnat m
  | negSucc m =>
    show '?' ∉ ("-" ++ toString (m + 1)).data
    simpa using hnat (m + 1)

theorem mark_not_mem_join (sep : String) (parts : List String) (hsep : '?' ∉ sep.data)
    (hparts : ∀ p ∈ parts, '?' ∉ p.data) : '?' ∉ (join sep parts).data := by
  cases parts with
  | nil => simp
  | cons p rest =>
    simp only [List.mem_cons, forall_eq_or_imp] at hparts
    simp only [join_data, List.mem_append, List.mem_flatten, List.mem_map, not_or]
    refine ⟨hparts.1, ?_⟩
    rintro ⟨_, ⟨t, ht, rfl⟩, hmem⟩
    simp only [List.mem_append] at hmem
    exact hmem.elim hsep (hparts.2 t ht)

namespace QueryBuilder

variable {α : Type}

/-- Positional binding: the `k`-th `?` of the text becomes the `k`-th rendered parameter; a `?`
with no parameter left stays as it is. -/
def bindParams : List Char → List String → List Char
  | [], _ => []
  | c :: cs, vs =>
    if c = '?' then
      match vs with
      | v :: rest => v.data ++ bindParams cs rest
      | [] => c :: bindParams cs []
    else c :: bindParams cs vs

theorem bindParams_append_of_unmarked (a b : List Char) (vs : List String) (h : '?' ∉ a) :
    bindParams (a ++ b) vs = a ++ bindParams b vs := by
  induction a with
  | nil => rfl
  | cons c a ih =>
    simp only [List.mem_cons, not_or] at h
    simp [bindParams, Ne.symm h.1, ih h.2]

theorem bindParams_of_unmarked (a : List Char) (vs : List String) (h : '?' ∉ a) :
    bindParams a vs = a := by
  simpa [bindParams] using bindParams_append_of_unmarked a [] vs h

/-- `f"{col} {op} {value}"`: a `where` clause with its value written in. -/
def inlinePart (render : α → String) (clause : String × String × α) : String :=
  clause.1 ++ " " ++ clause.2.1 ++ " " ++ render clause.2.2

/-- The `WHERE` clause with every value written in place of its `?`. -/
def inlineWhereSql (render : α → String) (qb : QueryBuilder α) : String :=
  listSql " WHERE " " AND " (qb.whereClauses.map (inlinePart render))

/-- The statement `build()` means once its parameters are bound: every value written in. -/
def inlineBuild (render : α → String) (qb : QueryBuilder α) : String :=
  qb.selectSql ++ qb.inlineWhereSql render ++ qb.orderBySql ++ qb.limitSql ++ qb.offsetSql

/-- A `where` clause whose column and operator hold no `?`. -/
def ClauseUnmarked (clause : String × String × α) : Prop := '?' ∉ clause.1.data ∧ '?' ∉ clause.2.1.data

theorem bindParams_wherePart (render : α → String) (c : String × String × α) (rest : List Char)
    (vs : List String) (hc : ClauseUnmarked c) :
    bindParams ((wherePart c).data ++ rest) (render c.2.2 :: vs) =
      (inlinePart render c).data ++ bindParams rest vs := by
  have hspace : '?' ∉ " ".data := by decide
  simp only [wherePart, inlinePart, String.data_append, List.append_assoc]
  rw [bindParams_append_of_unmarked _ _ _ hc.1, bindParams_append_of_unmarked _ _ _ hspace,
    bindParams_append_of_unmarked _ _ _ hc.2]
  simp [bindParams]

theorem bindParams_join_where (render : α → String) (sep : String) (hsep : '?' ∉ sep.data)
    (c : String × String × α) (cs : List (String × String × α)) (rest : List Char)
    (vs : List String) (hcs : ∀ d ∈ c :: cs, ClauseUnmarked d) :
    bindParams ((join sep ((c :: cs).map wherePart)).data ++ rest)
        ((c :: cs).map (render ·.2.2) ++ vs) =
      (join sep ((c :: cs).map (inlinePart render))).data ++ bindParams rest vs := by
  induction cs generalizing c with
  | nil => simpa using bindParams_wherePart render c rest vs (hcs c (by simp))
  | cons d cs ih =>
    simp only [List.map_cons, join_cons_cons, String.data_append, List.append_assoc,
      List.cons_append] at ih ⊢
    rw [bindParams_wherePart render c _ _ (hcs c (by simp)), bindParams_append_of_unmarked _ _ _ hsep,
      ih d (fun e he => hcs e (List.mem_cons_of_mem _ he))]

theorem count_wherePart (c : String × String × α) (hc : ClauseUnmarked c) :
    (wherePart c).data.count '?' = 1 := by
  simp [wherePart, List.count_eq_zero_of_not_mem hc.1, List.count_eq_zero_of_not_mem hc.2]

theorem count_join_where (sep : String) (hsep : '?' ∉ sep.data) (cs : List (String × String × α))
    (hcs : ∀ d ∈ cs, ClauseUnmarked d) : (join sep (cs.map wherePart)).data.count '?' = cs.length := by
  induction cs with
  | nil => rfl
  | cons c cs ih =>
    have hc := count_wherePart c (hcs c (by simp))
    have ih := ih (fun e he => hcs e (List.mem_cons_of_mem _ he))
    cases cs with
    | nil => simpa using hc
    | cons d cs =>
      simp only [List.map_cons, join_cons_cons, String.data_append, List.count_append] at ih ⊢
      simp [hc, ih, List.count_eq_zero_of_not_mem hsep]
      omega

theorem mark_not_mem_listSql (keyword sep : String) (parts : List String) (hk : '?' ∉ keyword.data)
    (hs : '?' ∉ sep.data) (hp : ∀ p ∈ parts, '?' ∉ p.data) : '?' ∉ (listSql keyword sep parts).data := by
  cases parts with
  | nil => simp [listSql]
  | cons p rest =>
    simp only [listSql, String.data_append, List.mem_append, not_or]
    exact ⟨hk, mark_not_mem_join sep _ hs hp⟩

theorem mark_not_mem_valueSql (keyword : String) (hk : '?' ∉ keyword.data) :
    ∀ v : Option Int, '?' ∉ (valueSql keyword v).data
  | none => by simp [valueSql]
  | some n => by simpa [valueSql] using ⟨hk, mark_not_mem_int n⟩

/-! ### Builders without `?` in their text -/

/-- No `?` in the strings a call passes (`limit` and `offset` take integers). -/
def Call.Unmarked : Call α → Prop
  | .select cs => ∀ col ∈ cs, '?' ∉ col.data
  | .where column operator _ => '?' ∉ column.data ∧ '?' ∉ operator.data
  | .orderBy column direction => '?' ∉ column.data ∧ '?' ∉ direction.data
  | .limit _ => True
  | .offset _ => True

instance Call.decidableUnmarked : DecidablePred (Call.Unmarked (α := α))
  | .select cs => inferInstanceAs (Decidable (∀ col ∈ cs, '?' ∉ col.data))
  | .where column operator _ => inferInstanceAs (Decidable ('?' ∉ column.data ∧ '?' ∉ operator.data))
  | .orderBy column direction =>
    inferInstanceAs (Decidable ('?' ∉ column.data ∧ '?' ∉ direction.data))
  | .limit _ => isTrue trivial
  | .offset _ => isTrue trivial

/-- No `?` anywhere in a builder's text: its table, columns, operators and directions. -/
structure Unmarked (qb : QueryBuilder α) : Prop where
  table : '?' ∉ qb.table.data
  select : ∀ col ∈ qb.selectColumns, '?' ∉ col.data
  clauses : ∀ c ∈ qb.whereClauses, ClauseUnmarked c
  order : ∀ c ∈ qb.orderByClauses, '?' ∉ c.1.data ∧ '?' ∉ c.2.data

theorem Unmarked.apply {qb : QueryBuilder α} {c : Call α} (h : qb.Unmarked) (hc : c.Unmarked) :
    (qb.apply c).Unmarked := by
  obtain ⟨ht, hs, hw, ho⟩ := h
  cases c with
  | select cs =>
    refine ⟨ht, ?_, hw, ho⟩
    simp only [QueryBuilder.apply, QueryBuilder.select, List.mem_append]
    rintro col (hcol | hcol)
    exacts [hs col hcol, hc col hcol]
  | «where» column operator value =>
    refine ⟨ht, hs, ?_, ho⟩
    simp only [QueryBuilder.apply, «where», List.mem_append, List.mem_singleton]
    rintro d (hd | rfl)
    exacts [hw d hd, hc]
  | orderBy column direction =>
    refine ⟨ht, hs, hw, ?_⟩
    simp only [QueryBuilder.apply, orderBy, List.mem_append, List.mem_singleton]
    rintro d (hd | rfl)
    exacts [ho d hd, hc]
  | limit n => exact ⟨ht, hs, hw, ho⟩
  | offset n => exact ⟨ht, hs, hw, ho⟩

theorem unmarked_run (table : String) (calls : List (Call α)) (htable : '?' ∉ table.data)
    (hcalls : ∀ c ∈ calls, c.Unmarked) : (run table calls).Unmarked := by
  suffices h : ∀ qb : QueryBuilder α, qb.Unmarked → (calls.foldl QueryBuilder.apply qb).Unmarked from
    h _ ⟨htable, by simp [new], by simp [new], by simp [new]⟩
  induction calls with
  | nil => exact fun _ h => h
  | cons c calls ih =>
    simp only [List.mem_cons, forall_eq_or_imp] at hcalls
    exact fun qb h => ih hcalls.2 _ (h.apply hcalls.1)

theorem Unmarked.selectSql {qb : QueryBuilder α} (h : qb.Unmarked) : '?' ∉ qb.selectSql.data := by
  have hcols : '?' ∉ qb.columns.data := by
    unfold columns
    split
    · decide
    · exact mark_not_mem_join _ _ (by decide) h.select
  simp only [QueryBuilder.selectSql, String.data_append, List.mem_append, not_or]
  exact ⟨⟨⟨by decide, hcols⟩, by decide⟩, h.table⟩

theorem Unmarked.tailSql {qb : QueryBuilder α} (h : qb.Unmarked) :
    '?' ∉ (qb.orderBySql ++ qb.limitSql ++ qb.offsetSql).data := by
  have horder : '?' ∉ qb.orderBySql.data := by
    refine mark_not_mem_listSql _ _ _ (by decide) (by decide) ?_
    simp only [List.mem_map, forall_exists_index, and_imp, forall_apply_eq_imp_iff₂]
    intro c hc
    simpa [orderPart] using h.order c hc
  simp only [String.data_append, List.mem_append, not_or]
  exact ⟨⟨horder, mark_not_mem_valueSql _ (by decide) _⟩, mark_not_mem_valueSql _ (by decide) _⟩

/-! ### Alignment -/

section aligned

variable {qb : QueryBuilder α} (h : qb.Unmarked) (hp : qb.params = qb.whereClauses.map (·.2.2))
include h hp

theorem count_build : qb.build.data.count '?' = qb.params.length := by
  have hw : qb.whereSql.data.count '?' = qb.whereClauses.length := by
    have hjoin := count_join_where " AND " (by decide) _ h.clauses
    have hwhere : " WHERE ".data.count '?' = 0 := by decide
    unfold whereSql
    cases hcl : qb.whereClauses with
    | nil => rfl
    | cons c cs =>
      rw [hcl] at hjoin
      simpa only [List.map_cons, listSql, String.data_append, List.count_append, hwhere, zero_add]
        using hjoin
  simp only [build, String.data_append, List.count_append, List.count_eq_zero_of_not_mem h.selectSql,
    hw, hp, List.length_map]
  have := List.count_eq_zero_of_not_mem h.tailSql
  simp only [String.data_append, List.count_append] at this
  omega

theorem bindParams_build (render : α → String) :
    bindParams qb.build.data (qb.params.map render) = (qb.inlineBuild render).data := by
  have htail := bindParams_of_unmarked _ [] h.tailSql
  have hclauses := h.clauses
  simp only [String.data_append, List.append_assoc] at htail
  simp only [build, inlineBuild, String.data_append, List.append_assoc, hp, List.map_map]
  rw [bindParams_append_of_unmarked _ _ _ h.selectSql]
  congr 1
  unfold whereSql inlineWhereSql
  cases hcl : qb.whereClauses with
  | nil => simpa [listSql] using htail
  | cons c cs =>
    rw [hcl] at hclauses
    have hwhere : '?' ∉ " WHERE ".data := by decide
    have := bindParams_join_where render " AND " (by decide) c cs
      (qb.orderBySql.data ++ (qb.limitSql.data ++ qb.offsetSql.data)) [] hclauses
    simp only [List.append_nil, Function.comp_def] at this
    simp only [List.map_cons, listSql, String.data_append, List.append_assoc, Function.comp_def]
    simp only [List.map_cons] at this
    rw [bindParams_append_of_unmarked _ _ _ hwhere, this, htail]

end aligned

/-- **Placeholders line up with parameters.** For a builder reached by any calls whose strings
hold no `?`: the statement has exactly one `?` per parameter; all of them lie in the `WHERE`
clause, between a prefix and a suffix without `?`; the parameters are the values of the `where`
calls in call order; and binding the `k`-th `?` to the `k`-th parameter gives the statement with
each value written into its own clause. -/
theorem build_params_aligned (table : String) (calls : List (Call α))
    (htable : '?' ∉ table.data) (hcalls : ∀ c ∈ calls, c.Unmarked) :
    (run table calls).build.data.count '?' = (run table calls).params.length ∧
    (run table calls).build = (run table calls).selectSql ++ (run table calls).whereSql ++
      ((run table calls).orderBySql ++ (run table calls).limitSql ++ (run table calls).offsetSql) ∧
    '?' ∉ (run table calls).selectSql.data ∧
    '?' ∉ ((run table calls).orderBySql ++ (run table calls).limitSql ++
      (run table calls).offsetSql).data ∧
    (run table calls).params = calls.filterMap Call.value ∧
    ∀ render : α → String, bindParams (run table calls).build.data
      ((run table calls).params.map render) = ((run table calls).inlineBuild render).data := by
  have h := unmarked_run table calls htable hcalls
  have hp := params_run table calls
  refine ⟨count_build h hp, by simp [build, String.append_assoc], h.selectSql, h.tailSql,
    params_eq_values table calls, bindParams_build h hp⟩

/-- The calls of the `QueryBuilder` docstring, with the values as text. -/
def docstringCalls : List (Call String) :=
  [.select ["id", "name", "email"], .where "age" ">" "18", .where "active" "=" "True",
    .orderBy "name" "ASC", .limit 10]

theorem build_params_aligned_docstring :
    ('?' ∉ "users".data ∧ ∀ c ∈ docstringCalls, c.Unmarked) ∧
      (run "users" docstringCalls).build.data.count '?' =
        (run "users" docstringCalls).params.length :=
  have h : '?' ∉ "users".data ∧ ∀ c ∈ docstringCalls, c.Unmarked := ⟨by decide, by decide⟩
  ⟨h, (build_params_aligned "users" docstringCalls h.1 h.2).1⟩

example : (run "users" docstringCalls).build =
    "SELECT id, name, email FROM users WHERE age > ? AND active = ? ORDER BY name ASC LIMIT 10" := by
  decide

/-- **Values never reach the text.** Two call sequences that agree except in the values of their
`where` calls build the same statement. -/
theorem build_eq_of_erase_eq (table : String) (calls₁ calls₂ : List (Call α))
    (h : calls₁.map (Call.map fun _ => ()) = calls₂.map (Call.map fun _ => ())) :
    (run table calls₁).build = (run table calls₂).build := by
  rw [← build_mapValues (fun _ => ()) (run table calls₁), ← run_map, h, run_map, build_mapValues]

theorem build_eq_of_erase_eq_injection :
    ([.where "name" "=" "Alice"] : List (Call String)).map (Call.map fun _ => ()) =
        ([.where "name" "=" "Alice; DROP TABLE users"] : List (Call String)).map
          (Call.map fun _ => ()) ∧
      (run "users" [.where "name" "=" "Alice"]).build =
        (run "users" [.where "name" "=" "Alice; DROP TABLE users"]).build :=
  ⟨rfl, build_eq_of_erase_eq "users" _ _ rfl⟩

end QueryBuilder

end DriftDB.Query
