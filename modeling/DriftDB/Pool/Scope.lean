import DriftDB.Client
import DriftDB.Transaction

/-!
# The transaction scope as a borrower

The pool model runs a transaction scope as the borrower program `Client.transactionUse`:
`BEGIN TRANSACTION`, then the body's statements, each going on by its outcome, then `__aexit__`'s
`COMMIT` or `ROLLBACK` and the `release`; after a failed `BEGIN`, nothing (`keep`). `Use.run` is
what such a program does on its connection along the outcomes of its `execute`s, as the pool and
the server see it: the requests it sends and its `release`.

The `Transaction` object's own model agrees (`scope_runs_transactionUse`): whatever the outcomes
of `BEGIN`, of the body's calls and of the closing statement, the sends and the release of
`async with` are those of `transactionUse b` for every body program `b` whose branch along the
body's outcomes ends as the body did. So the pool-level results about transaction scopes, the
leak of `Pool.Starvation` among them, are about the `Transaction` class.
-/

namespace DriftDB

/-- What a borrower does on its connection that the pool and the server see. -/
inductive Visible
  | send (c : Nat)
  | release (c : Nat)
  deriving DecidableEq

/-- A transaction's effect as the pool and the server see it. -/
def Effect.visible : Effect → Visible
  | .send c _ => .send c
  | .release c => .release c

/-- What an `execute` on `c` sends: nothing when the link was not connected or a parameter could not
be serialized. -/
def Exchange.visible (c : Nat) : Exchange → List Visible
  | .unconnected | .unserializable _ => []
  | .sent _ => [.send c]

@[simp] theorem visible_sends (x : Exchange) (c : Nat) (sql : String) (params : Option (List Value)) :
    (x.sends c sql params).map Effect.visible = x.visible c := by
  cases x <;> rfl

namespace Pool

/-- The program run by a borrower holding `c` along the outcomes of its `execute`s, one each: what
it sends and whether it releases. An `execute` past the last outcome is still waiting. -/
def Use.run (c : Nat) : Use → List Exchange → List Visible
  | .release, _ => [.release c]
  | .keep, _ => []
  | .execute _ _, [] => []
  | .execute ok err, x :: xs => x.visible c ++ (if x.ok then ok else err).run c xs

end Pool

namespace Client

/-- The body program's branch along the outcomes of the body's calls ends as the body did. -/
def Body.Follows : Body → List Bool → Bool → Prop
  | .finish r, [], raised => r = raised
  | .execute ok err, x :: xs, raised => (if x then ok else err).Follows xs raised
  | _, _, _ => False

theorem Body.use_ite (x : Bool) (ok err : Body) :
    (if x then ok else err).use = if x then ok.use else err.use := by
  cases x <;> rfl

/-- Along its branch, the body program sends the body's statements, then the closing statement, and
releases. -/
theorem Body.run_use (c : Nat) (close : Exchange) (raised : Bool) :
    ∀ (calls : List Call) (b : Body), b.Follows (calls.map fun call => call.exchange.ok) raised →
      b.use.run c (calls.map Call.exchange ++ [close]) =
        (calls.flatMap (Call.sends c)).map Effect.visible ++ close.visible c ++ [.release c]
  | [], .finish _, _ => by simp [Body.use, Pool.Use.run]
  | call :: calls, .execute ok err, hb => by
    simp only [Body.Follows, List.map_cons] at hb
    rw [List.map_cons, List.cons_append, Body.use, Pool.Use.run, ← Body.use_ite,
      Body.run_use c close raised calls _ hb]
    simp [Call.sends, List.append_assoc]
  | [], .execute _ _, hb => hb.elim
  | _ :: _, .finish _, hb => hb.elim

end Client

open Pool Client

/-- **The scope borrows as `transactionUse`.** Once `acquire()` returned `c`, what `async with
Transaction(pool)` sends on `c` and its `release` are what the borrower program
`transactionUse b` does along the outcomes of `BEGIN`, of the body's calls and of the closing
statement, for every body program `b` whose branch along the body's outcomes ends as the body
did. -/
theorem scope_runs_transactionUse (c : Nat) (begin : Exchange) (body : List Call) (raised : Bool)
    (close : Exchange) {b : Body} (hb : b.Follows (body.map fun call => call.exchange.ok) raised) :
    (Transaction.new.scope (.ok c) begin body raised close).2.effects.map Effect.visible =
      (transactionUse b).run c (begin :: body.map Call.exchange ++ [close]) := by
  rw [Transaction.scope_acquired, transactionUse, List.cons_append, Use.run]
  by_cases hbegin : begin.ok
  · simp only [hbegin, if_true, Body.run_use c close raised body b hb]
    simp [Transaction.new, Effect.visible]
  · simp [hbegin, Transaction.new, Use.run]

/-- The body program of the `Client` docstring's transaction: two statements and `tx.commit()`,
each going on when answered. -/
def docstringUse : Body :=
  .execute (.execute (.execute (.finish false) (.finish true)) (.finish true)) (.finish true)

theorem scope_runs_transactionUse_docstring :
    docstringUse.Follows (Transaction.docstringBody.map fun call => call.exchange.ok) false ∧
      (Transaction.new.scope (.ok 0) (.sent (.ok Transaction.emptyResult)) Transaction.docstringBody
          false (.sent (.ok Transaction.emptyResult))).2.effects.map Effect.visible =
        (transactionUse docstringUse).run 0 (.sent (.ok Transaction.emptyResult) ::
          Transaction.docstringBody.map Call.exchange ++ [.sent (.ok Transaction.emptyResult)]) :=
  ⟨rfl, scope_runs_transactionUse 0 _ _ false _ rfl⟩

end DriftDB
