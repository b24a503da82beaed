import Entitlements.Session.Change
import Entitlements.Session.Query

/-!
# Operations

A session is a run of operations on a store. It goes on after an operation that
fails.
-/

namespace Entitlements

inductive Operation where
  | query (query : Query)
  | change (change : Change)

namespace Store

variable [SizeLimit]

def step (store : Store) : Operation → Store × Reporting SessionFailure Answer
  | .query query => (store, query.answer store)
  | .change change =>
      match change.perform.run store with
      | .ok answer next => (next, ExceptT.lift answer)
      | .error failure next => (next, throw failure)

def run (store : Store) : List Operation → Store
  | [] => store
  | operation :: rest => (store.step operation).1.run rest

end Store

end Entitlements
