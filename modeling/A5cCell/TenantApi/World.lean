import A5cCell.TenantApi.Effects

/-!
# The world a handler runs in

What answers its calls: the tables, and besides them DynamoDB's own decisions and failures, the clock,
the random source and the services.
-/

namespace A5cCell.TenantApi

open Py (Val Items Dict)
open DataAccess

/-- What answers the calls of a handler besides the tables: DynamoDB, which also fails at times, the
    clock, the random source and the services. Its state goes on with every call. -/
structure World (τ : Type) where
  dynamo : Dynamo
  fault : τ → Request → Option Fault
  now : τ → Instant
  random : τ → String → String
  service : τ → String → String → Items → Except Fault Val
  next : τ → Effect → τ

namespace World

variable {τ : Type} (world : World τ)

/-- What a call is answered, and the tables and the world after it. -/
def serve (state : Tables × τ) : (e : Effect) → e.Reply × (Tables × τ)
  | .db request => match world.fault state.2 request with
    | some fault => (.error fault, (state.1, world.next state.2 (.db request)))
    | none =>
        let served := world.dynamo.serve state.1 request
        (served.1, (served.2, world.next state.2 (.db request)))
  | .now => (world.now state.2, (state.1, world.next state.2 .now))
  | .random source =>
      (world.random state.2 source, (state.1, world.next state.2 (.random source)))
  | .service client operation kwargs =>
      (world.service state.2 client operation kwargs,
        (state.1, world.next state.2 (.service client operation kwargs)))

end World

/-- A world where nothing fails and nothing changes. -/
def quiet (dynamo : Dynamo) : World Unit where
  dynamo := dynamo
  fault := fun _ _ => none
  now := fun _ => 0
  random := fun _ _ => ""
  service := fun _ _ _ _ => .ok .none
  next := fun _ _ => ()

end A5cCell.TenantApi
