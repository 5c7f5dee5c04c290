import TabSearch.Proofs.Registry.Notification

namespace TabSearch

inductive Operation : Type 1 where
  | subscribe (panics : Nat → Bool)
  | unsubscribe (id : Nat)
  | mutate (m : Mutation)
  | apply (e : Event)
  | attach {σ : Type} [source : Source σ] (s : σ)

namespace Registry

def perform (r : Registry) : Operation → Run Unit
  | .subscribe panics => (r.subscribe panics).map fun _ => ()
  | .unsubscribe id => (r.unsubscribe id).map fun _ => ()
  | .mutate m => (r.mutate m).map fun _ => ()
  | .apply e => (r.apply e).map fun _ => ()
  | @Operation.attach _ _ s => (r.attach s).1.map fun _ => ()

def performAll (r : Registry) : List Operation → Registry
  | [] => r
  | op :: ops => (r.perform op).registry.performAll ops

def heard (r : Registry) : List Operation → List Occurrence
  | [] => []
  | op :: ops => (r.perform op).occurrences ++ (r.perform op).registry.heard ops

theorem performAll_append (r : Registry) (xs ys : List Operation) :
    r.performAll (xs ++ ys) = (r.performAll xs).performAll ys := by
  induction xs generalizing r with
  | nil => rfl
  | cons x xs ih => exact ih _

theorem heard_append (r : Registry) (xs ys : List Operation) :
    r.heard (xs ++ ys) = r.heard xs ++ (r.performAll xs).heard ys := by
  induction xs generalizing r with
  | nil => rfl
  | cons x xs ih => simp [heard, performAll, ih]

end Registry

end TabSearch
