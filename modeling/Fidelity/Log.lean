import Fidelity.Cost

/-! What a computation has to say about its course, as a list of events beside its value. -/
namespace Fidelity

inductive Event (α : Type) where
  | emptySource (distance : Cost)
  | scoredPair (outputLength sourceLength : Nat) (distance : Cost) (score : α)
  | shreddedRun (letters : String)
  | evaluatedPair (distance : Cost) (score wordRecall : α)
  | batchStarted (pairs : Nat) (parallel : Bool)
  | configLoaded (path : String)
  | batchScored (pairs : Nat) (mean : α)
deriving DecidableEq, Repr

structure Logged (α β : Type) where
  events : List (Event α)
  value : β

namespace Logged

variable {α β γ : Type}

def note (e : Event α) : Logged α Unit := ⟨[e], ()⟩

instance : Monad (Logged α) where
  pure x := ⟨[], x⟩
  bind x f := ⟨x.events ++ (f x.value).events, (f x.value).value⟩

@[simp] theorem events_pure (x : β) : (pure x : Logged α β).events = [] := rfl

@[simp] theorem value_pure (x : β) : (pure x : Logged α β).value = x := rfl

@[simp] theorem events_bind (x : Logged α β) (f : β → Logged α γ) :
    (x >>= f).events = x.events ++ (f x.value).events := rfl

@[simp] theorem value_bind (x : Logged α β) (f : β → Logged α γ) :
    (x >>= f).value = (f x.value).value := rfl

@[simp] theorem value_map (f : β → γ) (x : Logged α β) : (f <$> x).value = f x.value := rfl

instance : LawfulMonad (Logged α) := by
  refine LawfulMonad.mk' _ ?_ ?_ ?_
  · intro β x
    exact congrArg (Logged.mk · x.value) (List.append_nil x.events)
  · intro β γ x f
    rfl
  · intro β γ δ x f g
    exact congrArg (Logged.mk · (g (f x.value).value).value) (List.append_assoc ..)

theorem value_mapM (f : β → Logged α γ) (xs : List β) :
    (xs.mapM f).value = xs.map fun x => (f x).value := by
  induction xs with
  | nil => rfl
  | cons x xs ih => simp [List.mapM_cons, ih]

end Logged
end Fidelity
