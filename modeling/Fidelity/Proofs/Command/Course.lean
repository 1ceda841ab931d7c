import Mathlib
import Fidelity.Command.Run

/-!
# The course of a session

A session visits files, one after the other, and ends in a value or in a failure. What a visit is
does not matter: it may do nothing, be written down, or be refused. Main statement: a session that
goes on from the value of another visits what that one visits and then its own files, and a session
that failed is not gone on from.
-/
namespace Fidelity.Command

abbrev Files := String → Except ReadFault String

variable {m : Type → Type} [Monad m]

def visiting (visit : String → m Unit) (files : Files) : FileReader m := fun path => do
  visit path
  return files path

/-- The session `x` visits `paths` in order and ends in `r`. -/
def ComesTo {α : Type} (visit : String → m Unit) (x : Session m α) (paths : List String)
    (r : Except Failure α) : Prop :=
  ∃ events, ∀ log, x.run.run log = (do
    forM paths visit
    return (r, log ++ events))

variable [LawfulMonad m] {α β : Type} {visit : String → m Unit} {x : Session m α}
  {f : α → Session m β} {p q : List String}

theorem comesTo_pure (v : α) : ComesTo visit (pure v : Session m α) [] (.ok v) :=
  ⟨[], fun log => by simp⟩

theorem comesTo_throw (e : Failure) : ComesTo visit (throw e : Session m α) [] (.error e) :=
  ⟨[], fun log => by simp⟩

theorem ComesTo.bind {v : α} {r : Except Failure β} (hx : ComesTo visit x p (.ok v))
    (hf : ComesTo visit (f v) q r) : ComesTo visit (x >>= f) (p ++ q) r := by
  obtain ⟨before, hx⟩ := hx
  obtain ⟨behind, hf⟩ := hf
  refine ⟨before ++ behind, fun log => ?_⟩
  simp [hx, hf]

theorem ComesTo.bind_error {e : Failure} (hx : ComesTo visit x p (.error e)) :
    ComesTo visit (x >>= f) p (.error e) := by
  obtain ⟨events, hx⟩ := hx
  refine ⟨events, fun log => ?_⟩
  simp [hx]

theorem comesTo_record (events : List (Event Float)) :
    ComesTo visit (modify (· ++ events) : Session m Unit) [] (.ok ()) := by
  refine ⟨events, fun log => ?_⟩
  have hlift : (modify (· ++ events) : Session m Unit) =
      ExceptT.lift (modify (· ++ events) : StateT (List (Event Float)) m Unit) := rfl
  rw [hlift]
  simp

theorem comesTo_logged (y : Logged Float α) :
    ComesTo visit (logged y : Session m α) [] (.ok y.value) :=
  (comesTo_record y.events).bind (comesTo_pure y.value)

theorem comesTo_visiting (files : Files) (path : String) :
    ComesTo visit (liftM (visiting visit files path) : Session m (Except ReadFault String)) [path]
      (.ok (files path)) :=
  ⟨[], fun log => by simp [visiting, Except.map]⟩

end Fidelity.Command
