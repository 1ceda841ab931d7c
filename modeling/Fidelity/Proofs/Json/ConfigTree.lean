import Mathlib
import Fidelity.Json.Forms
import Fidelity.Proofs.Json.Slots

/-!
# What a configuration text means

The meaning of a text is read off its tree: each field that is given has the value that is given for
it, every other one its standard value, and the same goes for the fields of the weights. Main
statements: what has the shape of a configuration has a meaning unless a key is repeated, and neither
the order of members nor members with other keys change it.
-/
namespace Fidelity.Json

open Edit (Weights TextUnit)
open Text (Preparation)

namespace Tree

def members : Tree → List (Literal × Tree)
  | object ms => ms
  | _ => []

def weights? : Tree → Option Weights
  | object ms => do
    let insertion ← given? "insertion" natural? ms
    let deletion ← given? "deletion" natural? ms
    let substitution ← given? "substitution" natural? ms
    some {
      insertion := (insertion.map Cost.mk).getD Weights.standard.insertion
      deletion := (deletion.map Cost.mk).getD Weights.standard.deletion
      substitution := (substitution.map Cost.mk).getD Weights.standard.substitution }
  | _ => none

def unit? : Tree → Option TextUnit := choice? TextUnit.ofName?

def preparations? : Tree → Option (List Preparation) := listOf? (choice? Preparation.ofName?)

def chars? : Tree → Option (List Char) := listOf? char?

def config? : Tree → Option (Config Float)
  | object ms => do
    let weights ← given? "weights" weights? ms
    let unit ← given? "unit" unit? ms
    let preparations ← given? "normalization" preparations? ms
    let kept ← given? "exclude_punctuation" chars? ms
    let beta ← given? "f_beta" real? ms
    let c : Config Float := .standard
    some {
      weights := weights.getD c.weights
      unit := unit.getD c.unit
      preparations := preparations.getD c.preparations
      keptPunctuation := kept.getD c.keptPunctuation
      beta := beta.getD c.beta }
  | _ => none

end Tree

def weightsKeys : List String := ["insertion", "deletion", "substitution"]

def configKeys : List String :=
  ["weights", "unit", "normalization", "exclude_punctuation", "f_beta"]

namespace Tree

def Repeats (keys : List String) (t : Tree) : Prop :=
  ∃ key ∈ keys, 1 < (named key t.members).length

/-- A string in JSON may have half a pair of surrogates in it. No such key can be read. -/
def HasStringKeys (t : Tree) : Prop := ∀ m ∈ t.members, m.1.string?.isSome

/-- Of the members of an object, those with a known key have a value of the right kind. A key may be
there more than once. -/
structure IsWeightsShape (t : Tree) : Prop where
  object : ∃ ms, t = object ms
  natural : ∀ key ∈ weightsKeys, ∀ m ∈ named key t.members, m.2.natural?.isSome

structure IsConfigShape (t : Tree) : Prop where
  object : ∃ ms, t = object ms
  weights : ∀ m ∈ named "weights" t.members, m.2.IsWeightsShape
  unit : ∀ m ∈ named "unit" t.members, m.2.unit?.isSome
  preparations : ∀ m ∈ named "normalization" t.members, m.2.preparations?.isSome
  keptPunctuation : ∀ m ∈ named "exclude_punctuation" t.members, m.2.chars?.isSome
  beta : ∀ m ∈ named "f_beta" t.members, m.2.real?.isSome

def RepeatsConfigKey (t : Tree) : Prop :=
  t.Repeats configKeys ∨ ∃ m ∈ named "weights" t.members, m.2.Repeats weightsKeys

def HasStringConfigKeys (t : Tree) : Prop :=
  t.HasStringKeys ∧ ∀ m ∈ named "weights" t.members, m.2.HasStringKeys

instance (t : Tree) : Decidable t.HasStringKeys :=
  inferInstanceAs (Decidable (∀ m ∈ t.members, m.1.string?.isSome))

instance (t : Tree) : Decidable t.HasStringConfigKeys :=
  inferInstanceAs
    (Decidable (t.HasStringKeys ∧ ∀ m ∈ named "weights" t.members, m.2.HasStringKeys))

end Tree

section

variable {α : Type} {key : String} {read : Tree → Option α} {ms : List (Literal × Tree)}

theorem isSome_given?_iff : (given? key read ms).isSome ↔
    (∀ m ∈ named key ms, (read m.2).isSome) ∧ ¬1 < (named key ms).length := by
  rw [given?]
  rcases named key ms with _ | ⟨m, _ | ⟨n, others⟩⟩ <;> simp

namespace Tree

theorem isSome_weights?_iff {t : Tree} :
    t.weights?.isSome ↔ t.IsWeightsShape ∧ ¬t.Repeats weightsKeys := by
  cases t with
  | object ms =>
    have hall : (object ms).weights?.isSome ↔
        ∀ key ∈ weightsKeys, (given? key natural? ms).isSome := by
      simp [weights?, weightsKeys, Option.isSome_iff_exists, Option.bind_eq_some_iff]
    simp only [hall, isSome_given?_iff, Repeats, not_exists, not_and]
    constructor
    · exact fun h => ⟨⟨⟨ms, rfl⟩, fun key hkey => (h key hkey).1⟩, fun key hkey => (h key hkey).2⟩
    · exact fun h key hkey => ⟨h.1.natural key hkey, h.2 key hkey⟩
  | _ => exact iff_of_false Bool.false_ne_true fun h => nomatch h.1.object

theorem isSome_config?_iff {t : Tree} :
    t.config?.isSome ↔ t.IsConfigShape ∧ ¬t.RepeatsConfigKey := by
  cases t with
  | object ms =>
    have hall : (object ms).config?.isSome ↔ (given? "weights" weights? ms).isSome ∧
        (given? "unit" unit? ms).isSome ∧ (given? "normalization" preparations? ms).isSome ∧
        (given? "exclude_punctuation" chars? ms).isSome ∧ (given? "f_beta" real? ms).isSome := by
      simp [config?, Option.isSome_iff_exists, Option.bind_eq_some_iff]
    simp only [hall, isSome_given?_iff, isSome_weights?_iff]
    constructor
    · rintro ⟨hweights, hunit, hpreparations, hkept, hbeta⟩
      refine ⟨⟨⟨ms, rfl⟩, fun m hm => (hweights.1 m hm).1, hunit.1, hpreparations.1, hkept.1,
        hbeta.1⟩, ?_⟩
      rintro (⟨key, hkey, hmany⟩ | ⟨m, hm, hmany⟩)
      · simp only [configKeys, List.mem_cons, List.not_mem_nil, or_false] at hkey
        rcases hkey with rfl | rfl | rfl | rfl | rfl
        exacts [hweights.2 hmany, hunit.2 hmany, hpreparations.2 hmany, hkept.2 hmany,
          hbeta.2 hmany]
      · exact (hweights.1 m hm).2 hmany
    · rintro ⟨hshape, hrepeats⟩
      have hfew (key : String) (hkey : key ∈ configKeys) : ¬1 < (named key ms).length :=
        fun hmany => hrepeats (.inl ⟨key, hkey, hmany⟩)
      exact ⟨⟨fun m hm => ⟨hshape.weights m hm, fun hmany => hrepeats (.inr ⟨m, hm, hmany⟩)⟩,
          hfew _ (by simp [configKeys])⟩,
        ⟨hshape.unit, hfew _ (by simp [configKeys])⟩,
        ⟨hshape.preparations, hfew _ (by simp [configKeys])⟩,
        ⟨hshape.keptPunctuation, hfew _ (by simp [configKeys])⟩,
        ⟨hshape.beta, hfew _ (by simp [configKeys])⟩⟩
  | _ => exact iff_of_false Bool.false_ne_true fun h => nomatch h.1.object

end Tree

end

/-- Members in another order, or one more with a key that is not known. -/
inductive Rearranged (keys : List String) : List (Literal × Tree) → List (Literal × Tree) → Prop
  | permuted {ms ms' : List (Literal × Tree)} (h : ms.Perm ms') : Rearranged keys ms ms'
  | added {m : Literal × Tree} (h : ∀ key ∈ keys, m.1.string? ≠ some key)
      (ms : List (Literal × Tree)) : Rearranged keys ms (m :: ms)

inductive ConfigRearranged : Tree → Tree → Prop
  | members {ms ms' : List (Literal × Tree)} (h : Rearranged configKeys ms ms') :
      ConfigRearranged (.object ms) (.object ms')
  | weights {l : Literal} {ws ws' : List (Literal × Tree)} (hkey : l.string? = some "weights")
      (h : Rearranged weightsKeys ws ws') (ms : List (Literal × Tree)) :
      ConfigRearranged (.object ((l, .object ws) :: ms)) (.object ((l, .object ws') :: ms))

section

variable {α : Type} {key : String} {read : Tree → Option α} {ms ms' : List (Literal × Tree)}

theorem given?_of_perm (h : ms.Perm ms') : given? key read ms = given? key read ms' := by
  have hnamed : (named key ms).Perm (named key ms') := h.filter _
  rw [given?, given?]
  generalize named key ms = given at *
  generalize named key ms' = given' at *
  rcases given with _ | ⟨m, _ | ⟨n, others⟩⟩
  · rw [hnamed.nil_eq]
  · rw [List.singleton_perm.mp hnamed]
  · rcases given' with _ | ⟨m', _ | ⟨n', others'⟩⟩
    · cases hnamed.length_eq
    · cases hnamed.length_eq
    · rfl

theorem Rearranged.given?_eq {keys : List String} (h : Rearranged keys ms ms') (hkey : key ∈ keys) :
    given? key read ms = given? key read ms' := by
  cases h with
  | permuted h => exact given?_of_perm h
  | added h => exact (given?_cons_of_ne (h key hkey)).symm

theorem given?_cons_congr {l : Literal} {t t' : Tree}
    (h : l.string? = some key → read t = read t') (ms : List (Literal × Tree)) :
    given? key read ((l, t) :: ms) = given? key read ((l, t') :: ms) := by
  by_cases hkey : l.string? = some key
  · rw [given?, given?, named_cons_of_eq hkey, named_cons_of_eq hkey]
    cases named key ms with
    | nil => exact congrArg (Option.map some) (h hkey)
    | cons m ms => rfl
  · rw [given?_cons_of_ne hkey, given?_cons_of_ne hkey]

theorem Rearranged.weights?_eq (h : Rearranged weightsKeys ms ms') :
    (Tree.object ms).weights? = (Tree.object ms').weights? := by
  have hgiven (key : String) (hkey : key ∈ weightsKeys) :
      given? key Tree.natural? ms = given? key Tree.natural? ms' := h.given?_eq hkey
  simp only [weightsKeys, List.forall_mem_cons] at hgiven
  simp only [Tree.weights?, hgiven]

theorem ConfigRearranged.config?_eq {t t' : Tree} (h : ConfigRearranged t t') :
    t.config? = t'.config? := by
  cases h with
  | @members ms ms' h =>
    have hgiven {α : Type} (read : Tree → Option α) (key : String) (hkey : key ∈ configKeys) :
        given? key read ms = given? key read ms' := h.given?_eq hkey
    simp only [configKeys, List.forall_mem_cons] at hgiven
    simp only [Tree.config?, hgiven]
  | @weights l ws ws' hkey h ms =>
    have hgiven {α : Type} (read : Tree → Option α) (key : String) (hne : key ≠ "weights") :
        given? key read ((l, .object ws) :: ms) = given? key read ((l, .object ws') :: ms) :=
      given?_cons_congr (fun heq => absurd (Option.some.inj (heq.symm.trans hkey)) hne) ms
    have hweights : given? "weights" Tree.weights? ((l, .object ws) :: ms) =
        given? "weights" Tree.weights? ((l, .object ws') :: ms) :=
      given?_cons_congr (fun _ => h.weights?_eq) ms
    simp [Tree.config?, hweights, hgiven]

theorem config?_eq_of_eqvGen {t t' : Tree} (h : Relation.EqvGen ConfigRearranged t t') :
    t.config? = t'.config? := by
  induction h with
  | rel t t' h => exact h.config?_eq
  | refl t => rfl
  | symm t t' _ ih => exact ih.symm
  | trans t u v _ _ ih₁ ih₂ => exact ih₁.trans ih₂

end

end Fidelity.Json
