import Mathlib
import Fidelity.Proofs.Json.ConfigTree
import Fidelity.Proofs.Json.Written

/-!
# Texts of configurations

Main statement: a configuration text is read as what it means, whatever the order of its members, its
blanks and its members with other keys, and it is refused if it gives a field twice.
-/
namespace Fidelity.Json

open Edit (Weights TextUnit)
open Text (Preparation)

namespace WeightsSlot

def natural (name : String) (get : WeightsDraft → Option UInt64)
    (set : UInt64 → WeightsDraft → WeightsDraft) (get_set : ∀ v d, get (set v d) = some v) :
    Slot WeightsDraft where
  name := name
  Value := UInt64
  get := get
  set := set
  reader := .natural
  ofTree? := Tree.natural?
  get_set := get_set

def insertion : Slot WeightsDraft :=
  natural "insertion" (·.insertion) (fun v d => { d with insertion := some v }) fun _ _ => rfl

def deletion : Slot WeightsDraft :=
  natural "deletion" (·.deletion) (fun v d => { d with deletion := some v }) fun _ _ => rfl

def substitution : Slot WeightsDraft :=
  natural "substitution" (·.substitution) (fun v d => { d with substitution := some v })
    fun _ _ => rfl

def all : List (Slot WeightsDraft) := [insertion, deletion, substitution]

theorem map_field_all : all.map Slot.field = weightsFields := rfl

theorem independent_all : Independent all where
  nodup := by decide
  get_set_of_ne := by
    intro S hS T hT
    simp only [all, List.mem_cons, List.not_mem_nil, or_false] at hS hT
    rcases hS with rfl | rfl | rfl <;> rcases hT with rfl | rfl | rfl <;> intro hname <;>
      first | exact absurd rfl hname | exact fun _ _ => rfl

end WeightsSlot

namespace ConfigSlot

def weights : Slot ConfigDraft where
  name := "weights"
  Value := Weights
  get := (·.weights)
  set v d := { d with weights := some v }
  reader := weightsReader
  ofTree? := Tree.weights?
  get_set _ _ := rfl

def unit : Slot ConfigDraft where
  name := "unit"
  Value := TextUnit
  get := (·.unit)
  set v d := { d with unit := some v }
  reader := unitReader
  ofTree? := Tree.unit?
  get_set _ _ := rfl

def preparations : Slot ConfigDraft where
  name := "normalization"
  Value := List Preparation
  get := (·.preparations)
  set v d := { d with preparations := some v }
  reader := .listOf preparationReader
  ofTree? := Tree.preparations?
  get_set _ _ := rfl

def keptPunctuation : Slot ConfigDraft where
  name := "exclude_punctuation"
  Value := List Char
  get := (·.keptPunctuation)
  set v d := { d with keptPunctuation := some v }
  reader := charsReader
  ofTree? := Tree.chars?
  get_set _ _ := rfl

def beta : Slot ConfigDraft where
  name := "f_beta"
  Value := Float
  get := (·.beta)
  set v d := { d with beta := some v }
  reader := .real
  ofTree? := Tree.real?
  get_set _ _ := rfl

def all : List (Slot ConfigDraft) := [weights, unit, preparations, keptPunctuation, beta]

theorem map_field_all : all.map Slot.field = configFields := rfl

theorem independent_all : Independent all where
  nodup := by decide
  get_set_of_ne := by
    intro S hS T hT
    simp only [all, List.mem_cons, List.not_mem_nil, or_false] at hS hT
    rcases hS with rfl | rfl | rfl | rfl | rfl <;> rcases hT with rfl | rfl | rfl | rfl | rfl <;>
      intro hname <;> first | exact absurd rfl hname | exact fun _ _ => rfl

end ConfigSlot

section

variable {t : Tree} {P : Fault → Prop}

theorem Tree.not_hasStringKeys {m : Literal × Tree} (hm : m ∈ t.members)
    (hkey : m.1.string? = none) : ¬t.HasStringKeys := by
  intro h
  simpa [hkey] using h m hm

theorem exists_readsAs {α : Type} {p : Reader α} {read : Tree → Option α}
    (hread : ∀ {v}, read t = some v → ReadsAs p t (.ok v)) (hvalue : (read t).isSome) :
    ∃ v, read t = some v ∧ ReadsAs p t (.ok v) := by
  obtain ⟨v, hv⟩ := Option.isSome_iff_exists.mp hvalue
  exact ⟨v, hv, hread hv⟩

theorem explains_weights {ms : List (Literal × Tree)} (hshape : (Tree.object ms).IsWeightsShape)
    (hkeys : ¬(Tree.object ms).HasStringKeys → P .malformed)
    (hrepeated : (Tree.object ms).Repeats weightsKeys → P .unfit) :
    Explains WeightsSlot.all ms {} P := by
  have hnatural (key : String) (hkey : key ∈ weightsKeys) (m) (hm : m ∈ named key ms) :
      ∃ x, m.2.natural? = some x ∧ ReadsAs .natural m.2 (.ok x) :=
    exists_readsAs readsAs_natural (hshape.natural key hkey m hm)
  refine .of_empty ?_ (fun m hm hkey => hkeys (Tree.not_hasStringKeys hm hkey))
    (fun S hS hmany => hrepeated ⟨S.name, List.mem_map_of_mem hS, hmany⟩) ?_
  · simp [WeightsSlot.all, WeightsSlot.natural, WeightsSlot.insertion, WeightsSlot.deletion,
      WeightsSlot.substitution]
  · intro S hS m hm
    have hkey : S.name ∈ weightsKeys := List.mem_map_of_mem hS
    simp only [WeightsSlot.all, List.mem_cons, List.not_mem_nil, or_false] at hS
    rcases hS with rfl | rfl | rfl <;> exact .inl (hnatural _ hkey m hm)

theorem readsAs_weights (hshape : t.IsWeightsShape) (hkeys : ¬t.HasStringKeys → P .malformed)
    (hrepeated : t.Repeats weightsKeys → P .unfit) :
    (∃ w, t.weights? = some w ∧ ReadsAs weightsReader t (.ok w)) ∨
      ∃ e, P e ∧ ReadsAs weightsReader t (.error e) := by
  obtain ⟨ms, rfl⟩ := hshape.object
  obtain ⟨r, htakes, hr⟩ :=
    exists_takes WeightsSlot.independent_all (explains_weights hshape hkeys hrepeated)
  rw [WeightsSlot.map_field_all] at htakes
  have hread : ReadsAs weightsReader _ _ := readsAs_record htakes _
  cases r with
  | error e => exact .inr ⟨e, hr, hread⟩
  | ok d =>
    have hinsertion : given? "insertion" Tree.natural? ms = some d.insertion :=
      hr.given?_eq (S := WeightsSlot.insertion) (by simp [WeightsSlot.all]) rfl
    have hdeletion : given? "deletion" Tree.natural? ms = some d.deletion :=
      hr.given?_eq (S := WeightsSlot.deletion) (by simp [WeightsSlot.all]) rfl
    have hsubstitution : given? "substitution" Tree.natural? ms = some d.substitution :=
      hr.given?_eq (S := WeightsSlot.substitution) (by simp [WeightsSlot.all]) rfl
    refine .inl ⟨d.finish, ?_, hread⟩
    simp [Tree.weights?, hinsertion, hdeletion, hsubstitution, WeightsDraft.finish]

theorem explains_config {ms : List (Literal × Tree)} (hshape : (Tree.object ms).IsConfigShape)
    (hkeys : ¬(Tree.object ms).HasStringConfigKeys → P .malformed)
    (hrepeated : (Tree.object ms).RepeatsConfigKey → P .unfit) :
    Explains ConfigSlot.all ms {} P := by
  refine .of_empty ?_ (fun m hm hkey => hkeys fun h => Tree.not_hasStringKeys hm hkey h.1)
    (fun S hS hmany => hrepeated (.inl ⟨S.name, List.mem_map_of_mem hS, hmany⟩)) ?_
  · simp [ConfigSlot.all, ConfigSlot.weights, ConfigSlot.unit, ConfigSlot.preparations,
      ConfigSlot.keptPunctuation, ConfigSlot.beta]
  · intro S hS m hm
    simp only [ConfigSlot.all, List.mem_cons, List.not_mem_nil, or_false] at hS
    rcases hS with rfl | rfl | rfl | rfl | rfl
    · exact readsAs_weights (hshape.weights m hm) (fun h => hkeys fun hall => h (hall.2 m hm))
        fun h => hrepeated (.inr ⟨m, hm, h⟩)
    · exact .inl (exists_readsAs readsAs_choice (hshape.unit m hm))
    · exact .inl (exists_readsAs (readsAs_listOf fun _ _ => readsAs_choice)
        (hshape.preparations m hm))
    · exact .inl (exists_readsAs (readsAs_listOf fun _ _ => readsAs_char)
        (hshape.keptPunctuation m hm))
    · exact .inl (exists_readsAs readsAs_real (hshape.beta m hm))

theorem readsAs_config (hshape : t.IsConfigShape) (hkeys : ¬t.HasStringConfigKeys → P .malformed)
    (hrepeated : t.RepeatsConfigKey → P .unfit) :
    (∃ c, t.config? = some c ∧ ReadsAs configReader t (.ok c)) ∨
      ∃ e, P e ∧ ReadsAs configReader t (.error e) := by
  obtain ⟨ms, rfl⟩ := hshape.object
  obtain ⟨r, htakes, hr⟩ :=
    exists_takes ConfigSlot.independent_all (explains_config hshape hkeys hrepeated)
  rw [ConfigSlot.map_field_all] at htakes
  have hread : ReadsAs configReader _ _ := readsAs_record htakes _
  cases r with
  | error e => exact .inr ⟨e, hr, hread⟩
  | ok d =>
    have hweights : given? "weights" Tree.weights? ms = some d.weights :=
      hr.given?_eq (S := ConfigSlot.weights) (by simp [ConfigSlot.all]) rfl
    have hunit : given? "unit" Tree.unit? ms = some d.unit :=
      hr.given?_eq (S := ConfigSlot.unit) (by simp [ConfigSlot.all]) rfl
    have hpreparations : given? "normalization" Tree.preparations? ms = some d.preparations :=
      hr.given?_eq (S := ConfigSlot.preparations) (by simp [ConfigSlot.all]) rfl
    have hkept : given? "exclude_punctuation" Tree.chars? ms = some d.keptPunctuation :=
      hr.given?_eq (S := ConfigSlot.keptPunctuation) (by simp [ConfigSlot.all]) rfl
    have hbeta : given? "f_beta" Tree.real? ms = some d.beta :=
      hr.given?_eq (S := ConfigSlot.beta) (by simp [ConfigSlot.all]) rfl
    refine .inl ⟨d.finish, ?_, hread⟩
    simp [Tree.config?, hweights, hunit, hpreparations, hkept, hbeta, ConfigDraft.finish]

theorem readsAs_config_of_eq_some {c : Config Float} (hc : t.config? = some c)
    (hkeys : t.HasStringConfigKeys) : ReadsAs configReader t (.ok c) := by
  obtain ⟨hshape, hrepeats⟩ := Tree.isSome_config?_iff.mp (Option.isSome_of_eq_some hc)
  obtain ⟨c', hc', hread⟩ | ⟨_, hfalse, -⟩ := readsAs_config hshape (P := fun _ => False)
    (fun h => h hkeys) hrepeats
  · rwa [Option.some.inj (hc.symm.trans hc')]
  · exact hfalse.elim

theorem readsAs_config_of_repeats (hshape : t.IsConfigShape) (hrepeats : t.RepeatsConfigKey) :
    ∃ e, ReadsAs configReader t (.error e) ∧ (t.HasStringConfigKeys → e = .unfit) := by
  obtain ⟨c, hc, -⟩ | ⟨e, he, hread⟩ := readsAs_config hshape
    (P := fun e => t.HasStringConfigKeys → e = .unfit) (fun h hkeys => absurd hkeys h)
    fun _ _ => rfl
  · exact absurd hrepeats (Tree.isSome_config?_iff.mp (Option.isSome_of_eq_some hc)).2
  · exact ⟨e, hread, he⟩

end

def loneSurrogate : Literal × Tree :=
  ([.code ⟨'d', 13, rfl⟩ ⟨'8', 8, rfl⟩ ⟨'0', 0, rfl⟩ ⟨'0', 0, rfl⟩], .word .null)

/-- A text that gives no field is refused for a key that is no string. -/
theorem not_forall_decode_config : ¬∀ t s, IsTextOf t s → t.IsConfigShape →
    ¬t.RepeatsConfigKey → ∃ c, t.config? = some c ∧ decode configReader s = .ok c := by
  intro h
  have htext : IsTextOf (.object [loneSurrogate]) "\x7b\"\\ud800\":null\x7d" :=
    isTextOf_of_flatMap (b := []) (List.forall_mem_nil _) (by decide)
  have hmeaning : (Tree.object [loneSurrogate]).config? = some .standard := rfl
  obtain ⟨hshape, hrepeats⟩ := Tree.isSome_config?_iff.mp (Option.isSome_of_eq_some hmeaning)
  have hread : ReadsAs configReader (.object [loneSurrogate]) (.error .malformed) :=
    readsAs_record (.stop (.keyless rfl)) _
  obtain ⟨c, -, hc⟩ := h _ _ htext hshape hrepeats
  cases hc.symm.trans (hread.decode_eq htext)

/-- A configuration text is read field by field, and refused if it gives a field twice. -/
theorem decode_config_field_by_field (t : Tree) (s : String) (hs : IsTextOf t s)
    (hshape : t.IsConfigShape) :
    (t.RepeatsConfigKey → ∃ e, decode configReader s = .error e ∧
      (t.HasStringConfigKeys → e = .unfit)) ∧
    (¬t.RepeatsConfigKey → t.HasStringConfigKeys → ∃ c, t.config? = some c ∧
      decode configReader s = .ok c ∧ Config.ofJson s = c.validate ∧
      ∀ t' s', Relation.EqvGen ConfigRearranged t t' → IsTextOf t' s' → t'.HasStringConfigKeys →
        decode configReader s' = .ok c) := by
  refine ⟨fun hrepeats => ?_, fun hrepeats hkeys => ?_⟩
  · obtain ⟨e, hread, he⟩ := readsAs_config_of_repeats hshape hrepeats
    exact ⟨e, hread.decode_eq hs, he⟩
  · obtain ⟨c, hc⟩ := Option.isSome_iff_exists.mp (Tree.isSome_config?_iff.mpr ⟨hshape, hrepeats⟩)
    have hdecode := (readsAs_config_of_eq_some hc hkeys).decode_eq hs
    refine ⟨c, hc, hdecode, by rw [Config.ofJson, hdecode], fun t' s' hrearranged hs' hkeys' => ?_⟩
    exact (readsAs_config_of_eq_some ((config?_eq_of_eqvGen hrearranged).symm.trans hc)
      hkeys').decode_eq hs'

def half : NumberForm where
  negative := false
  whole := .ofNat 0
  leading := Digits.length_ofNat_of_head?
  fraction := some (.ofNat 5)
  exponent := none

def graphemeMembers : List (Literal × Tree) := [
  (.ofString "unit", .text (.ofString "grapheme")),
  (.ofString "f_beta", .number half),
  (.ofString "weights", .object [(.ofString "deletion", .number (.ofNat 3))])]

def noteMember : Literal × Tree := (.ofString "note", .list [.object [loneSurrogate], .list []])

def graphemeConfig : Config Float :=
  { (Config.standard : Config Float) with
    weights := ⟨⟨2⟩, ⟨3⟩, ⟨1⟩⟩
    unit := .grapheme
    beta := 0.5 }

def graphemeText : String :=
  "\x7b\"unit\":\"grapheme\",\"f_beta\":0.5,\"weights\":\x7b\"deletion\":3\x7d\x7d"

def rearrangedText : String :=
  " \x7b \"note\" : [ \x7b \"\\ud800\" : null \x7d , [ ] ] ," ++
    " \"weights\" : \x7b \"deletion\" : 3 \x7d , \"f_beta\" : 0.5 ," ++
    " \"unit\" : \"grapheme\" \x7d"

theorem decode_config_field_by_field_grapheme :
    decode configReader graphemeText = .ok graphemeConfig ∧
      decode configReader rearrangedText = .ok graphemeConfig := by
  have htext : IsTextOf (.object graphemeMembers) graphemeText :=
    isTextOf_of_flatMap (b := []) (List.forall_mem_nil _) (by decide)
  have hmeaning : (Tree.object graphemeMembers).config? = some graphemeConfig := by decide +kernel
  obtain ⟨hshape, hrepeats⟩ := Tree.isSome_config?_iff.mp (Option.isSome_of_eq_some hmeaning)
  obtain ⟨c, hc, hdecode, -, hall⟩ :=
    (decode_config_field_by_field _ _ htext hshape).2 hrepeats (by decide)
  obtain rfl := Option.some.inj (hc.symm.trans hmeaning)
  have hrearranged : Relation.EqvGen ConfigRearranged (.object graphemeMembers)
      (.object (noteMember :: graphemeMembers.reverse)) :=
    .trans _ _ _ (.rel _ _ (.members (.permuted graphemeMembers.reverse_perm.symm)))
      (.rel _ _ (.members (.added (by decide) _)))
  have htext' : IsTextOf (.object (noteMember :: graphemeMembers.reverse)) rearrangedText :=
    isTextOf_of_flatMap (b := [' ']) (by simp [Blanks, isBlank]) (by decide +kernel)
  exact ⟨hdecode, hall _ _ hrearranged htext' (by decide)⟩

end Fidelity.Json
