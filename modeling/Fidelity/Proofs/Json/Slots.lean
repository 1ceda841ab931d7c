import Mathlib
import Fidelity.Proofs.Json.Members

/-!
# Records read field by field

A slot is a field together with what a value stands for there. Main statement: if no slot of a draft
is touched by setting another one, then members in any order and among members with other keys leave
in each slot what is given for its key, and the reading fails only for a reason: a key that is no
string, a key given twice, or a value that its own reader refuses.
-/
namespace Fidelity.Json

variable {α σ : Type}

def named (key : String) (ms : List (Literal × Tree)) : List (Literal × Tree) :=
  ms.filter fun m => m.1.string? = some key

/-- What is given for a key, if anything. No answer is to what is given twice or has no meaning. -/
def given? (key : String) (read : Tree → Option α) (ms : List (Literal × Tree)) :
    Option (Option α) :=
  match named key ms with
  | [] => some none
  | [m] => (read m.2).map some
  | _ => none

section

variable {key : String} {read : Tree → Option α} {m : Literal × Tree} {ms : List (Literal × Tree)}

theorem mem_named_iff : m ∈ named key ms ↔ m ∈ ms ∧ m.1.string? = some key := by
  simp [named]

theorem named_cons_of_eq (h : m.1.string? = some key) : named key (m :: ms) = m :: named key ms :=
  List.filter_cons_of_pos (by simpa using h)

theorem named_cons_of_ne (h : m.1.string? ≠ some key) : named key (m :: ms) = named key ms :=
  List.filter_cons_of_neg (by simpa using h)

theorem given?_cons_of_ne (h : m.1.string? ≠ some key) :
    given? key read (m :: ms) = given? key read ms := by
  rw [given?, named_cons_of_ne h, given?]

theorem given?_eq_some_none_iff : given? key read ms = some none ↔ named key ms = [] := by
  rw [given?]
  split
  · next heq => simp [heq]
  · next m heq => cases hread : read m.2 <;> simp [heq]
  · next hnil _ => simpa using hnil

theorem given?_cons_of_eq {x : α} (h : m.1.string? = some key) (hread : read m.2 = some x)
    (hrest : given? key read ms = some none) : given? key read (m :: ms) = some (some x) := by
  rw [given?, named_cons_of_eq h, given?_eq_some_none_iff.mp hrest]
  simp [hread]

end

structure Slot (σ : Type) where
  name : String
  Value : Type
  get : σ → Option Value
  set : Value → σ → σ
  reader : Reader Value
  ofTree? : Tree → Option Value
  get_set : ∀ x d, get (set x d) = some x

def Slot.field (S : Slot σ) : Field σ := .of S.name S.get S.set S.reader

def Slot.given? (S : Slot σ) (ms : List (Literal × Tree)) : Option (Option S.Value) :=
  Json.given? S.name S.ofTree? ms

structure Independent (slots : List (Slot σ)) : Prop where
  nodup : (slots.map Slot.name).Nodup
  get_set_of_ne : ∀ S ∈ slots, ∀ T ∈ slots, S.name ≠ T.name → ∀ x d, T.get (S.set x d) = T.get d

section

variable {slots : List (Slot σ)} {S : Slot σ} {key : String}

theorem Independent.eq_of_name (hind : Independent slots) {T : Slot σ} (hS : S ∈ slots)
    (hT : T ∈ slots) (hname : S.name = T.name) : S = T :=
  List.inj_on_of_nodup_map hind.nodup hS hT hname

theorem Independent.find?_eq (hind : Independent slots) (hS : S ∈ slots) :
    (slots.map Slot.field).find? (fun f => f.name == S.name) = some S.field := by
  rw [List.find?_map]
  cases hfind : slots.find? ((fun f => f.name == S.name) ∘ Slot.field) with
  | none => exact absurd (List.find?_eq_none.mp hfind S hS) (by simp [Slot.field, Field.of])
  | some T =>
    have hname : T.name = S.name := by simpa [Slot.field, Field.of] using List.find?_some hfind
    rw [hind.eq_of_name (List.mem_of_find?_eq_some hfind) hS hname]
    rfl

theorem find?_eq_none_of_forall_ne (h : ∀ S ∈ slots, S.name ≠ key) :
    (slots.map Slot.field).find? (fun f => f.name == key) = none := by
  simpa [Slot.field, Field.of] using h

/-- A fault may come up for these reasons only. -/
structure Explains (slots : List (Slot σ)) (ms : List (Literal × Tree)) (d : σ)
    (P : Fault → Prop) : Prop where
  keyless : ∀ m ∈ ms, m.1.string? = none → P .malformed
  repeated : ∀ S ∈ slots, 1 < (named S.name ms).length + (S.get d).isSome.toNat → P .unfit
  refused : ∀ m ∈ ms, ∀ S ∈ slots, m.1.string? = some S.name →
    (∃ x, S.ofTree? m.2 = some x ∧ ReadsAs S.reader m.2 (.ok x)) ∨
      ∃ e, P e ∧ ReadsAs S.reader m.2 (.error e)

variable {P : Fault → Prop} {m : Literal × Tree} {ms : List (Literal × Tree)} {d : σ}

theorem Explains.of_empty (hempty : ∀ S ∈ slots, S.get d = none)
    (hkeyless : ∀ m ∈ ms, m.1.string? = none → P .malformed)
    (hrepeated : ∀ S ∈ slots, 1 < (named S.name ms).length → P .unfit)
    (hrefused : ∀ S ∈ slots, ∀ m ∈ named S.name ms,
      (∃ x, S.ofTree? m.2 = some x ∧ ReadsAs S.reader m.2 (.ok x)) ∨
        ∃ e, P e ∧ ReadsAs S.reader m.2 (.error e)) : Explains slots ms d P where
  keyless := hkeyless
  repeated := fun S hS hmany => hrepeated S hS (by simpa [hempty S hS] using hmany)
  refused := fun m hm S hS hkey => hrefused S hS m (mem_named_iff.mpr ⟨hm, hkey⟩)

theorem Explains.tail_of_unknown (h : Explains slots (m :: ms) d P)
    (hunknown : ∀ S ∈ slots, m.1.string? ≠ some S.name) : Explains slots ms d P where
  keyless := fun n hn => h.keyless n (List.mem_cons_of_mem m hn)
  repeated := fun S hS hmany => h.repeated S hS (by rwa [named_cons_of_ne (hunknown S hS)])
  refused := fun n hn => h.refused n (List.mem_cons_of_mem m hn)

theorem Explains.tail_of_known (hind : Independent slots) (h : Explains slots (m :: ms) d P)
    (hS : S ∈ slots) (hkey : m.1.string? = some S.name) (x : S.Value) :
    Explains slots ms (S.set x d) P where
  keyless := fun n hn => h.keyless n (List.mem_cons_of_mem m hn)
  repeated := by
    intro T hT hmany
    refine h.repeated T hT ?_
    by_cases hname : S.name = T.name
    · obtain rfl := hind.eq_of_name hS hT hname
      rw [S.get_set] at hmany
      rw [named_cons_of_eq hkey, List.length_cons]
      exact hmany.trans_le (Nat.le_add_right _ _)
    · rwa [named_cons_of_ne (fun heq => hname (Option.some.inj (hkey.symm.trans heq))),
        ← hind.get_set_of_ne S hS T hT hname x d]
  refused := fun n hn => h.refused n (List.mem_cons_of_mem m hn)

/-- From the first draft to the second, each slot has taken what is given for it. -/
def Gathers (slots : List (Slot σ)) (ms : List (Literal × Tree)) (d d' : σ) : Prop :=
  ∀ S ∈ slots, ∃ v, S.given? ms = some v ∧ (v = none ∨ S.get d = none) ∧ S.get d' = v.or (S.get d)

theorem Gathers.given?_eq {d' : σ} (h : Gathers slots ms d d') (hS : S ∈ slots)
    (hempty : S.get d = none) : S.given? ms = some (S.get d') := by
  obtain ⟨v, hv, -, hget⟩ := h S hS
  rw [hv, hget, hempty, Option.or_none]

theorem Gathers.cons_of_unknown {d' : σ} (h : Gathers slots ms d d')
    (hunknown : ∀ S ∈ slots, m.1.string? ≠ some S.name) : Gathers slots (m :: ms) d d' := by
  intro S hS
  obtain ⟨v, hv, hnew, hget⟩ := h S hS
  exact ⟨v, (given?_cons_of_ne (hunknown S hS)).trans hv, hnew, hget⟩

theorem Gathers.cons_of_known {d' : σ} {x : S.Value} (hind : Independent slots)
    (h : Gathers slots ms (S.set x d) d') (hS : S ∈ slots) (hkey : m.1.string? = some S.name)
    (hx : S.ofTree? m.2 = some x) (hget : S.get d = none) : Gathers slots (m :: ms) d d' := by
  intro T hT
  obtain ⟨v, hv, hnew, hget'⟩ := h T hT
  by_cases hname : S.name = T.name
  · obtain rfl := hind.eq_of_name hS hT hname
    rw [S.get_set] at hnew hget'
    obtain rfl := hnew.resolve_right (Option.some_ne_none x)
    exact ⟨some x, given?_cons_of_eq hkey hx hv, .inr hget, hget'⟩
  · have hne : m.1.string? ≠ some T.name :=
      fun heq => hname (Option.some.inj (hkey.symm.trans heq))
    rw [hind.get_set_of_ne S hS T hT hname x d] at hnew hget'
    exact ⟨v, (given?_cons_of_ne hne).trans hv, hnew, hget'⟩

theorem exists_takesMember (hind : Independent slots) (h : Explains slots (m :: ms) d P) :
    (∃ e, TakesMember (slots.map Slot.field) m d (.error e) ∧ P e) ∨
      ∃ d', TakesMember (slots.map Slot.field) m d (.ok d') ∧ Explains slots ms d' P ∧
        ∀ d'', Gathers slots ms d' d'' → Gathers slots (m :: ms) d d'' := by
  cases hkey : m.1.string? with
  | none => exact .inl ⟨_, .keyless hkey, h.keyless m List.mem_cons_self hkey⟩
  | some key =>
    by_cases hknown : ∃ S ∈ slots, S.name = key
    · obtain ⟨S, hS, rfl⟩ := hknown
      have hfind := hind.find?_eq hS
      have hgiven : S.field.isGiven d = (S.get d).isSome := rfl
      cases hget : S.get d with
      | some y =>
        rw [hget] at hgiven
        refine .inl ⟨_, .repeated hkey hfind hgiven, h.repeated S hS ?_⟩
        simp [named_cons_of_eq hkey, hget]
      | none =>
        rw [hget] at hgiven
        rcases h.refused m List.mem_cons_self S hS hkey with ⟨x, hx, hread⟩ | ⟨e, he, hread⟩
        · exact .inr ⟨_, .known hkey hfind hgiven (hread.map S.set),
            h.tail_of_known hind hS hkey x, fun _ hd => hd.cons_of_known hind hS hkey hx hget⟩
        · exact .inl ⟨_, .refused hkey hfind hgiven (hread.map S.set), he⟩
    · have hunknown : ∀ S ∈ slots, m.1.string? ≠ some S.name :=
        fun S hS heq => hknown ⟨S, hS, Option.some.inj (heq.symm.trans hkey)⟩
      have hfind := find?_eq_none_of_forall_ne fun S hS hname => hknown ⟨S, hS, hname⟩
      exact .inr ⟨_, .unknown hkey hfind, h.tail_of_unknown hunknown,
        fun _ hd => hd.cons_of_unknown hunknown⟩

theorem exists_takes (hind : Independent slots) (h : Explains slots ms d P) :
    ∃ r, Takes (slots.map Slot.field) ms d r ∧
      match r with
      | .error e => P e
      | .ok d' => Gathers slots ms d d' := by
  induction ms generalizing d with
  | nil => exact ⟨.ok d, .nil d, fun S _ => ⟨none, rfl, .inl rfl, rfl⟩⟩
  | cons m ms ih =>
    obtain ⟨e, htakes, he⟩ | ⟨d', htakes, htail, hgathers⟩ := exists_takesMember hind h
    · exact ⟨_, .stop htakes, he⟩
    · obtain ⟨r, hrest, hr⟩ := ih htail
      refine ⟨r, .step htakes hrest, ?_⟩
      cases r with
      | error e => exact hr
      | ok d'' => exact hgathers d'' hr

end

end Fidelity.Json
