import Fidelity.Proofs.Bag.Cursor

/-!
# Which fragments are words

Main statement: the bag of a list of fragments counts a word as often as the word stands among them,
which a longer fragment does wherever it is and a single character where no neighbour is one.
-/
namespace Fidelity.Bag

/-- Fragment `k` is the word `w`, and no part of a shredded one. -/
def StandsAt (fs : List String) (w : String) (k : Nat) : Prop :=
  fs[k]? = some w ∧
    (1 < w.length ∨
      w.length = 1 ∧ ∀ j v, j + 1 = k ∨ k + 1 = j → fs[j]? = some v → v.length ≠ 1)

def singleAt (fs : List String) (k : Nat) : Bool := fs[k]?.any isSingle

/-- A single character comes before position `k`; `left` tells whether one comes before the first.
-/
def singleBefore (left : Bool) (fs : List String) : Nat → Bool
  | 0 => left
  | k + 1 => singleAt fs k

def isWord (left right : Bool) (w : String) : Bool :=
  decide (1 < w.length) || isSingle w && !left && !right

def standsAfter (left : Bool) (fs : List String) (w : String) (k : Nat) : Bool :=
  fs[k]? == some w && isWord (singleBefore left fs k) (singleAt fs (k + 1)) w

def keptAfter (left : Bool) : List String → List String
  | [] => []
  | f :: rest =>
    if isWord left (singleAt rest 0) f then f :: keptAfter (isSingle f) rest
    else keptAfter (isSingle f) rest

theorem singleAt_cons_zero (f : String) (rest : List String) :
    singleAt (f :: rest) 0 = isSingle f := by
  simp [singleAt]

theorem singleAt_cons_succ (f : String) (rest : List String) (k : Nat) :
    singleAt (f :: rest) (k + 1) = singleAt rest k := by
  simp [singleAt]

theorem standsAfter_cons_zero (left : Bool) (f w : String) (rest : List String) :
    standsAfter left (f :: rest) w 0 = (f == w && isWord left (singleAt rest 0) f) := by
  rw [standsAfter, singleAt_cons_succ, List.getElem?_cons_zero, singleBefore]
  by_cases h : f = w
  · simp [h]
  · have hne : (f == w) = false := by simpa using h
    simp [hne]

theorem singleBefore_cons_succ (left : Bool) (f : String) (rest : List String) (k : Nat) :
    singleBefore left (f :: rest) (k + 1) = singleBefore (isSingle f) rest k := by
  cases k with
  | zero => exact singleAt_cons_zero f rest
  | succ k => exact singleAt_cons_succ f rest k

theorem standsAfter_cons_succ (left : Bool) (f w : String) (rest : List String) (k : Nat) :
    standsAfter left (f :: rest) w (k + 1) = standsAfter (isSingle f) rest w k := by
  rw [standsAfter, standsAfter, singleBefore_cons_succ, singleAt_cons_succ,
    List.getElem?_cons_succ]

theorem count_keptAfter (left : Bool) (fs : List String) (w : String) :
    (keptAfter left fs).count w = (List.range fs.length).countP (standsAfter left fs w) := by
  induction fs generalizing left with
  | nil => rfl
  | cons f rest ih =>
    have hsucc : standsAfter left (f :: rest) w ∘ Nat.succ = standsAfter (isSingle f) rest w := by
      funext k
      exact standsAfter_cons_succ left f w rest k
    rw [List.length_cons, List.range_succ_eq_map, List.countP_cons, List.countP_map, hsucc, ← ih,
      standsAfter_cons_zero, keptAfter]
    by_cases h : isWord left (singleAt rest 0) f = true
    · rw [if_pos h, List.count_cons, h, Bool.and_true]
    · simp [h]

theorem kept_closeRun (run : List String) (behind : Sifted) :
    (closeRun run behind).kept = (if run.length = 1 then run else []) ++ behind.kept := by
  match run with
  | [] => rfl
  | [f] => rfl
  | f :: g :: rest => simp [closeRun]

theorem kept_siftFrom (run fs : List String) :
    (siftFrom run fs).kept =
      (if run.length = 1 ∧ singleAt fs 0 = false then run else []) ++
        keptAfter (!run.isEmpty) fs := by
  induction fs generalizing run with
  | nil =>
    rw [siftFrom, kept_closeRun]
    simp [singleAt, keptAfter]
  | cons f rest ih =>
    have hsift : (sift rest).kept = keptAfter false rest := by simpa [sift] using ih []
    by_cases hf : isSingle f = true
    · rw [siftFrom_cons_single (isSingle_iff.mp hf), ih, keptAfter, singleAt_cons_zero, hf]
      have h1 : ¬ 1 < f.length := by
        rw [isSingle_iff.mp hf]
        exact lt_irrefl 1
      cases run with
      | nil => cases hnext : singleAt rest 0 <;> simp [isWord, hf, h1]
      | cons g run => simp [isWord, hf, h1]
    · rw [Bool.not_eq_true] at hf
      rw [keptAfter, singleAt_cons_zero, hf]
      rcases isSingle_eq_false_iff.mp hf with h0 | hlong
      · rw [siftFrom_cons_empty h0, kept_closeRun, hsift]
        simp [isWord, hf, h0]
      · rw [siftFrom_cons_long hlong, kept_closeRun, hsift]
        simp [isWord, hlong]

theorem singleAt_eq_false_iff {fs : List String} {k : Nat} :
    singleAt fs k = false ↔ ∀ v, fs[k]? = some v → v.length ≠ 1 := by
  unfold singleAt
  cases fs[k]? <;> simp [isSingle]

theorem singleBefore_eq_false_iff {fs : List String} {k : Nat} :
    singleBefore false fs k = false ↔ ∀ j v, j + 1 = k → fs[j]? = some v → v.length ≠ 1 := by
  cases k with
  | zero => simp [singleBefore]
  | succ k =>
    rw [singleBefore, singleAt_eq_false_iff]
    constructor
    · rintro h j v hj
      obtain rfl : j = k := by omega
      exact h v
    · exact fun h v => h k v rfl

theorem standsAt_iff {fs : List String} {w : String} {k : Nat} :
    StandsAt fs w k ↔ standsAfter false fs w k = true := by
  have hnear : (∀ j v, j + 1 = k ∨ k + 1 = j → fs[j]? = some v → v.length ≠ 1) ↔
      singleBefore false fs k = false ∧ singleAt fs (k + 1) = false := by
    rw [singleBefore_eq_false_iff, singleAt_eq_false_iff]
    constructor
    · intro h
      exact ⟨fun j v hj => h j v (.inl hj), fun v => h (k + 1) v (.inr rfl)⟩
    · rintro ⟨hleft, hright⟩ j v (hj | rfl)
      · exact hleft j v hj
      · exact hright v
  rw [StandsAt, hnear]
  simp [standsAfter, isWord, isSingle, and_assoc]

instance (fs : List String) (w : String) : DecidablePred (StandsAt fs w) :=
  fun _ => decidable_of_iff _ standsAt_iff.symm

def standCount (fs : List String) (w : String) : Nat :=
  (List.range fs.length).countP fun k => decide (StandsAt fs w k)

theorem count_kept (fs : List String) (w : String) : (sift fs).kept.count w = standCount fs w := by
  have hkept : (sift fs).kept = keptAfter false fs := by simpa [sift] using kept_siftFrom [] fs
  rw [hkept, count_keptAfter, standCount]
  congr 1
  funext k
  rw [Bool.eq_iff_iff, decide_eq_true_iff, standsAt_iff]

theorem count_foldl_add (ws : List String) (b : Bag) (w : String) :
    (ws.foldl add b).count w = b.count w + UInt64.ofNat (ws.count w) := by
  induction ws generalizing b with
  | nil => simp
  | cons v ws ih =>
    rw [List.foldl_cons, ih, count_add, List.count_cons]
    by_cases h : w = v
    · subst h
      have hone : UInt64.ofNat 1 = 1 := rfl
      simp only [if_true, beq_self_eq_true, UInt64.ofNat_add, hone]
      ac_rfl
    · have hv : (v == w) = false := by simpa using Ne.symm h
      simp [h, hv]

theorem mem_words_foldl_add (ws : List String) (b : Bag) (w : String) :
    w ∈ (ws.foldl add b).words ↔ w ∈ b.words ∨ w ∈ ws := by
  induction ws generalizing b with
  | nil => simp
  | cons v ws ih =>
    rw [List.foldl_cons, ih, add, mem_words_update, List.mem_cons]
    tauto

theorem count_ofFragments (fs : List String) (w : String) :
    (ofFragments fs).count w = UInt64.ofNat (standCount fs w) := by
  rw [ofFragments, ofWords, count_foldl_add, count_empty, count_kept, UInt64.zero_add]

theorem mem_words_ofFragments {fs : List String} {w : String} :
    w ∈ (ofFragments fs).words ↔ 0 < standCount fs w := by
  rw [ofFragments, ofWords, mem_words_foldl_add, ← count_kept, List.count_pos_iff]
  simp [words, empty]

theorem standCount_empty (fs : List String) : standCount fs "" = 0 := by
  rw [standCount, List.countP_eq_zero]
  rintro k -
  simp [StandsAt]

theorem standCount_le (fs : List String) (w : String) : standCount fs w ≤ fs.length := by
  simpa [standCount] using List.countP_le_length (l := List.range fs.length)

theorem toNat_count_ofFragments {fs : List String} (h : fs.length < 2 ^ 64) (w : String) :
    ((ofFragments fs).count w).toNat = standCount fs w := by
  have hle := standCount_le fs w
  rw [count_ofFragments, UInt64.toNat_ofNat', Nat.mod_eq_of_lt (by omega)]

/-- The bag counts where a word stands, has no other words, and is what the cursor comes to the end
with. -/
theorem ofFragments_standing (fs : List String) (w : String) :
    (ofFragments fs).count w = UInt64.ofNat (standCount fs w) ∧
      (fs.length < 2 ^ 64 → ((ofFragments fs).count w).toNat = standCount fs w) ∧
      (w ∈ (ofFragments fs).words ↔ 0 < standCount fs w) ∧
      "" ∉ (ofFragments fs).words ∧
      ∀ n, fs.length ≤ n →
        (Cursor.start.run fs n).step fs = none ∧ (Cursor.start.run fs n).bag = ofFragments fs := by
  refine ⟨count_ofFragments fs w, fun h => ?_, mem_words_ofFragments, ?_, fun n hn => ?_⟩
  · have hle := standCount_le fs w
    rw [count_ofFragments, UInt64.toNat_ofNat']
    exact Nat.mod_eq_of_lt (by omega)
  · rw [mem_words_ofFragments, standCount_empty]
    exact lt_irrefl 0
  · obtain ⟨hend, hbag, -⟩ := Cursor.run_start fs hn
    exact ⟨hend, hbag⟩

theorem ofFragments_standing_shredded :
    ["a", "", "b", "c", "dog", "e"].length < 2 ^ 64 ∧
      ((ofFragments ["a", "", "b", "c", "dog", "e"]).count "e").toNat = 1 ∧
      ["a", "", "b", "c", "dog", "e"].length ≤ 6 ∧
      (Cursor.start.run ["a", "", "b", "c", "dog", "e"] 6).step
          ["a", "", "b", "c", "dog", "e"] = none ∧
      (Cursor.start.run ["a", "", "b", "c", "dog", "e"] 6).bag =
        ofFragments ["a", "", "b", "c", "dog", "e"] := by
  have hshort : ["a", "", "b", "c", "dog", "e"].length < 2 ^ 64 := by decide
  have hturns : ["a", "", "b", "c", "dog", "e"].length ≤ 6 := by decide
  obtain ⟨-, hcount, -, -, hend⟩ := ofFragments_standing ["a", "", "b", "c", "dog", "e"] "e"
  refine ⟨hshort, ?_, hturns, hend 6 hturns⟩
  rw [hcount hshort]
  decide

end Fidelity.Bag
