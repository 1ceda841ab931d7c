/-!
# Bags of words

A bag gives every word a count. Its entries stand in no particular order and hold each word at most
once; a word that is not among them counts zero, and an entry may count zero too. Main statements: adding
a word raises its own count by one and no other.
-/
namespace Fidelity

structure Bag where
  entries : List (String × UInt64)
  nodup : (entries.map Prod.fst).Nodup

namespace Bag

def empty : Bag := ⟨[], .nil⟩

def words (b : Bag) : List String := b.entries.map Prod.fst

def count (b : Bag) (w : String) : UInt64 := (b.entries.lookup w).getD 0

def total (b : Bag) : UInt64 := (b.entries.map Prod.snd).foldl (· + ·) 0

def updateEntries (w : String) (f : UInt64 → UInt64) : List (String × UInt64) → List (String × UInt64)
  | [] => [(w, f 0)]
  | (v, n) :: rest => if v = w then (v, f n) :: rest else (v, n) :: updateEntries w f rest

theorem mem_words_updateEntries {w v : String} {f : UInt64 → UInt64} {es : List (String × UInt64)} :
    v ∈ (updateEntries w f es).map Prod.fst ↔ v = w ∨ v ∈ es.map Prod.fst := by
  induction es with
  | nil => simp [updateEntries]
  | cons e rest ih =>
    obtain ⟨u, n⟩ := e
    by_cases h : u = w
    · subst h
      simp [updateEntries]
    · simp only [updateEntries, if_neg h, List.map_cons, List.mem_cons, ih]
      constructor <;> rintro (h | h | h) <;> simp [h]

theorem nodup_updateEntries {w : String} {f : UInt64 → UInt64} {es : List (String × UInt64)}
    (h : (es.map Prod.fst).Nodup) : ((updateEntries w f es).map Prod.fst).Nodup := by
  induction es with
  | nil => simp [updateEntries]
  | cons e rest ih =>
    obtain ⟨u, n⟩ := e
    simp only [List.map_cons, List.nodup_cons] at h
    by_cases hu : u = w
    · subst hu
      simpa [updateEntries] using h
    · simp only [updateEntries, if_neg hu, List.map_cons, List.nodup_cons]
      refine ⟨?_, ih h.2⟩
      rw [mem_words_updateEntries]
      rintro (h' | h')
      · exact hu h'
      · exact h.1 h'

theorem lookup_updateEntries (w v : String) (f : UInt64 → UInt64) (es : List (String × UInt64)) :
    ((updateEntries w f es).lookup v).getD 0
      = if v = w then f ((es.lookup w).getD 0) else (es.lookup v).getD 0 := by
  induction es with
  | nil =>
    by_cases h : v = w
    · simp [updateEntries, h]
    · have : (v == w) = false := by simpa using h
      simp [updateEntries, h, List.lookup_cons, this]
  | cons e rest ih =>
    obtain ⟨u, n⟩ := e
    by_cases hu : u = w
    · subst hu
      by_cases h : v = u
      · subst h
        simp [updateEntries]
      · have : (v == u) = false := by simpa using h
        simp [updateEntries, List.lookup_cons, this, h]
    · have hwu : (w == u) = false := by simpa using fun h => hu h.symm
      by_cases hv : v = u
      · subst hv
        have : ¬ v = w := hu
        simp [updateEntries, hu]
      · have hvu : (v == u) = false := by simpa using hv
        simp only [updateEntries, if_neg hu, List.lookup_cons, hvu, hwu]
        exact ih

def update (b : Bag) (w : String) (f : UInt64 → UInt64) : Bag :=
  ⟨updateEntries w f b.entries, nodup_updateEntries b.nodup⟩

def add (b : Bag) (w : String) : Bag := b.update w (· + 1)

def insert (b : Bag) (w : String) (n : UInt64) : Bag := b.update w fun _ => n

def ofWords (ws : List String) : Bag := ws.foldl add empty

/-- The bag of a list of entries; the last entry of a word counts. -/
def ofEntries (es : List (String × UInt64)) : Bag := es.foldl (fun b e => b.insert e.1 e.2) empty

def sorted (b : Bag) : List (String × UInt64) := b.entries.mergeSort fun x y => decide (x.1 ≤ y.1)

@[simp] theorem count_empty (w : String) : empty.count w = 0 := rfl

theorem count_update (b : Bag) (w v : String) (f : UInt64 → UInt64) :
    (b.update w f).count v = if v = w then f (b.count w) else b.count v :=
  lookup_updateEntries w v f b.entries

theorem count_add (b : Bag) (w v : String) :
    (b.add w).count v = if v = w then b.count w + 1 else b.count v :=
  count_update b w v _

theorem count_insert (b : Bag) (w v : String) (n : UInt64) :
    (b.insert w n).count v = if v = w then n else b.count v :=
  count_update b w v _

theorem count_eq_zero_of_notMem {b : Bag} {w : String} (h : w ∉ b.words) : b.count w = 0 := by
  have : b.entries.lookup w = none := by
    rw [List.lookup_eq_none_iff]
    intro e he
    have : e.1 ∈ b.words := List.mem_map_of_mem he
    have hne : w ≠ e.1 := fun heq => h (heq ▸ this)
    simpa using hne
  simp [count, this]

theorem mem_words_update {b : Bag} {w v : String} {f : UInt64 → UInt64} :
    v ∈ (b.update w f).words ↔ v = w ∨ v ∈ b.words :=
  mem_words_updateEntries

theorem sorted_perm (b : Bag) : b.sorted.Perm b.entries := List.mergeSort_perm ..

end Bag
end Fidelity
