import Fidelity.Unicode.ClusterTable

/-! Grapheme clusters: the pieces of a text that a reader takes for one character. Whether a cut may
stand before a character follows from that character and from a short summary of what comes before
it. Main statement: the clusters of a text, put end to end, are the text. -/
namespace Fidelity.Unicode

inductive ClusterClass where
  | carriageReturn | lineFeed | control | extend | joiner | spacingMark | prepend
  | regional | leading | vowel | trailing | openSyllable | closedSyllable | other
deriving DecidableEq, Repr

def syllableClass (n : Nat) : ClusterClass :=
  if (n - 0xAC00) % 28 = 0 then .openSyllable else .closedSyllable

def isLeadingJamo (n : Nat) : Bool := Ranges.contains [(0x1100, 0x115F), (0xA960, 0xA97C)] n

def isVowelJamo (n : Nat) : Bool :=
  Ranges.contains [(0x1160, 0x11A7), (0xD7B0, 0xD7C6), (0x16D63, 0x16D63), (0x16D67, 0x16D6A)] n

def isTrailingJamo (n : Nat) : Bool := Ranges.contains [(0x11A8, 0x11FF), (0xD7CB, 0xD7FB)] n

def clusterClass (c : Char) : ClusterClass :=
  let n := c.toNat
  if n = 0x0D then .carriageReturn
  else if n = 0x0A then .lineFeed
  else if n = 0x200D then .joiner
  else if 0xAC00 ≤ n ∧ n ≤ 0xD7A3 then syllableClass n
  else if 0x1F1E6 ≤ n ∧ n ≤ 0x1F1FF then .regional
  else if isLeadingJamo n then .leading
  else if isVowelJamo n then .vowel
  else if isTrailingJamo n then .trailing
  else if controlRanges.contains n then .control
  else if extendRanges.contains n then .extend
  else if spacingMarkRanges.contains n then .spacingMark
  else if prependRanges.contains n then .prepend
  else .other

def isPictograph (c : Char) : Bool := pictographRanges.contains c.toNat

def isConjunctConsonant (c : Char) : Bool := conjunctConsonantRanges.contains c.toNat

def isConjunctLinker (c : Char) : Bool := conjunctLinkerRanges.contains c.toNat

/-- Marks that a conjunct may hold between its consonants besides linkers: all that extend a cluster,
the joiner among them and the non-joiner not. -/
def isConjunctExtend (c : Char) : Bool :=
  c.toNat = 0x200D || (c.toNat != 0x200C && extendRanges.contains c.toNat)

inductive Pictograph where
  | absent | present | joined
deriving DecidableEq, Repr

inductive Conjunct where
  | absent | consonant | linked
deriving DecidableEq, Repr

/-- What has to be known of the text before a cut. `regionalOdd` tells whether it ends in an odd number
of regional indicators. -/
structure Context where
  last : ClusterClass
  regionalOdd : Bool
  pictograph : Pictograph
  conjunct : Conjunct
deriving DecidableEq, Repr

def Pictograph.next (p : Pictograph) (c : Char) (k : ClusterClass) : Pictograph :=
  if isPictograph c then .present
  else match p, k with
    | .present, .extend => .present
    | .present, .joiner => .joined
    | _, _ => .absent

def Conjunct.next (s : Conjunct) (c : Char) : Conjunct :=
  if isConjunctConsonant c then .consonant
  else match s with
    | .absent => .absent
    | s =>
      if isConjunctLinker c then .linked
      else if isConjunctExtend c then s
      else .absent

def Context.next (x : Context) (c : Char) : Context :=
  let k := clusterClass c
  ⟨k, k == .regional && !x.regionalOdd, x.pictograph.next c k, x.conjunct.next c⟩

def Context.start : Context := ⟨.control, false, .absent, .absent⟩

def ClusterClass.standsAlone : ClusterClass → Bool
  | .carriageReturn | .lineFeed | .control => true
  | _ => false

def ClusterClass.syllableJoins : ClusterClass → ClusterClass → Bool
  | .leading, .leading | .leading, .vowel | .leading, .openSyllable | .leading, .closedSyllable => true
  | .openSyllable, .vowel | .openSyllable, .trailing => true
  | .vowel, .vowel | .vowel, .trailing => true
  | .closedSyllable, .trailing | .trailing, .trailing => true
  | _, _ => false

def Context.joins (x : Context) (c : Char) : Bool :=
  let k := clusterClass c
  if x.last = .carriageReturn ∧ k = .lineFeed then true
  else if x.last.standsAlone || k.standsAlone then false
  else x.last.syllableJoins k
    || k == .extend || k == .joiner || k == .spacingMark
    || x.last == .prepend
    || (x.conjunct == .linked && isConjunctConsonant c)
    || (x.pictograph == .joined && isPictograph c)
    || (x.regionalOdd && k == .regional)

def clustersFrom (x : Context) (held : List Char) : List Char → List (List Char)
  | [] => [held.reverse]
  | c :: rest =>
    if x.joins c then clustersFrom (x.next c) (c :: held) rest
    else held.reverse :: clustersFrom (x.next c) [c] rest

def clusters : List Char → List (List Char)
  | [] => []
  | c :: rest => clustersFrom (Context.start.next c) [c] rest

theorem flatten_clustersFrom (x : Context) (held s : List Char) :
    (clustersFrom x held s).flatten = held.reverse ++ s := by
  induction s generalizing x held with
  | nil => simp [clustersFrom]
  | cons c rest ih =>
    simp only [clustersFrom]
    split <;> simp [ih]

theorem flatten_clusters (s : List Char) : (clusters s).flatten = s := by
  cases s with
  | nil => rfl
  | cons c rest => simp [clusters, flatten_clustersFrom]

theorem clusters_injective {s t : List Char} (h : clusters s = clusters t) : s = t := by
  rw [← flatten_clusters s, ← flatten_clusters t, h]

end Fidelity.Unicode
