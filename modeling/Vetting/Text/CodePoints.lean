/-!
# Sets and mappings of code points

A set is kept as the increasing list of bounds at which membership changes, so a
code point belongs to it exactly when an odd number of bounds lie at or below the
point. A mapping is an increasing list of keys beside the sequences they go to.

Both are written in modules as lines of hexadecimal numbers parted by blanks, each
the distance from the one before it. The reader of those lines makes no claim about
what the numbers mean.
-/
namespace Vetting.Text

/-- Increasing bounds at which membership changes, from outside to inside first. -/
structure Runs where
  bounds : Array Nat

/-- Number of entries at or below a point between two indexes of an increasing array. -/
def countUpTo (xs : Array Nat) (n : Nat) (lo hi : Nat) : Nat :=
  if h : lo < hi then
    let mid := (lo + hi) / 2
    if xs.getD mid 0 ≤ n then countUpTo xs n (mid + 1) hi
    else countUpTo xs n lo mid
  else lo
termination_by hi - lo
decreasing_by all_goals omega

def Runs.contains (r : Runs) (n : Nat) : Bool :=
  countUpTo r.bounds n 0 r.bounds.size % 2 == 1

/-- Increasing keys with the sequence each one is sent to. -/
structure Mapping where
  keys : Array Nat
  images : Array (List Nat)

def Mapping.find? (m : Mapping) (n : Nat) : Option (List Nat) :=
  let i := countUpTo m.keys n 0 m.keys.size
  if 0 < i ∧ m.keys.getD (i - 1) 0 = n then m.images[i - 1]? else none

def hexValue (c : Char) : Nat :=
  if '0' ≤ c ∧ c ≤ '9' then c.toNat - 48
  else if 'a' ≤ c ∧ c ≤ 'f' then c.toNat - 87
  else 0

/-- The state of reading distances: what is done, the running sum, the open number. -/
structure DistanceReader where
  sums : Array Nat
  total : Nat
  current : Nat

def DistanceReader.close (r : DistanceReader) : DistanceReader :=
  ⟨r.sums.push (r.total + r.current), r.total + r.current, 0⟩

def DistanceReader.step (r : DistanceReader) (c : Char) : DistanceReader :=
  if c = ' ' then r.close else { r with current := r.current * 16 + hexValue c }

def DistanceReader.line (r : DistanceReader) (s : String) : DistanceReader :=
  (s.toList.foldl step r).close

def Runs.ofDistances (lines : List String) : Runs :=
  ⟨(lines.foldl DistanceReader.line ⟨#[], 0, 0⟩).sums⟩

/-- The state of reading a mapping: an entry is a key distance and then its image. -/
structure EntryReader where
  keys : Array Nat
  images : Array (List Nat)
  total : Nat
  fields : List Nat
  current : Nat

def EntryReader.close (r : EntryReader) : EntryReader :=
  match (r.current :: r.fields).reverse with
  | [] => r
  | k :: image => ⟨r.keys.push (r.total + k), r.images.push image, r.total + k, [], 0⟩

def EntryReader.step (r : EntryReader) (c : Char) : EntryReader :=
  if c = ' ' then r.close
  else if c = '.' then { r with fields := r.current :: r.fields, current := 0 }
  else { r with current := r.current * 16 + hexValue c }

def EntryReader.line (r : EntryReader) (s : String) : EntryReader :=
  (s.toList.foldl step r).close

def Mapping.ofEntries (lines : List String) : Mapping :=
  let r := lines.foldl EntryReader.line ⟨#[], #[], 0, [], 0⟩
  ⟨r.keys, r.images⟩

end Vetting.Text
