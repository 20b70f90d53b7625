/-!
# Punycode

Texts of all scripts written in ASCII: the characters of ASCII first, a hyphen, and then
one number for each other character. Sorted by code point and position, the characters
are inserted one after the other, and the number says how many places for insertion lie
between one and the next, counting all places once for every code point.

A number is written with its least digit first, in digits whose base depends on their
place and on a bias. The bias follows the size of the numbers so far.

`readNumber_length` is what makes reading end: every number takes at least a digit.
-/
namespace Vetting.Address.Punycode

def digitChar (n : Nat) : Char := Char.ofNat (if n < 26 then 97 + n else 22 + n)

def digitValue? (c : Char) : Option Nat :=
  if 'a' ≤ c ∧ c ≤ 'z' then some (c.toNat - 97)
  else if 'A' ≤ c ∧ c ≤ 'Z' then some (c.toNat - 65)
  else if '0' ≤ c ∧ c ≤ '9' then some (c.toNat - 22)
  else none

/-- The digits below this number end a number. It depends on 36 times the digit's place. -/
def threshold (bias place : Nat) : Nat := max 1 (min 26 (place - bias))

theorem threshold_bounds (bias place : Nat) :
    1 ≤ threshold bias place ∧ threshold bias place ≤ 26 := by
  unfold threshold
  omega

def writeNumber (bias place n : Nat) : List Char :=
  let t := threshold bias place
  if n < t then [digitChar n]
  else digitChar (t + (n - t) % (36 - t)) :: writeNumber bias (place + 36) ((n - t) / (36 - t))
termination_by n
decreasing_by
  have h := threshold_bounds bias place
  exact Nat.lt_of_le_of_lt (Nat.div_le_self _ _) (by omega)

/-- Reads a number on from a digit with a weight, having read a part of it. -/
def readNumber (bias : Nat) : Nat → Nat → Nat → List Char → Option (Nat × List Char)
  | _, _, _, [] => none
  | place, weight, sum, c :: rest =>
      match digitValue? c with
      | none => none
      | some d =>
          let t := threshold bias place
          if d < t then some (sum + d * weight, rest)
          else readNumber bias (place + 36) (weight * (36 - t)) (sum + d * weight) rest

theorem readNumber_length {bias place weight sum : Nat} {s : List Char} {r : Nat × List Char}
    (h : readNumber bias place weight sum s = some r) : r.2.length < s.length := by
  induction s generalizing place weight sum with
  | nil => simp [readNumber] at h
  | cons c rest ih =>
      simp only [readNumber] at h
      split at h
      · simp at h
      · split at h
        · simp only [Option.some.injEq] at h
          simp [← h]
        · have hr := ih h
          simp only [List.length_cons]
          omega

def scaleDown (n k : Nat) : Nat × Nat :=
  if 455 < n then scaleDown (n / 35) (k + 36) else (n, k)
termination_by n
decreasing_by omega

/-- The bias after a number, with the count of characters then there. -/
def adapt (n count : Nat) (first : Bool) : Nat :=
  let halved := if first then n / 700 else n / 2
  let r := scaleDown (halved + halved / count) 0
  r.2 + 36 * r.1 / (r.1 + 38)

def initialBias : Nat := 72

/-- The places that are passed in a text up to each occurrence of a code point and after
the last one. -/
def passedBefore (m gap : Nat) : List Char → List Nat × Nat
  | [] => ([], gap)
  | c :: rest =>
      if c.toNat < m then passedBefore m (gap + 1) rest
      else if c.toNat = m then
        let r := passedBefore m 0 rest
        (gap :: r.1, r.2)
      else passedBefore m gap rest

/-- The numbers for code points in increasing order, none of them below `n`. -/
def differences (s : List Char) : Nat → Nat → List Nat → List Nat
  | _, _, [] => []
  | n, gap, m :: ms =>
      let smaller := s.countP fun c => c.toNat < m
      let r := passedBefore m (gap + (m - n) * (smaller + 1)) s
      r.1 ++ differences s (m + 1) (r.2 + 1) ms

def isBasic (c : Char) : Bool := c.toNat < 128

def writeNumbers (bias count : Nat) (first : Bool) : List Nat → List Char
  | [] => []
  | n :: ns =>
      writeNumber bias 36 n ++ writeNumbers (adapt n (count + 1) first) (count + 1) false ns

def encode (s : List Char) : List Char :=
  let basic := s.filter isBasic
  let others := (((s.filter fun c => !isBasic c).map Char.toNat).mergeSort).eraseDups
  basic ++ (if basic.isEmpty then [] else ['-']) ++
    writeNumbers initialBias basic.length true (differences s 128 0 others)

/-- Inserts the characters that numbers stand for. `n` and `place` are the code point and
the place reached. -/
def insertAll (bias n place : Nat) (first : Bool) (s : List Char) (numbers : List Char) :
    Option (List Char) :=
  if numbers.isEmpty then some s
  else
    match _h : readNumber bias 36 1 0 numbers with
    | none => none
    | some (d, rest) =>
        let count := s.length + 1
        let m := n + (place + d) / count
        let spot := (place + d) % count
        if m.isValidChar then
          insertAll (adapt d count first) m (spot + 1) false
            (s.take spot ++ Char.ofNat m :: s.drop spot) rest
        else none
termination_by numbers.length
decreasing_by exact readNumber_length (by assumption)

def decode? (s : List Char) : Option (List Char) :=
  let numbers := (s.reverse.takeWhile (· != '-')).reverse
  let basic := (s.take (s.length - numbers.length)).dropLast
  insertAll initialBias 128 0 true basic numbers

end Vetting.Address.Punycode
