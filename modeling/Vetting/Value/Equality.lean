import Vetting.Value.Basic

/-!
# Equality of values

Numbers are equal by value whatever their kind, containers item by item, and
dictionaries without regard to the order of their entries. Anything else of two
kinds differs. A signalling NaN that is met on the way is an error, and no NaN is
equal to anything, itself included.

Values are what they say and have no identity: two items are equal by what they are, never because
they are the very same. So a list with a NaN in it differs from itself, too.
-/
namespace Vetting
open Number

/-- Equality of numbers, undefined with a signalling NaN. -/
def Number.equal (a b : Number) : Except Fault Bool :=
  match a, b with
  | .decimal (.signalNaN ..), _ => .error .noResult
  | _, .decimal (.signalNaN ..) => .error .noResult
  | _, _ => .ok (a.order? b == some .eq)

namespace Value

def equalsNumber (a : Number) (w : Value) : Except Fault Bool :=
  match w.number? with
  | some b => a.equal b
  | none => .ok false

/-- Whether a test holds of a member, the first members being tried first. -/
def holdsOfOne (test : Value → Except Fault Bool) : List Value → Except Fault Bool
  | [] => .ok false
  | y :: ys => do
      if ← test y then .ok true else holdsOfOne test ys

/-- Whether a test holds of the value under the key that another test picks out. -/
def holdsUnder (key test : Value → Except Fault Bool) :
    List (Value × Value) → Except Fault Bool
  | [] => .ok false
  | (l, w) :: rest => do
      if ← key l then test w else holdsUnder key test rest

mutual
/-- Equality by what two values are, down to the items of containers. An item that is the very
same object in both is no more equal for that. -/
def equal : Value → Value → Except Fault Bool
  | .null, w => .ok w.isNull
  | .bool a, w => equalsNumber (.int (if a then 1 else 0)) w
  | .int a, w => equalsNumber (.int a) w
  | .float a, w => equalsNumber (.binary a) w
  | .decimal a, w => equalsNumber (.decimal a) w
  | .date a, w => match w with
    | .date b => .ok (a == b)
    | _ => .ok false
  | .moment a, w => match w with
    | .moment b => .ok (a.offset.isSome == b.offset.isSome && a.toKey == b.toKey)
    | _ => .ok false
  | .bytes a, w => match w with
    | .bytes b => .ok (a == b)
    | _ => .ok false
  | .text a, w => match w with
    | .text b => .ok (a == b)
    | _ => .ok false
  | .list xs, w => match w with
    | .list ys => if xs.length = ys.length then equalItems xs ys else .ok false
    | _ => .ok false
  | .tuple xs, w => match w with
    | .tuple ys => do
        if ← equalItems xs ys then .ok (xs.length == ys.length) else .ok false
    | _ => .ok false
  | .set xs, w => match w with
    | .set ys => if xs.length = ys.length then containedIn xs ys else .ok false
    | _ => .ok false
  | .dict es, w => match w with
    | .dict fs => if es.length = fs.length then equalEntries es fs else .ok false
    | _ => .ok false

/-- Item by item, as far as the shorter list goes. -/
def equalItems : List Value → List Value → Except Fault Bool
  | [], _ => .ok true
  | x :: xs, ws => match ws with
    | [] => .ok true
    | y :: ys => do
        if ← equal x y then equalItems xs ys else .ok false

/-- Whether every value of the first list equals one of the second. -/
def containedIn : List Value → List Value → Except Fault Bool
  | [], _ => .ok true
  | x :: xs, ys => do
      if ← holdsOfOne (equal x) ys then containedIn xs ys else .ok false

/-- Whether every entry of the first list has its key in the second with an equal value. -/
def equalEntries : List (Value × Value) → List (Value × Value) → Except Fault Bool
  | [], _ => .ok true
  | (k, v) :: es, fs => do
      if ← holdsUnder (equal k) (equal v) fs then equalEntries es fs else .ok false
end

/-- Whether two values that may be one and the same container differ. A container is
never taken to differ from itself, whatever it holds. -/
def differs (same : Bool) (v w : Value) : Except Fault Bool :=
  match same, v with
  | true, .list _ => .ok false
  | true, .tuple _ => .ok false
  | true, .set _ => .ok false
  | true, .dict _ => .ok false
  | _, _ => (v.equal w).map (!·)

def isHashable : Value → Bool
  | .list _ => false
  | .set _ => false
  | .dict _ => false
  | .decimal d => !d.isSignal
  | .tuple xs => hashableItems xs
  | _ => true
where
  hashableItems : List Value → Bool
    | [] => true
    | x :: xs => isHashable x && hashableItems xs

def sameKey (a b : Value) : Bool := (a.equal b).toOption.getD false

def lookup (k : Value) : List (Value × Value) → Option Value
  | [] => none
  | (l, w) :: rest => if sameKey k l then some w else lookup k rest

/-- Puts a value under a key; a key that is there already keeps its place and its form. -/
def insert (k v : Value) : List (Value × Value) → List (Value × Value)
  | [] => [(k, v)]
  | (l, w) :: rest => if sameKey k l then (l, v) :: rest else (l, w) :: insert k v rest

/-- Text is the same key as itself only. -/
theorem sameKey_text {s : String} {w : Value} : sameKey (.text s) w = true ↔ w = .text s := by
  cases w with
  | text t => simp [sameKey,equal,Except.toOption,@eq_comm _ s]
  | _ => simp [sameKey,equal,Except.toOption]

theorem sameKey_int_self (n : Int) : sameKey (.int n) (.int n) = true := by
  simp [sameKey,equal,equalsNumber,number?,Number.equal,Number.order?,
    Except.toOption]

/-- What is the same key as an integer is a number that equals it. -/
theorem order?_of_sameKey_int {n : Int} {w : Value} (h : sameKey (.int n) w = true) :
    ∃ c, w.number? = some c ∧ (Number.int n).order? c = some .eq := by
  unfold sameKey equal equalsNumber at h
  cases hw : w.number? with
  | none =>
      rw [hw] at h
      cases h
  | some c =>
      rw [hw] at h
      refine ⟨c,rfl,?_⟩
      unfold Number.equal at h
      dsimp only at h
      split at h
      · rename_i heq
        cases heq
      · cases h
      · simpa [Except.toOption] using h

/-- Keys that no third value is the same key as. -/
def Distinct (k l : Value) : Prop := ∀ m, sameKey k m = true → sameKey l m = false

theorem Distinct.symm {k l : Value} (h : Distinct k l) : Distinct l k := by
  intro m hm
  cases hk : sameKey k m with
  | false => rfl
  | true =>
      rw [h m hk] at hm
      cases hm

theorem distinct_texts {s t : String} (h : s ≠ t) : Distinct (.text s) (.text t) := by
  intro m hm
  rw [sameKey_text] at hm
  rw [hm,Bool.eq_false_iff,ne_eq,sameKey_text]
  exact fun he => h (Value.text.inj he)

theorem distinct_text_int (s : String) (n : Int) : Distinct (.text s) (.int n) := by
  intro m hm
  rw [sameKey_text] at hm
  simp [hm,sameKey,equal,equalsNumber,number?,Except.toOption]

theorem distinct_ints {n m : Int} (h : n ≠ m) : Distinct (.int n) (.int m) := by
  intro k hk
  rw [Bool.eq_false_iff]
  intro hm
  obtain ⟨c,hc,hn⟩ := order?_of_sameKey_int hk
  obtain ⟨d,hd,hm⟩ := order?_of_sameKey_int hm
  rw [hc] at hd
  cases hd
  exact h (Number.int_eq_of_order? hn hm)

variable {k l u v : Value} {es : List (Value × Value)}

theorem lookup_insert_self (hk : sameKey k k = true) (v : Value) (es : List (Value × Value)) :
    lookup k (insert k v es) = some v := by
  induction es with
  | nil => simp [insert,lookup,hk]
  | cons e rest ih =>
      simp only [insert]
      split
      · rename_i h
        simp [lookup,h]
      · rename_i h
        simp [lookup,h,ih]

theorem Distinct.sameKey_eq_false (h : Distinct k l) (hl : sameKey l l = true) :
    sameKey k l = false := by
  rw [Bool.eq_false_iff]
  intro hk
  rw [h l hk] at hl
  cases hl

/-- An entry does not show under a distinct key. -/
theorem lookup_insert_of_distinct (h : Distinct k l) (hl : sameKey l l = true) (v : Value)
    (es : List (Value × Value)) : lookup k (insert l v es) = lookup k es := by
  induction es with
  | nil => simp [insert,lookup,h.sameKey_eq_false hl]
  | cons e rest ih =>
      simp only [insert]
      split
      · rename_i hm
        simp [lookup,h.symm _ hm]
      · simp only [lookup,ih]

/-- The last value put under a key counts. -/
theorem insert_insert_self (hk : sameKey k k = true) (u v : Value)
    (es : List (Value × Value)) : insert k v (insert k u es) = insert k v es := by
  induction es with
  | nil => simp [insert,hk]
  | cons e rest ih =>
      simp only [insert]
      split
      · rename_i h
        simp [insert,h]
      · rename_i h
        simp [insert,h,ih]

/-- Entries under distinct keys can be put in either order, but for their places. -/
theorem insert_insert_perm (h : Distinct k l) (hk : sameKey k k = true)
    (hl : sameKey l l = true) (u v : Value) (es : List (Value × Value)) :
    (insert k u (insert l v es)).Perm (insert l v (insert k u es)) := by
  induction es with
  | nil =>
      simp only [insert,h.sameKey_eq_false hl,h.symm.sameKey_eq_false hk]
      exact List.Perm.swap _ _ _
  | cons e rest ih =>
      cases hek : sameKey k e.1 with
      | true => simp [insert,hek,h e.1 hek]
      | false =>
          cases hel : sameKey l e.1 with
          | true => simp [insert,hek,hel]
          | false =>
              have hkl := ih.cons e
              simpa [insert,hek,hel] using hkl

end Value

end Vetting
