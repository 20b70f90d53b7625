/-!
# Rounding a quotient

One quotient of natural numbers and one tie rule. All rounding in the library goes
through `roundDiv`; what differs between formats is the tie rule and the scale.
-/
namespace Vetting.Number

/-- Where a quotient that lies exactly half way between two numbers goes. -/
inductive Tie where
  | up
  | down
  | even
  deriving DecidableEq, Repr

/-- Whether a quotient with this floor and remainder is taken to the next number. -/
def Tie.carries (t : Tie) (q r d : Nat) : Bool :=
  if 2 * r < d then false
  else if d < 2 * r then true
  else match t with
    | .up => true
    | .down => false
    | .even => q % 2 == 1

def roundDiv (t : Tie) (n d : Nat) : Nat :=
  if t.carries (n / d) (n % d) d then n / d + 1 else n / d

def bitLength (n : Nat) : Nat := if n = 0 then 0 else n.log2 + 1

theorem roundDiv_one (t : Tie) (n : Nat) : roundDiv t n 1 = n := by
  simp [roundDiv,Tie.carries,Nat.mod_one]

/-- Never more than half a unit away. -/
theorem roundDiv_near (t : Tie) (n d : Nat) (hd : 0 < d) :
    2 * (d * roundDiv t n d) ≤ 2 * n + d ∧ 2 * n ≤ 2 * (d * roundDiv t n d) + d := by
  have h := Nat.div_add_mod n d
  have hr := Nat.mod_lt n hd
  unfold roundDiv
  by_cases hc : t.carries (n / d) (n % d) d = true
  · have hge : d ≤ 2 * (n % d) := by
      simp only [Tie.carries] at hc
      split at hc
      · simp at hc
      · omega
    simp only [hc,if_true,Nat.mul_add,Nat.mul_one]
    omega
  · have hle : 2 * (n % d) ≤ d := by
      simp only [Tie.carries] at hc
      split at hc
      · omega
      · split at hc
        · simp at hc
        · omega
    simp only [hc]
    simp only [Bool.false_eq_true,if_false]
    omega

end Vetting.Number
