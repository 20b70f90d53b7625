import Vetting.Proofs.Number.Significant
import Vetting.Proofs.Rules.Binding
import Vetting.Proofs.Rules.Contract
import Vetting.Proofs.Value.Floating

/-!
# Rules that round

Whatever comes to a binary number can be rounded: to the integer below or above, and to as many
places as decimals have. The result is a binary number again, and what is no finite number is
left as it is.
-/
namespace Vetting.Rules
open Number
variable {mail : MailReader}

/-- The numbers of places that there are units for. -/
def Placeable (places : Int) : Prop :=
  -Decimal.largestExponent ≤ places ∧ places ≤ placesLimit

section
variable {x : Binary64} {places q e : Int} {negative : Bool} {c : Nat} {tie : Tie}

theorem unitExponent_cases (places : Int) :
    (Placeable places ∧ ∃ e, unitExponent places = .ok e ∧ -places ≤ e ∧
      Decimal.leastExponent 28 ≤ e ∧ e ≤ Decimal.largestExponent) ∨
      ¬ Placeable places ∧ ∃ f, unitExponent places = .error f := by
  unfold unitExponent Placeable
  by_cases hlimit : placesLimit < places.natAbs
  · refine Or.inr ⟨?_,_,if_pos hlimit⟩
    rw [placesLimit,Decimal.largestExponent] at *
    omega
  · rw [if_neg hlimit]
    by_cases hrange : places < -Decimal.largestExponent
    · exact Or.inr ⟨fun h => absurd h.1 (not_le.mpr hrange),_,if_pos hrange⟩
    · rw [if_neg hrange]
      refine Or.inl ⟨⟨not_lt.mp hrange,?_⟩,_,rfl,le_max_left _ _,le_max_right _ _,?_⟩
      · omega
      · rw [Decimal.largestExponent] at *
        omega

theorem le_roundingPrecision (d : Decimal) (places : Int) :
    28 ≤ roundingPrecision d places ∧ d.adjusted + places + 1 ≤ roundingPrecision d places := by
  rw [roundingPrecision]
  omega

theorem leastExponent_roundingPrecision_le (d : Decimal) (places : Int) :
    Decimal.leastExponent (roundingPrecision d places) ≤ Decimal.leastExponent 28 := by
  have hprecision := (le_roundingPrecision d places).1
  rw [Decimal.leastExponent,Decimal.leastExponent]
  omega

theorem isFinite_ofShortest (x : Binary64) : (Decimal.ofShortest x).isFinite = x.isFinite := by
  cases x with
  | finite negative m e =>
      rw [Decimal.ofShortest]
      split <;> rfl
  | _ => rfl

theorem roundDecimal_of_unbounded (h : x.isFinite = false) (tie : Tie) (places : Int) :
    roundDecimal tie places (Decimal.ofShortest x) = .ok x := by
  cases x with
  | finite => cases h
  | _ => rfl

/-- The precision is enough for numbers of few digits and all exponents from that of the unit on. -/
theorem quantize_roundingPrecision (tie : Tie) (hdigits : digitCount c ≤ 17)
    (hrange : 0 < c → (Decimal.finite negative c q).adjusted < Decimal.largestExponent)
    (hplaces : -places ≤ e) (hleast : Decimal.leastExponent 28 ≤ e)
    (hlargest : e ≤ Decimal.largestExponent) :
    (Decimal.finite negative c q).quantize tie
        (roundingPrecision (.finite negative c q) places) e =
      some (.finite negative (Decimal.shifted tie c (q - e)) e) := by
  have hprecision := le_roundingPrecision (.finite negative c q) places
  rw [Decimal.adjusted] at hrange hprecision
  refine Decimal.quantize_eq tie ((leastExponent_roundingPrecision_le _ places).trans hleast)
    hlargest (by omega) (by omega) fun hc => ?_
  have := hrange hc
  omega

theorem roundDecimal_eq {r : Nat} (he : unitExponent places = .ok e)
    (hround : (Decimal.finite negative c q).quantize tie
      (roundingPrecision (.finite negative c q) places) e = some (.finite negative r e)) :
    roundDecimal tie places (.finite negative c q) = .ok (Binary64.ofScaled negative r e) := by
  rw [roundDecimal,Decimal.isFinite,if_pos rfl,he]
  dsimp only [Bind.bind,Except.bind]
  rw [hround]
  rfl

/-- Decimals of binary numbers have few digits and lie below the largest exponent. -/
theorem ofShortest_within (hx : x.InFormat) (hd : Decimal.ofShortest x = .finite negative c q) :
    digitCount c ≤ 17 ∧
      (0 < c → (Decimal.finite negative c q).adjusted < Decimal.largestExponent) := by
  refine ⟨Decimal.digitCount_ofShortest_le hx hd,fun hc => ?_⟩
  have hplace := Decimal.place_le hc (Decimal.ofShortest_lt hx hd)
  rw [Decimal.adjusted,Decimal.largestExponent]
  omega

/-- A number of the format can be rounded to all places that there are units for. -/
theorem exists_roundDecimal (hx : x.InFormat) (tie : Tie) (hp : Placeable places) :
    ∃ y, roundDecimal tie places (Decimal.ofShortest x) = .ok y := by
  cases hd : Decimal.ofShortest x with
  | finite negative c q =>
      rcases unitExponent_cases places with ⟨-,e,he,hplaces,hleast,hlargest⟩ | ⟨h,-⟩
      · obtain ⟨hdigits,hrange⟩ := ofShortest_within hx hd
        exact ⟨_,roundDecimal_eq he
          (quantize_roundingPrecision tie hdigits hrange hplaces hleast hlargest)⟩
      · exact absurd hp h
  | _ =>
      rw [← hd]
      refine ⟨x,roundDecimal_of_unbounded ?_ tie places⟩
      rw [← isFinite_ofShortest,hd]
      rfl

/-- A finite number cannot be rounded to other places. -/
theorem roundDecimal_error (hx : x.isFinite = true) (tie : Tie) (hp : ¬ Placeable places) :
    ∃ f, roundDecimal tie places (Decimal.ofShortest x) = .error f := by
  rcases unitExponent_cases places with ⟨h,-⟩ | ⟨-,f,hf⟩
  · exact absurd h hp
  · refine ⟨f,?_⟩
    rw [roundDecimal,isFinite_ofShortest,hx,if_pos rfl,hf]
    rfl

end

/-- The rules that make a binary number of every value. -/
inductive Rounder where
  | floor | ceil | round

namespace Rounder

def name : Rounder → String
  | .floor => "asFloor"
  | .ceil => "asCeil"
  | .round => "asRound"

def rule : Rounder → Rule
  | .floor => asFloor
  | .ceil => asCeil
  | .round => asRound

theorem get?_name (k : Rounder) : (standard mail).get? k.name = some k.rule :=
  get?_of_listed (by cases k <;> simp [name,rule,transformers,validators])

/-- The arguments are an integer that is not out of proportion and a way of rounding that there
is. Only one of the rules takes arguments. -/
def Known (b : Bound) : Rounder → Prop
  | .round => ∃ precision mode places name tie, b.given = [precision,mode] ∧
      precision.toInt = .ok (some places) ∧ -300 ≤ places ∧ places ≤ 300 ∧
        mode.display = .ok name ∧ tieOf? name = some tie
  | _ => True

section
variable {k : Rounder} {v : Value} {b : Bound} {x : Binary64} {args : List Value}
  {byName : Named Value}

theorem integralRule_run (name : String) (f : Binary64 → Int) (hb : b.given = [])
    (hx : v.toFloat = .ok x) : ∃ y, (integralRule name f).run v b = .ok (.replaced (.float y)) ∧
      (x.isFinite = false → y = x) := by
  refine ⟨if x.isFinite then .ofInt (f x) else x,?_,fun h => by rw [h]; rfl⟩
  simp only [integralRule,hb,hx]
  rfl

theorem toDecimal_of_toFloat (hx : v.toFloat = .ok x) :
    v.toDecimal = .ok (Decimal.ofShortest x) := by
  rw [Value.toDecimal,hx]
  rfl

theorem asRound_run {precision mode : Value} {places : Int} {name : String} {tie : Tie}
    (hb : b.given = [precision,mode]) (hplaces : precision.toInt = .ok (some places))
    (hmode : mode.display = .ok name) (htie : tieOf? name = some tie) {d : Decimal}
    (hd : v.toDecimal = .ok d) {y : Binary64} (hy : roundDecimal tie places d = .ok y) :
    asRound.run v b = .ok (.replaced (.float y)) := by
  simp only [asRound,hb,intArgument,hplaces,hmode]
  dsimp only [orFail,Bind.bind,Except.bind]
  rw [htie]
  dsimp only
  rw [hd]
  dsimp only
  rw [hy]

theorem given_of_bind (h : k.rule.signature.bind args byName = .ok b) :
    b.given.length = k.rule.signature.parameters.length :=
  Signature.length_of_bindAll (Signature.bindAll_of_bind h).1

/-- A value that comes to a number of the format is made one. -/
theorem exists_run (h : k.rule.signature.bind args byName = .ok b) (hknown : k.Known b)
    (hx : v.toFloat = .ok x) (hformat : x.InFormat) :
    ∃ y, k.rule.run v b = .ok (.replaced (.float y)) ∧ (x.isFinite = false → y = x) := by
  have hlen := given_of_bind h
  cases k with
  | floor => exact integralRule_run _ _ (List.eq_nil_of_length_eq_zero hlen) hx
  | ceil => exact integralRule_run _ _ (List.eq_nil_of_length_eq_zero hlen) hx
  | round =>
      obtain ⟨precision,mode,places,name,tie,hb,hplaces,hlow,hhigh,hmode,htie⟩ := hknown
      have hplaceable : Placeable places := by
        rw [Placeable,Decimal.largestExponent,placesLimit]
        omega
      obtain ⟨y,hy⟩ := exists_roundDecimal hformat tie hplaceable
      refine ⟨y,asRound_run hb hplaces hmode htie (toDecimal_of_toFloat hx) hy,fun hfinite => ?_⟩
      rw [roundDecimal_of_unbounded hfinite] at hy
      exact (Except.ok.inj hy).symm

/-- A value that comes to no number is refused. -/
theorem run_error (h : k.rule.signature.bind args byName = .ok b) (hknown : k.Known b)
    {f : Fault} (hx : v.toFloat = .error f) : k.rule.run v b = .error (.fault f) := by
  have hlen := given_of_bind h
  cases k with
  | floor =>
      have hb := List.eq_nil_of_length_eq_zero hlen
      simp only [rule,asFloor,integralRule,hb,hx]
      rfl
  | ceil =>
      have hb := List.eq_nil_of_length_eq_zero hlen
      simp only [rule,asCeil,integralRule,hb,hx]
      rfl
  | round =>
      obtain ⟨precision,mode,places,name,tie,hb,hplaces,-,-,hmode,htie⟩ := hknown
      have hdecimal : v.toDecimal = .error f := by rw [Value.toDecimal,hx]; rfl
      simp only [rule,asRound,hb,intArgument,hplaces,hmode]
      dsimp only [orFail,Bind.bind,Except.bind]
      rw [htie]
      dsimp only
      rw [hdecimal]

end

end Rounder

end Vetting.Rules
