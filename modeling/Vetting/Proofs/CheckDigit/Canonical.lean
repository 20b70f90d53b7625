import Vetting.Proofs.CheckDigit.Taxpayer

/-!
# Numbers are their own normal forms

What is read from a text hangs on its digits only, for card numbers on what is left without its
spaces. A number that has been read is made of just these characters, and so it is read again as
itself, and also in its written form, which puts other characters between the digits.
-/
namespace Vetting.CheckDigit
open Text

section
variable {size body : Nat} {checks : List Char → Except Fault (List Char)} {s t r : List Char}

/-! ## Taxpayer numbers -/

theorem verified?_congr (h : s.filter isAsciiDigit = t.filter isAsciiDigit) :
    verified? size body checks s = verified? size body checks t := by
  rw [verified?,verified?,paddedDigits?,paddedDigits?,h]

theorem paddedDigits?_of_verified? (h : verified? size body checks s = some r) :
    paddedDigits? size s = some r := by
  rw [verified?] at h
  split at h
  · cases h
  · rename_i raw hraw
    split at h
    · rw [Option.ite_none_right_eq_some] at h
      rw [hraw,h.2]
    · cases h

theorem isAsciiDigit_of_verified? (h : verified? size body checks s = some r) :
    ∀ c ∈ r, isAsciiDigit c = true := by
  obtain ⟨rfl,-⟩ := paddedDigits?_eq_some_iff.mp (paddedDigits?_of_verified? h)
  exact isAsciiDigit_padded size s

theorem length_of_verified? (h : verified? size body checks s = some r) : r.length = size := by
  obtain ⟨rfl,hsize,-⟩ := paddedDigits?_eq_some_iff.mp (paddedDigits?_of_verified? h)
  exact length_padded hsize

/-- A number is read from every text that has just its digits. -/
theorem verified?_of_filter (h : verified? size body checks s = some r)
    (ht : t.filter isAsciiDigit = r) : verified? size body checks t = some r := by
  have hs := paddedDigits?_of_verified? h
  have hlen := length_of_verified? h
  have hpadded : padded size t = r := by
    rw [padded,ht,hlen,Nat.sub_self,List.replicate_zero,List.nil_append]
  have hdifferent := (paddedDigits?_eq_some_iff.mp hs).2.2
  have hread : paddedDigits? size t = some r :=
    paddedDigits?_eq_some_iff.mpr ⟨hpadded.symm,by rw [ht,hlen],hdifferent⟩
  rw [verified?,hs] at h
  rw [verified?,hread]
  exact h

/-! ## Written forms -/

theorem slice_append {i j k : Nat} (s : List Char) (hij : i ≤ j) (hjk : j ≤ k) :
    slice s i j ++ slice s j k = slice s i k := by
  have hj : i + (j - i) = j := by omega
  have hk : k - i = j - i + (k - j) := by omega
  rw [slice,slice,slice,hk,List.take_add,List.drop_drop,hj]

theorem filter_slice (hr : ∀ c ∈ r, isAsciiDigit c = true) (i j : Nat) :
    (slice r i j).filter isAsciiDigit = slice r i j :=
  List.filter_eq_self.mpr fun c hc => hr c (List.mem_of_mem_drop (List.mem_of_mem_take hc))

theorem slice_of_length (h : r.length = size) : slice r 0 size = r := by
  rw [slice,List.drop_zero,Nat.sub_zero,← h,List.take_length]

/-- Another part of the digits behind some other character. -/
theorem filter_append_slice {i j : Nat} {c : Char} (hr : ∀ c ∈ r, isAsciiDigit c = true)
    (ht : t.filter isAsciiDigit = slice r 0 i) (hc : isAsciiDigit c = false) (hij : i ≤ j) :
    (t ++ c :: slice r i j).filter isAsciiDigit = slice r 0 j := by
  rw [List.filter_append,ht,List.filter_cons_of_neg (Bool.eq_false_iff.mp hc),filter_slice hr,
    slice_append r (Nat.zero_le i) hij]

theorem filter_formatPerson (hr : ∀ c ∈ r, isAsciiDigit c = true) (hlen : r.length = 11) :
    (formatPerson r).filter isAsciiDigit = r := by
  have h6 := filter_append_slice (j := 6) (c := '.') hr (filter_slice hr 0 3) rfl (by decide)
  have h9 := filter_append_slice (j := 9) (c := '.') hr h6 rfl (by decide)
  have h11 := filter_append_slice (j := 11) (c := '-') hr h9 rfl (by decide)
  exact h11.trans (slice_of_length hlen)

theorem filter_formatCompany (hr : ∀ c ∈ r, isAsciiDigit c = true) (hlen : r.length = 14) :
    (formatCompany r).filter isAsciiDigit = r := by
  have h5 := filter_append_slice (j := 5) (c := '.') hr (filter_slice hr 0 2) rfl (by decide)
  have h8 := filter_append_slice (j := 8) (c := '.') hr h5 rfl (by decide)
  have h12 := filter_append_slice (j := 12) (c := '/') hr h8 rfl (by decide)
  have h14 := filter_append_slice (j := 14) (c := '-') hr h12 rfl (by decide)
  exact h14.trans (slice_of_length hlen)

/-! ## Card numbers -/

theorem cardNumber?_eq_some_iff : cardNumber? s = some r ↔ r = withoutSpaces s ∧
    isAsciiDigits r = true ∧ 8 ≤ r.length ∧ r.length ≤ 19 ∧ luhn r = true := by
  rw [cardNumber?,Option.ite_none_right_eq_some,Option.some.injEq,and_comm,eq_comm]
  refine and_congr_right fun h => ?_
  rw [← h]
  simp only [Bool.and_eq_true,decide_eq_true_eq,and_assoc]

/-- A number has no spaces to be left out. -/
theorem withoutSpaces_of_isAsciiDigits (h : isAsciiDigits r = true) : withoutSpaces r = r := by
  refine List.filter_eq_self.mpr fun c hc => ?_
  have hdigit := (isAsciiDigits_iff.mp h).2 c hc
  rw [bne_iff_ne]
  rintro rfl
  cases hdigit

end

/-- Which numbers texts are read as. -/
inductive Document where
  | card | person | company
  deriving DecidableEq

namespace Document

def read : Document → List Char → Option (List Char)
  | .card => cardNumber?
  | .person => person?
  | .company => company?

/-- The written form of a number. Card numbers have none but their digits. -/
def format : Document → List Char → List Char
  | .card => id
  | .person => formatPerson
  | .company => formatCompany

/-- What is made of a number, in its written form on demand. -/
def write (formatted : Bool) (k : Document) (r : List Char) : List Char :=
  if formatted then k.format r else r

/-- The characters of a text that a number is read from. -/
def keeps : Document → Char → Bool
  | .card => (· != ' ')
  | _ => isAsciiDigit

section
variable {k : Document} {s t r : List Char}

theorem read_congr (h : s.filter k.keeps = t.filter k.keeps) : k.read s = k.read t := by
  cases k with
  | card =>
      change withoutSpaces s = withoutSpaces t at h
      rw [read,cardNumber?,cardNumber?,h]
  | person => exact verified?_congr h
  | company => exact verified?_congr h

/-- A number is read again from itself and from its written form. -/
theorem read_again (h : k.read s = some r) :
    k.read r = some r ∧ k.read (k.format r) = some r := by
  cases k with
  | card =>
      obtain ⟨-,hr⟩ := cardNumber?_eq_some_iff.mp h
      have hagain : cardNumber? r = some r :=
        cardNumber?_eq_some_iff.mpr ⟨(withoutSpaces_of_isAsciiDigits hr.1).symm,hr⟩
      exact ⟨hagain,hagain⟩
  | person =>
      have hdigits := isAsciiDigit_of_verified? h
      exact ⟨verified?_of_filter h (List.filter_eq_self.mpr hdigits),
        verified?_of_filter h (filter_formatPerson hdigits (length_of_verified? h))⟩
  | company =>
      have hdigits := isAsciiDigit_of_verified? h
      exact ⟨verified?_of_filter h (List.filter_eq_self.mpr hdigits),
        verified?_of_filter h (filter_formatCompany hdigits (length_of_verified? h))⟩

theorem read_of_written (h : k.read s = some r) (formatted : Bool) :
    k.read (k.write formatted r) = some r := by
  cases formatted with
  | false => exact (read_again h).1
  | true => exact (read_again h).2

end

end Document

end Vetting.CheckDigit
