import Vetting.Text.Blank
import Vetting.Text.Case

/-!
# Small letters of other scripts

A character outside ASCII has small letters outside ASCII, apart from the small i and the small k,
which the dotted capital I and the sign of kelvins go to. This is read off the table line by line:
the images that a line gives do not depend on the lines before it.
-/
namespace Vetting.Text

/-! ## Images by lines -/

namespace EntryReader
variable {before : List (List Nat)} {r r' : EntryReader} {c : Char}

def start : EntryReader := ⟨#[],#[],0,[],0⟩

/-- One reader has come as far in its entry as another one, with some images more. -/
structure Behind (before : List (List Nat)) (r r' : EntryReader) : Prop where
  images : r.images.toList = before ++ r'.images.toList
  fields : r.fields = r'.fields
  current : r.current = r'.current

/-- Nothing of an entry has been read. -/
def Rested (r : EntryReader) : Prop := r.fields = [] ∧ r.current = 0

theorem exists_close (r : EntryReader) : ∃ k image, (r.current :: r.fields).reverse = k :: image ∧
    r.close = ⟨r.keys.push (r.total + k),r.images.push image,r.total + k,[],0⟩ := by
  obtain ⟨k,image,h⟩ := List.exists_cons_of_ne_nil
    (List.reverse_ne_nil_iff.mpr (List.cons_ne_nil r.current r.fields))
  refine ⟨k,image,h,?_⟩
  rw [close,h]

theorem close_rested (r : EntryReader) : r.close.Rested := by
  obtain ⟨k,image,-,h⟩ := r.exists_close
  rw [h]
  exact ⟨rfl,rfl⟩

theorem Behind.close (h : Behind before r r') : Behind before r.close r'.close := by
  obtain ⟨k,image,hentry,hclose⟩ := r.exists_close
  obtain ⟨k',image',hentry',hclose'⟩ := r'.exists_close
  rw [h.current,h.fields,hentry'] at hentry
  cases hentry
  rw [hclose,hclose']
  exact ⟨by simp [h.images],rfl,rfl⟩

theorem Behind.step (h : Behind before r r') (c : Char) : Behind before (r.step c) (r'.step c) := by
  rw [EntryReader.step,EntryReader.step]
  split
  · exact h.close
  · split
    · exact ⟨h.images,by rw [h.current,h.fields],rfl⟩
    · exact ⟨h.images,h.fields,by rw [h.current]⟩

theorem Behind.line (h : Behind before r r') (s : String) :
    Behind before (r.line s) (r'.line s) := by
  have hread : ∀ cs : List Char, ∀ r r', Behind before r r' →
      Behind before (cs.foldl EntryReader.step r) (cs.foldl EntryReader.step r') := by
    intro cs
    induction cs with
    | nil => exact fun _ _ h => h
    | cons c cs ih => exact fun _ _ h => ih _ _ (h.step c)
  exact (hread s.toList r r' h).close

/-- The images of the entries in a line. -/
def lineImages (s : String) : List (List Nat) := (start.line s).images.toList

theorem images_line (h : r.Rested) (s : String) :
    (r.line s).images.toList = r.images.toList ++ lineImages s := by
  have hstart : Behind r.images.toList r start := ⟨by simp [start],h.1,h.2⟩
  exact (hstart.line s).images

theorem line_rested (r : EntryReader) (s : String) : (r.line s).Rested := close_rested _

theorem images_lines (h : r.Rested) (lines : List String) :
    (lines.foldl EntryReader.line r).images.toList =
      r.images.toList ++ lines.flatMap lineImages := by
  induction lines generalizing r with
  | nil => simp
  | cons s lines ih =>
      rw [List.foldl_cons,ih (line_rested r s),images_line h,List.flatMap_cons,List.append_assoc]

end EntryReader

theorem Mapping.images_ofEntries (lines : List String) :
    (Mapping.ofEntries lines).images.toList = lines.flatMap EntryReader.lineImages :=
  EntryReader.images_lines ⟨rfl,rfl⟩ lines

theorem Mapping.mem_of_find? {m : Mapping} {n : Nat} {image : List Nat}
    (h : m.find? n = some image) : image ∈ m.images.toList := by
  rw [find?] at h
  split at h
  · obtain ⟨_,rfl⟩ := Array.getElem?_eq_some_iff.mp h
    exact Array.mem_toList_iff.mpr (Array.getElem_mem _)
  · cases h

/-! ## The table of small letters -/

/-- Not empty, and outside ASCII but for the small i and the small k. -/
def isForeign (image : List Nat) : Bool :=
  !image.isEmpty && image.all fun n => 128 ≤ (Char.ofNat n).toNat || n == 0x69 || n == 0x6B

/-- Lines all of whose images are foreign. A line is read from its characters, since taking them
from a literal is what costs. -/
inductive ForeignLines : List String → Prop
  | nil : ForeignLines []
  | cons {s : String} {cs : List Char} {lines : List String} (hs : s = String.ofList cs)
      (h : (cs.foldl EntryReader.step .start).close.images.toList.all isForeign = true)
      (hlines : ForeignLines lines) : ForeignLines (s :: lines)

theorem ForeignLines.isForeign {lines : List String} (h : ForeignLines lines) {image : List Nat}
    (hi : image ∈ lines.flatMap EntryReader.lineImages) : isForeign image = true := by
  induction h with
  | nil => cases hi
  | cons hs h _ ih =>
      rw [List.flatMap_cons,List.mem_append] at hi
      rcases hi with hi | hi
      · rw [EntryReader.lineImages,EntryReader.line,hs,String.toList_ofList] at hi
        exact List.all_eq_true.mp h image hi
      · exact ih hi

theorem lowerMapping_lines :
    ∃ lines, lowerMapping = Mapping.ofEntries lines ∧ ForeignLines lines := by
  refine ⟨_,rfl,?_⟩
  dsimp only
  repeat refine ForeignLines.cons rfl (by decide +kernel) ?_
  exact ForeignLines.nil

theorem isForeign_of_find? {n : Nat} {image : List Nat} (h : lowerMapping.find? n = some image) :
    isForeign image = true := by
  obtain ⟨lines,hmapping,hlines⟩ := lowerMapping_lines
  have hmem := Mapping.mem_of_find? h
  rw [hmapping,Mapping.images_ofEntries] at hmem
  exact hlines.isForeign hmem

/-! ## Small letters -/

section
variable {c d : Char} {s : List Char}

theorem lowerChar_ne_nil (c : Char) : lowerChar c ≠ [] := by
  rw [lowerChar]
  split
  · exact List.cons_ne_nil _ _
  · split
    · rename_i image himage
      have h := isForeign_of_find? himage
      rw [isForeign,Bool.and_eq_true,Bool.not_eq_true',List.isEmpty_eq_false_iff] at h
      exact mt List.map_eq_nil_iff.mp h.1
    · exact List.cons_ne_nil _ _

theorem foreign_of_mem_lowerChar (hc : 128 ≤ c.toNat) (hd : d ∈ lowerChar c) :
    128 ≤ d.toNat ∨ d = 'i' ∨ d = 'k' := by
  rw [lowerChar,if_neg (Nat.not_lt.mpr hc)] at hd
  split at hd
  · rename_i image himage
    obtain ⟨n,hn,rfl⟩ := List.mem_map.mp hd
    have h := isForeign_of_find? himage
    rw [isForeign,Bool.and_eq_true,List.all_eq_true] at h
    have hforeign := h.2 n hn
    simp only [Bool.or_eq_true,decide_eq_true_eq,beq_iff_eq] at hforeign
    rcases hforeign with (hlarge | rfl) | rfl
    · exact Or.inl hlarge
    · exact Or.inr (Or.inl rfl)
    · exact Or.inr (Or.inr rfl)
  · cases List.mem_singleton.mp hd
    exact Or.inl hc

/-- A character of ASCII that is no letter is the small letter of itself alone. -/
theorem toNat_foldChar_eq_iff {n : Nat} (hn : n < 128) (hcapital : ¬ (65 ≤ n ∧ n ≤ 90))
    (hsmall : ¬ (97 ≤ n ∧ n ≤ 122)) : (foldChar c).toNat = n ↔ c.toNat = n := by
  by_cases hascii : c.toNat < 128
  · have hfold : foldChar c = lowerAscii c := by
      rw [foldChar,lowerChar,if_pos hascii]
      rfl
    have hall : ∀ m < 128, (lowerAscii (Char.ofNat m)).toNat = m ∨
        65 ≤ m ∧ m ≤ 90 ∧ (lowerAscii (Char.ofNat m)).toNat = m + 32 := by decide +kernel
    have hc := hall c.toNat hascii
    rw [Char.ofNat_toNat] at hc
    rw [hfold]
    omega
  · obtain ⟨d,l,hl⟩ := List.exists_cons_of_ne_nil (lowerChar_ne_nil c)
    have hfold : foldChar c = d := by rw [foldChar,hl,List.headD_cons]
    have hd : d ∈ lowerChar c := hl ▸ List.mem_cons_self
    rw [hfold]
    refine iff_of_false ?_ (by omega)
    rcases foreign_of_mem_lowerChar (Nat.le_of_not_lt hascii) hd with hlarge | rfl | rfl
    · omega
    · exact fun h => hsmall (h ▸ by decide)
    · exact fun h => hsmall (h ▸ by decide)

theorem mem_lowerAfter (hc : c.toNat ≠ 0x3A3) (hs : c ∈ s) (hd : d ∈ lowerChar c)
    (before : List Char) : d ∈ lowerAfter before s := by
  induction s generalizing before with
  | nil => cases hs
  | cons x s ih =>
      rw [lowerAfter,List.mem_append]
      rcases List.mem_cons.mp hs with rfl | hs
      · rw [if_neg hc]
        exact Or.inl hd
      · exact Or.inr (ih hs (x :: before))

/-- What a character goes to is there in the small letters of a text. The small sigma depends on
where it stands. -/
theorem mem_lower (hc : c.toNat ≠ 0x3A3) (hs : c ∈ s) (hd : d ∈ lowerChar c) : d ∈ lower s :=
  mem_lowerAfter hc hs hd []

theorem lower_eq_nil_iff : lower s = [] ↔ s = [] := by
  cases s with
  | nil => exact iff_of_true rfl rfl
  | cons c s =>
      refine iff_of_false ?_ (List.cons_ne_nil c s)
      rw [lower,lowerAfter]
      intro h
      obtain ⟨hhead,-⟩ := List.append_eq_nil_iff.mp h
      split at hhead
      · cases hhead
      · exact lowerChar_ne_nil c hhead

/-- No text with a blank in it has small letters that are letters and digits of ASCII alone, other
than the i and the k. -/
theorem exists_mem_lower_of_isBlank (hc : isBlank c = true) (hs : c ∈ s) :
    ∃ d ∈ lower s, isBlank d = true ∨ 128 ≤ d.toNat ∨ d = 'i' ∨ d = 'k' := by
  have hsigma : c.toNat ≠ 0x3A3 := by
    intro h
    simp [isBlank,h] at hc
  by_cases hascii : c.toNat < 128
  · refine ⟨c,mem_lower hsigma hs ?_,Or.inl hc⟩
    have hcapital : ¬ ('A' ≤ c ∧ c ≤ 'Z') := by
      rintro ⟨hlo,hhi⟩
      have hlo' : 65 ≤ c.toNat := hlo
      have hhi' : c.toNat ≤ 90 := hhi
      simp only [isBlank,Bool.or_eq_true,Bool.and_eq_true,decide_eq_true_eq,beq_iff_eq] at hc
      omega
    rw [lowerChar,if_pos hascii,lowerAscii,if_neg hcapital]
    exact List.mem_singleton_self c
  · obtain ⟨d,hd⟩ := List.exists_mem_of_ne_nil _ (lowerChar_ne_nil c)
    exact ⟨d,mem_lower hsigma hs hd,Or.inr (foreign_of_mem_lowerChar (Nat.le_of_not_lt hascii) hd)⟩

end

end Vetting.Text
