import Vetting.Proofs.Pattern.Complement
import Vetting.Proofs.Pattern.Removal
import Vetting.Rules.Text

/-!
# Keeping the characters of a class

To keep the characters of a class, the ones of its complement are taken out, and the complement
is made by a circumflex in front of the class. For a class that begins with a circumflex this is
not the complement, and other characters are kept than the ones of the class; if a bracket comes
next, it is no class at all.
-/
namespace Vetting.Rules
open Text Pattern

/-- Of every text the rule keeps the characters that pass a test, in their order. -/
def Keeps (k : String) (test : Char → Bool) : Prop :=
  ∀ t : String, asExtract.call (.text t) [.text k] [] = .ok (replacedText (t.toList.filter test))

section
variable {k : String} {K N : CharClass} {test test' : Char → Bool}

theorem asExtract_call (t : String) : asExtract.call (.text t) [.text k] [] = (do
    .ok (replacedText (← orFail (extract (outsidePattern k.toList) t.toList)))) := by rfl

/-- The rule for digits gives the class of the ten digits, whatever the value. -/
theorem asDigits_call (v : Value) :
    asDigits.call v [] [] = asExtract.call v [.text "0-9"] [] := by rfl

theorem keeps_of_isClass (hN : IsClass ('^' :: k.toList) N) :
    Keeps k (!N.contains .plain ·) := by
  intro t
  have hparse : Regex.parse (outsidePattern k.toList) = .ok (.ofClass N) := parse_class hN
  rw [asExtract_call,extract,hparse]
  dsimp only [Bind.bind,Except.bind,orFail]
  rw [replace_ofClass]

theorem replacedText_inj {s s' : List Char} (h : replacedText s = replacedText s') : s = s' :=
  String.ofList_inj.mp (Value.text.inj (Outcome.replaced.inj h))

/-- A text of one character shows whether the character passes the test. -/
theorem Keeps.unique (h : Keeps k test) (h' : Keeps k test') (c : Char) : test c = test' c := by
  have hboth := replacedText_inj (Except.ok.inj
    ((h (String.singleton c)).symm.trans (h' (String.singleton c))))
  rw [String.toList_singleton] at hboth
  cases ht : test c <;> cases ht' : test' c <;> simp_all

/-- What is kept once is kept again. -/
theorem Keeps.settles (h : Keeps k test) {t : String} {w : Value}
    (hw : asExtract.call (.text t) [.text k] [] = .ok (.replaced w)) :
    asExtract.call w [.text k] [] = .ok (.replaced w) := by
  cases (h t).symm.trans hw
  rw [h,String.toList_ofList,List.filter_filter]
  simp only [Bool.and_self]
  rfl

theorem digits_keep : Keeps "0-9" isAsciiDigit := by
  have hdigits : IsClass ('^' :: "0-9".toList) ⟨true,[.range 48 57]⟩ := rfl
  have hdigit : ∀ c, (!(CharClass.mk true [.range 48 57]).contains .plain c) = isAsciiDigit c :=
    fun c => by
      rw [contains_eq,among_cons,contains_range]
      simp only [among,List.any_nil,Bool.or_false,Bool.bne_true,Bool.not_not]
      rfl
  simpa only [hdigit] using keeps_of_isClass hdigits

theorem not_keeps_of_caret (hK : IsClass k.toList K) (hN : IsClass ('^' :: k.toList) N)
    (hhead : k.toList.head? = some '^') : ¬ Keeps k (K.contains .plain) := by
  intro h
  obtain ⟨c,hc⟩ := not_complement hhead hK hN
  have hboth := (keeps_of_isClass hN).unique h c
  rw [hc] at hboth
  simp at hboth

theorem not_keeps_of_error {f : Fault}
    (h : CharClass.read (tokens ('^' :: k.toList ++ [']'])) = .error f) : ¬ Keeps k test := by
  intro hkeep
  have hparse : Regex.parse (outsidePattern k.toList) = .error f := parse_class_error h
  have hcall := hkeep ""
  rw [asExtract_call,extract,hparse] at hcall
  exact nomatch hcall

/-- A bracket behind the circumflex closes the class with two circumflexes early, and what comes
after it is a word behind that class. -/
theorem parse_outside_bracket {r : List Char} (hr : ∀ c ∈ r, isLiteral c = true ∧ c ≠ '\\') :
    Regex.parse (outsidePattern ('^' :: ']' :: r)) =
      .ok (.ofClassBefore ⟨true,[.point 94]⟩ (r ++ [']'])) := by
  have hword : tokens (r ++ [']']) = (r ++ [']']).map .plain :=
    tokens_eq_map (by simpa using fun h => (hr _ h).2 rfl)
  have hread := read_bracket (r ++ [']'])
  rw [hword] at hread
  have hlen : (r ++ [']']).length ≤ (tokens ('^' :: '^' :: ']' :: (r ++ [']']))).length := by
    rw [tokens_cons (by decide),tokens_cons (by decide),tokens_cons (by decide),hword]
    simp only [List.length_cons,List.length_map]
    omega
  refine parse_classBefore hread hlen ?_
  intro c hc
  rcases List.mem_append.mp hc with hc | hc
  · exact (hr c hc).1
  · rw [List.mem_singleton.mp hc]
    rfl

/-- The class has no bracket, but a text of a bracket alone is too short for that word. -/
theorem not_keeps_of_bracket {r : List Char} (hK : IsClass k.toList K)
    (hk : k.toList = '^' :: ']' :: r) (hr : ∀ c ∈ r, isLiteral c = true ∧ c ≠ '\\') :
    ¬ Keeps k (K.contains .plain) := by
  intro hkeep
  have hkept := hkeep "]"
  rw [asExtract_call,extract,hk,parse_outside_bracket hr] at hkept
  have hboth := replacedText_inj (Except.ok.inj hkept)
  rw [show "]".toList = [']'] from rfl,replace_ofClassBefore (by simp)] at hboth
  rw [hk] at hK
  obtain ⟨items,rfl,hitems⟩ := isClass_caret_iff.mp hK
  rw [List.cons_append,tokens_cons (by decide)] at hitems
  have hbracket : among items ']' = true := (reads_of_classItems hitems).among_head nofun
  rw [List.filter_cons,contains_eq,hbracket] at hboth
  exact nomatch hboth

/-- Of every text the rule keeps what the class has and nothing else, and what it has kept it
leaves alone, if the class does not begin with a circumflex. If it begins with one, what is kept
is what the class behind two circumflexes leaves out, which is not what the class has, and where a
range of that class goes wrong no text is accepted. Behind a circumflex and a bracket there is no
class behind two: the bracket closes it early, and what follows is looked for in the text. Where
that stands for itself, the characters of the class are not kept either. The rule for digits is
the rule for the class of the ten digits. -/
theorem asExtract_keeps_iff (hK : IsClass k.toList K) :
    (k.toList.head? ≠ some '^' → Keeps k (K.contains .plain) ∧
      ∀ t w, asExtract.call (.text t) [.text k] [] = .ok (.replaced w) →
        asExtract.call w [.text k] [] = .ok (.replaced w)) ∧
    (∀ N, IsClass ('^' :: k.toList) N → Keeps k (!N.contains .plain ·) ∧
      (Keeps k (K.contains .plain) ↔ k.toList.head? ≠ some '^')) ∧
    (k.toList.take 2 ≠ ['^',']'] →
      (Keeps k (K.contains .plain) ↔ k.toList.head? ≠ some '^')) ∧
    (∀ r, k.toList = '^' :: ']' :: r → (∀ N, ¬ IsClass ('^' :: k.toList) N) ∧
      ((∀ c ∈ r, isLiteral c = true ∧ c ≠ '\\') → ¬ Keeps k (K.contains .plain))) ∧
    (∀ v, asDigits.call v [] [] = asExtract.call v [.text "0-9"] []) ∧
      Keeps "0-9" isAsciiDigit := by
  have hkeep : k.toList.head? ≠ some '^' → Keeps k (K.contains .plain) := fun hhead => by
    obtain ⟨N,hN,hcontains⟩ := exists_complement hK hhead
    have hkept := keeps_of_isClass hN
    simpa only [hcontains,Bool.not_not] using hkept
  refine ⟨fun hhead => ⟨hkeep hhead,fun t w => (hkeep hhead).settles⟩,fun N hN => ?_,
    fun htake => ?_,fun r hk => ⟨fun N hN => ?_,not_keeps_of_bracket hK hk⟩,asDigits_call,
    digits_keep⟩
  · exact ⟨keeps_of_isClass hN,fun h hhead => not_keeps_of_caret hK hN hhead h,hkeep⟩
  · refine ⟨fun h hhead => ?_,hkeep⟩
    obtain ⟨r,hr⟩ := List.head?_eq_some_iff.mp hhead
    have hclass := hK
    rw [hr] at hclass htake
    have hfree : r.head? ≠ some ']' := fun hr' => by
      obtain ⟨r',rfl⟩ := List.head?_eq_some_iff.mp hr'
      exact htake rfl
    rcases isClass_or_error hclass hfree with ⟨N,hN⟩ | ⟨f,herror⟩
    · rw [← hr] at hN
      exact not_keeps_of_caret hK hN hhead h
    · rw [← hr] at herror
      exact not_keeps_of_error herror h
  · rw [hk] at hN
    exact not_isClass_of_bracket hN

/-- A bracket that stands first in a class is kept as one of its characters. -/
theorem asExtract_keeps_bracket : IsClass "]a-c".toList ⟨false,[.point 93,.range 97 99]⟩ ∧
    "]a-c".toList.head? ≠ some '^' ∧
      asExtract.call (.text "[cab]") [.text "]a-c"] [] = .ok (.replaced (.text "cab]")) := by
  have hclass : IsClass "]a-c".toList ⟨false,[.point 93,.range 97 99]⟩ := rfl
  have hhead : "]a-c".toList.head? ≠ some '^' := by decide
  exact ⟨hclass,hhead,((asExtract_keeps_iff hclass).1 hhead).1 "[cab]"⟩

/-- Where everything but one letter should be kept, this letter is kept, and the circumflex. -/
theorem asExtract_keeps_letter : IsClass "^a".toList ⟨true,[.point 97]⟩ ∧
    asExtract.call (.text "banana^") [.text "^a"] [] = .ok (.replaced (.text "aaa^")) ∧
      ¬ Keeps "^a" ((CharClass.mk true [.point 97]).contains .plain) := by
  have hclass : IsClass ('^' :: "^a".toList) ⟨true,[.point 94,.point 97]⟩ := rfl
  have hkept := keeps_of_isClass hclass
  refine ⟨rfl,hkept "banana^",fun h => ?_⟩
  have hboth := hkept.unique h 'b'
  revert hboth
  decide

end

end Vetting.Rules
