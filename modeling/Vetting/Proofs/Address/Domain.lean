import Vetting.Address.Domain
import Vetting.Proofs.Pattern.Language
import Vetting.Proofs.Pattern.Reading
import Vetting.Proofs.Rules.Comparison
import Vetting.Proofs.Rules.Contract
import Vetting.Text.Split

/-!
# The grammar of domain names

A domain name is what its pattern says: labels joined by points, with one more point at the end
or none, in 253 characters at most. The two looks at hyphens come to conditions on the ends of a
label. The look ahead at the length of the whole name could stop in front of a line feed at the
end, which no name has.
-/
namespace Vetting.Address
open Pattern Text
variable {mail : Rules.MailReader}

/-- A label has 1 to 63 characters, letters, digits and hyphens, with a hyphen at neither end. -/
structure IsLabel (l : List Char) : Prop where
  length_pos : 1 ≤ l.length
  length_le : l.length ≤ 63
  letters : ∀ c ∈ l, isAsciiAlnum c = true ∨ c = '-'
  head : l.head? ≠ some '-'
  last : l.getLast? ≠ some '-'

/-- Labels joined by points, with one more point at the end or none. -/
structure IsName (s : List Char) : Prop where
  length_pos : 1 ≤ s.length
  length_le : s.length ≤ 253
  labels : ∃ ls, ls ≠ [] ∧ (∀ l ∈ ls, IsLabel l) ∧ (s = join '.' ls ∨ s = join '.' ls ++ ['.'])

/-! ## The pattern -/

def hyphen : CharClass := .single 45

def point : Node := .one .plain (.single 46)

def labelClass : CharClass := ⟨false,[.range 65 90,.range 97 122,.range 48 57,.point 45]⟩

def labelNodes : List Node :=
  [.look false false [.one .plain hyphen],.repeated .greedy 1 (some 63) [.one .plain labelClass],
    .look true false [.one .plain hyphen]]

def domainNodes : List Node :=
  .look false true [.repeated .greedy 1 (some 253) [.any .plain],.anchor .plain .lineEnd] ::
    (labelNodes ++ [.repeated .greedy 0 none [.group (some 1) (point :: labelNodes)],
      .repeated .greedy 0 (some 1) [point]])

/-! ## Reading the pattern -/

section
variable {s : Scan} {fuel : Nat} {own : Option Options} {first : Bool} {done : List Node}
  {ts : List Token}

theorem alternatives_hyphen (h : s.rest = .plain '-' :: .plain ')' :: ts) :
    (alternatives (fuel + 3) (some .plain)).run s =
      .ok ([.one .plain hyphen],{ s with rest := .plain ')' :: ts }) := by
  refine alternatives_run ?_ (by simp)
  rw [row_literal h rfl rfl]
  exact row_close rfl

/-- No hyphen before or behind a place. -/
theorem row_noHyphen {behind : Bool} {front : List Token} (h : s.rest = .plain '(' :: front)
    (ho : own.getD s.options = .plain)
    (hopening : opening.run { s with rest := front } =
      .ok (.look behind false,{ s with rest := .plain '-' :: .plain ')' :: ts })) :
    (row (fuel + 4) own first done).run s =
      (row (fuel + 3) own first (.look behind false [.one .plain hyphen] :: done)).run
        { s with rest := ts } := by
  have hbody : (alternatives (fuel + 3) (some (own.getD s.options))).run
      { s with rest := .plain '-' :: .plain ')' :: ts, horizon := s.look behind } =
        .ok ([.one .plain hyphen],
          { s with rest := .plain ')' :: ts, horizon := s.look behind }) := by
    rw [ho]
    exact alternatives_hyphen rfl
  exact (row_look h (by rw [ho]; rfl) hopening hbody rfl).trans rfl

theorem row_label (h : s.rest = tokens labelPattern.toList ++ ts)
    (ho : own.getD s.options = .plain) :
    (row (fuel + 7) own first done).run s =
      (row (fuel + 3) own first (labelNodes.reverse ++ done)).run { s with rest := ts } := by
  have ht : tokens labelPattern.toList ++ ts = .plain '(' :: .plain '?' :: .plain '!' ::
      .plain '-' :: .plain ')' :: .plain '[' :: (tokens "A-Za-z0-9-]\x7b1,63\x7d(?<!-)".toList ++
        ts) := rfl
  have hclass : CharClass.read (tokens "A-Za-z0-9-]\x7b1,63\x7d(?<!-)".toList ++ ts) =
      .ok (labelClass,.plain '\x7b' :: (tokens "1,63\x7d(?<!-)".toList ++ ts)) := rfl
  have hbounds : takeBounds (tokens "1,63\x7d(?<!-)".toList ++ ts) =
      .ok (some (1,some 63),.plain '(' :: .plain '?' :: .plain '<' :: .plain '!' ::
        .plain '-' :: .plain ')' :: ts) := rfl
  have hv : ∀ r : List Token, (own.getD { s with rest := r }.options).verbose = false :=
    fun r => by
      show (own.getD s.options).verbose = false
      rw [ho]
      rfl
  rw [ht] at h
  refine Eq.trans (row_noHyphen h ho rfl) ?_
  refine Eq.trans (row_class rfl (hv _) hclass) ?_
  refine Eq.trans (row_bounds rfl (hv _) hbounds rfl (by simp) (by simp)) ?_
  refine Eq.trans (row_noHyphen rfl ho rfl) ?_
  dsimp only
  rw [ho]
  rfl

/-- The pattern of more labels behind a point, and what is in its group. -/
theorem row_labels (h : s.rest = .plain '(' :: .escaped '.' :: (tokens labelPattern.toList ++
      .plain ')' :: .plain '*' :: .escaped '.' :: [.plain '?']))
    (ho : own.getD s.options = .plain) :
    (row (fuel + 12) own first done).run s = .ok (done.reverse ++
      [.repeated .greedy 0 none [.group (some (s.opened + 1)) (point :: labelNodes)],
        .repeated .greedy 0 (some 1) [point]],
      { s with
        rest := []
        opened := s.opened + 1
        widths := (s.opened + 1,rowWidth (point :: labelNodes)) :: s.widths }) := by
  have hrow : (row (fuel + 10) (some .plain) false []).run
      { s with
        rest := .escaped '.' :: (tokens labelPattern.toList ++
          .plain ')' :: .plain '*' :: .escaped '.' :: [.plain '?'])
        opened := s.opened + 1 } = .ok (point :: labelNodes,
      { s with
        rest := .plain ')' :: .plain '*' :: .escaped '.' :: [.plain '?']
        opened := s.opened + 1 }) := by
    refine Eq.trans (row_escaped (n := point) rfl rfl) ?_
    refine Eq.trans (row_label rfl rfl) ?_
    exact row_close rfl
  have hbody : (alternatives (fuel + 11) (some ((own.getD s.options).change {} {}))).run
      { s with
        rest := .escaped '.' :: (tokens labelPattern.toList ++
          .plain ')' :: .plain '*' :: .escaped '.' :: [.plain '?'])
        opened := s.opened + 1 } = .ok (point :: labelNodes,
      { s with
        rest := .plain ')' :: .plain '*' :: .escaped '.' :: [.plain '?']
        opened := s.opened + 1 }) := by
    rw [ho]
    exact alternatives_run hrow (by simp)
  have hv : (own.getD s.options).verbose = false := by
    rw [ho]
    rfl
  refine Eq.trans (row_group h hv rfl hbody rfl) ?_
  refine Eq.trans (row_repetition rfl hv rfl rfl (by simp) (by simp)) ?_
  refine Eq.trans (row_escaped (n := point) rfl (by rw [ho]; rfl)) ?_
  refine Eq.trans (row_repetition rfl hv rfl rfl (by simp) (by simp)) ?_
  refine Eq.trans (row_nil rfl) ?_
  simp
/-- Looking ahead at the length of the whole name. -/
theorem row_length (h : s.rest = tokens "(?=.\x7b1,253\x7d$)".toList ++ ts)
    (ho : own.getD s.options = .plain) :
    (row (fuel + 7) own first done).run s =
      (row (fuel + 6) own first
        (.look false true [.repeated .greedy 1 (some 253) [.any .plain],.anchor .plain .lineEnd] ::
          done)).run { s with rest := ts } := by
  have hbounds : takeBounds (tokens "1,253\x7d$)".toList ++ ts) =
      .ok (some (1,some 253),.plain '$' :: .plain ')' :: ts) := rfl
  have hrow : (row (fuel + 5) (some .plain) false []).run
      { s with rest := tokens ".\x7b1,253\x7d$)".toList ++ ts, horizon := s.look false } =
        .ok ([.repeated .greedy 1 (some 253) [.any .plain],.anchor .plain .lineEnd],
          { s with rest := .plain ')' :: ts, horizon := s.look false }) := by
    refine Eq.trans (row_sign rfl rfl rfl) ?_
    refine Eq.trans (row_bounds rfl rfl hbounds rfl (by simp) (by simp)) ?_
    refine Eq.trans (row_sign rfl rfl rfl) ?_
    exact row_close rfl
  have hbody : (alternatives (fuel + 6) (some (own.getD s.options))).run
      { s with rest := tokens ".\x7b1,253\x7d$)".toList ++ ts, horizon := s.look false } =
        .ok ([.repeated .greedy 1 (some 253) [.any .plain],.anchor .plain .lineEnd],
          { s with rest := .plain ')' :: ts, horizon := s.look false }) := by
    rw [ho]
    exact alternatives_run hrow (by simp)
  exact Eq.trans (row_look h (by rw [ho]; rfl) rfl hbody rfl) rfl

theorem domainRegex_eq : domainRegex = .ok ⟨domainNodes,1,[]⟩ := by
  have htokens : tokens domainPattern.toList = tokens "(?=.\x7b1,253\x7d$)".toList ++
      (tokens labelPattern.toList ++ .plain '(' :: .escaped '.' ::
        (tokens labelPattern.toList ++
          .plain ')' :: .plain '*' :: .escaped '.' :: [.plain '?'])) := by decide
  have hrow : ∀ fuel, (row (fuel + 17) none true []).run
      (.start .plain (tokens domainPattern.toList)) = .ok (domainNodes,
        { Scan.start .plain [] with
          opened := 1
          widths := [(1,rowWidth (point :: labelNodes))] }) := fun fuel => by
    rw [htokens]
    refine Eq.trans (row_length rfl rfl) ?_
    refine Eq.trans (row_label rfl rfl) ?_
    exact row_labels rfl rfl
  have hlook : rowLookable domainNodes = true := by
    simp [domainNodes,labelNodes,point,hyphen,rowLookable,Node.lookable,rowWidth,rowSum,Node.width,
      capWidth,addWidth,manyTimes]
  refine parse_run (by rw [htokens]; decide) hrow rfl ?_
  rw [finish,hlook]
  rfl

end

/-! ## Its classes -/

section
variable {passed w rest s : List Char} {c : Char} {n : Nat}

theorem contains_single :
    (CharClass.single n).contains .plain c = true ↔ c.toNat = n := by
  simp [CharClass.contains,CharClass.single,ClassItem.contains,ClassItem.has,Options.plain]

theorem contains_hyphen : hyphen.contains .plain c = true ↔ c = '-' := by
  rw [hyphen,contains_single,← Char.toNat_inj]
  exact Iff.rfl

theorem contains_labelClass :
    labelClass.contains .plain c = true ↔ isAsciiAlnum c = true ∨ c = '-' := by
  have hletter : ∀ a b : Char, (a ≤ c ∧ c ≤ b) ↔ a.toNat ≤ c.toNat ∧ c.toNat ≤ b.toNat :=
    fun a b => Iff.rfl
  simp only [CharClass.contains,labelClass,ClassItem.contains,ClassItem.has,Options.plain,
    isAsciiAlnum,isAsciiLetter,List.any_cons,List.any_nil,Bool.bne_false,Bool.false_eq_true,
    if_false,Bool.or_eq_true,Bool.and_eq_true,decide_eq_true_eq,or_false,hletter,
    ← Char.toNat_inj,Char.reduceToNat]
  omega

/-! ## What the parts of the pattern take -/

theorem form_point (passed w rest : List Char) : point.form passed w rest ↔ w = ['.'] := by
  constructor
  · rintro ⟨x,hx,rfl⟩
    have hnat : x.toNat = '.'.toNat := contains_single.mp hx
    rw [Char.toNat_inj.mp hnat]
  · rintro rfl
    exact ⟨'.',rfl,rfl⟩

theorem forall_not_hyphen_iff {o : Option Char} :
    (∀ x, o = some x → hyphen.contains .plain x = false) ↔ o ≠ some '-' := by
  simp only [← Bool.not_eq_true,contains_hyphen]
  constructor
  · exact fun h ho => h '-' ho rfl
  · rintro h x hx rfl
    exact h hx

/-- No hyphen in front, characters of labels, and no hyphen behind. -/
theorem rowForm_labelNodes : rowForm labelNodes passed w rest ↔ IsLabel w := by
  have hclass : (Node.one .plain labelClass).form = .one (labelClass.contains .plain) := rfl
  have hform : rowForm labelNodes passed w rest ↔ (w ++ rest).head? ≠ some '-' ∧
      (1 ≤ w.length ∧ (∀ m, some 63 = some m → w.length ≤ m) ∧
        ∀ c ∈ w, isAsciiAlnum c = true ∨ c = '-') ∧ (w.reverse ++ passed).head? ≠ some '-' := by
    rw [labelNodes,rowForm,rowForm,rowForm_singleton,form_look_not,form_look_not,
      Form.place_followed_iff,Form.followed_place_iff,form_repeated_one hclass]
    simp only [contains_labelClass]
    exact and_congr forall_not_hyphen_iff (and_congr_right fun _ => forall_not_hyphen_iff)
  rw [hform]
  constructor
  · rintro ⟨hhead,⟨hpos,hle,hall⟩,hlast⟩
    have hne : w ≠ [] := List.ne_nil_of_length_pos hpos
    rw [List.head?_append_of_ne_nil _ hne] at hhead
    rw [List.head?_append_of_ne_nil _ (List.reverse_ne_nil_iff.mpr hne),
      List.head?_reverse] at hlast
    exact ⟨hpos,hle 63 rfl,hall,hhead,hlast⟩
  · rintro ⟨hpos,hle,hall,hhead,hlast⟩
    have hne : w ≠ [] := List.ne_nil_of_length_pos hpos
    rw [List.head?_append_of_ne_nil _ hne,
      List.head?_append_of_ne_nil _ (List.reverse_ne_nil_iff.mpr hne),List.head?_reverse]
    exact ⟨hhead,⟨hpos,by rintro m ⟨⟩; exact hle,hall⟩,hlast⟩

/-- A point and a label, any number of times. -/
theorem form_labels : (Node.repeated .greedy 0 none [.group (some 1) (point :: labelNodes)]).form
    passed w rest ↔
      ∃ ls : List (List Char), (∀ l ∈ ls, IsLabel l) ∧ w = ls.flatMap ('.' :: ·) := by
  have hbody : rowForm [.group (some 1) (point :: labelNodes)] =
      fun _ w _ => ∃ l, IsLabel l ∧ w = '.' :: l := by
    funext passed w rest
    rw [rowForm_singleton,Node.form,rowForm]
    refine propext ⟨?_,?_⟩
    · rintro ⟨u,l,rfl,hu,hl⟩
      rw [form_point] at hu
      exact ⟨l,rowForm_labelNodes.mp hl,by rw [hu]; rfl⟩
    · rintro ⟨l,hl,rfl⟩
      exact ⟨['.'],l,rfl,(form_point _ _ _).mpr rfl,rowForm_labelNodes.mpr hl⟩
  rw [form_repeated_texts hbody]
  constructor
  · rintro ⟨ws,-,-,hall,rfl⟩
    refine ⟨ws.map List.tail,?_,?_⟩
    · intro l hl
      obtain ⟨u,hu,rfl⟩ := List.mem_map.mp hl
      obtain ⟨l,hlabel,rfl⟩ := hall u hu
      exact hlabel
    · have hws : ws.map ((fun l => '.' :: l) ∘ List.tail) = ws.map id := by
        refine List.map_congr_left fun u hu => ?_
        obtain ⟨l,-,rfl⟩ := hall u hu
        rfl
      rw [List.flatMap_def,List.map_map,hws,List.map_id]
  · rintro ⟨ls,hall,rfl⟩
    refine ⟨ls.map ('.' :: ·),Nat.zero_le _,?_,?_,List.flatMap_def ..⟩
    · rintro m ⟨⟩
    · intro u hu
      obtain ⟨l,hl,rfl⟩ := List.mem_map.mp hu
      exact ⟨l,hall l hl,rfl⟩

/-- At most one point. -/
theorem form_root : (Node.repeated .greedy 0 (some 1) [point]).form passed w rest ↔
    w = [] ∨ w = ['.'] := by
  have hpoint : point.form = .one ((CharClass.single 46).contains .plain) := rfl
  rw [form_repeated_one hpoint]
  constructor
  · rintro ⟨-,hle,hall⟩
    rcases w with _ | ⟨c,_ | ⟨d,w⟩⟩
    · exact Or.inl rfl
    · exact Or.inr ((form_point [] [c] []).mp ⟨c,hall c List.mem_cons_self,rfl⟩)
    · exact absurd (hle 1 rfl) (by simp)
  · rintro (rfl | rfl) <;> simp [contains_single]

/-- The look ahead bounds the length of a text in one line. -/
theorem form_length (hline : '\n' ∉ s) :
    (Node.look false true [.repeated .greedy 1 (some 253) [.any .plain],
      .anchor .plain .lineEnd]).form [] [] s ↔ 1 ≤ s.length ∧ s.length ≤ 253 := by
  have hany : (Node.any .plain).form = .one fun x => x != '\n' := rfl
  rw [form_look_ahead,Form.place,rowForm,rowForm_singleton,Node.form]
  simp only [Form.followed_place_iff,form_repeated_one hany,true_and]
  constructor
  · rintro ⟨w,after,rfl,⟨hpos,hle,-⟩,hend⟩
    have hafter : after = [] := by
      by_contra hne
      have hfeed : after = ['\n'] := by
        simpa [Anchor.holds,Options.plain,hne] using hend
      exact hline (List.mem_append_right w (hfeed ▸ List.mem_cons_self))
    rw [hafter,List.append_nil]
    exact ⟨hpos,hle 253 rfl⟩
  · rintro ⟨hpos,hle⟩
    refine ⟨s,[],(List.append_nil s).symm,⟨hpos,by rintro m ⟨⟩; exact hle,?_⟩,rfl⟩
    intro c hc
    rw [bne_iff_ne]
    rintro rfl
    exact hline hc

/-! ## The whole pattern -/

theorem join_cons (l : List Char) (ls : List (List Char)) :
    join '.' (l :: ls) = l ++ ls.flatMap ('.' :: ·) := by
  induction ls generalizing l with
  | nil => exact (List.append_nil l).symm
  | cons l' ls ih =>
      have hjoin : join '.' (l :: l' :: ls) = l ++ '.' :: join '.' (l' :: ls) := rfl
      rw [hjoin,ih,List.flatMap_cons,List.cons_append]

/-- A label, more labels behind points, and perhaps one more point. -/
theorem rowForm_labels : rowForm (labelNodes ++
    [.repeated .greedy 0 none [.group (some 1) (point :: labelNodes)],
      .repeated .greedy 0 (some 1) [point]]) [] s [] ↔
    ∃ ls, ls ≠ [] ∧ (∀ l ∈ ls, IsLabel l) ∧ (s = join '.' ls ∨ s = join '.' ls ++ ['.']) := by
  rw [rowForm_append,rowForm,rowForm_singleton]
  constructor
  · rintro ⟨l,_,rfl,hl,_,root,rfl,hlabels,hroot⟩
    obtain ⟨ls,hls,rfl⟩ := form_labels.mp hlabels
    refine ⟨l :: ls,List.cons_ne_nil l ls,
      List.forall_mem_cons.mpr ⟨rowForm_labelNodes.mp hl,hls⟩,?_⟩
    rw [join_cons,← List.append_assoc]
    exact (form_root.mp hroot).imp (by rintro rfl; exact List.append_nil _) (by rintro rfl; rfl)
  · rintro ⟨_ | ⟨l,ls⟩,hne,hall,hs⟩
    · exact absurd rfl hne
    obtain ⟨hl,hls⟩ := List.forall_mem_cons.mp hall
    obtain ⟨root,hroot,rfl⟩ : ∃ root, (root = [] ∨ root = ['.']) ∧
        s = l ++ (ls.flatMap ('.' :: ·) ++ root) := by
      rw [join_cons] at hs
      rcases hs with rfl | rfl
      · exact ⟨[],Or.inl rfl,by simp⟩
      · exact ⟨['.'],Or.inr rfl,by simp⟩
    exact ⟨l,_,rfl,rowForm_labelNodes.mpr hl,_,root,rfl,form_labels.mpr ⟨ls,hls,rfl⟩,
      form_root.mpr hroot⟩

theorem notMem_feed_of_labels {ls : List (List Char)} (hall : ∀ l ∈ ls, IsLabel l) :
    '\n' ∉ join '.' ls := by
  refine not_mem_join (by decide) fun l hl hfeed => ?_
  exact absurd ((hall l hl).letters '\n' hfeed) (by decide)

theorem rowForm_domainNodes : rowForm domainNodes [] s [] ↔ IsName s := by
  have hlength : (∃ ls, ls ≠ [] ∧ (∀ l ∈ ls, IsLabel l) ∧
      (s = join '.' ls ∨ s = join '.' ls ++ ['.'])) → '\n' ∉ s := by
    rintro ⟨ls,-,hall,rfl | rfl⟩
    · exact notMem_feed_of_labels hall
    · have hfeed := notMem_feed_of_labels hall
      simpa using hfeed
  have hform : rowForm domainNodes [] s [] ↔ (Node.look false true
      [.repeated .greedy 1 (some 253) [.any .plain],.anchor .plain .lineEnd]).form [] [] s ∧
        ∃ ls, ls ≠ [] ∧ (∀ l ∈ ls, IsLabel l) ∧ (s = join '.' ls ∨ s = join '.' ls ++ ['.']) := by
    rw [← rowForm_labels,domainNodes,rowForm,form_look_ahead,Form.place_followed_iff,
      List.append_nil]
    exact and_congr_left fun _ => (and_iff_right rfl).symm
  rw [hform]
  constructor
  · rintro ⟨hlook,hlabels⟩
    obtain ⟨hpos,hle⟩ := (form_length (hlength hlabels)).mp hlook
    exact ⟨hpos,hle,hlabels⟩
  · rintro ⟨hpos,hle,hlabels⟩
    exact ⟨(form_length (hlength hlabels)).mpr ⟨hpos,hle⟩,hlabels⟩

end

theorem isDomain_iff (s : List Char) : isDomain s = true ↔ IsName s := by
  have hplain : rowPlain domainNodes = true := by decide +kernel
  rw [isDomain,domainRegex_eq,← rowForm_domainNodes]
  exact Regex.matchesAll_iff hplain s

end Vetting.Address

namespace Vetting.Rules

/-- The rule on domain names judges every value, and passes the texts that are domain names. -/
theorem domain_passes_iff (v : Value) : (standard mail).get? "domain" = some domain ∧
    domain.Judges v [] [] ∧
      (domain.Passes v [] [] ↔ ∃ s, v = .text s ∧ Address.IsName s.toList) := by
  have hlisted : (standard mail).get? "domain" = some domain :=
    get?_of_listed ⟨[],by simp [transformers,validators]⟩
  refine ⟨hlisted,⟨_,_,_,_,rfl⟩,?_⟩
  cases v with
  | text s =>
      have hcall : domain.call (.text s) [] [] =
          .ok (.verdict (Address.isDomain s.toList) .null "domain" []) := rfl
      simp only [Rule.Passes,hcall,Except.ok.injEq,Outcome.verdict.injEq,Address.isDomain_iff]
      constructor
      · rintro ⟨_,_,_,hname,-⟩
        exact ⟨s,rfl,hname⟩
      · rintro ⟨s,⟨⟩,hname⟩
        exact ⟨_,_,_,hname,rfl,rfl,rfl⟩
  | _ =>
      refine iff_of_false ?_ ?_
      · rintro ⟨_,_,_,⟨⟩⟩
      · rintro ⟨_,⟨⟩,_⟩

end Vetting.Rules
