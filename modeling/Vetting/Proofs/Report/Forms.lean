import Vetting.Proofs.Pattern.Cut
import Vetting.Proofs.Pattern.Reading
import Vetting.Proofs.Text.Case
import Vetting.Report

/-!
# What secrets look like

Passwords, addresses with names in them, tokens of bearers and numbers of cards each have a form.
-/
namespace Vetting

namespace Pattern

/-! ## Rows of classes -/

/-- The class of the characters that a node takes one or more of. -/
def Node.several? : Node → Option (Options × CharClass)
  | .one o k => some (o,k)
  | .repeated _ lo _ [.one o k] => if 1 ≤ lo then some (o,k) else none
  | _ => none

/-- A node can take a character. -/
def Node.admits (x : Char) (n : Node) : Bool := n.several?.any fun k => k.2.contains k.1 x

section
variable {n : Node} {nodes : List Node} {passed w rest : List Char}

/-- The texts of a class, one character or more, are the same wherever they stand. -/
theorem Node.form_of_several (h : n.several?.isSome = true) (hf : n.form passed w rest) :
    w ≠ [] ∧ (∀ x ∈ w, n.admits x = true) ∧ ∀ passed' rest', n.form passed' w rest' := by
  obtain ⟨k,hk⟩ := Option.isSome_iff_exists.mp h
  have hadmits : ∀ x, n.admits x = k.2.contains k.1 x := fun x => by rw [admits,hk]; rfl
  simp only [hadmits]
  rw [several?.eq_def] at hk
  split at hk
  · cases hk
    obtain ⟨x,hx,rfl⟩ := hf
    exact ⟨List.cons_ne_nil _ _,List.forall_mem_singleton.mpr hx,fun _ _ => ⟨x,hx,rfl⟩⟩
  · split at hk
    · rename_i hlo
      cases hk
      obtain ⟨hlen,hhi,hall⟩ := (form_repeated_one rfl).mp hf
      exact ⟨List.length_pos_iff.mp (Nat.lt_of_lt_of_le hlo hlen),hall,
        fun _ _ => (form_repeated_one rfl).mpr ⟨hlen,hhi,hall⟩⟩
    · cases hk
  · cases hk

/-- A text of a row has characters of its classes only, and some of each. -/
theorem row_of_several (h : ∀ n ∈ nodes, n.several?.isSome = true)
    (hf : rowForm nodes passed w rest) :
    (∀ x ∈ w, ∃ n ∈ nodes, n.admits x = true) ∧ (∀ n ∈ nodes, ∃ x ∈ w, n.admits x = true) ∧
      ∀ passed' rest', rowForm nodes passed' w rest' := by
  induction nodes generalizing passed w rest with
  | nil =>
      obtain ⟨rfl,-⟩ := hf
      exact ⟨nofun,nofun,fun _ _ => ⟨rfl,trivial⟩⟩
  | cons n nodes ih =>
      obtain ⟨hn,hnodes⟩ := List.forall_mem_cons.mp h
      obtain ⟨u,v,rfl,hu,hv⟩ := hf
      obtain ⟨hne,hall,hfree⟩ := n.form_of_several hn hu
      obtain ⟨hclass,hsome,hrest⟩ := ih hnodes hv
      refine ⟨fun x hx => ?_,List.forall_mem_cons.mpr ⟨?_,fun m hm => ?_⟩,
        fun _ _ => ⟨u,v,rfl,hfree _ _,hrest _ _⟩⟩
      · rcases List.mem_append.mp hx with hx | hx
        · exact ⟨n,List.mem_cons_self,hall x hx⟩
        · obtain ⟨m,hm,hx⟩ := hclass x hx
          exact ⟨m,List.mem_cons_of_mem n hm,hx⟩
      · obtain ⟨x,hx⟩ := List.exists_mem_of_ne_nil u hne
        exact ⟨x,List.mem_append_left v hx,hall x hx⟩
      · obtain ⟨x,hx,hm⟩ := hsome m hm
        exact ⟨x,List.mem_append_right u hx,hm⟩

/-- A row of classes needs no boundaries. -/
theorem row_eq_framed (h : ∀ n ∈ nodes, n.several?.isSome = true) :
    rowForm nodes = .framed (fun _ _ => True) fun w => rowForm nodes [] w [] := by
  funext passed w rest
  refine propext ⟨fun hf => ⟨trivial,(row_of_several h hf).2.2 _ _,trivial⟩,fun hf => ?_⟩
  exact (row_of_several h hf.2.1).2.2 _ _

end
end Pattern

open Pattern Text

namespace Report

/-! ## The forms -/

def folded : Options := { Options.plain with ignoreCase := true }

/-- A letter in either case. -/
def letter (c : Char) : Node := .one folded (.single c.toNat)

def several (k : CharClass) : Node := .repeated .greedy 1 none [.one folded k]

def passwordNodes : List Node :=
  "password=".toList.map letter ++
    [several ⟨false,[.category .word false,.point 45,.point 95]⟩]

def addressNodes : List Node :=
  [letter ':',letter '/',letter '/',several ⟨true,[.point 58]⟩,letter ':',
    several ⟨true,[.point 64]⟩,letter '@']

def bearerNodes : List Node :=
  "Bearer".toList.map letter ++
    [several ⟨false,[.category .space false]⟩,
      several ⟨false,[.category .word false,.point 45,.point 95,.point 46]⟩]

def cardDigits : Node :=
  .repeated .greedy 13 (some 19) [.one folded ⟨false,[.category .digit false]⟩]

def cardNodes : List Node :=
  [.anchor folded .wordEdge,cardDigits,.anchor folded .wordEdge]

/-- What the patterns for secrets are made of, in their order. -/
def secretRows : List (List Node) := [passwordNodes,addressNodes,bearerNodes,cardNodes]

/-! ## Reading them -/

section
variable {s : Scan} {fuel : Nat} {done : List Node} {ts rest : List Token} {k : CharClass}

/-- One or more characters of a class that is written in brackets. -/
theorem row_several (ho : s.options = folded) (h : s.rest = .plain '[' :: ts)
    (hread : CharClass.read ts = .ok (k,.plain '+' :: rest))
    (hlazy : rest.head? ≠ some (.plain '?')) (hpossessive : rest.head? ≠ some (.plain '+')) :
    (row (fuel + 2) none true done).run s =
      (row fuel none true (several k :: done)).run { s with rest := rest } := by
  have hv : ∀ r : List Token,
      ((none : Option Options).getD { s with rest := r }.options).verbose = false := fun r => by
    rw [Option.getD_none,ho]
    rfl
  rw [row_class h (hv _) hread,row_repetition rfl (hv _) rfl rfl hlazy hpossessive,
    Option.getD_none,ho]
  rfl
end

theorem rowLookable_secretRows : ∀ nodes ∈ secretRows, rowLookable nodes = true := by
  decide +kernel

theorem parse_password : Regex.parse ("(?i)".toList ++ "password=[\\w\\-_]+".toList) =
    .ok ⟨passwordNodes,0,[]⟩ := by
  have ht : tokens "password=[\\w\\-_]+".toList = "password=".toList.map .plain ++
      [.plain '[',.escaped 'w',.escaped '-',.plain '_',.plain ']',.plain '+'] := by decide
  have hfuel : ∀ fuel, fuel + 12 = fuel + 3 + "password=".toList.length := fun _ => rfl
  refine parse_folded (k := 12) rfl (by rw [ht]; decide) (fun fuel => ?_)
    (rowLookable_secretRows _ (by simp [secretRows]))
  rw [ht,hfuel,row_word (fuel + 3) rfl (List.all_eq_true.mp (by decide)) rfl,
    row_several rfl rfl rfl (by decide) (by decide),row_nil rfl]
  rfl

theorem parse_address : Regex.parse ("(?i)".toList ++ "://[^:]+:[^@]+@".toList) =
    .ok ⟨addressNodes,0,[]⟩ := by
  have ht : tokens "://[^:]+:[^@]+@".toList = "://".toList.map .plain ++
      ([.plain '[',.plain '^',.plain ':',.plain ']',.plain '+'] ++ .plain ':' ::
        [.plain '[',.plain '^',.plain '@',.plain ']',.plain '+',.plain '@']) := by decide
  have hfuel : ∀ fuel, fuel + 10 = fuel + 7 + "://".toList.length := fun _ => rfl
  refine parse_folded (k := 10) rfl (by rw [ht]; decide) (fun fuel => ?_)
    (rowLookable_secretRows _ (by simp [secretRows]))
  rw [ht,hfuel,row_word (fuel + 7) rfl (List.all_eq_true.mp (by decide)) rfl,
    row_several rfl rfl rfl (by decide) (by decide),row_literal rfl rfl rfl,
    row_several rfl rfl rfl (by decide) (by decide),row_literal rfl rfl rfl,row_nil rfl]
  rfl

theorem parse_bearer : Regex.parse ("(?i)".toList ++ "Bearer\\s+[\\w\\-_\\.]+".toList) =
    .ok ⟨bearerNodes,0,[]⟩ := by
  have ht : tokens "Bearer\\s+[\\w\\-_\\.]+".toList = "Bearer".toList.map .plain ++
      .escaped 's' :: .plain '+' :: [.plain '[',.escaped 'w',.escaped '-',.plain '_',
        .escaped '.',.plain ']',.plain '+'] := by decide
  have hfuel : ∀ fuel, fuel + 11 = fuel + 5 + "Bearer".toList.length := fun _ => rfl
  refine parse_folded (k := 11) rfl (by rw [ht]; decide) (fun fuel => ?_)
    (rowLookable_secretRows _ (by simp [secretRows]))
  rw [ht,hfuel,row_word (fuel + 5) rfl (List.all_eq_true.mp (by decide)) rfl,row_escaped rfl rfl,
    row_repetition rfl rfl rfl rfl (by decide) (by decide),
    row_several rfl rfl rfl (by decide) (by decide),row_nil rfl]
  rfl

theorem parse_card : Regex.parse ("(?i)".toList ++ "\\b\\d\x7b13,19\x7d\\b".toList) =
    .ok ⟨cardNodes,0,[]⟩ := by
  have ht : tokens "\\b\\d\x7b13,19\x7d\\b".toList = [.escaped 'b',.escaped 'd',.plain '\x7b',
      .plain '1',.plain '3',.plain ',',.plain '1',.plain '9',.plain '\x7d',.escaped 'b'] := by
    decide
  refine parse_folded (k := 5) rfl (by rw [ht]; decide) (fun fuel => ?_)
    (rowLookable_secretRows _ (by simp [secretRows]))
  rw [ht,row_escaped rfl rfl,row_escaped rfl rfl,
    row_bounds rfl rfl rfl rfl (by decide) (by decide),row_escaped rfl rfl,row_nil rfl]
  rfl

theorem secretPatterns_eq : secretPatterns = secretRows.map (⟨·,0,[]⟩) := by
  have hparse : ∀ s : String, Regex.parse ("(?i)" ++ s).toList =
      Regex.parse ("(?i)".toList ++ s.toList) := fun s => by rw [String.toList_append]
  simp only [secretPatterns,secretForms,List.filterMap_cons,hparse,parse_password,parse_address,
    parse_bearer,parse_card]
  rfl

theorem rowPlain_secretRows : ∀ nodes ∈ secretRows, rowPlain nodes = true := by decide +kernel

/-! ## Secrets and the mask -/

def maskInner : List Char := "FILTERED".toList

def mask : List Char := '[' :: (maskInner ++ [']'])

theorem filtered_eq : filtered.toList = mask := rfl

section
variable {nodes : List Node} {passed w rest : List Char}

/-- No class of a row has an end of the mask, and one of them has nothing of the mask at all. -/
def sparesMask (nodes : List Node) : Bool :=
  nodes.all (fun n => n.several?.isSome && !n.admits '[' && !n.admits ']') &&
    nodes.any fun n => mask.all fun x => !n.admits x

theorem several_of_sparesMask (h : sparesMask nodes = true) :
    ∀ n ∈ nodes, n.several?.isSome = true := by
  simp only [sparesMask,Bool.and_eq_true,List.all_eq_true] at h
  exact fun n hn => (h.1 n hn).1.1

theorem apart_of_row (h : sparesMask nodes = true) (hf : rowForm nodes passed w rest) :
    Apart '[' maskInner ']' w := by
  obtain ⟨hclass,hsome,-⟩ := row_of_several (several_of_sparesMask h) hf
  simp only [sparesMask,Bool.and_eq_true,List.all_eq_true,List.any_eq_true,
    Bool.not_eq_true'] at h
  obtain ⟨hall,n,hn,hmask⟩ := h
  refine ⟨fun hx => ?_,fun hx => ?_,?_⟩
  · obtain ⟨m,hm,hopen⟩ := hclass _ hx
    exact absurd ((hall m hm).1.2.symm.trans hopen) Bool.false_ne_true
  · obtain ⟨m,hm,hclose⟩ := hclass _ hx
    exact absurd ((hall m hm).2.symm.trans hclose) Bool.false_ne_true
  · obtain ⟨x,hx,hadmits⟩ := hsome n hn
    exact ⟨x,hx,fun hin => absurd ((hmask x hin).symm.trans hadmits) Bool.false_ne_true⟩

end

theorem sparesMask_password : sparesMask passwordNodes = true := rfl

theorem sparesMask_bearer : sparesMask bearerNodes = true := rfl

theorem sparesMask_card : sparesMask [cardDigits] = true := rfl

/-! ## Numbers of cards -/

/-- A word begins or ends between two characters. -/
def WordEdge (a b : Option Char) : Prop := (a.any isWordChar != b.any isWordChar) = true

theorem wordEdge_iff (passed rest : List Char) :
    Anchor.wordEdge.holds folded ⟨0,passed,rest,#[],#[]⟩ = true ↔
      WordEdge passed.head? rest.head? := by
  cases passed <;> cases rest <;> exact Iff.rfl

theorem card_form :
    rowForm cardNodes = .framed WordEdge fun w => rowForm [cardDigits] [] w [] := by
  have hdigits : ∀ n ∈ [cardDigits], n.several?.isSome = true :=
    several_of_sparesMask sparesMask_card
  have hrow : ∀ passed w rest, rowForm cardNodes passed w rest ↔
      WordEdge passed.head? (w ++ rest).head? ∧ rowForm [cardDigits] passed w rest ∧
        WordEdge (w.reverse ++ passed).head? rest.head? := by
    intro passed w rest
    refine Form.place_followed_iff.trans (and_congr (wordEdge_iff _ _) ?_)
    refine (rowForm_append (a := [cardDigits]) (b := [.anchor folded .wordEdge])).trans ?_
    rw [rowForm_singleton (.anchor folded .wordEdge)]
    exact Form.followed_place_iff.trans (and_congr_right fun _ => wordEdge_iff _ _)
  funext passed w rest
  refine propext ((hrow passed w rest).trans (and_congr_right fun _ => and_congr_left fun _ => ?_))
  exact ⟨fun h => (row_of_several hdigits h).2.2 _ _,fun h => (row_of_several hdigits h).2.2 _ _⟩

/-! ## Addresses -/

section
variable {x : Char} {passed w rest s : List Char}

/-- A sign of ASCII stands for itself alone, also where case is ignored. -/
theorem contains_letter_iff {y : Char} (hy : y ∈ [':','/','@']) :
    (CharClass.single y.toNat).contains folded x = true ↔ x = y := by
  obtain ⟨hascii,hcapital,hsmall,hfold,hfamilies⟩ : y.toNat < 128 ∧
      ¬ (65 ≤ y.toNat ∧ y.toNat ≤ 90) ∧ ¬ (97 ≤ y.toNat ∧ y.toNat ≤ 122) ∧
      foldNumber false y.toNat = y.toNat ∧
      ∀ family ∈ caseFamilies, family.contains y.toNat = false := by
    rw [List.mem_cons,List.mem_cons,List.mem_singleton] at hy
    rcases hy with rfl | rfl | rfl <;> decide
  have hcontains : (CharClass.single y.toNat).contains folded x =
      (caseFamily false (foldChar x).toNat).contains (foldNumber false y.toNat) := by
    simp [CharClass.contains,CharClass.single,ClassItem.contains,ClassItem.hasVariant,folded,
      Options.plain,foldCase]
  rw [hcontains,hfold,← Char.toNat_inj,← toNat_foldChar_eq_iff hascii hcapital hsmall]
  generalize (foldChar x).toNat = n
  rw [caseFamily,if_neg Bool.false_ne_true]
  cases hfind : caseFamilies.find? fun l => l.contains n with
  | none => simp [eq_comm]
  | some family =>
      have hnone := hfamilies family (List.mem_of_find?_eq_some hfind)
      have hn := List.find?_some hfind
      rw [Option.getD_some,hnone]
      refine iff_of_false Bool.false_ne_true ?_
      rintro rfl
      exact absurd (hnone.symm.trans hn) Bool.false_ne_true

theorem contains_other_iff {y : Char} (hy : y ∈ [':','/','@']) :
    CharClass.contains folded ⟨true,[.point y.toNat]⟩ x = true ↔ x ≠ y := by
  have hnot : CharClass.contains folded ⟨true,[.point y.toNat]⟩ x =
      !(CharClass.single y.toNat).contains folded x := by
    simp [CharClass.contains,CharClass.single]
  rw [hnot,Bool.not_eq_true',← Bool.not_eq_true,contains_letter_iff hy]

theorem form_letter_cons {y : Char} (hy : y ∈ [':','/','@']) {nodes : List Node} :
    rowForm (letter y :: nodes) passed w rest ↔
      ∃ v, w = y :: v ∧ rowForm nodes (y :: passed) v rest := by
  constructor
  · rintro ⟨_,v,rfl,⟨x,hx,rfl⟩,hv⟩
    cases (contains_letter_iff hy).mp hx
    exact ⟨v,rfl,hv⟩
  · rintro ⟨v,rfl,hv⟩
    exact ⟨[y],v,rfl,⟨y,(contains_letter_iff hy).mpr rfl,rfl⟩,hv⟩

theorem form_others_cons {y : Char} (hy : y ∈ [':','/','@']) {nodes : List Node} :
    rowForm (several ⟨true,[.point y.toNat]⟩ :: nodes) passed w rest ↔
      ∃ u v, w = u ++ v ∧ u ≠ [] ∧ y ∉ u ∧ rowForm nodes (u.reverse ++ passed) v rest := by
  have hseveral : ∀ {passed u rest},
      (several ⟨true,[.point y.toNat]⟩).form passed u rest ↔ u ≠ [] ∧ y ∉ u := by
    intro passed u rest
    refine (form_repeated_one rfl).trans (and_congr List.length_pos_iff ?_)
    rw [and_iff_right nofun]
    simp only [contains_other_iff hy]
    exact ⟨fun h hu => h y hu rfl,fun h x hx he => h (he ▸ hx)⟩
  constructor
  · rintro ⟨u,v,rfl,hu,hv⟩
    obtain ⟨hne,hall⟩ := hseveral.mp hu
    exact ⟨u,v,rfl,hne,hall,hv⟩
  · rintro ⟨u,v,rfl,hne,hall,hv⟩
    exact ⟨u,v,rfl,hseveral.mpr ⟨hne,hall⟩,hv⟩

/-- A text begins with a name, a colon, a password and an at sign. -/
def Login (t : List Char) : Prop :=
  ∃ a b rest, t = a ++ ':' :: (b ++ '@' :: rest) ∧ a ≠ [] ∧ ':' ∉ a ∧ b ≠ [] ∧ '@' ∉ b

def slashes : List Char := "://".toList

theorem slashes_eq : slashes = [':','/','/'] := rfl

theorem slashes_append (t : List Char) : slashes ++ t = ':' :: '/' :: '/' :: t := by
  rw [slashes_eq]
  rfl

theorem address_form : rowForm addressNodes passed w rest ↔
    ∃ a b, w = slashes ++ (a ++ ':' :: (b ++ ['@'])) ∧ a ≠ [] ∧ ':' ∉ a ∧ b ≠ [] ∧ '@' ∉ b := by
  have hcolon : ':' ∈ [':','/','@'] := by decide
  have hslash : '/' ∈ [':','/','@'] := by decide
  have hat : '@' ∈ [':','/','@'] := by decide
  simp only [slashes_append]
  constructor
  · intro h
    obtain ⟨_,rfl,h₁⟩ := (form_letter_cons hcolon).mp h
    obtain ⟨_,rfl,h₂⟩ := (form_letter_cons hslash).mp h₁
    obtain ⟨_,rfl,h₃⟩ := (form_letter_cons hslash).mp h₂
    obtain ⟨a,_,rfl,hne,ha,h₄⟩ := (form_others_cons hcolon).mp h₃
    obtain ⟨_,rfl,h₅⟩ := (form_letter_cons hcolon).mp h₄
    obtain ⟨b,_,rfl,hne',hb,h₆⟩ := (form_others_cons hat).mp h₅
    obtain ⟨_,rfl,rfl,-⟩ := (form_letter_cons hat).mp h₆
    exact ⟨a,b,rfl,hne,ha,hne',hb⟩
  · rintro ⟨a,b,rfl,hne,ha,hne',hb⟩
    refine (form_letter_cons hcolon).mpr ⟨_,rfl,?_⟩
    refine (form_letter_cons hslash).mpr ⟨_,rfl,?_⟩
    refine (form_letter_cons hslash).mpr ⟨_,rfl,?_⟩
    refine (form_others_cons hcolon).mpr ⟨a,_,rfl,hne,ha,?_⟩
    refine (form_letter_cons hcolon).mpr ⟨_,rfl,?_⟩
    refine (form_others_cons hat).mpr ⟨b,_,rfl,hne',hb,?_⟩
    exact (form_letter_cons hat).mpr ⟨[],rfl,rfl,trivial⟩

/-- An address stands wherever a login follows its slashes. -/
theorem address_prefix_iff {t : List Char} :
    (∃ x rest, slashes ++ t = x ++ rest ∧ rowForm addressNodes passed x rest) ↔ Login t := by
  constructor
  · rintro ⟨x,rest,ht,hx⟩
    obtain ⟨a,b,rfl,hne,ha,hne',hb⟩ := address_form.mp hx
    rw [List.append_assoc] at ht
    refine ⟨a,b,rest,?_,hne,ha,hne',hb⟩
    rw [List.append_cancel_left ht]
    simp
  · rintro ⟨a,b,rest,rfl,hne,ha,hne',hb⟩
    refine ⟨_,rest,?_,address_form.mpr ⟨a,b,rfl,hne,ha,hne',hb⟩⟩
    simp

theorem address_occurs_iff : (rowForm addressNodes).Occurs passed s ↔
    ∃ before t, s = before ++ (slashes ++ t) ∧ Login t := by
  constructor
  · rintro ⟨u,w,rest,rfl,hw⟩
    obtain ⟨a,b,rfl,-⟩ := address_form.mp hw
    exact ⟨u,a ++ ':' :: (b ++ ['@']) ++ rest,by simp only [List.append_assoc],
      (@address_prefix_iff (u.reverse ++ passed) _).mp
        ⟨_,rest,(List.append_assoc _ _ _).symm,hw⟩⟩
  · rintro ⟨before,t,rfl,ht⟩
    obtain ⟨x,rest,hx,hform⟩ := address_prefix_iff.mpr ht
    exact ⟨before,x,rest,by rw [hx],hform⟩

end

end Report
end Vetting
