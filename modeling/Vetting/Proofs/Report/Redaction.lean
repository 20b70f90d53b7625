import Vetting.Proofs.Report.Forms

/-!
# What is left in a redacted text

Passwords, tokens of bearers and numbers of cards do not survive in a text, and cutting them out
after the addresses neither makes an address nor breaks one. An address itself survives in one
case: slashes right in front of an address begin none of their own, since no name stands between
them and the next colon, but they do once the address behind them has become a mask.
-/
namespace Vetting
open Pattern

namespace Report

/-! ## Texts with the same signs -/

/-- The characters that addresses are told by. -/
def signs : List Char := [':','/','@']

/-- Two texts have the same signs in the same order, with something between two of them in the one
text where there is something in the other. -/
inductive Alike : List Char → List Char → Prop
  | nil : Alike [] []
  | keep {s t : List Char} (c : Char) (h : Alike s t) : Alike (c :: s) (c :: t)
  | swap {u v s t : List Char} (hu : u ≠ []) (hv : v ≠ []) (hus : ∀ x ∈ u, x ∉ signs)
      (hvs : ∀ x ∈ v, x ∉ signs) (h : Alike s t) : Alike (u ++ s) (v ++ t)

namespace Alike
variable {s t before rest : List Char} {c : Char}

theorem refl (s : List Char) : Alike s s := by
  induction s with
  | nil => exact .nil
  | cons c s ih => exact .keep c ih

theorem symm (h : Alike s t) : Alike t s := by
  induction h with
  | nil => exact .nil
  | keep c _ ih => exact .keep c ih
  | swap hu hv hus hvs _ ih => exact .swap hv hu hvs hus ih

theorem append_left (h : Alike s t) (gap : List Char) : Alike (gap ++ s) (gap ++ t) := by
  induction gap with
  | nil => exact h
  | cons c gap ih => exact .keep c ih

theorem eq_nil (h : Alike s t) (hs : s = []) : t = [] := by
  cases h with
  | nil => rfl
  | keep => cases hs
  | swap hu => exact absurd (List.append_eq_nil_iff.mp hs).1 hu

/-- Both texts come apart at a sign of one of them. -/
theorem split (h : Alike s t) (hc : c ∈ signs) (hs : s = before ++ c :: rest) :
    ∃ before' rest', t = before' ++ c :: rest' ∧ Alike before before' ∧ Alike rest rest' := by
  induction h generalizing before with
  | nil => exact absurd hs.symm (by simp)
  | @keep s t d h ih =>
      cases before with
      | nil =>
          obtain ⟨rfl,rfl⟩ := List.cons.inj hs
          exact ⟨[],t,rfl,.nil,h⟩
      | cons x before =>
          obtain ⟨rfl,hrest⟩ := List.cons.inj hs
          obtain ⟨before',rest',rfl,hbefore,hrest⟩ := ih hrest
          exact ⟨d :: before',rest',rfl,.keep d hbefore,hrest⟩
  | @swap u v s t hu hv hus hvs h ih =>
      -- A sign is not in what is swapped, so what stands before it has all of that in front.
      have hfront : ∃ q, before = u ++ q ∧ s = q ++ c :: rest := by
        rcases List.append_eq_append_iff.mp hs with ⟨q,hq,hrest⟩ | ⟨q,hq,hrest⟩
        · exact ⟨q,hq,hrest⟩
        · cases q with
          | nil => exact ⟨[],by rw [hq,List.append_nil,List.append_nil],hrest.symm⟩
          | cons y q =>
              obtain ⟨rfl,-⟩ := List.cons.inj hrest
              exact absurd hc (hus c (hq ▸ List.mem_append_right before List.mem_cons_self))
      obtain ⟨q,rfl,hq⟩ := hfront
      obtain ⟨before',rest',rfl,hbefore,hrest⟩ := ih hq
      exact ⟨v ++ before',rest',(List.append_assoc _ _ _).symm,.swap hu hv hus hvs hbefore,hrest⟩

theorem notMem (h : Alike s t) (hc : c ∈ signs) (hs : c ∉ s) : c ∉ t := by
  intro ht
  obtain ⟨before,rest,ht⟩ := List.append_of_mem ht
  obtain ⟨before',rest',rfl,-⟩ := h.symm.split hc ht
  exact hs (by simp)

theorem login (h : Alike s t) (hs : Login s) : Login t := by
  obtain ⟨a,b,rest,hs,hne,ha,hne',hb⟩ := hs
  obtain ⟨a',u,rfl,haa,hu⟩ := h.split (by decide) hs
  obtain ⟨b',rest',rfl,hbb,-⟩ := hu.split (by decide) rfl
  exact ⟨a',b',rest',rfl,mt haa.symm.eq_nil hne,haa.notMem (by decide) ha,
    mt hbb.symm.eq_nil hne',hbb.notMem (by decide) hb⟩

/-- An address in one of the texts is one in the other. -/
theorem address_occurs (h : Alike s t) (hs : (rowForm addressNodes).Occurs [] s) :
    (rowForm addressNodes).Occurs [] t := by
  obtain ⟨before,u,hs,hu⟩ := address_occurs_iff.mp hs
  rw [slashes_append] at hs
  obtain ⟨before',r,rfl,-,hr⟩ := h.split (by decide) hs
  obtain ⟨p,r',rfl,hp,hr'⟩ := @split _ _ [] _ _ hr (by decide) rfl
  obtain ⟨p',r'',rfl,hp',hr''⟩ := @split _ _ [] _ _ hr' (by decide) rfl
  cases hp.eq_nil rfl
  cases hp'.eq_nil rfl
  exact address_occurs_iff.mpr ⟨before',r'',by rw [slashes_append]; rfl,hr''.login hu⟩

end Alike

theorem notMem_signs_of_mem_mask {x : Char} (h : x ∈ mask) : x ∉ signs := by
  have hall : (mask.all fun x => !signs.contains x) = true := by decide
  have hx := List.all_eq_true.mp hall x h
  rwa [Bool.not_eq_true',← Bool.not_eq_true,List.contains_iff_mem] at hx

/-- Cutting out texts without signs leaves the signs as they are. -/
theorem alike_of_cut {f : Form} {passed s out : List Char}
    (hf : ∀ passed w rest, f passed w rest → w ≠ [] ∧ ∀ x ∈ w, x ∉ signs)
    (h : Cut f mask passed s out) : Alike s out := by
  induction h with
  | done => exact .refl _
  | next hw _ _ ih =>
      obtain ⟨hne,hsigns⟩ := hf _ _ _ hw
      exact (Alike.swap hne (List.cons_ne_nil _ _) hsigns
        (fun _ => notMem_signs_of_mem_mask) ih).append_left _

/-! ## Addresses that come up again -/

section
variable {passed s t u v out : List Char}

/-- With an at sign further on, what begins with none begins with a password. -/
theorem exists_password (h : '@' ∈ t) (hhead : t.head? ≠ some '@') :
    ∃ b rest, t = b ++ '@' :: rest ∧ b ≠ [] ∧ '@' ∉ b := by
  obtain ⟨b,rest,rfl,hb⟩ := List.eq_append_cons_of_mem h
  refine ⟨b,rest,rfl,?_,hb⟩
  rintro rfl
  exact hhead rfl

/-- A login that has begun goes on where an address follows. -/
theorem Login.of_append (h : Login (v ++ t)) (hv : v ≠ []) {r : List Char} (hat : '@' ∈ r)
    (hr : r.head? ≠ some '@') : Login (v ++ ':' :: r) := by
  obtain ⟨a,b,rest,he,hne,ha,hne',hb⟩ := h
  have hwhole : ':' ∉ v → Login (v ++ ':' :: r) := fun hcolon => by
    obtain ⟨b',rest',rfl,hb⟩ := exists_password hat hr
    exact ⟨v,b',rest',rfl,hv,hcolon,hb⟩
  rcases List.append_eq_append_iff.mp he with ⟨q,rfl,-⟩ | ⟨q,rfl,hq⟩
  · exact hwhole fun h => ha (List.mem_append_left q h)
  · cases q with
    | nil => exact hwhole (by rwa [List.append_nil])
    | cons x q =>
        -- The colon of the login is in front of the address.
        obtain ⟨rfl,hfrom⟩ := List.cons.inj hq
        have hhead : (q ++ ':' :: r).head? ≠ some '@' := by
          cases q with
          | nil => exact nofun
          | cons y q =>
              obtain ⟨z,b,rfl⟩ := List.exists_cons_of_ne_nil hne'
              obtain ⟨rfl,-⟩ := List.cons.inj hfrom
              intro h
              exact hb (Option.some.inj h ▸ List.mem_cons_self)
        obtain ⟨b',rest',he',hb'⟩ :=
          exists_password (List.mem_append_right q (List.mem_cons_of_mem ':' hat)) hhead
        exact ⟨a,b',rest',by rw [List.append_assoc,List.cons_append,he'],hne,ha,hb'⟩

theorem apart_slashes : Apart '[' maskInner ']' slashes := by
  rw [slashes_eq]
  exact ⟨by decide,by decide,':',List.mem_cons_self,by decide⟩

/-- An address that is there after addresses have been cut out begins right in front of a mask, and
there the text had slashes twice in a row. -/
theorem relapse_of_cut (h : Cut (rowForm addressNodes) mask passed s out)
    (hout : (rowForm addressNodes).Occurs [] out) :
    (∃ before behind, out = before ++ (slashes ++ (mask ++ behind)) ∧ Login (mask ++ behind)) ∧
      slashes ++ slashes <:+: s := by
  rw [address_occurs_iff] at hout
  induction h with
  | done hnone =>
      exact absurd (address_occurs_iff.mpr hout) hnone
  | @next passed gap w rest out hw hgap _ ih =>
      obtain ⟨before,t,hout,ht⟩ := hout
      obtain ⟨a,b,hwa,-⟩ := address_form.mp hw
      rcases apart_slashes.before_or_behind hout with ⟨v,rfl,rfl⟩ | ⟨q,rfl,hq⟩
      · have hv : v = [] := by
          by_contra hv
          have hlogin : Login (v ++ (w ++ rest)) := by
            have hslash : w ++ rest =
                ':' :: ('/' :: '/' :: (a ++ ':' :: (b ++ ['@'])) ++ rest) := by
              rw [hwa,slashes_append]
              rfl
            rw [hslash]
            exact ht.of_append hv (by simp) nofun
          obtain ⟨x,rest',hx,hform⟩ := address_prefix_iff.mpr hlogin
          exact hgap before (slashes ++ v) x rest' rfl (by simp [hv])
            (by rw [List.append_assoc,hx]) hform
        subst hv
        refine ⟨⟨before,out,?_,ht⟩,before,a ++ ':' :: (b ++ ['@']) ++ rest,?_⟩
        · simp [mask]
        · rw [hwa]
          simp
      · obtain ⟨⟨before',behind,hout',hlogin⟩,pre,post,hrest⟩ := ih ⟨q,t,hq,ht⟩
        refine ⟨⟨gap ++ (mask ++ before'),behind,?_,hlogin⟩,gap ++ (w ++ pre),post,?_⟩
        · rw [hout']
          simp
        · rw [← hrest]
          simp

/-! ## Forms that do not come up again -/

variable {nodes : List Node} {f : Form}

theorem solid_of_sparesMask (h : sparesMask nodes = true) : (rowForm nodes).Solid :=
  fun _ _ _ hw => (apart_of_row h hw).ne_nil

theorem solid_secretRows : ∀ nodes ∈ secretRows, (rowForm nodes).Solid := by
  have haddress : (rowForm addressNodes).Solid := by
    intro passed w rest hw
    obtain ⟨a,b,rfl,-⟩ := address_form.mp hw
    simp
  have hcard : (rowForm cardNodes).Solid := by
    rw [card_form]
    exact fun _ _ _ hw => solid_of_sparesMask sparesMask_card _ _ _ hw.2.1
  simp only [secretRows,List.forall_mem_cons,List.not_mem_nil,false_implies,implies_true,and_true]
  exact ⟨solid_of_sparesMask sparesMask_password,haddress,
    solid_of_sparesMask sparesMask_bearer,hcard⟩

/-- A row of classes that spares the mask is gone once it has been cut out. -/
theorem not_occurs_of_cut (h : sparesMask nodes = true)
    (hcut : Cut (rowForm nodes) mask [] s out) : ¬ (rowForm nodes).Occurs [] out := by
  rw [row_eq_framed (several_of_sparesMask h)] at hcut ⊢
  exact hcut.not_occurs (fun _ hw => apart_of_row h hw) (Or.inl rfl)

/-- Cutting out something else does not bring it up. -/
theorem not_occurs_of_not_occurs (h : sparesMask nodes = true) (hcut : Cut f mask [] s out)
    (hs : ¬ (rowForm nodes).Occurs [] s) : ¬ (rowForm nodes).Occurs [] out := by
  rintro ⟨u,w,rest,rfl,hw⟩
  obtain ⟨pre,post,rfl⟩ := hcut.infix_of_apart (apart_of_row h hw)
    ⟨u,rest,List.append_assoc u w rest⟩
  exact hs ⟨pre,w,post,List.append_assoc pre w post,
    (row_of_several (several_of_sparesMask h) hw).2.2 _ _⟩

theorem not_occurs_card_of_cut (hcut : Cut (rowForm cardNodes) mask [] s out) :
    ¬ (rowForm cardNodes).Occurs [] out := by
  rw [card_form] at hcut ⊢
  exact hcut.not_occurs (fun _ hw => apart_of_row sparesMask_card hw) (Or.inl rfl)

/-- No sign is in a class of the row. -/
def sparesSigns (nodes : List Node) : Bool :=
  nodes.all fun n => signs.all fun x => !n.admits x

/-- A row without signs in its classes has none in its texts. -/
theorem notMem_signs_of_row (h : sparesMask nodes = true) (hsigns : sparesSigns nodes = true)
    {w rest : List Char} (hw : rowForm nodes passed w rest) : ∀ x ∈ w, x ∉ signs := by
  intro x hx hsign
  obtain ⟨n,hn,hadmits⟩ := (row_of_several (several_of_sparesMask h) hw).1 x hx
  have hnot := List.all_eq_true.mp (List.all_eq_true.mp hsigns n hn) x hsign
  rw [hadmits] at hnot
  cases hnot

theorem alike_of_cut_bearer (hcut : Cut (rowForm bearerNodes) mask [] s out) : Alike s out :=
  alike_of_cut (fun _ _ _ hw => ⟨solid_of_sparesMask sparesMask_bearer _ _ _ hw,
    notMem_signs_of_row sparesMask_bearer (by decide) hw⟩) hcut

theorem alike_of_cut_card (hcut : Cut (rowForm cardNodes) mask [] s out) : Alike s out := by
  rw [card_form] at hcut
  exact alike_of_cut (fun _ _ _ hw => ⟨solid_of_sparesMask sparesMask_card _ _ _ hw.2.1,
    notMem_signs_of_row sparesMask_card (by decide) hw.2.1⟩) hcut

end

/-! ## Redacted texts -/

/-- Something in a text looks like a secret. -/
def ShowsSecret (s : String) : Prop := ∃ p ∈ secretPatterns, p.occursIn s.toList = true

/-- A text with passwords and addresses cut out. -/
def withoutAddresses (s : String) : List Char :=
  (secretPatterns.take 2).foldl (fun t p => p.replace none (fun _ => filtered.toList) t) s.toList

/-- Once passwords and addresses have been cut out of a text, slashes that stand in front of a mask
have a login behind them. -/
def Relapses (s : String) : Prop :=
  ∃ before behind, withoutAddresses s = before ++ (slashes ++ (filtered.toList ++ behind)) ∧
    Login (filtered.toList ++ behind)

section
variable {s : String}

theorem showsSecret_iff : ShowsSecret s ↔
    (rowForm passwordNodes).Occurs [] s.toList ∨ (rowForm addressNodes).Occurs [] s.toList ∨
      (rowForm bearerNodes).Occurs [] s.toList ∨ (rowForm cardNodes).Occurs [] s.toList := by
  have hrows : ShowsSecret s ↔ ∃ nodes ∈ secretRows, (rowForm nodes).Occurs [] s.toList := by
    have hoccurs : ∀ nodes ∈ secretRows, Regex.occursIn ⟨nodes,0,[]⟩ s.toList = true ↔
        (rowForm nodes).Occurs [] s.toList := fun nodes h =>
      Regex.occursIn_iff (p := ⟨nodes,0,[]⟩) (rowPlain_secretRows nodes h)
        (solid_secretRows nodes h)
    rw [ShowsSecret,secretPatterns_eq]
    constructor
    · rintro ⟨p,hp,h⟩
      obtain ⟨nodes,hnodes,rfl⟩ := List.mem_map.mp hp
      exact ⟨nodes,hnodes,(hoccurs nodes hnodes).mp h⟩
    · rintro ⟨nodes,hnodes,h⟩
      exact ⟨_,List.mem_map_of_mem hnodes,(hoccurs nodes hnodes).mpr h⟩
  rw [hrows]
  simp only [secretRows,List.mem_cons,List.not_mem_nil,or_false,exists_eq_or_imp,exists_eq_left]

/-- Putting the mask in the place of everything that a row matches. -/
def cutRow (nodes : List Node) (t : List Char) : List Char :=
  Regex.replace ⟨nodes,0,[]⟩ none (fun _ => mask) t

theorem cut_cutRow {nodes : List Node} (h : nodes ∈ secretRows) (t : List Char) :
    Cut (rowForm nodes) mask [] t (cutRow nodes t) :=
  Regex.replace_cut (p := ⟨nodes,0,[]⟩) (rowPlain_secretRows nodes h)
    (solid_secretRows nodes h) mask t

theorem withoutAddresses_eq (s : String) :
    withoutAddresses s = cutRow addressNodes (cutRow passwordNodes s.toList) := by
  rw [withoutAddresses,secretPatterns_eq,filtered_eq]
  simp only [secretRows,List.map_cons,List.map_nil,List.take_succ_cons,List.take_zero,
    List.foldl_cons,List.foldl_nil,cutRow]

theorem toList_redact (s : String) :
    (redact s).toList = cutRow cardNodes (cutRow bearerNodes (withoutAddresses s)) := by
  rw [withoutAddresses_eq,redact,secretPatterns_eq,String.toList_ofList,filtered_eq]
  simp only [secretRows,List.map_cons,List.map_nil,List.foldl_cons,List.foldl_nil,cutRow]

/-- The four forms are cut out of a text one after the other. -/
theorem exists_cuts (s : String) : ∃ t₁ t₃,
    Cut (rowForm passwordNodes) mask [] s.toList t₁ ∧
    Cut (rowForm addressNodes) mask [] t₁ (withoutAddresses s) ∧
    Cut (rowForm bearerNodes) mask [] (withoutAddresses s) t₃ ∧
    Cut (rowForm cardNodes) mask [] t₃ (redact s).toList := by
  rw [toList_redact,withoutAddresses_eq]
  exact ⟨_,_,cut_cutRow (by simp [secretRows]) _,cut_cutRow (by simp [secretRows]) _,
    cut_cutRow (by simp [secretRows]) _,cut_cutRow (by simp [secretRows]) _⟩

/-- A text in which nothing looks like a secret stays as it is. -/
theorem redact_eq_self (h : ¬ ShowsSecret s) : redact s = s := by
  rw [showsSecret_iff,not_or,not_or,not_or] at h
  obtain ⟨hpassword,haddress,hbearer,hcard⟩ := h
  obtain ⟨t₁,t₃,hcut₁,hcut₂,hcut₃,hcut₄⟩ := exists_cuts s
  rw [hcut₁.eq_of_not_occurs hpassword] at hcut₂
  rw [hcut₂.eq_of_not_occurs haddress] at hcut₃
  rw [hcut₃.eq_of_not_occurs hbearer] at hcut₄
  exact String.toList_inj.mp (hcut₄.eq_of_not_occurs hcard)

theorem address_occurs_redact_iff : (rowForm addressNodes).Occurs [] (redact s).toList ↔
    (rowForm addressNodes).Occurs [] (withoutAddresses s) := by
  obtain ⟨t₁,t₃,-,-,hcut₃,hcut₄⟩ := exists_cuts s
  have halike₃ := alike_of_cut_bearer hcut₃
  have halike₄ := alike_of_cut_card hcut₄
  exact ⟨fun h => halike₃.symm.address_occurs (halike₄.symm.address_occurs h),
    fun h => halike₄.address_occurs (halike₃.address_occurs h)⟩

theorem address_occurs_withoutAddresses_iff :
    (rowForm addressNodes).Occurs [] (withoutAddresses s) ↔ Relapses s := by
  obtain ⟨t₁,t₃,-,hcut₂,-,-⟩ := exists_cuts s
  rw [Relapses,filtered_eq]
  constructor
  · exact fun h => (relapse_of_cut hcut₂ h).1
  · rintro ⟨before,behind,hout,hlogin⟩
    exact address_occurs_iff.mpr ⟨before,_,hout,hlogin⟩

/-- A text relapses only if it has slashes twice in a row. -/
theorem Relapses.slashes_infix (h : Relapses s) : slashes ++ slashes <:+: s.toList := by
  obtain ⟨t₁,t₃,hcut₁,hcut₂,-,-⟩ := exists_cuts s
  have hinfix := (relapse_of_cut hcut₂ (address_occurs_withoutAddresses_iff.mpr h)).2
  refine hcut₁.infix_of_apart ?_ hinfix
  obtain ⟨hopen,hclose,x,hx,hinner⟩ := apart_slashes
  exact ⟨fun h => (List.mem_append.mp h).elim hopen hopen,
    fun h => (List.mem_append.mp h).elim hclose hclose,x,List.mem_append_left _ hx,hinner⟩

theorem not_occurs_password_redact : ¬ (rowForm passwordNodes).Occurs [] (redact s).toList := by
  obtain ⟨t₁,t₃,hcut₁,hcut₂,hcut₃,hcut₄⟩ := exists_cuts s
  exact not_occurs_of_not_occurs sparesMask_password hcut₄
    (not_occurs_of_not_occurs sparesMask_password hcut₃
      (not_occurs_of_not_occurs sparesMask_password hcut₂
        (not_occurs_of_cut sparesMask_password hcut₁)))

/-- Of the four forms an address alone can be left in a redacted text, where the text relapses. -/
theorem showsSecret_redact_iff : ShowsSecret (redact s) ↔ Relapses s := by
  obtain ⟨t₁,t₃,-,-,hcut₃,hcut₄⟩ := exists_cuts s
  have hbearer : ¬ (rowForm bearerNodes).Occurs [] (redact s).toList :=
    not_occurs_of_not_occurs sparesMask_bearer hcut₄ (not_occurs_of_cut sparesMask_bearer hcut₃)
  have hcard := not_occurs_card_of_cut hcut₄
  rw [showsSecret_iff,or_iff_right not_occurs_password_redact,
    or_iff_left (not_or.mpr ⟨hbearer,hcard⟩),address_occurs_redact_iff,address_occurs_withoutAddresses_iff]

/-! ## Redacting again -/

theorem at_notMem_mask : '@' ∉ mask := fun h => notMem_signs_of_mem_mask h (by decide)

theorem count_le_of_cut {f : Form} {x : Char} (hx : x ∉ mask) {passed t out : List Char}
    (h : Cut f mask passed t out) : out.count x ≤ t.count x := by
  induction h with
  | done => exact Nat.le_refl _
  | @next _ gap w rest out _ _ _ ih =>
      simp only [List.count_append,List.count_eq_zero_of_not_mem hx]
      omega

/-- An address that is cut out takes an at sign with it. -/
theorem count_lt_of_cut_address {passed t out : List Char}
    (h : Cut (rowForm addressNodes) mask passed t out)
    (ht : (rowForm addressNodes).Occurs passed t) : out.count '@' < t.count '@' := by
  cases h with
  | done hnone => exact absurd ht hnone
  | @next _ gap w rest out hw _ hrest =>
      obtain ⟨a,b,rfl,-⟩ := address_form.mp hw
      have hle := count_le_of_cut at_notMem_mask hrest
      simp only [List.count_append,List.count_cons,List.count_eq_zero_of_not_mem at_notMem_mask]
      simp
      omega

/-- Redacting a text again changes nothing unless it relapses. -/
theorem redact_redact_iff : redact (redact s) = redact s ↔ ¬ Relapses s := by
  constructor
  · intro h hrelapse
    have haddress := address_occurs_redact_iff.mpr
      (address_occurs_withoutAddresses_iff.mpr hrelapse)
    obtain ⟨t₁,t₃,hcut₁,hcut₂,hcut₃,hcut₄⟩ := exists_cuts (redact s)
    rw [hcut₁.eq_of_not_occurs not_occurs_password_redact] at hcut₂
    have hlt := count_lt_of_cut_address hcut₂ haddress
    have hle₃ := count_le_of_cut at_notMem_mask hcut₃
    have hle₄ := count_le_of_cut at_notMem_mask hcut₄
    rw [h] at hle₄
    exact absurd (Nat.le_trans hle₄ hle₃) (Nat.not_le.mpr hlt)
  · intro h
    exact redact_eq_self (mt showsSecret_redact_iff.mp h)

end

end Report
end Vetting
