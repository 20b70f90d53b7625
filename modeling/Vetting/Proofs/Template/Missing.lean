import Mathlib.Data.List.TakeWhile
import Vetting.Proofs.Template.Pieces
import Vetting.Translator

/-!
# Names that a context does not have

Such a name stands for its own text in braces, and this text goes on like any other value: it is
converted, laid out and asked for its parts. What comes of it cannot hold the signs that part
accessors, a conversion and a layout from the name, unless they are the fill around it. So a
field is written as it stands in the template only if it is a name and nothing else. This is so
whatever the members of values are, unless a field asks for one whose own text has the signs.
-/
namespace Vetting.Template
open Text

/-- The signs that end the name of a field. -/
def isSeparator (c : Char) : Bool := c = '.' || c = '[' || c = '!' || c = ':'

/-- A text without these signs. -/
def Plain (s : List Char) : Prop := ∀ c ∈ s, isSeparator c = false

theorem plain_nil : Plain [] := List.forall_mem_nil _

instance (s : List Char) : Decidable (Plain s) :=
  List.decidableBAll (fun c => isSeparator c = false) s

section
variable {s t inside name spec : List Char} {c stop : Char} {f : Field} {l : Layout}

/-! ## How a name is spelled -/

theorem plain_name {rest : List Char} (h : takeFieldName false s = some (name,stop,rest)) :
    Plain (name.takeWhile fun c => !startsAccessor c) := by
  induction s generalizing name with
  | nil => cases h
  | cons c s ih =>
      rw [takeFieldName,Bool.false_and,if_neg Bool.false_ne_true] at h
      split at h
      · cases h
      split at h
      · cases h
        exact plain_nil
      rename_i hend
      obtain ⟨tail,rfl,htail⟩ := exists_tail h
      rw [List.takeWhile_cons]
      split
      · rename_i hstart
        simp only [startsAccessor,Bool.not_eq_true',Bool.or_eq_false_iff,decide_eq_false_iff_not]
          at hstart
        simp only [Bool.or_eq_true,decide_eq_true_eq,not_or] at hend
        rw [beq_false_of_ne hstart.2] at htail
        refine List.forall_mem_cons.mpr ⟨?_,ih htail⟩
        simp [isSeparator,hstart,hend]
      · exact plain_nil

/-- The name of a field has none of the signs. -/
theorem Spells.plain (h : Spells inside f) : Plain f.name := by
  cases h with
  | name hname => exact plain_name (hname [])
  | layout hname => exact plain_name (hname [])
  | conversion hname => exact plain_name (hname [])
  | both hname => exact plain_name (hname [])

/-- What is spelled by more than its name has one of the signs. -/
theorem Spells.bare_or (h : Spells inside f) :
    (inside = f.name ∧ f.accessors = [] ∧ f.conversion = none ∧ f.layout = []) ∨
      ∃ c ∈ inside, isSeparator c = true := by
  cases h with
  | name =>
      by_cases hstart : ∃ c ∈ inside, startsAccessor c = true
      · obtain ⟨c,hc,hs⟩ := hstart
        refine .inr ⟨c,hc,?_⟩
        rcases Bool.or_eq_true_iff.mp hs with he | he <;> simp [isSeparator,he]
      · have hname : inside.takeWhile (fun c => !startsAccessor c) = inside :=
          List.takeWhile_eq_self_iff.mpr fun c hc => by
            simpa using fun hs => hstart ⟨c,hc,hs⟩
        refine .inl ⟨hname.symm,?_,rfl,rfl⟩
        rw [Field.ofName,hname,List.drop_length]
        rfl
  | layout => exact .inr ⟨':',by simp,rfl⟩
  | conversion => exact .inr ⟨'!',by simp,rfl⟩
  | both => exact .inr ⟨'!',by simp,rfl⟩

/-! ## What a name comes to -/

variable {r r' : Referent} {a : Accessor} {as : List Accessor} {o : List Char} {m : Members}

theorem plain_append (hs : Plain s) (ht : Plain t) : Plain (s ++ t) :=
  List.forall_mem_append.mpr ⟨hs,ht⟩

theorem plain_placeholder (h : Plain name) : Plain (openBrace :: name ++ [closeBrace]) :=
  plain_append (List.forall_mem_cons.mpr ⟨rfl,h⟩) (List.forall_mem_singleton.mpr rfl)

theorem isSeparator_hexDigit : ∀ n < 16, isSeparator (hexDigit n) = false := by decide

theorem plain_hexField (width n : Nat) : Plain (hexField width n) := by
  induction width generalizing n with
  | zero => exact plain_nil
  | succ width ih =>
      exact plain_append (ih _) (List.forall_mem_singleton.mpr
        (isSeparator_hexDigit _ (Nat.mod_lt _ (by decide))))

theorem plain_numberEscape (n : Nat) : Plain (numberEscape n) := by
  have hmark : ∀ {c : Char}, isSeparator c = false → ∀ width,
      Plain ('\\' :: c :: hexField width n) := fun hc width =>
    List.forall_mem_cons.mpr ⟨rfl,List.forall_mem_cons.mpr ⟨hc,plain_hexField width n⟩⟩
  rw [numberEscape]
  split
  · exact hmark rfl 2
  split
  · exact hmark rfl 4
  · exact hmark rfl 8

theorem plain_escapeChar {quote : Char} (hc : isSeparator c = false) :
    Plain (escapeChar quote c) := by
  have hpair : ∀ {d : Char}, isSeparator d = false → Plain ['\\',d] := fun hd =>
    List.forall_mem_cons.mpr ⟨rfl,List.forall_mem_singleton.mpr hd⟩
  rw [escapeChar]
  split
  · exact hpair hc
  split
  · exact hpair rfl
  split
  · exact hpair rfl
  split
  · exact hpair rfl
  split
  · exact List.forall_mem_singleton.mpr hc
  · exact plain_numberEscape _

theorem plain_flatMap {g : Char → List Char} (h : ∀ c, isSeparator c = false → Plain (g c))
    (hs : Plain s) : Plain (s.flatMap g) := by
  intro c hc
  obtain ⟨d,hd,hcd⟩ := List.mem_flatMap.mp hc
  exact h d (hs d hd) c hcd

theorem plain_quoted (h : Plain s) : Plain (quoted s) := by
  have hquote : isSeparator (quoteFor s) = false := by
    rw [quoteFor]
    split <;> rfl
  exact plain_append (List.forall_mem_cons.mpr
    ⟨hquote,plain_flatMap (fun _ => plain_escapeChar) h⟩) (List.forall_mem_singleton.mpr hquote)

theorem plain_asciiText (h : Plain s) : Plain (asciiText s) := by
  refine plain_flatMap (fun c hc => ?_) h
  split
  · exact List.forall_mem_singleton.mpr hc
  · exact plain_numberEscape _

/-! ## What a name is laid out as -/

theorem exists_pad (l : Layout) (s : List Char) :
    ∃ m n, l.pad s = List.replicate m l.fill ++ s ++ List.replicate n l.fill := by
  rw [Layout.pad]
  split
  · exact ⟨0,_,rfl⟩
  · exact ⟨0,_,rfl⟩
  · exact ⟨l.width - s.length,0,by simp⟩
  · exact ⟨_,_,rfl⟩

/-- The fill stands around what has none of the signs. -/
def Padded (o : List Char) : Prop :=
  ∃ m n c t, Plain t ∧ o = List.replicate m c ++ t ++ List.replicate n c

theorem Plain.padded (h : Plain s) : Padded s := ⟨0,0,' ',s,h,by simp⟩

theorem Plain.pad (h : Plain s) (l : Layout) : Padded (l.pad s) := by
  obtain ⟨m,n,hpad⟩ := exists_pad l s
  exact ⟨m,n,l.fill,s,h,hpad⟩

theorem padded_layText (h : Plain s) (hl : layText l s = .ok o) : Padded o := by
  rw [layText] at hl
  split at hl
  · cases hl
  cases hl
  refine Plain.pad ?_ l
  split
  · exact fun c hc => h c (List.mem_of_mem_take hc)
  · exact h

/-! ## What comes of a plain text -/

namespace Referent

/-- A referent whose text has none of the signs, however it is displayed or laid out. -/
structure Plain (m : Members) (r : Referent) : Prop where
  display : ∀ s, r.display m = .ok s → Template.Plain s.toList
  literal : ∀ s, r.literal m = .ok s → Template.Plain s.toList
  laidOut : ∀ spec o, r.laidOut m spec = .ok o → Padded o

theorem plain_text {s : String} (h : Template.Plain s.toList) :
    (Referent.value (.text s)).Plain m where
  display t ht := by
    cases ht
    exact h
  literal t ht := by
    rw [Referent.literal,Value.literal] at ht
    cases ht
    rw [String.toList_ofList]
    exact plain_quoted h
  laidOut spec o ho := by
    rw [Referent.laidOut,layOut] at ho
    split at ho
    · cases ho
      exact h.padded
    · obtain ⟨l,-,hlaid⟩ := exists_of_bind ho
      exact padded_layText h hlaid

theorem Plain.convert (h : r.Plain m) (hf : f.convert m r = .ok r') : r'.Plain m := by
  rw [Field.convert] at hf
  split at hf
  · cases hf
    exact h
  · obtain ⟨s,hs,rfl⟩ := exists_of_map hf
    exact plain_text (h.display s hs)
  · obtain ⟨s,hs,rfl⟩ := exists_of_map hf
    exact plain_text (h.literal s hs)
  · obtain ⟨s,hs,rfl⟩ := exists_of_map hf
    refine plain_text ?_
    rw [String.toList_ofList]
    exact plain_asciiText (h.literal s hs)
  · cases hf

/-- A part of such a text is one of its characters, unless it is a member. -/
theorem exists_part {s : String} (hs : Template.Plain s.toList) (ha : ∀ name, a ≠ .member name)
    (hf : Accessor.follow m (.value (.text s)) a = .ok r) :
    ∃ t : String, r = .value (.text t) ∧ Template.Plain t.toList := by
  cases a with
  | member name => exact absurd rfl (ha name)
  | broken => cases hf
  | item key => cases hf
  | index n =>
      obtain ⟨w,hw,rfl⟩ := exists_of_map hf
      rw [indexOf,atIndex,List.getElem?_map] at hw
      cases hc : s.toList[n]? with
      | none =>
          rw [hc] at hw
          cases hw
      | some c =>
          rw [hc] at hw
          cases hw
          refine ⟨_,rfl,?_⟩
          rw [String.toList_ofList]
          exact List.forall_mem_singleton.mpr (hs c (List.mem_of_getElem? hc))

theorem plain_foldlM {s : String} (hs : Template.Plain s.toList)
    (ha : ∀ name, .member name ∉ as)
    (hf : as.foldlM (Accessor.follow m) (.value (.text s)) = .ok r) : r.Plain m := by
  induction as generalizing s with
  | nil =>
      cases hf
      exact plain_text hs
  | cons a as ih =>
      rw [List.foldlM_cons] at hf
      obtain ⟨w,hw,hrest⟩ := exists_of_bind hf
      have hhead : ∀ name, a ≠ .member name := fun name h => ha name (h ▸ List.mem_cons_self)
      obtain ⟨t,rfl,ht⟩ := exists_part hs hhead hw
      exact ih ht (fun name h => ha name (List.mem_cons_of_mem a h)) hrest

end Referent

/-- Between braces there is no fill, unless it is a brace itself. -/
theorem Padded.plain (h : Padded (openBrace :: inside ++ [closeBrace])) : Plain inside := by
  obtain ⟨m,n,c,t,ht,heq⟩ := h
  have hall : Plain (openBrace :: inside ++ [closeBrace]) := by
    by_cases hc : isSeparator c = true
    · have hm : m = 0 := by
        cases m with
        | zero => rfl
        | succ m =>
            have hhead := congrArg List.head? heq
            rw [List.replicate_succ] at hhead
            cases hhead
            exact absurd hc (by decide)
      have hn : n = 0 := by
        cases n with
        | zero => rfl
        | succ n =>
            have hlast := congrArg List.getLast? heq
            rw [List.replicate_succ',← List.append_assoc,List.getLast?_concat,
              List.getLast?_concat] at hlast
            cases hlast
            exact absurd hc (by decide)
      rw [heq,hm,hn]
      simpa using ht
    · have hfill : ∀ k, Plain (List.replicate k c) := fun k d hd => by
        rw [List.eq_of_mem_replicate hd]
        simpa using hc
      rw [heq]
      exact plain_append (plain_append (hfill m) ht) (hfill n)
  exact fun d hd => hall d (by simp [hd])

end

/-! ## What a field comes to -/

/-- A field that names something. A number stands for a position. -/
def Field.IsNamed (f : Field) : Prop := f.name ≠ [] ∧ isPositional f.name = false

def Field.key (f : Field) : String := String.ofList f.name

section
variable {m : Members} {context : Named Value} {depth : Nat} {f : Field} {p : Piece} {v : Value}
  {s : List Char} {ps : List Piece}

/-- The layout of a field, the fields in it filled in. -/
def Field.filledLayout (m : Members) (context : Named Value) (depth : Nat) (f : Field) :
    Except Fault (List Char) :=
  if f.layout.contains openBrace then renderWithin m context depth f.layout else .ok f.layout

/-- A value asked for the parts that a field goes on to, converted and laid out. -/
def Field.written (m : Members) (context : Named Value) (depth : Nat) (f : Field) (v : Value) :
    Except Fault (List Char) := do
  let r ← f.convert m (← f.accessors.foldlM (Accessor.follow m) (.value v))
  r.laidOut m (← f.filledLayout m context depth)

/-- What a part of a template is filled in as. -/
def Part.filled (m : Members) (context : Named Value) (depth : Nat) :
    Part → Except Fault (List Char)
  | .text t => .ok t
  | .broken => .error .badValue
  | .field f => do
      let r ← f.convert m (← f.find m context)
      r.laidOut m (← f.filledLayout m context depth)

theorem renderWithin_succ : renderWithin m context (depth + 1) s =
    ((parts s).mapM (Part.filled m context depth)).map List.flatten := by
  have hfilled : Part.filled m context depth = (fun p : Part => match p with
      | .text t => .ok t
      | .broken => .error .badValue
      | .field f => do
          let r ← f.convert m (← f.find m context)
          let layout ←
            if f.layout.contains openBrace then renderWithin m context depth f.layout
            else .ok f.layout
          r.laidOut m layout) := by
    funext p
    cases p with
    | text => rfl
    | broken => rfl
    | field f =>
        rw [Part.filled,Field.filledLayout]
        by_cases hopen : f.layout.contains openBrace = true
        · simp only [if_pos hopen]
        · simp only [if_neg hopen]
  rw [renderWithin,hfilled]
  rfl

theorem IsMadeOf.renderWithin (h : IsMadeOf s ps) : renderWithin m context (depth + 1) s =
    (ps.mapM fun p : Piece => p.part.filled m context depth).map List.flatten := by
  rw [renderWithin_succ,h.parts,List.mapM_map]
  rfl

theorem filled_named (h : f.IsNamed) : Part.filled m context depth (.field f) =
    f.written m context depth ((Named.get? f.key context).getD (placeholder f.name)) := by
  rw [Part.filled,Field.find,if_neg (by simp [h.1,h.2])]
  rfl

/-- It asks the text of its own name for a member, and comes to something with the signs. -/
def Field.Strays (m : Members) (f : Field) : Prop :=
  (∃ name, .member name ∈ f.accessors) ∧ ∃ r,
    f.accessors.foldlM (Accessor.follow m) (.value (placeholder f.name)) = .ok r ∧ ¬ r.Plain m

theorem padded_written {o : List Char} (hname : Plain f.name) (hf : ¬ f.Strays m)
    (h : f.written m context depth (placeholder f.name) = .ok o) : Padded o := by
  rw [Field.written] at h
  obtain ⟨r,hfind,hrest⟩ := exists_of_bind h
  obtain ⟨r',hconvert,hrest⟩ := exists_of_bind hrest
  obtain ⟨spec,-,hlaid⟩ := exists_of_bind hrest
  have hplain : r.Plain m := by
    by_cases hmember : ∃ name, .member name ∈ f.accessors
    · by_contra hr
      exact hf ⟨hmember,r,hfind,hr⟩
    · refine Referent.plain_foldlM ?_ (not_exists.mp hmember) hfind
      rw [String.toList_ofList]
      exact plain_placeholder hname
  exact (hplain.convert hconvert).laidOut spec o hlaid

theorem written_bare (name : List Char) :
    Field.written m context depth ⟨name,[],none,[]⟩ (placeholder name) =
      .ok (openBrace :: name ++ [closeBrace]) := by
  show Except.ok (String.ofList _).toList = _
  rw [String.toList_ofList]

/-- A name that is missing is written as it stands if nothing goes with it. -/
theorem written_placeholder (hread : p.IsRead) (hpart : p.part = .field f)
    (hsource : p.source = openBrace :: f.name ++ [closeBrace]) :
    f.written m context depth (placeholder f.name) = .ok p.source := by
  obtain ⟨source,part⟩ := p
  subst hpart
  have hfront := Piece.isRead_iff.mp hread
  cases hfront with
  | @field inside _ _ hspells =>
      have hinside : inside = f.name := by simpa using hsource
      rcases hspells.bare_or with ⟨-,haccessors,hconversion,hlayout⟩ | ⟨c,hc,hseparator⟩
      · have hbare : f = ⟨f.name,[],none,[]⟩ := by
          cases f
          simp_all only
        have hwritten := @written_bare m context depth f.name
        rw [← hbare] at hwritten
        rw [hsource,hwritten]
      · have hplain := hspells.plain c (hinside ▸ hc)
        rw [hseparator] at hplain
        cases hplain

/-- With more than the name it never is, if no member leads astray. -/
theorem source_of_written (hread : p.IsRead) (hpart : p.part = .field f) (hf : ¬ f.Strays m)
    (h : f.written m context depth (placeholder f.name) = .ok p.source) :
    p.source = openBrace :: f.name ++ [closeBrace] := by
  obtain ⟨source,part⟩ := p
  subst hpart
  have hfront := Piece.isRead_iff.mp hread
  cases hfront with
  | @field inside _ _ hspells =>
      rcases hspells.bare_or with ⟨hinside,-⟩ | ⟨c,hc,hseparator⟩
      · rw [hinside]
        rfl
      · have hplain := (padded_written hspells.plain hf h).plain c hc
        rw [hseparator] at hplain
        cases hplain

/-- A field with a name that is known is written with its value, and one with a name that is
missing with the name in braces. So it is written as it stands in the template if it is this
name in braces itself, and only then, unless a member leads astray. -/
def Piece.Fills (m : Members) (context : Named Value) (depth : Nat) (p : Piece) : Prop :=
  ∀ f, p.part = .field f → f.IsNamed →
    (∀ v, Named.get? f.key context = some v →
      p.part.filled m context depth = f.written m context depth v) ∧
    (Named.get? f.key context = none →
      p.part.filled m context depth = f.written m context depth (placeholder f.name) ∧
      (p.source = openBrace :: f.name ++ [closeBrace] →
        p.part.filled m context depth = .ok p.source) ∧
      (p.part.filled m context depth = .ok p.source →
        p.source = openBrace :: f.name ++ [closeBrace] ∨ f.Strays m))

theorem Piece.IsRead.fills (h : p.IsRead) : p.Fills m context depth := by
  intro f hpart hnamed
  rw [hpart,filled_named hnamed]
  constructor
  · intro v hv
    rw [hv]
    rfl
  · intro hmissing
    rw [hmissing]
    refine ⟨rfl,written_placeholder h hpart,fun hwritten => ?_⟩
    by_cases hf : f.Strays m
    · exact .inr hf
    · exact .inl (source_of_written h hpart hf hwritten)

end

end Vetting.Template

namespace Vetting.Translator
open Template

/-- A template that can be read is made of pieces, and its message is what they are filled in as,
one after the other. So are the layouts that hold fields of their own. -/
theorem translate_fills (m : Members) {templates : Named Value} {key : Value} {s : String}
    (context : Named Value) (h : template? templates key = .ok (some (.text s)))
    (hread : .broken ∉ parts s.toList) : (∃ ps, IsMadeOf s.toList ps) ∧
      ∀ ps, IsMadeOf s.toList ps →
        translate (.catalog m templates) key context =
          (ps.mapM fun p : Piece => p.part.filled m context 1).map
            (fun texts => some (String.ofList texts.flatten)) ∧
        (∀ p ∈ ps, p.Fills m context 1) ∧
        ∀ p ∈ ps, ∀ f, p.part = .field f → f.layout.contains openBrace = true →
          .broken ∉ parts f.layout → (∃ qs, IsMadeOf f.layout qs) ∧
            ∀ qs, IsMadeOf f.layout qs →
              f.filledLayout m context 1 =
                (qs.mapM fun q : Piece => q.part.filled m context 0).map List.flatten ∧
              ∀ q ∈ qs, q.Fills m context 0 := by
  refine ⟨exists_isMadeOf hread,fun ps hps => ⟨?_,fun p hp => (hps.read p hp).fills,?_⟩⟩
  · rw [translate,h]
    show (render m context s).map some = _
    rw [render,hps.renderWithin]
    cases ps.mapM fun p : Piece => p.part.filled m context 1 <;> rfl
  · intro p hp f hpart hopen hlayout
    refine ⟨exists_isMadeOf hlayout,fun qs hqs => ⟨?_,fun q hq => (hqs.read q hq).fills⟩⟩
    rw [Field.filledLayout,if_pos hopen,hqs.renderWithin]

/-- A name that is missing beside one that is known. -/
theorem translate_fills_partly :
    template? [("k",.text "\x7bx\x7d,\x7by\x7d")] (.text "k") =
        .ok (some (.text "\x7bx\x7d,\x7by\x7d")) ∧
      .broken ∉ parts "\x7bx\x7d,\x7by\x7d".toList ∧
      translate (.catalog .none [("k",.text "\x7bx\x7d,\x7by\x7d")]) (.text "k") [("y",.text "z")] =
        .ok (some "\x7bx\x7d,z") := by
  have hread : .broken ∉ parts "\x7bx\x7d,\x7by\x7d".toList := by decide
  have hmade : IsMadeOf "\x7bx\x7d,\x7by\x7d".toList
      [⟨"\x7bx\x7d".toList,.field ⟨['x'],[],none,[]⟩⟩,⟨[','],.text [',']⟩,
        ⟨"\x7by\x7d".toList,.field ⟨['y'],[],none,[]⟩⟩] :=
    ⟨by decide,by simp [Piece.IsRead]; decide⟩
  exact ⟨rfl,hread,
    ((translate_fills .none [("y",.text "z")] rfl hread).2 _ hmade).1.trans rfl⟩

/-- Asked for more than itself, a name that is missing does not stay as it stands. It is quoted,
moved to the right and asked for its first character, and for a member that it does not have
there is no message at all. -/
theorem missing_not_kept :
    translate (.catalog .none [("k",.text "\x7bx!r\x7d")]) (.text "k") [] =
        .ok (some "'\x7bx\x7d'") ∧
      translate (.catalog .none [("k",.text "\x7bx:>5\x7d")]) (.text "k") [] =
        .ok (some "  \x7bx\x7d") ∧
      translate (.catalog .none [("k",.text "\x7bx[0]\x7d")]) (.text "k") [] = .ok (some "\x7b") ∧
      translate (.catalog .none [("k",.text "\x7bx.y\x7d")]) (.text "k") [] = .error .noMember := by
  refine ⟨?_,?_,?_,?_⟩
  · rfl
  · rfl
  · rfl
  · rfl

end Vetting.Translator
