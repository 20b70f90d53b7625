import Vetting.Template.Basic

/-!
# Pieces of templates

A template falls into pieces, each of them a text that is read as one part whatever follows
it: a character, a doubled brace, or a field from its opening to its closing brace. So the parts
of a template can be told together with the texts that they are spelled by.
-/
namespace Vetting.Template
open Text

/-- A part of a template with the text that spells it. -/
structure Piece where
  source : List Char
  part : Part

/-- The text of a piece is read as its part, and as nothing else. -/
def Piece.IsRead (p : Piece) : Prop := parts p.source = [p.part] ∧ p.part ≠ .broken

/-- A template is made of pieces in their order. -/
structure IsMadeOf (s : List Char) (ps : List Piece) : Prop where
  sources : s = ps.flatMap (·.source)
  read : ∀ p ∈ ps, p.IsRead

section
variable {s t rest left name layout : List Char} {c stop : Char} {f : Field} {bracketed : Bool}
  {depth fuel : Nat} {part : Part} {p : Piece} {ps : List Piece}

/-! ## What is read off the front -/

theorem exists_tail {α : Type} {a : α} {found : Option (List Char × α)}
    (h : found.map (fun r => (c :: r.1,r.2)) = some (s,a)) :
    ∃ tail, s = c :: tail ∧ found = some (tail,a) := by
  obtain ⟨⟨tail,b⟩,hr,he⟩ := Option.map_eq_some_iff.mp h
  cases he
  exact ⟨tail,rfl,hr⟩

theorem takeFieldName_eq (h : takeFieldName bracketed s = some (name,stop,rest)) :
    s = name ++ stop :: rest ∧ (stop = closeBrace ∨ stop = ':' ∨ stop = '!') ∧
      ∀ t, takeFieldName bracketed (name ++ stop :: t) = some (name,stop,t) := by
  induction s generalizing bracketed name with
  | nil => cases h
  | cons c s ih =>
      rw [takeFieldName] at h
      split at h
      · rename_i hin
        obtain ⟨tail,rfl,htail⟩ := exists_tail h
        obtain ⟨hs,hstop,hall⟩ := ih htail
        refine ⟨congrArg (c :: ·) hs,hstop,fun t => ?_⟩
        rw [List.cons_append,takeFieldName,if_pos hin,hall]
        rfl
      rename_i hin
      split at h
      · cases h
      rename_i hopen
      split at h
      · rename_i hend
        cases h
        refine ⟨rfl,?_,fun t => ?_⟩
        · simpa [or_assoc] using hend
        · rw [List.nil_append,takeFieldName,if_neg hin,if_neg hopen,if_pos hend]
      · rename_i hend
        obtain ⟨tail,rfl,htail⟩ := exists_tail h
        obtain ⟨hs,hstop,hall⟩ := ih htail
        refine ⟨congrArg (c :: ·) hs,hstop,fun t => ?_⟩
        rw [List.cons_append,takeFieldName,if_neg hin,if_neg hopen,if_neg hend,hall]
        rfl

theorem takeLayout_cons (h : c ≠ closeBrace) : takeLayout depth (c :: s) =
    (takeLayout (if c = openBrace then depth + 1 else depth) s).map fun r => (c :: r.1,r.2) := by
  cases depth <;> rw [takeLayout,if_neg h]

theorem takeLayout_eq (h : takeLayout depth s = some (layout,rest)) :
    s = layout ++ closeBrace :: rest ∧
      ∀ t, takeLayout depth (layout ++ closeBrace :: t) = some (layout,t) := by
  induction s generalizing depth layout with
  | nil => cases h
  | cons c s ih =>
      by_cases hclose : c = closeBrace
      · cases depth with
        | zero =>
            rw [takeLayout,if_pos hclose] at h
            cases h
            refine ⟨by rw [hclose]; rfl,fun t => ?_⟩
            rw [List.nil_append,takeLayout,if_pos rfl]
        | succ depth =>
            rw [takeLayout,if_pos hclose] at h
            obtain ⟨tail,rfl,htail⟩ := exists_tail h
            obtain ⟨hs,hall⟩ := ih htail
            refine ⟨congrArg (c :: ·) hs,fun t => ?_⟩
            rw [List.cons_append,takeLayout,if_pos hclose,hall]
            rfl
      · rw [takeLayout_cons hclose] at h
        obtain ⟨tail,rfl,htail⟩ := exists_tail h
        obtain ⟨hs,hall⟩ := ih htail
        refine ⟨congrArg (c :: ·) hs,fun t => ?_⟩
        rw [List.cons_append,takeLayout_cons hclose,hall]
        rfl

/-- What is spelled between the braces of a field: a name and accessors, then a conversion and a
layout, either of which can be missing. -/
inductive Spells : List Char → Field → Prop
  | name {name : List Char} :
      (∀ t, takeFieldName false (name ++ closeBrace :: t) = some (name,closeBrace,t)) →
      Spells name (.ofName name none [])
  | layout {name layout : List Char} :
      (∀ t, takeFieldName false (name ++ ':' :: t) = some (name,':',t)) →
      (∀ t, takeLayout 0 (layout ++ closeBrace :: t) = some (layout,t)) →
      Spells (name ++ ':' :: layout) (.ofName name none layout)
  | conversion {name : List Char} {k : Char} :
      (∀ t, takeFieldName false (name ++ '!' :: t) = some (name,'!',t)) →
      Spells (name ++ ['!',k]) (.ofName name (some k) [])
  | both {name layout : List Char} {k : Char} :
      (∀ t, takeFieldName false (name ++ '!' :: t) = some (name,'!',t)) →
      (∀ t, takeLayout 0 (layout ++ closeBrace :: t) = some (layout,t)) →
      Spells (name ++ '!' :: k :: ':' :: layout) (.ofName name (some k) layout)

theorem Spells.takeField (h : Spells s f) (t : List Char) :
    takeField (s ++ closeBrace :: t) = some (f,t) := by
  cases h with
  | name hname => rw [Template.takeField,hname]; rfl
  | layout hname hlayout =>
      rw [List.append_assoc,List.cons_append,Template.takeField,hname]
      dsimp only
      rw [hlayout]
      rfl
  | conversion hname =>
      rw [List.append_assoc,Template.takeField]
      simp only [List.cons_append,List.nil_append]
      rw [hname]
      rfl
  | both hname hlayout =>
      rw [List.append_assoc,Template.takeField]
      simp only [List.cons_append]
      rw [hname]
      dsimp only
      rw [hlayout]
      rfl

theorem exists_spells (h : takeField s = some (f,left)) :
    ∃ inside, s = inside ++ closeBrace :: left ∧ Spells inside f := by
  rw [takeField] at h
  split at h
  · cases h
  rename_i name stop rest hname
  obtain ⟨rfl,hstop,hall⟩ := takeFieldName_eq hname
  rcases hstop with rfl | rfl | rfl
  · cases h
    exact ⟨name,rfl,.name hall⟩
  · obtain ⟨⟨layout,r⟩,hlayout,he⟩ := Option.map_eq_some_iff.mp h
    obtain ⟨rfl,hl⟩ := takeLayout_eq hlayout
    cases he
    exact ⟨_,by simp,.layout hall hl⟩
  · rw [if_neg (by decide),if_neg (by decide)] at h
    split at h
    · rename_i k d more
      split at h
      · rename_i hd
        cases h
        exact ⟨_,by rw [hd]; simp,.conversion hall⟩
      rename_i hd
      split at h
      · rename_i hcolon
        obtain ⟨⟨layout,r⟩,hlayout,he⟩ := Option.map_eq_some_iff.mp h
        obtain ⟨rfl,hl⟩ := takeLayout_eq hlayout
        cases he
        exact ⟨_,by rw [hcolon]; simp,.both hall hl⟩
      · cases h
    · cases h

/-! ## The pieces in front -/

/-- How a template begins: with a piece that spells a part, followed by the rest. -/
inductive Front : List Char → Part → List Char → Prop
  | char (c : Char) (rest : List Char) : c ≠ openBrace → c ≠ closeBrace →
      Front (c :: rest) (.text [c]) rest
  | opening (rest : List Char) : Front (openBrace :: openBrace :: rest) (.text [openBrace]) rest
  | closing (rest : List Char) : Front (closeBrace :: closeBrace :: rest) (.text [closeBrace]) rest
  | field {inside : List Char} {f : Field} (rest : List Char) : Spells inside f →
      Front (openBrace :: inside ++ closeBrace :: rest) (.field f) rest

/-- What comes behind a piece makes no difference to it. -/
theorem Front.exists_source (h : Front s part rest) :
    ∃ source, s = source ++ rest ∧ source ≠ [] ∧ ∀ t, Front (source ++ t) part t := by
  cases h with
  | char c _ hopen hclose => exact ⟨[c],rfl,nofun,fun t => .char c t hopen hclose⟩
  | opening => exact ⟨[openBrace,openBrace],rfl,nofun,.opening⟩
  | closing => exact ⟨[closeBrace,closeBrace],rfl,nofun,.closing⟩
  | @field inside f _ hspells =>
      refine ⟨openBrace :: inside ++ [closeBrace],by simp,nofun,fun t => ?_⟩
      rw [List.append_assoc]
      exact .field t hspells

theorem Front.length_lt (h : Front s part rest) : rest.length < s.length := by
  obtain ⟨source,rfl,hne,-⟩ := h.exists_source
  have hpos := List.length_pos_iff.mpr hne
  rw [List.length_append]
  omega

theorem Front.ne_broken (h : Front s part rest) : part ≠ .broken := by
  cases h <;> exact nofun

theorem partsWithin_field (h : takeField s = some (f,left)) :
    partsWithin (fuel + 1) (openBrace :: s) = .field f :: partsWithin fuel left := by
  cases s with
  | nil => cases h
  | cons d more =>
      have hopen : d ≠ openBrace := by
        rintro rfl
        cases h
      rw [partsWithin,if_pos rfl,if_neg hopen,h]

theorem Front.partsWithin (h : Front s part rest) :
    partsWithin (fuel + 1) s = part :: partsWithin fuel rest := by
  cases h with
  | char c rest hopen hclose => rw [Template.partsWithin.eq_def]; simp [hopen,hclose]
  | opening => rfl
  | closing => rfl
  | field rest hspells => exact partsWithin_field (hspells.takeField rest)

/-- A template that does not begin with a piece cannot be read. -/
theorem front_or_broken (h : s ≠ []) : (∃ part rest, Front s part rest) ∨
    ∀ fuel, partsWithin (fuel + 1) s = [.broken] := by
  obtain ⟨c,s,rfl⟩ := List.exists_cons_of_ne_nil h
  by_cases hopen : c = openBrace
  · cases s with
    | nil => exact .inr fun fuel => by rw [partsWithin,if_pos hopen]
    | cons d more =>
        by_cases hd : d = openBrace
        · rw [hopen,hd]
          exact .inl ⟨_,_,.opening more⟩
        cases hfield : takeField (d :: more) with
        | none => exact .inr fun fuel => by rw [partsWithin,if_pos hopen,if_neg hd,hfield]
        | some r =>
            obtain ⟨inside,hs,hspells⟩ := exists_spells hfield
            rw [hopen,hs]
            exact .inl ⟨_,_,.field r.2 hspells⟩
  by_cases hclose : c = closeBrace
  · cases s with
    | nil => exact .inr fun fuel => by rw [partsWithin,if_neg hopen,if_pos hclose]
    | cons d more =>
        by_cases hd : d = closeBrace
        · rw [hclose,hd]
          exact .inl ⟨_,_,.closing more⟩
        · exact .inr fun fuel => by rw [partsWithin,if_neg hopen,if_pos hclose,if_neg hd]
  · exact .inl ⟨_,_,.char c s hopen hclose⟩

/-- A bound that the template does not reach makes no difference. -/
theorem partsWithin_eq (h : s.length < fuel) : partsWithin fuel s = parts s := by
  have hsame : ∀ {n m : Nat} {t : List Char}, t.length < n → t.length < m →
      partsWithin n t = partsWithin m t := fun {n} => by
    induction n with
    | zero => exact fun hn => absurd hn (Nat.not_lt_zero _)
    | succ n ih =>
        intro m t hn hm
        obtain ⟨m,rfl⟩ := Nat.exists_eq_add_one_of_ne_zero (Nat.ne_zero_of_lt hm)
        by_cases ht : t = []
        · rw [ht]
          rfl
        rcases front_or_broken ht with ⟨part,rest,hfront⟩ | hbroken
        · have hless := hfront.length_lt
          rw [hfront.partsWithin,hfront.partsWithin,@ih m rest (by omega) (by omega)]
        · rw [hbroken,hbroken]
  exact hsame h (Nat.lt_succ_self _)

theorem Front.parts (h : Front s part rest) : parts s = part :: parts rest := by
  rw [Template.parts,h.partsWithin,partsWithin_eq h.length_lt]

theorem parts_eq_nil_iff : parts s = [] ↔ s = [] := by
  constructor
  · refine fun h => Decidable.byContradiction fun hs => ?_
    rcases front_or_broken hs with ⟨part,rest,hfront⟩ | hbroken
    · rw [hfront.parts] at h
      cases h
    · rw [parts,hbroken] at h
      cases h
  · rintro rfl
    rfl

/-! ## Whole templates -/

theorem Piece.isRead_iff : p.IsRead ↔ Front p.source p.part [] := by
  constructor
  · rintro ⟨hparts,hne⟩
    have hsource : p.source ≠ [] := fun h => by
      rw [parts_eq_nil_iff.mpr h] at hparts
      cases hparts
    rcases front_or_broken hsource with ⟨part,rest,hfront⟩ | hbroken
    · rw [hfront.parts] at hparts
      obtain ⟨rfl,hrest⟩ := List.cons.inj hparts
      rwa [parts_eq_nil_iff.mp hrest] at hfront
    · rw [parts,hbroken] at hparts
      exact absurd (List.cons.inj hparts).1.symm hne
  · exact fun h => ⟨h.parts,h.ne_broken⟩

/-- A piece is read as its part whatever follows it. -/
theorem Piece.IsRead.parts_append (h : p.IsRead) (t : List Char) :
    parts (p.source ++ t) = p.part :: parts t := by
  obtain ⟨source,hs,-,hall⟩ := (Piece.isRead_iff.mp h).exists_source
  rw [List.append_nil] at hs
  rw [hs]
  exact (hall t).parts

theorem IsMadeOf.parts (h : IsMadeOf s ps) : parts s = ps.map (·.part) := by
  obtain ⟨rfl,hread⟩ := h
  induction ps with
  | nil => rfl
  | cons p ps ih =>
      obtain ⟨hp,hps⟩ := List.forall_mem_cons.mp hread
      rw [List.flatMap_cons,hp.parts_append,ih hps,List.map_cons]

/-- A template that can be read is made of pieces. -/
theorem exists_isMadeOf (h : .broken ∉ parts s) : ∃ ps, IsMadeOf s ps := by
  induction hn : s.length using Nat.strongRecOn generalizing s with
  | ind n ih =>
      by_cases hs : s = []
      · exact ⟨[],hs,nofun⟩
      rcases front_or_broken hs with ⟨part,rest,hfront⟩ | hbroken
      · have hrest := hfront.length_lt
        rw [hfront.parts] at h
        obtain ⟨ps,hps⟩ := ih _ (hn ▸ hrest) (fun hmem => h (List.mem_cons_of_mem _ hmem)) rfl
        obtain ⟨source,rfl,-,hall⟩ := hfront.exists_source
        have hread : Piece.IsRead ⟨source,part⟩ :=
          Piece.isRead_iff.mpr (by simpa using hall [])
        exact ⟨⟨source,part⟩ :: ps,by rw [List.flatMap_cons,← hps.sources],
          List.forall_mem_cons.mpr ⟨hread,hps.read⟩⟩
      · rw [parts,hbroken] at h
        exact absurd (List.mem_singleton_self _) h

end
end Vetting.Template
