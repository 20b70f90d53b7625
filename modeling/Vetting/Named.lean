/-!
# Named entries

A list of entries under names, in the order in which the names came in. Putting an
entry under a name that is there keeps the name's place.
-/
namespace Vetting

abbrev Named (α : Type) := List (String × α)

namespace Named
variable {α : Type}

def get? (name : String) : Named α → Option α
  | [] => none
  | (n, a) :: rest => if n = name then some a else get? name rest

def put (name : String) (a : α) : Named α → Named α
  | [] => [(name, a)]
  | (n, b) :: rest => if n = name then (n, a) :: rest else (n, b) :: put name a rest

/-- Puts all entries of one list into another. -/
def overlay (base extra : Named α) : Named α := extra.foldl (fun es e => put e.1 e.2 es) base

def erase (name : String) (es : Named α) : Named α := es.filter fun e => e.1 != name

def names (es : Named α) : List String := es.map Prod.fst

theorem get?_put_self (name : String) (a : α) (es : Named α) :
    get? name (put name a es) = some a := by
  induction es with
  | nil => simp [put,get?]
  | cons e rest ih =>
      simp only [put]
      split
      · rename_i h
        simp [get?,h]
      · rename_i h
        simp [get?,h,ih]

theorem get?_put_of_ne {name other : String} (h : other ≠ name) (a : α) (es : Named α) :
    get? other (put name a es) = get? other es := by
  induction es with
  | nil => simp [put,get?,Ne.symm h]
  | cons e rest ih =>
      simp only [put]
      split
      · rename_i he
        simp [get?,he,Ne.symm h]
      · simp only [get?,ih]

/-- Entries under other names do not show under a name. -/
theorem get?_overlay_of_forall_ne {name : String} {extra : Named α}
    (h : ∀ e ∈ extra, e.1 ≠ name) (base : Named α) :
    get? name (overlay base extra) = get? name base := by
  induction extra generalizing base with
  | nil => rfl
  | cons e rest ih =>
      obtain ⟨he,hrest⟩ := List.forall_mem_cons.mp h
      have hr := ih hrest (put e.1 e.2 base)
      rw [get?_put_of_ne (Ne.symm he)] at hr
      exact hr

theorem get?_erase_self (name : String) (es : Named α) : get? name (erase name es) = none := by
  induction es with
  | nil => rfl
  | cons e rest ih =>
      simp only [erase,List.filter_cons] at ih ⊢
      split
      · rename_i h
        simp only [bne_iff_ne,ne_eq] at h
        simp [get?,h,ih]
      · exact ih

theorem get?_erase_of_ne {name other : String} (h : other ≠ name) (es : Named α) :
    get? other (erase name es) = get? other es := by
  induction es with
  | nil => rfl
  | cons e rest ih =>
      simp only [erase,List.filter_cons] at ih ⊢
      split
      · simp only [get?,ih]
      · rename_i he
        simp only [bne_iff_ne,ne_eq,Decidable.not_not] at he
        simp [get?,he,Ne.symm h,ih]

/-- What is worked out of each entry is found under the same name. -/
theorem get?_map {β : Type} (f : α → β) (name : String) (es : Named α) :
    get? name (es.map fun e => (e.1, f e.2)) = (get? name es).map f := by
  induction es with
  | nil => rfl
  | cons e rest ih =>
      simp only [List.map_cons,get?]
      split
      · rfl
      · exact ih

theorem put_map {β : Type} (f : α → β) (name : String) (a : α) (es : Named α) :
    put name (f a) (es.map fun e => (e.1, f e.2)) =
      (put name a es).map fun e => (e.1, f e.2) := by
  induction es with
  | nil => rfl
  | cons e rest ih =>
      simp only [List.map_cons,put]
      split
      · rfl
      · rw [ih]
        rfl

theorem erase_map {β : Type} (f : α → β) (name : String) (es : Named α) :
    erase name (es.map fun e => (e.1, f e.2)) =
      (erase name es).map fun e => (e.1, f e.2) :=
  List.filter_map

theorem isSome_get?_iff {name : String} {es : Named α} :
    (get? name es).isSome = true ↔ name ∈ names es := by
  induction es with
  | nil => simp [get?,names]
  | cons e rest ih =>
      rw [names] at ih
      by_cases h : e.1 = name
      · simp [get?,names,h]
      · simp [get?,names,h,Ne.symm h,ih]

theorem mem_of_get? {name : String} {a : α} {es : Named α} (h : get? name es = some a) :
    (name, a) ∈ es := by
  induction es with
  | nil => cases h
  | cons e rest ih =>
      rw [get?] at h
      split at h
      · rename_i he
        cases h
        rw [← he]
        exact List.mem_cons_self
      · exact List.mem_cons_of_mem e (ih h)

theorem names_put (name : String) (a : α) (es : Named α) :
    names (put name a es) = if name ∈ names es then names es else names es ++ [name] := by
  induction es with
  | nil => rfl
  | cons e rest ih =>
      rw [names,names] at ih
      by_cases h : e.1 = name
      · simp [put,names,h]
      · by_cases hm : name ∈ rest.map Prod.fst
        · simp [put,names,h,Ne.symm h,ih,hm]
        · simp [put,names,h,Ne.symm h,ih,hm]

theorem nodup_names_put {es : Named α} (h : (names es).Nodup) (name : String) (a : α) :
    (names (put name a es)).Nodup := by
  rw [names_put]
  split
  · exact h
  · rename_i hm
    rw [List.nodup_append]
    refine ⟨h,by simp,?_⟩
    intro n hn m hmem hnm
    rw [List.mem_singleton.mp hmem] at hnm
    exact hm (hnm ▸ hn)

theorem names_erase (name : String) (es : Named α) :
    names (erase name es) = (names es).filter fun n => n != name := by
  rw [names,names,erase,List.filter_map]
  rfl

theorem put_of_mem {name : String} {es : Named α} (h : name ∈ names es)
    (hn : (names es).Nodup) (a : α) :
    put name a es = es.map fun e => (e.1, if e.1 = name then a else e.2) := by
  induction es with
  | nil => cases h
  | cons e rest ih =>
      obtain ⟨habsent,hrest⟩ := List.nodup_cons.mp hn
      by_cases he : e.1 = name
      · have hkeep : rest.map (fun f => (f.1, if f.1 = name then a else f.2)) = rest := by
          have hid : ∀ f ∈ rest, (f.1, if f.1 = name then a else f.2) = id f := by
            intro f hf
            have hne : f.1 ≠ name := by
              intro hfn
              apply habsent
              rw [he,← hfn]
              exact List.mem_map_of_mem hf
            rw [if_neg hne,id]
          rw [List.map_congr_left hid,List.map_id]
        rw [List.map_cons,hkeep]
        simp [put,he]
      · have hmem : name ∈ names rest := (List.mem_cons.mp h).resolve_left (Ne.symm he)
        simp only [put,he,if_false,List.map_cons,ih hmem hrest]

theorem put_of_notMem {name : String} {es : Named α} (h : name ∉ names es) (a : α) :
    put name a es = es ++ [(name, a)] := by
  induction es with
  | nil => rfl
  | cons e rest ih =>
      obtain ⟨he,hrest⟩ := not_or.mp (mt List.mem_cons.mpr h)
      rw [put,if_neg (Ne.symm he),ih hrest,List.cons_append]

theorem get?_of_notMem {name : String} {es : Named α} (h : name ∉ names es) :
    get? name es = none := by
  rw [← isSome_get?_iff] at h
  simpa using h

/-- Entries of one list in another keep the places of the names that were there; the others
come behind. -/
theorem overlay_eq {base extra : Named α} (hb : (names base).Nodup)
    (he : (names extra).Nodup) : overlay base extra =
      (base.map fun e => (e.1, (get? e.1 extra).getD e.2)) ++
        extra.filter fun e => !(names base).contains e.1 := by
  induction extra generalizing base with
  | nil => simp [overlay,get?]
  | cons x rest ih =>
      obtain ⟨hx,hrest⟩ := List.nodup_cons.mp he
      have hnone : get? x.1 rest = none := get?_of_notMem hx
      have hstep : overlay base (x :: rest) = overlay (put x.1 x.2 base) rest := rfl
      have hrec := ih (nodup_names_put hb x.1 x.2) hrest
      rw [names_put] at hrec
      by_cases hm : x.1 ∈ names base
      · rw [hstep,hrec,if_pos hm,put_of_mem hm hb,List.map_map]
        congr 1
        · apply List.map_congr_left
          intro e _
          by_cases hex : e.1 = x.1
          · simp [get?,hex,hnone]
          · simp [get?,hex,Ne.symm hex]
        · simp [hm]
      · rw [hstep,hrec,if_neg hm,put_of_notMem hm,List.map_append,List.append_assoc]
        congr 1
        · apply List.map_congr_left
          intro e hmem
          have hne : x.1 ≠ e.1 := by
            intro h
            exact hm (h ▸ List.mem_map_of_mem hmem)
          simp [get?,hne]
        · have hfilter : rest.filter (fun e => !(names base ++ [x.1]).contains e.1) =
              rest.filter fun e => !(names base).contains e.1 := by
            apply List.filter_congr
            intro e hmem
            have hne : e.1 ≠ x.1 := fun h => hx (h ▸ List.mem_map_of_mem hmem)
            simp [hne]
          rw [hfilter]
          simp [hnone,hm]

end Named

end Vetting
