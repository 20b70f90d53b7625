import Vetting.Proofs.Place.Rejection
import Vetting.Proofs.Place.Search

/-!
# Writing back what has been read

Where keys lead to something, a write at them comes to the same container as a reading:
everything before the last key is followed by readings only. So it depends on the last key
alone whether the slot that has been read is the one that is replaced. It is, unless the
container refuses the key, as a tuple does, and a list at a position that is not made of
digit signs, such as a negative one; or unless a dictionary is read at a name of digit signs
that spells no integer, or an integer which it has as well.
-/
namespace Vetting
open Text Number

namespace Value
variable {v w c node : Value} {k : Key} {ks : List Key} {s : Slot} {n : Int}
  {es : List (Value × Value)}

/-- Whether a write at a key that something is held at goes to where it is held. -/
def Restores (v : Value) (k : Key) : Prop := ¬ v.Refuses k ∧ k.Legible ∧ ¬ v.HasBoth k

/-! ## The last key -/

theorem writeSlot_of_spelled (hk : k.Spells n) (es : List (Value × Value)) :
    (Value.dict es).writeSlot k =
      .ok (.entry (if (lookup (.int n) es).isSome then .int n else k.value)) := by
  obtain ⟨t,rfl,ht,hn⟩ := hk
  simp [writeSlot,ht,spelledIndex,hn,orFail,bind,Except.bind]

theorem writeSlot_of_legible (hk : k.Legible) (hn : ∀ n, ¬ k.Spells n)
    (es : List (Value × Value)) : (Value.dict es).writeSlot k = .ok (.entry k.value) := by
  cases k with
  | index n => rfl
  | name t =>
      have ht : isDigitText t = false := by
        rw [Bool.eq_false_iff]
        intro ht
        obtain ⟨n,hr⟩ := Option.ne_none_iff_exists'.mp (hk ht)
        exact hn n ⟨t,rfl,ht,hr⟩
      rw [writeSlot,ht]
      rfl

theorem writeSlot_of_not_legible (hk : ¬ k.Legible) (es : List (Value × Value)) :
    (Value.dict es).writeSlot k = .error (.fault .badValue) := by
  cases k with
  | index n => exact (hk trivial).elim
  | name t =>
      have ht : isDigitText t = true ∧ readInt? t = none := by
        by_contra hno
        exact hk fun ht hn => hno ⟨ht,hn⟩
      simp [writeSlot,ht.1,spelledIndex,ht.2,orFail,bind,Except.bind]

/-- A position that is read in a list can be written to, if it is not refused. -/
theorem writeSlot_of_readPosition? {xs : List Value} {i : Nat}
    (hi : readPosition? xs.length k = some i) (hk : ¬ (Value.list xs).Refuses k) :
    (Value.list xs).writeSlot k = .ok (.item i) := by
  have hwrite : ∀ {n : Int}, 0 ≤ n → position? xs.length n = some i →
      writePosition xs.length n = .ok (.item i) := by
    intro n hn hp
    obtain ⟨heq,hlt⟩ := position?_eq_some_iff.mp hp
    have hin : n.toNat = i := by omega
    rw [writePosition,if_neg (by omega),hin]
  cases k with
  | index n => exact hwrite (Int.natCast_nonneg n) hi
  | name t =>
      have ht : isDigitText t = true := by
        simpa [Refuses] using hk
      obtain ⟨n,hr,hp⟩ := Option.bind_eq_some_iff.mp hi
      rw [writeSlot,if_pos ht,spelledIndex,hr]
      exact hwrite (readInt?_nonneg ht hr) hp

/-- A write that restores a key goes to the slot that is read there. -/
theorem writeSlot_of_restores (hr : v.readSlot k = .ok (some s)) (h : v.Restores k) :
    v.writeSlot k = .ok s := by
  obtain ⟨hrefuses,hlegible,hboth⟩ := h
  rcases readSlot_cases hr with
    ⟨es,rfl,⟨rfl,hl⟩ | ⟨n,hk,-,hn,rfl⟩⟩ | ⟨xs,i,rfl | rfl,rfl,hi⟩
  · by_cases hk : ∃ n, k.Spells n
    · obtain ⟨n,hk⟩ := hk
      rw [writeSlot_of_spelled hk,if_neg fun hn => hboth ⟨es,n,rfl,hk,hl,hn⟩]
    · exact writeSlot_of_legible hlegible (fun n hn => hk ⟨n,hn⟩) es
  · rw [writeSlot_of_spelled hk,if_pos hn]
  · exact writeSlot_of_readPosition? hi hrefuses
  · exact (hrefuses trivial).elim

/-- A write that does not restore a key fails, or goes to the number of a name that is there
as well. -/
theorem writeSlot_of_not_restores (hr : v.readSlot k = .ok (some s)) (h : ¬ v.Restores k) :
    (∃ f, v.writeSlot k = .error f) ∨ v.HasBoth k := by
  by_cases hrefuses : v.Refuses k
  · exact Or.inl ⟨_,writeSlot_of_refuses hrefuses⟩
  · by_cases hlegible : k.Legible
    · refine Or.inr ?_
      by_contra hboth
      exact h ⟨hrefuses,hlegible,hboth⟩
    · rcases readSlot_cases hr with ⟨es,rfl,-⟩ | ⟨xs,i,-,-,hi⟩
      · exact Or.inl ⟨_,writeSlot_of_not_legible hlegible es⟩
      · -- No position is read from a name that spells no integer.
        cases k with
        | index n => exact (hlegible trivial).elim
        | name t =>
            obtain ⟨n,hn,-⟩ := Option.bind_eq_some_iff.mp hi
            refine (hlegible fun _ hnone => ?_).elim
            rw [hnone] at hn
            cases hn

/-! ## On the way -/

theorem Holds.isNull (h : v.Holds k c) : v.isNull = false := by
  cases h with
  | entry => rfl
  | spelled => rfl
  | item hv => cases v <;> first | rfl | cases hv

theorem Reaches.isNull (h : v.Reaches ks w) (hw : w.isNull = false) : v.isNull = false := by
  cases h with
  | here => exact hw
  | step hc _ => exact hc.isNull

/-- By induction on the keys: what leads a reading to a container leads a write to it,
through frames that the write leaves as they are. -/
theorem Reaches.exists_leads (h : v.Reaches ks node) (hn : node.isNull = false) :
    ∃ frames, v.Leads ks frames node ∧ ∀ w k, v.fill w (ks ++ [k]) =
      (Frame.plugAll frames (node.fill w [k]).1,(node.fill w [k]).2) := by
  induction h with
  | here v => exact ⟨[],.here v,fun w k => rfl⟩
  | @step v c node k ks hc hrest ih =>
      obtain ⟨frames,hleads,hfill⟩ := ih hn
      obtain ⟨s,hr,hs⟩ := exists_slot_of_get? (get?_singleton_eq_some_iff.mpr hc)
      obtain ⟨f,hopens,hv,hput⟩ := exists_frame hs
      have hnull : c.isNull = false := hrest.isNull hn
      have hchild : v.child k = .ok (some s,c) := by
        rw [child,hr]
        simp [bind,Except.bind,hs]
      refine ⟨f :: frames,.step hchild hnull hopens hv hleads,?_⟩
      intro w l
      rw [List.cons_append,fill_cons,entrance_of_slot hr hs hnull (by simp)]
      dsimp only
      rw [hfill w l,hput]
      rfl

/-- By induction on the keys that lead to a dictionary with both. -/
theorem Reaches.eclipsed (h : v.Reaches ks node) (hb : node.HasBoth k) :
    v.Eclipsed (ks ++ [k]) := by
  induction h with
  | here v => exact .here hb (Or.inl rfl)
  | step hc _ ih => exact .deeper (get?_singleton_eq_some_iff.mpr hc) (ih hb)

/-- Where a value comes from that is read at keys: all but the last of them lead through
frames to a container, and the last one to a slot of it, around which there is one more
frame. -/
structure ReadFrom (v : Value) (ks : List Key) (k : Key) (frames : List Frame) (f : Frame)
    (c : Value) : Prop where
  whole : v = Frame.plugAll frames (f.plug c)
  leads : v.Leads ks frames (f.plug c)
  reads : ∃ s, (f.plug c).readSlot k = .ok (some s) ∧ f.Opens s

end Value

namespace Path
variable {path : String} {v c node : Value} {k : Key} {ks : List Key}

/-- Where a path leads to something that a container holds, a write there that restores the
last key succeeds and replaces just that, in the slot it has been read from. Any other write
fails, or goes elsewhere and leaves what is read at the path. -/
theorem write_back (hk : keys? path = some (ks ++ [k])) (hn : v.Reaches ks node)
    (hc : node.Holds k c) :
    ∃ frames f, v.ReadFrom ks k frames f c ∧ (∀ default, read path v default = .ok c) ∧
      (node.Restores k →
        ∀ w, write path v w = (Frame.plugAll frames (f.plug w),.ok ())) ∧
      (¬ node.Restores k → ∀ w default, (write path v w).2 = .ok () →
        read path (write path v w).1 default = .ok c) := by
  obtain ⟨s,hr,hs⟩ := Value.exists_slot_of_get? (Value.get?_singleton_eq_some_iff.mpr hc)
  obtain ⟨f,hopens,hnode,hput⟩ := Value.exists_frame hs
  obtain ⟨frames,hleads,hfill⟩ := hn.exists_leads hc.isNull
  have hwrite : ∀ w, write path v w = (Frame.plugAll frames (node.fill w [k]).1,
      (node.fill w [k]).2) := by
    intro w
    rw [write_eq_fill hk (by simp),hfill w k]
  have hread : v.get? (ks ++ [k]) = .ok (some c) := by
    rw [Value.get?_append,Value.get?_eq_some_iff.mpr hn]
    exact Value.get?_singleton_eq_some_iff.mpr hc
  have hfrom : v.ReadFrom ks k frames f c := by
    constructor
    · rw [← hnode]
      exact hleads.eq_plugAll
    · exact hnode ▸ hleads
    · exact ⟨s,hnode ▸ hr,hopens⟩
  refine ⟨frames,f,hfrom,?_,?_,?_⟩
  · intro default
    rw [read_of_keys hk,hread]
    rfl
  · intro hrestores w
    rw [hwrite w,Value.fill,Value.setAt,Value.writeSlot_of_restores hr hrestores]
    dsimp only
    rw [hput]
  · intro hno w default hok
    rcases Value.writeSlot_of_not_restores hr hno with ⟨g,hg⟩ | hb
    · rw [hwrite w,Value.fill,Value.setAt,hg] at hok
      cases hok
    · have hfills : v.Fills (ks ++ [k]) w (write path v w).1 := by
        rw [write_eq_fill hk (by simp)] at hok ⊢
        exact Prod.ext rfl hok
      rw [read_of_keys hk,hfills.get?_of_eclipsed (hn.eclipsed hb),hread]
      rfl

/-- A dictionary has a number, and the path spells it. -/
theorem write_back_code :
    let v : Value := .dict [(.text "codes",.dict [(.int 404,.text "missing")])]
    ∃ frames f, v.ReadFrom [.name "codes".toList] (.name "404".toList) frames f
      (.text "missing") ∧ ∀ w, write "codes.404" v w = (Frame.plugAll frames (f.plug w),.ok ()) := by
  intro v
  let codes : Value := .dict [(.int 404,.text "missing")]
  have hk : keys? "codes.404" = some ([.name "codes".toList] ++ [.name "404".toList]) := by
    with_unfolding_all rfl
  have hn : v.get? [.name "codes".toList] = .ok (some codes) := by
    with_unfolding_all rfl
  have hc : codes.get? [.name "404".toList] = .ok (some (.text "missing")) := by
    with_unfolding_all rfl
  have hrestores : codes.Restores (.name "404".toList) := by
    refine ⟨id,by decide,?_⟩
    rintro ⟨es,n,hes,-,hl,-⟩
    obtain rfl := Value.dict.inj hes
    have hnone : Value.lookup (Key.name "404".toList).value [(.int 404,.text "missing")] =
        none := by
      with_unfolding_all rfl
    rw [hnone] at hl
    cases hl
  obtain ⟨frames,f,hfrom,-,hwrite,-⟩ := write_back hk (Value.get?_eq_some_iff.mp hn)
    (Value.get?_singleton_eq_some_iff.mp hc)
  exact ⟨frames,f,hfrom,hwrite hrestores⟩

/-- The last item of a list is read at a negative position and an entry under a superscript,
but neither can be written there. -/
theorem read_not_written_back :
    read "-1" (.list [.int 1,.int 2]) .null = .ok (.int 2) ∧
      write "-1" (.list [.int 1,.int 2]) (.int 9) =
        (.list [.int 1,.int 2],.error (.cannotAssign (.name "-1".toList) .list)) ∧
      read "²" (.dict [(.text "²",.int 3)]) .null = .ok (.int 3) ∧
      write "²" (.dict [(.text "²",.int 3)]) (.int 9) =
        (.dict [(.text "²",.int 3)],.error (.fault .badValue)) := by
  refine ⟨?_,?_,?_,?_⟩ <;> with_unfolding_all rfl

end Path
end Vetting
