import Vetting.Proofs.Chain.Exec

/-!
# Runs side by side

Two runs, each in a world of its own, are compared result by result and failure by
failure, and so are the worlds that they leave. The comparison is closed under putting
runs one after the other, and what is left open is only how worlds compare.
-/
namespace Vetting

namespace Run
variable {α β : Type} {R : World → World → Prop} {w u w' u' : World}

/-- Two runs come to the same result or to the same failure and leave worlds that compare
as wanted. -/
structure Parallel (R : World → World → Prop) (w u : World) (x y : Run α) : Prop where
  result : (x.exec w).1 = (y.exec u).1
  world : R (x.exec w).2 (y.exec u).2

namespace Parallel

theorem of_exec {x y : Run α} {r : Except Failure α} (hx : x.exec w = (r,w'))
    (hy : y.exec u = (r,u')) (h : R w' u') : Parallel R w u x y := by
  refine ⟨?_,?_⟩
  · rw [hx,hy]
  · rw [hx,hy]
    exact h

theorem pure (a : α) (h : R w u) : Parallel R w u (Pure.pure a) (Pure.pure a) :=
  of_exec (exec_pure a w) (exec_pure a u) h

theorem throw (f : Failure) (h : R w u) :
    Parallel R w u (MonadExcept.throw f : Run α) (MonadExcept.throw f) :=
  of_exec (exec_throw f w) (exec_throw f u) h

/-- What the earlier runs come to need not be the same. -/
theorem of_bind {x y : Run α} {f g : α → Run β} {a b : α} (hx : x.exec w = (.ok a,w'))
    (hy : y.exec u = (.ok b,u')) (h : Parallel R w' u' (f a) (g b)) :
    Parallel R w u (x >>= f) (y >>= g) := by
  obtain ⟨hr,hw⟩ := h
  refine ⟨?_,?_⟩
  · rw [exec_bind_of_ok hx,exec_bind_of_ok hy,hr]
  · rw [exec_bind_of_ok hx,exec_bind_of_ok hy]
    exact hw

/-- The later runs are compared only where the earlier ones have come to a result. -/
theorem bind {x y : Run α} {f g : α → Run β} (hx : Parallel R w u x y)
    (hf : ∀ a v v', x.exec w = (.ok a,v) → y.exec u = (.ok a,v') → R v v' →
      Parallel R v v' (f a) (g a)) : Parallel R w u (x >>= f) (y >>= g) := by
  obtain ⟨hr,hw⟩ := hx
  cases hxe : x.exec w with
  | mk r v =>
      cases hye : y.exec u with
      | mk r' v' =>
          rw [hxe,hye] at hr hw
          cases hr
          cases r with
          | error e =>
              exact of_exec (exec_bind_of_error hxe f) (exec_bind_of_error hye g) hw
          | ok a => exact of_bind hxe hye (hf a v v' hxe hye hw)

theorem get_bind {f g : World → Run α} (h : Parallel R w u (f w) (g u)) :
    Parallel R w u (get >>= f) (get >>= g) :=
  of_bind (exec_get w) (exec_get u) h

theorem nodeAt_bind {f g : Node → Run α} {i : Nat}
    (h : Parallel R w u (f (w.node i)) (g (u.node i))) :
    Parallel R w u (nodeAt i >>= f) (nodeAt i >>= g) :=
  of_bind (exec_nodeAt i w) (exec_nodeAt i u) h

theorem ofExcept (r : Except Failure α) (h : R w u) :
    Parallel R w u (Run.ofExcept r) (Run.ofExcept r) :=
  of_exec (exec_ofExcept r w) (exec_ofExcept r u) h

end Parallel

end Run

end Vetting
