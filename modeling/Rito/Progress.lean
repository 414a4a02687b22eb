import Rito.Machine

namespace Rito.Machine

variable {σ α ε : Type*} {m : Machine σ α ε} {start s : σ} {as : List α} {out : List ε}

-- When the counted steps lower a rank and no other step raises it, a run has
-- no more of them than the rank it starts with. The invariant may be one that
-- only steps under the condition keep.
theorem exec_countP_le {I : σ → Prop} {cond : σ → α → Prop} (rank : σ → Nat) (counted : α → Bool)
    (hstep : ∀ s a s' out, I s → cond s a → m.step s a = some (s', out) →
      I s' ∧ rank s' + (if counted a then 1 else 0) ≤ rank s)
    (hi : I start) (hcond : m.Along cond start as) (h : m.exec start as = some (s, out)) :
    rank s + as.countP counted ≤ rank start := by
  induction as generalizing start out with
  | nil =>
      obtain ⟨rfl, rfl⟩ := exec_nil_iff.mp h
      simp
  | cons a as ih =>
      obtain ⟨next, first, later, hs, hrest, rfl⟩ := exec_cons.mp h
      obtain ⟨hc, hn⟩ := along_cons.mp hcond
      obtain ⟨hnext, hrank⟩ := hstep start a next first hi hc hs
      have hlater := ih hnext (hn next first hs) hrest
      rw [List.countP_cons]
      omega

-- What the steps of a run come to in all.
def total (m : Machine σ α ε) (weight : σ → α → Nat) : σ → List α → Nat
  | _, [] => 0
  | s, a :: as =>
      weight s a +
        match m.step s a with
        | none => 0
        | some (s', _) => total m weight s' as

variable {weight : σ → α → Nat} {a : α}

theorem total_concat (h : m.exec start as = some (s, out)) :
    m.total weight start (as ++ [a]) = m.total weight start as + weight s a := by
  induction as generalizing start out with
  | nil =>
      obtain ⟨rfl, -⟩ := exec_nil_iff.mp h
      simp only [List.nil_append, total, Nat.zero_add]
      cases m.step s a <;> rfl
  | cons b bs ih =>
      obtain ⟨next, first, later, hs, he, rfl⟩ := exec_cons.mp h
      simp only [List.cons_append, total, hs, ih he, Nat.add_assoc]

theorem total_eq_zero (start : σ) (as : List α) :
    m.total weight start as = 0 ↔ m.Along (fun s a => weight s a = 0) start as := by
  induction as generalizing start with
  | nil => simp [total, Along]
  | cons a as ih =>
      rw [total, Along, Nat.add_eq_zero_iff, and_congr_right_iff]
      intro _
      cases m.step start a with
      | none => simp
      | some pair => exact ih pair.1

end Rito.Machine
