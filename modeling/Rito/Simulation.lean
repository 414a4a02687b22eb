import Rito.Machine

namespace Rito

variable {σ τ α β ε : Type*}

-- One machine follows another: from related states, every step of the first
-- that meets the condition is a run of the second with the same output. The
-- run may be empty, so one step of the second may stand for many of the first.
structure Simulation (m : Machine σ α ε) (other : Machine τ β ε) (cond : σ → α → Prop) where
  rel : σ → τ → Prop
  matched : ∀ s t a s' out, rel s t → cond s a → m.step s a = some (s', out) →
    ∃ bs t', other.exec t bs = some (t', out) ∧ rel s' t'

namespace Simulation

variable {m : Machine σ α ε} {other : Machine τ β ε} {cond : σ → α → Prop}

-- The two ways in which a step is matched most often.
theorem matched_nil {rel : σ → τ → Prop} {s' : σ} {t : τ} (hr : rel s' t) :
    ∃ bs t', other.exec t bs = some (t', ([] : List ε)) ∧ rel s' t' :=
  ⟨[], t, rfl, hr⟩

theorem matched_step {rel : σ → τ → Prop} {s' : σ} {t t' : τ} {b : β} {out : List ε}
    (h : other.step t b = some (t', out)) (hr : rel s' t') :
    ∃ bs t', other.exec t bs = some (t', out) ∧ rel s' t' :=
  ⟨[b], t', Machine.exec_cons.mpr ⟨t', out, [], h, rfl, (List.append_nil out).symm⟩, hr⟩

-- A run all of whose steps meet the condition is followed to its end.
theorem exec (sim : Simulation m other cond) {s s' : σ} {t : τ} {as : List α} {out : List ε}
    (hr : sim.rel s t) (hcond : m.Along cond s as) (h : m.exec s as = some (s', out)) :
    ∃ bs t', other.exec t bs = some (t', out) ∧ sim.rel s' t' := by
  induction as generalizing s t out with
  | nil =>
      obtain ⟨rfl, rfl⟩ := Machine.exec_nil_iff.mp h
      exact ⟨[], t, rfl, hr⟩
  | cons a as ih =>
      obtain ⟨next, first, later, hs, hrest, rfl⟩ := Machine.exec_cons.mp h
      obtain ⟨hc, hn⟩ := Machine.along_cons.mp hcond
      obtain ⟨bs, mid, hfirst, hmid⟩ := sim.matched s t a next first hr hc hs
      obtain ⟨cs, t', hlater, hend⟩ := ih hmid (hn next first hs) hrest
      exact ⟨bs ++ cs, t', Machine.exec_append.mpr ⟨mid, first, later, hfirst, hlater, rfl⟩, hend⟩

end Simulation

namespace Machine

variable {m : Machine σ α ε} {other : Machine τ α ε} {rel : σ → τ → Prop} {s s' : σ} {t : τ}
  {as : List α} {out : List ε}

-- Where every action of one is an action of the other, with the same output.
theorem exec_mimics
    (hstep : ∀ s t a s' out, rel s t → m.step s a = some (s', out) →
      ∃ t', other.step t a = some (t', out) ∧ rel s' t')
    (hr : rel s t) (h : m.exec s as = some (s', out)) :
    ∃ t', other.exec t as = some (t', out) ∧ rel s' t' := by
  induction as generalizing s t out with
  | nil =>
      obtain ⟨rfl, rfl⟩ := exec_nil_iff.mp h
      exact ⟨t, rfl, hr⟩
  | cons a as ih =>
      obtain ⟨next, first, later, hs, hrest, rfl⟩ := exec_cons.mp h
      obtain ⟨mid, hmid, hrel⟩ := hstep s t a next first hr hs
      obtain ⟨t', hlater, hend⟩ := ih hrel hrest
      exact ⟨t', exec_cons.mpr ⟨mid, first, later, hmid, hlater, rfl⟩, hend⟩

-- Two states that cannot be told apart from outside: they take the same actions,
-- and put out the same.
theorem exec_output_eq {rel : σ → σ → Prop} {t : σ}
    (hstep : ∀ s t a s' out, rel s t → m.step s a = some (s', out) →
      ∃ t', m.step t a = some (t', out) ∧ rel s' t')
    (hsymm : ∀ s t, rel s t → rel t s) (hr : rel s t) (as : List α) :
    (m.exec s as).map Prod.snd = (m.exec t as).map Prod.snd := by
  cases hs : m.exec s as with
  | some pair =>
      obtain ⟨t', ht, -⟩ := exec_mimics hstep hr hs
      rw [ht]
      rfl
  | none =>
      cases ht : m.exec t as with
      | none => rfl
      | some pair =>
          obtain ⟨s', hs', -⟩ := exec_mimics hstep (hsymm s t hr) ht
          rw [hs'] at hs
          cases hs

section Restrict

variable {cond : σ → α → Prop} {a : α}

open Classical in
-- The machine held to the steps that meet a condition.
noncomputable def restrict (m : Machine σ α ε) (cond : σ → α → Prop) : Machine σ α ε where
  step s a := if cond s a then m.step s a else none

theorem restrict_step : (m.restrict cond).step s a = some (s', out) ↔
    cond s a ∧ m.step s a = some (s', out) :=
  Option.ite_none_right_eq_some

theorem exec_restrict : (m.restrict cond).exec s as = some (s', out) ↔
    m.Along cond s as ∧ m.exec s as = some (s', out) := by
  induction as generalizing s out with
  | nil => simp [Along]
  | cons a as ih =>
      rw [exec_cons, exec_cons, along_cons]
      constructor
      · rintro ⟨next, first, later, hs, hrest, rfl⟩
        obtain ⟨hc, hs⟩ := restrict_step.mp hs
        obtain ⟨hn, he⟩ := ih.mp hrest
        refine ⟨⟨hc, fun other more hs' => ?_⟩, next, first, later, hs, he, rfl⟩
        obtain ⟨rfl, -⟩ := step_unique hs hs'
        exact hn
      · rintro ⟨⟨hc, hn⟩, next, first, later, hs, he, rfl⟩
        exact ⟨next, first, later, restrict_step.mpr ⟨hc, hs⟩, ih.mpr ⟨hn next first hs, he⟩, rfl⟩

end Restrict

end Machine

end Rito
