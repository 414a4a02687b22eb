import Mathlib.Data.List.Induction

namespace Rito

-- A machine reads one action at a time. An action records everything the
-- environment decides in that step, so a step is a partial function: it is
-- undefined where the action is not one the state can take.
structure Machine (σ α ε : Type*) where
  step : σ → α → Option (σ × List ε)

namespace Machine

variable {σ α ε τ β δ : Type*}

-- The state and the output after a sequence of actions.
def exec (m : Machine σ α ε) : σ → List α → Option (σ × List ε)
  | s, [] => some (s, [])
  | s, a :: as =>
      match m.step s a with
      | none => none
      | some (s', out) => (exec m s' as).map fun (s'', later) => (s'', out ++ later)

def Reachable (m : Machine σ α ε) (start s : σ) : Prop :=
  ∃ as out, m.exec start as = some (s, out)

-- Every step of the run satisfies a condition on the state before it and on
-- its action.
def Along (m : Machine σ α ε) (cond : σ → α → Prop) : σ → List α → Prop
  | _, [] => True
  | s, a :: as => cond s a ∧
      match m.step s a with
      | none => True
      | some (s', _) => Along m cond s' as

instance decidableAlong (m : Machine σ α ε) (cond : σ → α → Prop)
    [∀ s a, Decidable (cond s a)] : ∀ s as, Decidable (m.Along cond s as)
  | _, [] => inferInstanceAs (Decidable True)
  | s, a :: as =>
      have : Decidable (match m.step s a with
          | none => True
          | some (s', _) => Along m cond s' as) :=
        match m.step s a with
        | none => inferInstanceAs (Decidable True)
        | some (s', _) => decidableAlong m cond s' as
      inferInstanceAs (Decidable (_ ∧ _))

variable {m : Machine σ α ε} {start s s' : σ} {a : α} {as : List α} {out : List ε}

@[simp] theorem exec_nil : m.exec start [] = some (start, []) := rfl

theorem exec_nil_iff {s : σ} {out : List ε} :
    m.exec start [] = some (s, out) ↔ s = start ∧ out = [] := by
  simp only [exec_nil, Option.some.injEq, Prod.mk.injEq, eq_comm]

theorem step_unique {first : List ε} {next : σ} (h : m.step start a = some (s, out))
    (h' : m.step start a = some (next, first)) : next = s ∧ first = out :=
  Prod.mk.inj (Option.some.inj (h'.symm.trans h))

theorem exec_cons {s : σ} {out : List ε} :
    m.exec start (a :: as) = some (s, out) ↔
      ∃ next first later, m.step start a = some (next, first) ∧
        m.exec next as = some (s, later) ∧ out = first ++ later := by
  simp only [exec]
  cases hs : m.step start a with
  | none => simp
  | some pair =>
      obtain ⟨next, first⟩ := pair
      simp only [Option.map_eq_some_iff, Prod.mk.injEq, Prod.exists, Option.some.injEq]
      constructor
      · rintro ⟨last, later, he, rfl, rfl⟩
        exact ⟨next, first, later, ⟨rfl, rfl⟩, he, rfl⟩
      · rintro ⟨_, _, later, ⟨rfl, rfl⟩, he, rfl⟩
        exact ⟨s, later, he, rfl, rfl⟩

theorem exec_append {bs : List α} {s : σ} {out : List ε} :
    m.exec start (as ++ bs) = some (s, out) ↔
      ∃ mid first later, m.exec start as = some (mid, first) ∧
        m.exec mid bs = some (s, later) ∧ out = first ++ later := by
  induction as generalizing start out with
  | nil => simp
  | cons a as ih =>
      simp only [List.cons_append, exec_cons, ih]
      constructor
      · rintro ⟨next, first, later, hs, ⟨mid, o₁, o₂, h₁, h₂, rfl⟩, rfl⟩
        exact ⟨mid, first ++ o₁, o₂, ⟨next, first, o₁, hs, h₁, rfl⟩, h₂,
          (List.append_assoc ..).symm⟩
      · rintro ⟨mid, _, o₂, ⟨next, first, o₁, hs, h₁, rfl⟩, h₂, rfl⟩
        exact ⟨next, first, o₁ ++ o₂, hs, ⟨mid, o₁, o₂, h₁, h₂, rfl⟩, List.append_assoc ..⟩

theorem exec_concat {s : σ} {out : List ε} :
    m.exec start (as ++ [a]) = some (s, out) ↔
      ∃ mid first later, m.exec start as = some (mid, first) ∧
        m.step mid a = some (s, later) ∧ out = first ++ later := by
  simp only [exec_append, exec_cons]
  constructor
  · rintro ⟨mid, first, _, he, ⟨_, later, _, hs, hn, rfl⟩, rfl⟩
    obtain ⟨rfl, rfl⟩ := exec_nil_iff.mp hn
    exact ⟨mid, first, later, he, hs, by simp⟩
  · rintro ⟨mid, first, later, he, hs, rfl⟩
    exact ⟨mid, first, later, he, ⟨s, later, [], hs, rfl, by simp⟩, rfl⟩

-- The induction on a run: what holds of the empty run, and is kept by one
-- more step, holds of every run. The actions and the output so far are part
-- of what an invariant may speak about.
theorem exec_induction {I : List α → List ε → σ → Prop} (h₀ : I [] [] start)
    (hstep : ∀ as out s a s' later, I as out s → m.step s a = some (s', later) →
      I (as ++ [a]) (out ++ later) s')
    (h : m.exec start as = some (s, out)) : I as out s := by
  induction as using List.reverseRecOn generalizing s out with
  | nil =>
      obtain ⟨rfl, rfl⟩ := exec_nil_iff.mp h
      exact h₀
  | append_singleton as a ih =>
      obtain ⟨mid, first, later, he, hs, rfl⟩ := exec_concat.mp h
      exact hstep as first mid a s later (ih he) hs

-- An invariant of the states alone.
theorem invariant {I : σ → Prop} (h₀ : I start)
    (hstep : ∀ s a s' later, I s → m.step s a = some (s', later) → I s')
    (h : m.exec start as = some (s, out)) : I s :=
  exec_induction (I := fun _ _ s => I s) h₀
    (fun _ _ s a s' later hi hs => hstep s a s' later hi hs) h

theorem along_cons {cond : σ → α → Prop} :
    m.Along cond start (a :: as) ↔
      cond start a ∧ ∀ s' out, m.step start a = some (s', out) → m.Along cond s' as := by
  simp only [Along]
  cases hs : m.step start a with
  | none => simp
  | some pair => simp [Prod.ext_iff]

theorem along_concat {cond : σ → α → Prop} :
    m.Along cond start (as ++ [a]) ↔
      m.Along cond start as ∧ ∀ s out, m.exec start as = some (s, out) → cond s a := by
  induction as generalizing start with
  | nil => simp [along_cons, Along]
  | cons b bs ih =>
      simp only [List.cons_append, along_cons, ih, exec_cons, and_assoc, and_congr_right_iff]
      intro _
      constructor
      · intro h
        refine ⟨fun next first hs => (h next first hs).1, ?_⟩
        rintro s _ ⟨next, first, later, hs, he, rfl⟩
        exact (h next first hs).2 s later he
      · rintro ⟨ha, hc⟩ next first hs
        exact ⟨ha next first hs, fun s later he => hc s _ ⟨next, first, later, hs, he, rfl⟩⟩

-- What a step keeps when it meets the condition holds after every run all of
-- whose steps meet it. The output so far is part of what it may speak about.
theorem exec_along {cond : σ → α → Prop} {I : List ε → σ → Prop} (h₀ : I [] start)
    (hstep : ∀ out s a s' later, I out s → cond s a → m.step s a = some (s', later) →
      I (out ++ later) s')
    (hcond : m.Along cond start as) (h : m.exec start as = some (s, out)) : I out s := by
  -- the run may go on from any output seen before it
  have hrun : ∀ as start out seen, m.Along cond start as → m.exec start as = some (s, out) →
      I seen start → I (seen ++ out) s := by
    intro as
    induction as with
    | nil =>
        intro start out seen _ he hi
        obtain ⟨rfl, rfl⟩ := exec_nil_iff.mp he
        rw [List.append_nil]
        exact hi
    | cons a as ih =>
        intro start out seen ha he hi
        obtain ⟨next, first, later, hs, hlater, rfl⟩ := exec_cons.mp he
        obtain ⟨hc, hn⟩ := along_cons.mp ha
        rw [← List.append_assoc]
        exact ih next later (seen ++ first) (hn next first hs) hlater
          (hstep seen start a next first hi hc hs)
  exact hrun as start out [] hcond h h₀

-- An invariant of the states alone.
theorem invariant_along {cond : σ → α → Prop} {I : σ → Prop} (h₀ : I start)
    (hstep : ∀ s a s' later, I s → cond s a → m.step s a = some (s', later) → I s')
    (hcond : m.Along cond start as) (h : m.exec start as = some (s, out)) : I s :=
  exec_along (I := fun _ s => I s) h₀
    (fun _ s a s' later hi hc hs => hstep s a s' later hi hc hs) hcond h

-- A condition on the actions alone joins one on the steps.
theorem along_and_mem {cond : σ → α → Prop} {P : α → Prop} (hp : ∀ a ∈ as, P a)
    (hcond : m.Along cond start as) : m.Along (fun s a => P a ∧ cond s a) start as := by
  induction as generalizing start with
  | nil => exact hcond
  | cons a as ih =>
      obtain ⟨hc, hn⟩ := along_cons.mp hcond
      refine along_cons.mpr ⟨⟨hp a List.mem_cons_self, hc⟩, fun next first hs => ?_⟩
      exact ih (fun b hm => hp b (List.mem_cons_of_mem a hm)) (hn next first hs)

-- Two conditions that come to the same for every step from a state with the
-- invariant come to the same along a run.
theorem along_congr {cond other : σ → α → Prop} {I : σ → Prop}
    (hinv : ∀ s a s' later, I s → m.step s a = some (s', later) → I s')
    (hstep : ∀ s a s' later, I s → m.step s a = some (s', later) → (cond s a ↔ other s a))
    (hi : I start) (h : m.exec start as = some (s, out)) :
    m.Along cond start as ↔ m.Along other start as := by
  induction as generalizing start out with
  | nil => exact Iff.rfl
  | cons a as ih =>
      obtain ⟨next, first, later, hs, he, rfl⟩ := exec_cons.mp h
      have hlater := ih (hinv start a next first hi hs) he
      rw [along_cons, along_cons, hstep _ _ _ _ hi hs, and_congr_right_iff]
      intro _
      constructor
      · intro hc next' first' hs'
        obtain ⟨rfl, rfl⟩ := step_unique hs hs'
        exact hlater.mp (hc _ _ hs)
      · intro hc next' first' hs'
        obtain ⟨rfl, rfl⟩ := step_unique hs hs'
        exact hlater.mpr (hc _ _ hs)

theorem along_of_forall {cond : σ → α → Prop} (h : ∀ s a, cond s a) : m.Along cond start as := by
  induction as generalizing start with
  | nil => trivial
  | cons a as ih => exact along_cons.mpr ⟨h start a, fun _ _ _ => ih⟩

-- When a step meets a condition exactly if its output is right, a run does so
-- throughout exactly if all of its output is right.
theorem forall_output_iff {cond : σ → α → Prop} {P : ε → Prop}
    (hstep : ∀ s a s' later, m.step s a = some (s', later) → ((∀ e ∈ later, P e) ↔ cond s a))
    (h : m.exec start as = some (s, out)) : (∀ e ∈ out, P e) ↔ m.Along cond start as := by
  induction as generalizing start out with
  | nil =>
      obtain ⟨rfl, rfl⟩ := exec_nil_iff.mp h
      simp [Along]
  | cons a as ih =>
      obtain ⟨next, first, later, hs, he, rfl⟩ := exec_cons.mp h
      simp only [along_cons, List.mem_append, or_imp, forall_and, hstep _ _ _ _ hs, ih he,
        and_congr_right_iff]
      intro _
      constructor
      · intro hc next' first' hs'
        obtain ⟨rfl, rfl⟩ := step_unique hs hs'
        exact hc
      · intro hc
        exact hc next first hs

-- Where an output never comes, no step puts it out.
theorem along_of_not_mem {e : ε} (h : m.exec start as = some (s, out)) (hn : e ∉ out) :
    m.Along (fun s a => ∀ s' later, m.step s a = some (s', later) → e ∉ later) start as := by
  have hiff : (∀ other ∈ out, other ≠ e) ↔
      m.Along (fun s a => ∀ s' later, m.step s a = some (s', later) → e ∉ later) start as := by
    refine forall_output_iff (fun s a s' later hs => ⟨fun hall next more hs' hm => ?_,
      fun hall other hm he => hall s' later hs (he ▸ hm)⟩) h
    obtain ⟨rfl, rfl⟩ := step_unique hs hs'
    exact hall e hm rfl
  exact hiff.mp fun other hm he => hn (he ▸ hm)

-- Two machines that go through the same states, and put out the same parts.
theorem exec_agree {other : Machine σ β δ} {f : α → β} {g : ε → List τ} {g' : δ → List τ}
    (hstep : ∀ s a, ∃ s' out out', m.step s a = some (s', out) ∧
      other.step s (f a) = some (s', out') ∧ out.flatMap g = out'.flatMap g')
    (start : σ) (as : List α) : ∃ s out out', m.exec start as = some (s, out) ∧
      other.exec start (as.map f) = some (s, out') ∧ out.flatMap g = out'.flatMap g' := by
  induction as generalizing start with
  | nil => exact ⟨start, [], [], rfl, rfl, rfl⟩
  | cons a as ih =>
      obtain ⟨next, first, first', hs, hs', hg⟩ := hstep start a
      obtain ⟨s, later, later', he, he', hg'⟩ := ih next
      exact ⟨s, first ++ later, first' ++ later', exec_cons.mpr ⟨next, first, later, hs, he, rfl⟩,
        exec_cons.mpr ⟨next, first', later', hs', he', rfl⟩, by simp [hg, hg']⟩

-- The same machine, seen by something else than its own output.
def observe (m : Machine σ α ε) (f : σ → α → List δ) : Machine σ α δ where
  step s a := (m.step s a).map fun (s', _) => (s', f s a)

theorem observe_step {f : σ → α → List δ} {seen : List δ} :
    (m.observe f).step s a = some (s', seen) ↔
      seen = f s a ∧ ∃ out, m.step s a = some (s', out) := by
  simp only [observe, Option.map_eq_some_iff, Prod.mk.injEq, Prod.exists]
  constructor
  · rintro ⟨_, out, hs, rfl, rfl⟩
    exact ⟨rfl, out, hs⟩
  · rintro ⟨rfl, out, hs⟩
    exact ⟨s', out, hs, rfl, rfl⟩

theorem exec_of_observe {f : σ → α → List δ} {seen : List δ}
    (h : (m.observe f).exec start as = some (s, seen)) : ∃ out, m.exec start as = some (s, out) := by
  induction as generalizing start seen with
  | nil =>
      obtain ⟨rfl, -⟩ := exec_nil_iff.mp h
      exact ⟨[], rfl⟩
  | cons a as ih =>
      obtain ⟨next, _, later, hs, hrest, rfl⟩ := exec_cons.mp h
      obtain ⟨-, first, hs⟩ := observe_step.mp hs
      obtain ⟨out, he⟩ := ih hrest
      exact ⟨first ++ out, exec_cons.mpr ⟨next, first, out, hs, he, rfl⟩⟩

-- The state a run of accepted actions ends in.
def final (m : Machine σ α ε) (start : σ) (as : List α) (h : (m.exec start as).isSome = true) : σ :=
  ((m.exec start as).get h).1

theorem exec_final (h : (m.exec start as).isSome = true) :
    m.exec start as = some (m.final start as h, ((m.exec start as).get h).2) :=
  (Option.some_get h).symm

theorem reachable_final (h : (m.exec start as).isSome = true) :
    m.Reachable start (m.final start as h) :=
  ⟨as, _, exec_final h⟩

theorem Reachable.refl : m.Reachable start start := ⟨[], [], rfl⟩

theorem Reachable.tail (h : m.Reachable start s) (hs : m.step s a = some (s', out)) :
    m.Reachable start s' := by
  obtain ⟨as, first, he⟩ := h
  exact ⟨as ++ [a], first ++ out, exec_concat.mpr ⟨s, first, out, he, hs, rfl⟩⟩

-- A projection that turns every step of one machine into a step of another,
-- or into no step at all, carries reachable states to reachable states.
theorem Reachable.project {other : Machine τ β δ} (proj : σ → τ)
    (hsim : ∀ s a s' later, m.step s a = some (s', later) →
      proj s' = proj s ∨ ∃ b more, other.step (proj s) b = some (proj s', more))
    (h : m.Reachable start s) : other.Reachable (proj start) (proj s) := by
  obtain ⟨as, out, he⟩ := h
  refine m.invariant (I := fun s => other.Reachable (proj start) (proj s)) .refl ?_ he
  intro s a s' later hr hs
  rcases hsim s a s' later hs with heq | ⟨b, more, hb⟩
  · exact heq ▸ hr
  · exact hr.tail hb

end Machine

end Rito
