import Mathlib.Data.Bool.Count

namespace Rito

variable {ε : Type*}

-- Every event of a trace meets a condition on the events before it.
def Guarded (cond : List ε → ε → Prop) (trace : List ε) : Prop :=
  ∀ before event after, trace = before ++ event :: after → cond before event

theorem guarded_nil (cond : List ε → ε → Prop) : Guarded cond [] := by
  intro before event after h
  simp at h

theorem guarded_concat {cond : List ε → ε → Prop} {trace : List ε} {last : ε} :
    Guarded cond (trace ++ [last]) ↔ Guarded cond trace ∧ cond trace last := by
  constructor
  · intro h
    refine ⟨fun before event after he => h before event (after ++ [last]) ?_, h trace last [] rfl⟩
    simp [he]
  · rintro ⟨ht, hl⟩ before event after he
    rcases List.eq_nil_or_concat after with rfl | ⟨rest, final, rfl⟩
    · obtain ⟨rfl, rfl⟩ := List.append_singleton_inj.mp he
      exact hl
    · have hs : trace ++ [last] = (before ++ event :: rest) ++ [final] := by
        simpa using he
      exact ht before event rest (List.append_singleton_inj.mp hs).1

theorem Guarded.append {cond : List ε → ε → Prop} {trace more : List ε} (h : Guarded cond trace)
    (hm : ∀ event ∈ more, ∀ before, cond before event) : Guarded cond (trace ++ more) := by
  induction more using List.reverseRecOn with
  | nil => simpa using h
  | append_singleton more last ih =>
      rw [← List.append_assoc]
      exact guarded_concat.mpr ⟨ih fun event he => hm event (by simp [he]), hm last (by simp) _⟩

-- The events appended may rest on one another.
theorem Guarded.append_of {cond : List ε → ε → Prop} {trace more : List ε} (h : Guarded cond trace)
    (hm : ∀ earlier event later, more = earlier ++ event :: later → cond (trace ++ earlier) event) :
    Guarded cond (trace ++ more) := by
  induction more using List.reverseRecOn with
  | nil => simpa using h
  | append_singleton more last ih =>
      rw [← List.append_assoc]
      refine guarded_concat.mpr ⟨ih ?_, hm more last [] rfl⟩
      rintro earlier event later rfl
      exact hm earlier event (later ++ [last]) (by simp)

-- The settings of a switch that starts off and is turned over and over.
inductive Toggle : List Bool → Bool → Prop
  | off : Toggle [] false
  | turn {settings on} : Toggle settings on → Toggle (settings ++ [!on]) (!on)

namespace Toggle

variable {settings : List Bool} {on : Bool}

theorem getLast? (h : Toggle settings on) : settings = [] ∧ on = false ∨
    settings.getLast? = some on := by
  cases h with
  | off => exact Or.inl ⟨rfl, rfl⟩
  | turn _ => exact Or.inr (by simp)

theorem isChain (h : Toggle settings on) : settings.IsChain (· ≠ ·) := by
  induction h with
  | off => exact .nil
  | @turn settings on ht ih =>
      refine List.isChain_append.mpr ⟨ih, .singleton _, ?_⟩
      rintro last hl _ (_ | _)
      obtain ⟨rfl, rfl⟩ | hg := ht.getLast?
      · cases hl
      · rw [hg] at hl
        cases hl
        simp

theorem head? (h : Toggle settings on) : ∀ first ∈ settings.head?, first = true := by
  induction h with
  | off => simp
  | @turn settings on ht ih =>
      cases settings with
      | nil =>
          obtain ⟨_, rfl⟩ | hg := ht.getLast?
          · simp
          · cases hg
      | cons first rest => simpa using ih

theorem even_length (h : Toggle settings on) : Even settings.length ↔ on = false := by
  induction h with
  | off => simp
  | turn _ ih => simp [Nat.even_add_one, ih]

theorem count_eq (h : Toggle settings false) : settings.count true = settings.count false :=
  (h.isChain.count_false_eq_count_true (h.even_length.mpr rfl)).symm

end Toggle

end Rito
