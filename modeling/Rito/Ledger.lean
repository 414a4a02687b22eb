import Mathlib.Data.Finset.Basic
import Rito.Machine

namespace Rito

-- What a program does with the handles it is given.
inductive HandleEvent (η : Type*) where
  | opened (handle : η)
  | used (handle : η)
  | closed (handle : η)
  deriving DecidableEq

-- The handle has to be open for the event.
def HandleEvent.Needs {η : Type*} (handle : η) : HandleEvent η → Prop
  | opened _ => False
  | used other => other = handle
  | closed other => other = handle

variable {η : Type*} [DecidableEq η] {handle : η} {held : Finset η}
  {events more : List (HandleEvent η)}

-- It keeps the handles that are open. A step is undefined where a handle is
-- given out that is open already, and where one is used or closed that is not.
def ledger (η : Type*) [DecidableEq η] : Machine (Finset η) (HandleEvent η) Empty where
  step
    | held, .opened handle => if handle ∈ held then none else some (insert handle held, [])
    | held, .used handle => if handle ∈ held then some (held, []) else none
    | held, .closed handle => if handle ∈ held then some (held.erase handle, []) else none

-- Every handle that is given out is closed once, and none is used or closed
-- but between the two. A handle can be given out again after that.
structure ClosedOnce (events : List (HandleEvent η)) : Prop where
  settled : ∀ handle, events.count (.closed handle) = events.count (.opened handle)
  open_at : ∀ before event after handle, events = before ++ event :: after →
    event.Needs handle → before.count (.opened handle) = before.count (.closed handle) + 1
  closed_at : ∀ before after handle, events = before ++ .opened handle :: after →
    before.count (.opened handle) = before.count (.closed handle)

-- The ledger is empty before and after.
def Settles (events : List (HandleEvent η)) : Prop :=
  ∃ out, (ledger η).exec ∅ events = some (∅, out)

-- The ways in which the ledger goes on.
theorem ledger_cases {event : HandleEvent η} {next : Finset η} {out : List Empty}
    (h : (ledger η).step held event = some (next, out)) :
    (∃ handle, event = .opened handle ∧ handle ∉ held ∧ next = insert handle held) ∨
      (∃ handle, event = .used handle ∧ handle ∈ held ∧ next = held) ∨
      ∃ handle, event = .closed handle ∧ handle ∈ held ∧ next = held.erase handle := by
  cases event with
  | opened handle =>
      by_cases hm : handle ∈ held
      · simp [ledger, hm] at h
      · simp only [ledger, hm, if_false, Option.some.injEq, Prod.mk.injEq] at h
        exact Or.inl ⟨handle, rfl, hm, h.1.symm⟩
  | used handle =>
      by_cases hm : handle ∈ held
      · simp only [ledger, hm, if_true, Option.some.injEq, Prod.mk.injEq] at h
        exact Or.inr (Or.inl ⟨handle, rfl, hm, h.1.symm⟩)
      · simp [ledger, hm] at h
  | closed handle =>
      by_cases hm : handle ∈ held
      · simp only [ledger, hm, if_true, Option.some.injEq, Prod.mk.injEq] at h
        exact Or.inr (Or.inr ⟨handle, rfl, hm, h.1.symm⟩)
      · simp [ledger, hm] at h

-- An event opens a handle or closes it, or leaves it as it was.
theorem ledger_count {event : HandleEvent η} {next : Finset η} {out : List Empty}
    (h : (ledger η).step held event = some (next, out)) (handle : η) :
    [event].count (.opened handle) + (if handle ∈ held then 1 else 0) =
      [event].count (.closed handle) + if handle ∈ next then 1 else 0 := by
  rcases ledger_cases h with
    ⟨other, rfl, hm, rfl⟩ | ⟨other, rfl, hm, rfl⟩ | ⟨other, rfl, hm, rfl⟩
  · by_cases he : other = handle
    · subst he
      simp [hm]
    · have hne : handle ≠ other := fun h => he h.symm
      simp [he, hne]
  · simp
  · by_cases he : other = handle
    · subst he
      simp [hm]
    · have hne : handle ≠ other := fun h => he h.symm
      simp [he, hne]

-- What is open is what was given out and has not been closed.
theorem count_opened {out : List Empty} (h : (ledger η).exec ∅ events = some (held, out))
    (handle : η) : events.count (.opened handle) =
      events.count (.closed handle) + if handle ∈ held then 1 else 0 := by
  refine (ledger η).exec_induction (I := fun events _ held => events.count (.opened handle) =
    events.count (.closed handle) + if handle ∈ held then 1 else 0) ?_ ?_ h
  · simp
  · intro events out held event next later hi hs
    have hcount := ledger_count hs handle
    rw [List.count_append, List.count_append]
    omega

theorem Settles.closedOnce (h : Settles events) : ClosedOnce events := by
  obtain ⟨out, he⟩ := h
  -- the ledger as it stands at an event
  have hat : ∀ before event after, events = before ++ event :: after →
      ∃ held next first later, (ledger η).exec ∅ before = some (held, first) ∧
        (ledger η).step held event = some (next, later) := by
    rintro before event after rfl
    obtain ⟨held, first, later, hbefore, hrest, -⟩ := Machine.exec_append.mp he
    obtain ⟨next, last, more, hs, -, -⟩ := Machine.exec_cons.mp hrest
    exact ⟨held, next, first, last, hbefore, hs⟩
  refine ⟨fun handle => ?_, fun before event after handle hsplit hneeds => ?_,
    fun before after handle hsplit => ?_⟩
  · have hcount := count_opened he handle
    simpa using hcount.symm
  · obtain ⟨held, next, first, later, hbefore, hs⟩ := hat before event after hsplit
    have hcount := count_opened hbefore handle
    have hm : handle ∈ held := by
      rcases ledger_cases hs with ⟨other, rfl, hm, -⟩ | ⟨other, rfl, hm, -⟩ | ⟨other, rfl, hm, -⟩
      · exact hneeds.elim
      · exact hneeds ▸ hm
      · exact hneeds ▸ hm
    simpa [hm] using hcount
  · obtain ⟨held, next, first, later, hbefore, hs⟩ := hat before (.opened handle) after hsplit
    have hcount := count_opened hbefore handle
    have hm : handle ∉ held := by
      rcases ledger_cases hs with ⟨other, he, hm, -⟩ | ⟨other, he, -⟩ | ⟨other, he, -⟩
      · exact HandleEvent.opened.inj he ▸ hm
      · cases he
      · cases he
    simpa [hm] using hcount

theorem closedOnce_iff {out : List Empty} (h : (ledger η).exec ∅ events = some (held, out)) :
    ClosedOnce events ↔ held = ∅ := by
  constructor
  · intro hc
    refine Finset.eq_empty_of_forall_notMem fun handle hm => ?_
    have hcount := count_opened h handle
    rw [hc.settled handle, if_pos hm] at hcount
    omega
  · rintro rfl
    exact Settles.closedOnce ⟨out, h⟩

theorem settles_nil : Settles ([] : List (HandleEvent η)) := ⟨[], rfl⟩

theorem Settles.append (h : Settles events) (h' : Settles more) : Settles (events ++ more) := by
  obtain ⟨first, he⟩ := h
  obtain ⟨later, he'⟩ := h'
  exact ⟨first ++ later, Machine.exec_append.mpr ⟨∅, first, later, he, he', rfl⟩⟩

theorem exec_uses (hm : handle ∈ held) (hu : ∀ event ∈ events, event = .used handle) :
    (ledger η).exec held events = some (held, []) := by
  induction events with
  | nil => rfl
  | cons event events ih =>
      obtain rfl := hu event List.mem_cons_self
      refine Machine.exec_cons.mpr ⟨held, [], [], ?_, ?_, rfl⟩
      · simp only [ledger, hm, if_true]
      · exact ih fun event hin => hu event (List.mem_cons_of_mem _ hin)

-- A handle that is given out, used any number of times and closed.
theorem settles_bracket (hu : ∀ event ∈ events, event = .used handle) :
    Settles (.opened handle :: (events ++ [.closed handle])) := by
  have hm : handle ∈ ({handle} : Finset η) := Finset.mem_singleton_self handle
  refine ⟨[], Machine.exec_cons.mpr ⟨{handle}, [], [], rfl, ?_, rfl⟩⟩
  refine Machine.exec_append.mpr ⟨{handle}, [], [], exec_uses hm hu, ?_, rfl⟩
  refine Machine.exec_cons.mpr ⟨∅, [], [], ?_, rfl, rfl⟩
  simp only [ledger, hm, if_true, Finset.erase_singleton]

end Rito
