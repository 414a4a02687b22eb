import Rito.Ledger

namespace Rito

-- What a function comes to that holds on to resources: what it returns or
-- throws, the state after it, and what it did with its resources.
structure Outcome (σ η θ α : Type*) where
  result : Except θ α
  state : σ
  events : List (HandleEvent η)

-- A function that reads and writes a state, may throw, and holds on to
-- resources.
def Holding (σ η θ α : Type*) := σ → Outcome σ η θ α

namespace Holding

universe u

variable {σ η θ : Type*} {α β : Type u}

protected def pure (value : α) : Holding σ η θ α := fun state => ⟨.ok value, state, []⟩

protected def bind (body : Holding σ η θ α) (next : α → Holding σ η θ β) : Holding σ η θ β :=
  fun state =>
    let first := body state
    match first.result with
    | .error thrown => ⟨.error thrown, first.state, first.events⟩
    | .ok value =>
        let later := next value first.state
        ⟨later.result, later.state, first.events ++ later.events⟩

instance : Monad (Holding σ η θ) where
  pure := Holding.pure
  bind := Holding.bind

def raise (thrown : θ) : Holding σ η θ α := fun state => ⟨.error thrown, state, []⟩

-- What a call outside the model returns or throws.
def lift (result : Except θ α) : Holding σ η θ α := fun state => ⟨result, state, []⟩

def get : Holding σ η θ σ := fun state => ⟨.ok state, state, []⟩

def modify (f : σ → σ) : Holding σ η θ Unit := fun state => ⟨.ok (), f state, []⟩

def emit (event : HandleEvent η) : Holding σ η θ Unit := fun state => ⟨.ok (), state, [event]⟩

-- catch (...) { cleanup; throw; }
def onThrow (body : Holding σ η θ α) (cleanup : Holding σ η θ Unit) : Holding σ η θ α :=
  fun state =>
    let first := body state
    match first.result with
    | .ok value => ⟨.ok value, first.state, first.events⟩
    | .error thrown =>
        let later := cleanup first.state
        ⟨later.result.bind fun _ => .error thrown, later.state, first.events ++ later.events⟩

variable {body : Holding σ η θ α} {next : α → Holding σ η θ β} {cleanup : Holding σ η θ Unit}
  {state : σ} {value : α} {thrown : θ}

theorem bind_of_ok (h : (body state).result = .ok value) :
    (body >>= next) state = ⟨(next value (body state).state).result,
      (next value (body state).state).state,
      (body state).events ++ (next value (body state).state).events⟩ := by
  change body.bind next state = _
  simp only [Holding.bind, h]

theorem bind_of_error (h : (body state).result = .error thrown) :
    (body >>= next) state = ⟨.error thrown, (body state).state, (body state).events⟩ := by
  change body.bind next state = _
  simp only [Holding.bind, h]

theorem onThrow_of_ok (h : (body state).result = .ok value) :
    body.onThrow cleanup state = ⟨.ok value, (body state).state, (body state).events⟩ := by
  simp only [onThrow, h]

theorem onThrow_of_error (h : (body state).result = .error thrown) :
    body.onThrow cleanup state =
      ⟨(cleanup (body state).state).result.bind fun _ => .error thrown,
        (cleanup (body state).state).state,
        (body state).events ++ (cleanup (body state).state).events⟩ := by
  simp only [onThrow, h]

variable [DecidableEq η]

-- Where these resources are open, the function uses, opens and closes them as
-- the ledger has it, and ends with one or the other condition met on its
-- value or on what it throws, on the state and on what is open then.
def Wp (body : Holding σ η θ α) (returns : α → σ → Finset η → Prop)
    (throws : θ → σ → Finset η → Prop) (state : σ) (held : Finset η) : Prop :=
  ∃ after, (ledger η).exec held (body state).events = some (after, []) ∧
    match (body state).result with
    | .ok value => returns value (body state).state after
    | .error thrown => throws thrown (body state).state after

variable {held : Finset η} {returns other : α → σ → Finset η → Prop}
  {throws rethrows : θ → σ → Finset η → Prop} {handle : η}

theorem wp_mono (h : body.Wp returns throws state held)
    (hr : ∀ value state held, returns value state held → other value state held)
    (ht : ∀ thrown state held, throws thrown state held → rethrows thrown state held) :
    body.Wp other rethrows state held := by
  obtain ⟨after, he, hends⟩ := h
  refine ⟨after, he, ?_⟩
  cases hresult : (body state).result with
  | ok value =>
      rw [hresult] at hends
      exact hr value _ after hends
  | error thrown =>
      rw [hresult] at hends
      exact ht thrown _ after hends

theorem wp_pure (h : returns value state held) :
    (pure value : Holding σ η θ α).Wp returns throws state held :=
  ⟨held, rfl, h⟩

theorem wp_bind {after : β → σ → Finset η → Prop}
    (h : body.Wp (fun value => (next value).Wp after throws) throws state held) :
    (body >>= next).Wp after throws state held := by
  obtain ⟨mid, he, hends⟩ := h
  cases hresult : (body state).result with
  | error thrown =>
      rw [hresult] at hends
      refine ⟨mid, ?_, ?_⟩
      · rw [bind_of_error hresult]
        exact he
      · rw [bind_of_error hresult]
        exact hends
  | ok value =>
      rw [hresult] at hends
      obtain ⟨last, hlater, hlast⟩ := hends
      refine ⟨last, ?_, ?_⟩
      · rw [bind_of_ok hresult]
        exact Machine.exec_append.mpr ⟨mid, [], [], he, hlater, rfl⟩
      · rw [bind_of_ok hresult]
        exact hlast

theorem wp_raise (h : throws thrown state held) :
    (raise thrown : Holding σ η θ α).Wp returns throws state held :=
  ⟨held, rfl, h⟩

theorem wp_lift {result : Except θ α} (hr : ∀ value, result = .ok value → returns value state held)
    (ht : ∀ thrown, result = .error thrown → throws thrown state held) :
    (lift result).Wp returns throws state held := by
  refine ⟨held, rfl, ?_⟩
  cases result with
  | ok value => exact hr value rfl
  | error thrown => exact ht thrown rfl

theorem wp_get {returns : σ → σ → Finset η → Prop} (h : returns state state held) :
    (get : Holding σ η θ σ).Wp returns throws state held :=
  ⟨held, rfl, h⟩

theorem wp_modify {f : σ → σ} {returns : Unit → σ → Finset η → Prop}
    (h : returns () (f state) held) :
    (modify f : Holding σ η θ Unit).Wp returns throws state held :=
  ⟨held, rfl, h⟩

theorem wp_open {returns : Unit → σ → Finset η → Prop} (hm : handle ∉ held)
    (h : returns () state (insert handle held)) :
    (emit (.opened handle) : Holding σ η θ Unit).Wp returns throws state held := by
  refine ⟨insert handle held, Machine.exec_cons.mpr ⟨insert handle held, [], [], ?_, rfl, rfl⟩, h⟩
  simp only [ledger, hm, if_false]

theorem wp_use {returns : Unit → σ → Finset η → Prop} (hm : handle ∈ held)
    (h : returns () state held) :
    (emit (.used handle) : Holding σ η θ Unit).Wp returns throws state held :=
  ⟨held, exec_uses hm fun _ hin => List.mem_singleton.mp hin, h⟩

theorem wp_close {returns : Unit → σ → Finset η → Prop} (hm : handle ∈ held)
    (h : returns () state (held.erase handle)) :
    (emit (.closed handle) : Holding σ η θ Unit).Wp returns throws state held := by
  refine ⟨held.erase handle,
    Machine.exec_cons.mpr ⟨held.erase handle, [], [], ?_, rfl, rfl⟩, h⟩
  simp only [ledger, hm, if_true]

-- What was opened last is closed: the others are open as before.
theorem wp_close_insert {returns : Unit → σ → Finset η → Prop} (hm : handle ∉ held)
    (h : returns () state held) :
    (emit (.closed handle) : Holding σ η θ Unit).Wp returns throws state (insert handle held) := by
  refine wp_close (Finset.mem_insert_self handle held) ?_
  rw [Finset.erase_insert hm]
  exact h

theorem wp_onThrow
    (h : body.Wp returns
      (fun thrown => cleanup.Wp (fun _ => throws thrown) throws) state held) :
    (body.onThrow cleanup).Wp returns throws state held := by
  obtain ⟨mid, he, hends⟩ := h
  cases hresult : (body state).result with
  | ok value =>
      rw [hresult] at hends
      refine ⟨mid, ?_, ?_⟩
      · rw [onThrow_of_ok hresult]
        exact he
      · rw [onThrow_of_ok hresult]
        exact hends
  | error thrown =>
      rw [hresult] at hends
      obtain ⟨last, hlater, hlast⟩ := hends
      refine ⟨last, ?_, ?_⟩
      · rw [onThrow_of_error hresult]
        exact Machine.exec_append.mpr ⟨mid, [], [], he, hlater, rfl⟩
      · rw [onThrow_of_error hresult]
        cases hcleanup : (cleanup (body state).state).result with
        | ok value =>
            rw [hcleanup] at hlast
            exact hlast
        | error replaced =>
            rw [hcleanup] at hlast
            exact hlast

end Holding

end Rito
