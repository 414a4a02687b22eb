import Rito.Machine
import Rito.Trace

namespace Rito

-- One request made on a client: what came of it, and what it transmitted.
structure Attempt (κ ε ρ τ : Type*) where
  client : κ
  result : Except ε ρ
  transmissions : List τ

-- A handler of requests that keeps a client from one to the next. A request
-- that fails on the kept client is made once more, on a new one. Its other
-- calls change only its settings.
structure Retrying (σ β α κ ε ρ τ : Type*) where
  client : σ → Option κ
  drop : σ → σ
  connect : σ → α → Except ε (κ × σ)
  sendKept : σ → κ → α → Except ε ρ × List τ
  sendNew : σ → κ → α → Except ε ρ × List τ
  other : σ → β → σ

namespace Retrying

variable {σ β α κ ε ρ τ : Type*}

-- The request on a new client.
def renew (R : Retrying σ β α κ ε ρ τ) (s : σ) (a : α) :
    Except ε ρ × σ × List (Attempt κ ε ρ τ) :=
  match R.connect s a with
  | .error e => (.error e, s, [])
  | .ok (c, s') =>
      let (result, transmissions) := R.sendNew s' c a
      (result, s', [⟨c, result, transmissions⟩])

def call (R : Retrying σ β α κ ε ρ τ) (s : σ) (a : α) :
    Except ε ρ × σ × List (Attempt κ ε ρ τ) :=
  match R.client s with
  | none => R.renew s a
  | some c =>
      match R.sendKept s c a with
      | (.ok response, transmissions) => (.ok response, s, [⟨c, .ok response, transmissions⟩])
      | (.error e, transmissions) =>
          let (result, s', later) := R.renew (R.drop s) a
          (result, s', ⟨c, .error e, transmissions⟩ :: later)

-- The attempts are what a run puts out.
def machine (R : Retrying σ β α κ ε ρ τ) : Machine σ (β ⊕ α) (Attempt κ ε ρ τ) where
  step
    | s, .inl b => some (R.other s b, [])
    | s, .inr a => some ((R.call s a).2.1, (R.call s a).2.2)

def transmitted (attempts : List (Attempt κ ε ρ τ)) : List τ :=
  attempts.flatMap fun attempt => attempt.transmissions

variable {R : Retrying σ β α κ ε ρ τ} {s s' : σ} {a : α} {b : β} {c : κ}

-- Either no new client can be made, or the request is made on it.
theorem renew_cases (R : Retrying σ β α κ ε ρ τ) (s : σ) (a : α) :
    (∃ e, R.connect s a = .error e ∧ R.renew s a = (.error e, s, [])) ∨
      ∃ c s', R.connect s a = .ok (c, s') ∧
        R.renew s a = ((R.sendNew s' c a).1, s',
          [⟨c, (R.sendNew s' c a).1, (R.sendNew s' c a).2⟩]) := by
  cases hn : R.connect s a with
  | error e => exact Or.inl ⟨e, rfl, by rw [renew, hn]⟩
  | ok pair =>
      obtain ⟨c, s'⟩ := pair
      exact Or.inr ⟨c, s', rfl, by rw [renew, hn]⟩

theorem call_of_none (hc : R.client s = none) : R.call s a = R.renew s a := by
  rw [call, hc]

theorem call_of_answered {response : ρ} {transmissions : List τ} (hc : R.client s = some c)
    (hk : R.sendKept s c a = (.ok response, transmissions)) :
    R.call s a = (.ok response, s, [⟨c, .ok response, transmissions⟩]) := by
  simp only [call, hc, hk]

theorem call_of_failed {e : ε} {transmissions : List τ} (hc : R.client s = some c)
    (hk : R.sendKept s c a = (.error e, transmissions)) :
    R.call s a = ((R.renew (R.drop s) a).1, (R.renew (R.drop s) a).2.1,
      ⟨c, .error e, transmissions⟩ :: (R.renew (R.drop s) a).2.2) := by
  simp only [call, hc, hk]

-- A kept client answers, or the request is made on a new one: there was no
-- client, or it failed.
theorem call_cases (R : Retrying σ β α κ ε ρ τ) (s : σ) (a : α) :
    (R.client s = none ∧ R.call s a = R.renew s a) ∨
      (∃ c response, R.client s = some c ∧ (R.sendKept s c a).1 = .ok response ∧
        R.call s a = (.ok response, s, [⟨c, .ok response, (R.sendKept s c a).2⟩])) ∨
      ∃ c e, R.client s = some c ∧ (R.sendKept s c a).1 = .error e ∧
        R.call s a = ((R.renew (R.drop s) a).1, (R.renew (R.drop s) a).2.1,
          ⟨c, .error e, (R.sendKept s c a).2⟩ :: (R.renew (R.drop s) a).2.2) := by
  cases hc : R.client s with
  | none => exact Or.inl ⟨rfl, call_of_none hc⟩
  | some c =>
      rcases hk : R.sendKept s c a with ⟨e | response, transmissions⟩
      · exact Or.inr (Or.inr ⟨c, e, rfl, by rw [hk], by rw [call_of_failed hc hk, hk]⟩)
      · exact Or.inr (Or.inl ⟨c, response, rfl, by rw [hk], by rw [call_of_answered hc hk, hk]⟩)

-- That a client can be made says nothing of which one.
theorem exists_ok_iff {x : Except ε (κ × σ)} {P : Prop} :
    (∃ c s', x = .ok (c, s') ∧ P) ↔ x.isOk = true ∧ P := by
  cases x with
  | error e => simp [Except.isOk, Except.toBool]
  | ok pair => simp [Except.isOk, Except.toBool, Prod.ext_iff]

section Repetition

variable {p : τ → Bool}

-- The kept client transmits and fails, and so a new one transmits again.
def Repeats (R : Retrying σ β α κ ε ρ τ) (p : τ → Bool) (s : σ) (a : α) : Prop :=
  ∃ c, R.client s = some c ∧ (R.sendKept s c a).1.isOk = false ∧
    0 < (R.sendKept s c a).2.countP p ∧
      ∃ c' s', R.connect (R.drop s) a = .ok (c', s') ∧ 0 < (R.sendNew s' c' a).2.countP p

-- No attempt transmits more than once.
structure SingleShot (R : Retrying σ β α κ ε ρ τ) (p : τ → Bool) : Prop where
  kept : ∀ s c a, (R.sendKept s c a).2.countP p ≤ 1
  new : ∀ s c a, (R.sendNew s c a).2.countP p ≤ 1

theorem renew_countP_le (h : R.SingleShot p) (s : σ) (a : α) :
    (transmitted (R.renew s a).2.2).countP p ≤ 1 := by
  rcases R.renew_cases s a with ⟨e, -, hr⟩ | ⟨c, s', -, hr⟩
  · rw [hr]
    exact Nat.zero_le 1
  · rw [hr]
    simpa [transmitted] using h.new s' c a

theorem renew_countP_pos :
    0 < (transmitted (R.renew s a).2.2).countP p ↔
      ∃ c s', R.connect s a = .ok (c, s') ∧ 0 < (R.sendNew s' c a).2.countP p := by
  rcases R.renew_cases s a with ⟨e, hn, hr⟩ | ⟨c, s', hn, hr⟩
  · simp [hr, hn, transmitted]
  · simp [hr, hn, transmitted]

-- A call transmits at most once if and only if it does not repeat.
theorem call_countP_le_iff (h : R.SingleShot p) (s : σ) (a : α) :
    (transmitted (R.call s a).2.2).countP p ≤ 1 ↔ ¬R.Repeats p s a := by
  rcases R.call_cases s a with ⟨hc, hr⟩ | ⟨c, response, hc, hk, hr⟩ | ⟨c, e, hc, hk, hr⟩
  · rw [hr]
    apply iff_of_true (renew_countP_le h s a)
    rintro ⟨c, hc', -⟩
    cases hc.symm.trans hc'
  · rw [hr]
    apply iff_of_true (by simpa [transmitted] using h.kept s c a)
    rintro ⟨c', hc', hf, -⟩
    obtain rfl : c = c' := Option.some.inj (hc.symm.trans hc')
    rw [hk] at hf
    cases hf
  · have hsplit : (transmitted (R.call s a).2.2).countP p = (R.sendKept s c a).2.countP p +
        (transmitted (R.renew (R.drop s) a).2.2).countP p := by
      rw [hr]
      simp [transmitted, List.countP_append]
    have hrepeats : R.Repeats p s a ↔ 0 < (R.sendKept s c a).2.countP p ∧
        0 < (transmitted (R.renew (R.drop s) a).2.2).countP p := by
      rw [renew_countP_pos]
      constructor
      · rintro ⟨c', hc', -, hpos, hnew⟩
        obtain rfl : c = c' := Option.some.inj (hc.symm.trans hc')
        exact ⟨hpos, hnew⟩
      · rintro ⟨hpos, hnew⟩
        exact ⟨c, hc, by rw [hk]; rfl, hpos, hnew⟩
    have hkept := h.kept s c a
    have hrenew := renew_countP_le h (R.drop s) a
    rw [hsplit, hrepeats]
    omega

end Repetition

section Reuse

variable {serial : κ → Nat} {made : σ → Nat} {transmits : α → Prop} {start : σ}
  {calls : List (β ⊕ α)} {attempts : List (Attempt κ ε ρ τ)}

-- A client that failed before transmits nothing more.
def NeverReused (serial : κ → Nat) (attempts : List (Attempt κ ε ρ τ)) : Prop :=
  Guarded (fun before attempt => attempt.transmissions ≠ [] →
    ∀ earlier ∈ before, serial earlier.client = serial attempt.client →
      earlier.result.isOk = true) attempts

-- The client failed in one of the attempts.
def HasFailed (serial : κ → Nat) (attempts : List (Attempt κ ε ρ τ)) (c : κ) : Prop :=
  ∃ attempt ∈ attempts, serial attempt.client = serial c ∧ attempt.result.isOk = false

-- The request is made on a new client and fails there, and the client is kept.
def LeavesFailed (R : Retrying σ β α κ ε ρ τ) (s : σ) (a : α) : Prop :=
  (∀ c ∈ R.client s, (R.sendKept s c a).1.isOk = false) ∧
    ∃ c s', R.connect (R.drop s) a = .ok (c, s') ∧ (R.sendNew s' c a).1.isOk = false

-- The last of the requests met a condition.
def LastRequest (R : Retrying σ β α κ ε ρ τ) (cond : σ → α → Prop) (start : σ)
    (calls : List (β ⊕ α)) : Prop :=
  ∃ (before : List (β ⊕ α)) (a : α) (others : List β) (s : σ)
    (attempts : List (Attempt κ ε ρ τ)), calls = before ++ .inr a :: others.map .inl ∧
      R.machine.exec start before = some (s, attempts) ∧ cond s a

-- No request that transmits has one that met the condition as the last before it.
def Avoids (R : Retrying σ β α κ ε ρ τ) (transmits : α → Prop) (cond : σ → α → Prop) (start : σ)
    (calls : List (β ⊕ α)) : Prop :=
  Guarded (fun before call =>
    ∀ a, call = .inr a → transmits a → ¬R.LastRequest cond start before) calls

-- New clients are told from old ones by their serials, a call that is no
-- request leaves the client alone, and an answer takes a transmission.
structure Numbered (R : Retrying σ β α κ ε ρ τ) (serial : κ → Nat) (made : σ → Nat)
    (transmits : α → Prop) : Prop where
  drop_client : ∀ s, R.client (R.drop s) = none
  drop_made : ∀ s, made (R.drop s) = made s
  drop_none : ∀ s, R.client s = none → R.drop s = s
  connect : ∀ {s a c s'}, R.connect s a = .ok (c, s') →
    serial c = made s ∧ made s' = made s + 1 ∧ R.client s' = some c
  other_client : ∀ s b, R.client (R.other s b) = R.client s
  other_made : ∀ s b, made (R.other s b) = made s
  sendKept : ∀ s c a, (R.sendKept s c a).2 ≠ [] ↔ transmits a
  answered : ∀ s c a, (R.sendKept s c a).1.isOk = true → transmits a

-- No client has a serial that is still to come.
structure Serials (R : Retrying σ β α κ ε ρ τ) (serial : κ → Nat) (made : σ → Nat)
    (attempts : List (Attempt κ ε ρ τ)) (s : σ) : Prop where
  attempts : ∀ attempt ∈ attempts, serial attempt.client < made s
  client : ∀ c ∈ R.client s, serial c < made s

theorem neverReused_concat {attempt : Attempt κ ε ρ τ} :
    NeverReused serial (attempts ++ [attempt]) ↔ NeverReused serial attempts ∧
      (attempt.transmissions ≠ [] → ¬HasFailed serial attempts attempt.client) := by
  rw [NeverReused, guarded_concat]
  simp only [HasFailed, not_exists, not_and, Bool.not_eq_false, NeverReused]

@[simp] theorem hasFailed_append {later : List (Attempt κ ε ρ τ)} :
    HasFailed serial (attempts ++ later) c ↔
      HasFailed serial attempts c ∨ HasFailed serial later c := by
  simp only [HasFailed, List.mem_append, or_and_right, exists_or]

@[simp] theorem hasFailed_singleton {attempt : Attempt κ ε ρ τ} :
    HasFailed serial [attempt] c ↔
      serial attempt.client = serial c ∧ attempt.result.isOk = false := by
  simp [HasFailed]

theorem Serials.not_hasFailed (h : Serials R serial made attempts s) (hc : serial c = made s) :
    ¬HasFailed serial attempts c := by
  rintro ⟨attempt, hm, he, -⟩
  have hlt := h.attempts attempt hm
  omega

theorem Serials.drop (hn : R.Numbered serial made transmits)
    (h : Serials R serial made attempts s) : Serials R serial made attempts (R.drop s) where
  attempts := by
    rw [hn.drop_made]
    exact h.attempts
  client := by simp [hn.drop_client]

theorem Serials.concat {attempt : Attempt κ ε ρ τ} (h : Serials R serial made attempts s)
    (hc : R.client s = some attempt.client) :
    Serials R serial made (attempts ++ [attempt]) s where
  attempts := by
    intro earlier hm
    rcases List.mem_append.mp hm with hm | hm
    · exact h.attempts earlier hm
    · rw [List.mem_singleton.mp hm]
      exact h.client _ hc
  client := h.client

-- What the request on a new client adds to the attempts so far: it never
-- transmits on a client that failed, and it leaves one if it fails itself.
theorem renew_spec (hn : R.Numbered serial made transmits)
    (h : Serials R serial made attempts s) (hc : R.client s = none) (a : α) :
    Serials R serial made (attempts ++ (R.renew s a).2.2) (R.renew s a).2.1 ∧
      (NeverReused serial (attempts ++ (R.renew s a).2.2) ↔ NeverReused serial attempts) ∧
      ((∃ c ∈ R.client (R.renew s a).2.1,
          HasFailed serial (attempts ++ (R.renew s a).2.2) c) ↔
        ∃ c s', R.connect s a = .ok (c, s') ∧ (R.sendNew s' c a).1.isOk = false) := by
  rcases R.renew_cases s a with ⟨e, he, hr⟩ | ⟨c, s', he, hr⟩
  · rw [hr]
    simp [h, hc, he]
  · obtain ⟨hserial, hmade, hclient⟩ := hn.connect he
    have hfresh := h.not_hasFailed hserial
    rw [hr]
    have hs : Serials R serial made attempts s' := by
      refine ⟨fun attempt hm => ?_, fun c' hc' => ?_⟩
      · have hlt := h.attempts attempt hm
        omega
      · obtain rfl : c = c' := Option.some.inj (hclient.symm.trans hc')
        omega
    refine ⟨hs.concat hclient, ?_, ?_⟩
    · rw [neverReused_concat, and_iff_left fun _ => hfresh]
    · simp [hclient, he, hfresh]

-- A call reuses a client exactly if it transmits and the client kept has failed;
-- it leaves a client that failed exactly if the request failed on a new one.
theorem call_spec (hn : R.Numbered serial made transmits)
    (h : Serials R serial made attempts s) (a : α) :
    Serials R serial made (attempts ++ (R.call s a).2.2) (R.call s a).2.1 ∧
      (NeverReused serial (attempts ++ (R.call s a).2.2) ↔ NeverReused serial attempts ∧
        (transmits a → ¬∃ c ∈ R.client s, HasFailed serial attempts c)) ∧
      (NeverReused serial (attempts ++ (R.call s a).2.2) →
        ((∃ c ∈ R.client (R.call s a).2.1,
          HasFailed serial (attempts ++ (R.call s a).2.2) c) ↔ R.LeavesFailed s a)) := by
  rcases R.call_cases s a with ⟨hc, hr⟩ | ⟨c, response, hc, hk, hr⟩ | ⟨c, e, hc, hk, hr⟩
  · obtain ⟨hs, hg, hf⟩ := renew_spec hn h hc a
    rw [hr]
    refine ⟨hs, ?_, fun _ => ?_⟩
    · rw [hg]
      simp [hc]
    · rw [hf, LeavesFailed, hn.drop_none s hc]
      simp [hc]
  · have ht : transmits a := hn.answered s c a (by rw [hk]; rfl)
    rw [hr]
    refine ⟨h.concat hc, ?_, fun hg => ?_⟩
    · rw [neverReused_concat]
      simp [hc, hn.sendKept]
    · have hfailed := (neverReused_concat.mp hg).2 ((hn.sendKept s c a).mpr ht)
      have hanswered : (Except.ok response : Except ε ρ).isOk = true := rfl
      simp [hc, LeavesFailed, hk, hfailed, hanswered]
  · have hdrop : Serials R serial made
        (attempts ++ [⟨c, .error e, (R.sendKept s c a).2⟩]) (R.drop s) := (h.concat hc).drop hn
    obtain ⟨hs, hg, hf⟩ := renew_spec hn hdrop (hn.drop_client s) a
    have hfail : (Except.error e : Except ε ρ).isOk = false := rfl
    simp only [List.append_assoc, List.singleton_append] at hs hg hf
    rw [hr]
    refine ⟨hs, ?_, fun _ => ?_⟩
    · rw [hg, neverReused_concat]
      simp [hc, hn.sendKept]
    · rw [hf, LeavesFailed]
      simp [hc, hk, hfail]

theorem not_lastRequest_nil {cond : σ → α → Prop} : ¬R.LastRequest cond start [] := by
  rintro ⟨before, a, others, s, attempts, he, -⟩
  simp at he

theorem lastRequest_concat_inl {cond : σ → α → Prop} :
    R.LastRequest cond start (calls ++ [.inl b]) ↔ R.LastRequest cond start calls := by
  constructor
  · rintro ⟨before, a, others, s, attempts, he, hx, hc⟩
    rcases List.eq_nil_or_concat others with rfl | ⟨others, last, rfl⟩
    · cases (List.append_singleton_inj.mp he).2
    · have hsplit : calls ++ [.inl b] =
          (before ++ .inr a :: others.map .inl) ++ [.inl last] := by simpa using he
      exact ⟨before, a, others, s, attempts, (List.append_singleton_inj.mp hsplit).1, hx, hc⟩
  · rintro ⟨before, a, others, s, attempts, rfl, hx, hc⟩
    exact ⟨before, a, others ++ [b], s, attempts, by simp, hx, hc⟩

theorem lastRequest_concat_inr {cond : σ → α → Prop}
    (h : R.machine.exec start calls = some (s, attempts)) :
    R.LastRequest cond start (calls ++ [.inr a]) ↔ cond s a := by
  constructor
  · rintro ⟨before, a', others, s', attempts', he, hx, hc⟩
    rcases List.eq_nil_or_concat others with rfl | ⟨others, last, rfl⟩
    · obtain ⟨rfl, ha⟩ := List.append_singleton_inj.mp he
      obtain rfl := Sum.inr.inj ha
      obtain ⟨rfl, -⟩ := Prod.mk.inj (Option.some.inj (h.symm.trans hx))
      exact hc
    · have hsplit : calls ++ [.inr a] =
          (before ++ .inr a' :: others.map .inl) ++ [.inl last] := by simpa using he
      cases (List.append_singleton_inj.mp hsplit).2
  · intro hc
    exact ⟨calls, a, [], s, attempts, rfl, h, hc⟩

-- In every run, no client that failed is used again if and only if no request
-- that transmits comes after one that failed on a new client.
theorem neverReused_iff (hn : R.Numbered serial made transmits) (hstart : R.client start = none)
    (h : R.machine.exec start calls = some (s, attempts)) :
    NeverReused serial attempts ↔ R.Avoids transmits R.LeavesFailed start calls := by
  have hi := R.machine.exec_induction (I := fun calls attempts s =>
    R.machine.exec start calls = some (s, attempts) ∧ Serials R serial made attempts s ∧
      (NeverReused serial attempts → ((∃ c ∈ R.client s, HasFailed serial attempts c) ↔
        R.LastRequest R.LeavesFailed start calls)) ∧
      (NeverReused serial attempts ↔ R.Avoids transmits R.LeavesFailed start calls)) ?_ ?_ h
  · exact hi.2.2.2
  · refine ⟨rfl, ⟨by simp, by simp [hstart]⟩, fun _ => ?_,
      iff_of_true (guarded_nil _) (guarded_nil _)⟩
    simp [hstart, not_lastRequest_nil]
  · rintro calls attempts s call s' later ⟨he, hs, hlast, hg⟩ hstep
    refine ⟨Machine.exec_concat.mpr ⟨s, attempts, later, he, hstep, rfl⟩, ?_⟩
    cases call with
    | inl b =>
        obtain ⟨rfl, rfl⟩ := Prod.mk.inj (Option.some.inj hstep)
        refine ⟨⟨?_, ?_⟩, ?_, ?_⟩
        · simpa [hn.other_made] using hs.attempts
        · simpa [hn.other_made, hn.other_client] using hs.client
        · simpa [lastRequest_concat_inl, hn.other_client] using hlast
        · rw [Avoids, guarded_concat, List.append_nil, hg, Avoids]
          simp
    | inr a =>
        obtain ⟨rfl, rfl⟩ := Prod.mk.inj (Option.some.inj hstep)
        obtain ⟨hs', hg', hf'⟩ := call_spec hn hs a
        refine ⟨hs', ?_, ?_⟩
        · rw [lastRequest_concat_inr he]
          exact hf'
        · rw [hg', Avoids, guarded_concat, ← Avoids, ← hg]
          refine and_congr_right fun hnever => ?_
          rw [hlast hnever]
          simp

end Reuse

end Retrying

end Rito
