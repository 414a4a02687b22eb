import Mathlib.Data.List.Basic

namespace Rito

-- Regular expressions over any alphabet, with the operators of ECMAScript that
-- need no look-ahead: `plus` repeats one symbol greedily, `group` captures.
inductive Regex (α : Type*) where
  | empty
  | symbol (accepts : α → Bool)
  | seq (first second : Regex α)
  | plus (accepts : α → Bool)
  | group (inner : Regex α)

-- What was matched, the texts of the groups in it, and the input after it.
structure RegexMatch (α : Type*) where
  text : List α
  captures : List (List α)
  rest : List α

namespace Regex

variable {α : Type*}

-- The ways to match one or more symbols, the longest first.
def runs (accepts : α → Bool) : List α → List (RegexMatch α)
  | [] => []
  | a :: rest =>
      if accepts a then
        (runs accepts rest).map (fun run => ⟨a :: run.text, [], run.rest⟩) ++ [⟨[a], [], rest⟩]
      else []

-- The ways to match at the start of the input, in the order in which
-- backtracking tries them.
def matchings : Regex α → List α → List (RegexMatch α)
  | .empty, input => [⟨[], [], input⟩]
  | .symbol _, [] => []
  | .symbol accepts, a :: rest => if accepts a then [⟨[a], [], rest⟩] else []
  | .seq first second, input =>
      (first.matchings input).flatMap fun m =>
        (second.matchings m.rest).map fun n => ⟨m.text ++ n.text, m.captures ++ n.captures, n.rest⟩
  | .plus accepts, input => runs accepts input
  | .group inner, input =>
      (inner.matchings input).map fun m => ⟨m.text, m.text :: m.captures, m.rest⟩

-- The first match at the leftmost start that has one.
def search (regex : Regex α) : List α → Option (RegexMatch α)
  | [] => (regex.matchings []).head?
  | a :: rest =>
      match (regex.matchings (a :: rest)).head? with
      | some m => some m
      | none => search regex rest

def literal [DecidableEq α] : List α → Regex α
  | [] => .empty
  | a :: text => .seq (.symbol (· = a)) (literal text)

-- The texts an expression stands for, with the captures that go with them.
inductive Denotes : Regex α → List α → List (List α) → Prop
  | empty : Denotes .empty [] []
  | symbol {accepts a} (ha : accepts a = true) : Denotes (.symbol accepts) [a] []
  | seq {first second text more captures others} (hf : Denotes first text captures)
      (hs : Denotes second more others) :
      Denotes (.seq first second) (text ++ more) (captures ++ others)
  | plus {accepts text} (hne : text ≠ []) (hall : text.all accepts = true) :
      Denotes (.plus accepts) text []
  | group {inner text captures} (hi : Denotes inner text captures) :
      Denotes (.group inner) text (text :: captures)

variable {accepts : α → Bool} {regex first second inner : Regex α} {input text : List α}
  {captures : List (List α)} {m : RegexMatch α}

theorem mem_runs : m ∈ runs accepts input ↔
    input = m.text ++ m.rest ∧ m.text ≠ [] ∧ m.text.all accepts = true ∧ m.captures = [] := by
  induction input generalizing m with
  | nil =>
      simp only [runs, List.not_mem_nil, false_iff, not_and]
      intro h hne
      exact absurd (List.append_eq_nil_iff.mp h.symm).1 hne
  | cons a rest ih =>
      obtain ⟨text, captures, left⟩ := m
      simp only [runs]
      split
      · next ha =>
          simp only [List.mem_append, List.mem_map, ih, List.mem_singleton]
          constructor
          · rintro (⟨run, ⟨rfl, -, hall, -⟩, hm⟩ | hm)
            · obtain ⟨rfl, rfl, rfl⟩ := RegexMatch.mk.inj hm
              exact ⟨rfl, List.cons_ne_nil _ _, by simp [ha, hall], rfl⟩
            · obtain ⟨rfl, rfl, rfl⟩ := RegexMatch.mk.inj hm
              exact ⟨rfl, List.cons_ne_nil _ _, by simp [ha], rfl⟩
          · rintro ⟨he, hne, hall, rfl⟩
            obtain ⟨b, more, rfl⟩ := List.exists_cons_of_ne_nil hne
            obtain ⟨rfl, rfl⟩ := List.cons.inj he
            cases more with
            | nil => exact Or.inr rfl
            | cons b more =>
                refine Or.inl ⟨⟨b :: more, [], left⟩, ⟨rfl, List.cons_ne_nil _ _, ?_, rfl⟩, rfl⟩
                simp only [List.all_cons, Bool.and_eq_true] at hall ⊢
                exact hall.2
      · next ha =>
          simp only [List.not_mem_nil, false_iff, not_and]
          intro he hne hall
          obtain ⟨b, more, rfl⟩ := List.exists_cons_of_ne_nil hne
          obtain ⟨rfl, -⟩ := List.cons.inj he
          simp only [List.all_cons, Bool.and_eq_true] at hall
          exact absurd hall.1 ha

theorem denotes_seq : (Regex.seq first second).Denotes text captures ↔
    ∃ text' more captures' others, text = text' ++ more ∧ captures = captures' ++ others ∧
      first.Denotes text' captures' ∧ second.Denotes more others := by
  constructor
  · intro h
    cases h with
    | seq hf hs => exact ⟨_, _, _, _, rfl, rfl, hf, hs⟩
  · rintro ⟨text', more, captures', others, rfl, rfl, hf, hs⟩
    exact .seq hf hs

theorem denotes_symbol : (Regex.symbol accepts).Denotes text captures ↔
    ∃ a, text = [a] ∧ captures = [] ∧ accepts a = true := by
  constructor
  · intro h
    cases h with
    | symbol ha => exact ⟨_, rfl, rfl, ha⟩
  · rintro ⟨a, rfl, rfl, ha⟩
    exact .symbol ha

theorem denotes_group_plus : (Regex.group (.plus accepts)).Denotes text captures ↔
    captures = [text] ∧ text ≠ [] ∧ text.all accepts = true := by
  constructor
  · intro h
    cases h with
    | group hi =>
        cases hi with
        | plus hne hall => exact ⟨rfl, hne, hall⟩
  · rintro ⟨rfl, hne, hall⟩
    exact .group (.plus hne hall)

theorem denotes_literal [DecidableEq α] {word : List α} :
    (literal word).Denotes text captures ↔ text = word ∧ captures = [] := by
  induction word generalizing text captures with
  | nil =>
      constructor
      · intro h
        cases h with
        | empty => exact ⟨rfl, rfl⟩
      · rintro ⟨rfl, rfl⟩
        exact .empty
  | cons a word ih =>
      simp only [literal, denotes_seq, denotes_symbol, ih, decide_eq_true_eq]
      constructor
      · rintro ⟨_, _, _, _, rfl, rfl, ⟨_, rfl, rfl, rfl⟩, rfl, rfl⟩
        exact ⟨rfl, rfl⟩
      · rintro ⟨rfl, rfl⟩
        exact ⟨[a], word, [], [], rfl, rfl, ⟨a, rfl, rfl, rfl⟩, rfl, rfl⟩

-- Backtracking finds the texts of the expression at the start of the input,
-- and no others.
theorem mem_matchings : m ∈ regex.matchings input ↔
    input = m.text ++ m.rest ∧ regex.Denotes m.text m.captures := by
  induction regex generalizing input m with
  | empty =>
      obtain ⟨text, captures, rest⟩ := m
      simp only [matchings, List.mem_singleton, RegexMatch.mk.injEq]
      constructor
      · rintro ⟨rfl, rfl, rfl⟩
        exact ⟨rfl, .empty⟩
      · rintro ⟨rfl, hd⟩
        cases hd with
        | empty => exact ⟨rfl, rfl, rfl⟩
  | symbol accepts =>
      obtain ⟨text, captures, rest⟩ := m
      simp only [denotes_symbol]
      cases input with
      | nil =>
          simp only [matchings, List.not_mem_nil, false_iff, not_and]
          rintro he ⟨a, rfl, -, -⟩
          cases he
      | cons b left =>
          simp only [matchings]
          split
          · next hb =>
              simp only [List.mem_singleton, RegexMatch.mk.injEq]
              constructor
              · rintro ⟨rfl, rfl, rfl⟩
                exact ⟨rfl, b, rfl, rfl, hb⟩
              · rintro ⟨he, a, rfl, rfl, -⟩
                obtain ⟨rfl, rfl⟩ := List.cons.inj he
                exact ⟨rfl, rfl, rfl⟩
          · next hb =>
              simp only [List.not_mem_nil, false_iff, not_and]
              rintro he ⟨a, rfl, -, ha⟩
              obtain ⟨rfl, -⟩ := List.cons.inj he
              exact hb ha
  | seq first second ihf ihs =>
      simp only [matchings, List.mem_flatMap, List.mem_map, ihf, ihs, denotes_seq]
      constructor
      · rintro ⟨m', ⟨rfl, hf⟩, n, ⟨hn, hs⟩, rfl⟩
        exact ⟨by simp [hn], m'.text, n.text, m'.captures, n.captures, rfl, rfl, hf, hs⟩
      · obtain ⟨text, captures, rest⟩ := m
        rintro ⟨rfl, text', more, captures', others, rfl, rfl, hf, hs⟩
        exact ⟨⟨text', captures', more ++ rest⟩, ⟨by simp, hf⟩, ⟨more, others, rest⟩, ⟨rfl, hs⟩, rfl⟩
  | plus accepts =>
      simp only [matchings, mem_runs]
      constructor
      · rintro ⟨he, hne, hall, hc⟩
        exact ⟨he, hc ▸ .plus hne hall⟩
      · obtain ⟨text, captures, rest⟩ := m
        rintro ⟨he, hd⟩
        cases hd with
        | plus hne hall => exact ⟨he, hne, hall, rfl⟩
  | group inner ih =>
      obtain ⟨text, captures, rest⟩ := m
      simp only [matchings, List.mem_map, ih, RegexMatch.mk.injEq]
      constructor
      · rintro ⟨m', ⟨he, hi⟩, rfl, rfl, rfl⟩
        exact ⟨he, .group hi⟩
      · rintro ⟨he, hd⟩
        cases hd with
        | group hi => exact ⟨⟨text, _, rest⟩, ⟨he, hi⟩, rfl, rfl, rfl⟩

theorem head?_matchings_eq_none : (regex.matchings input).head? = none ↔
    ∀ text rest captures, input = text ++ rest → ¬regex.Denotes text captures := by
  rw [List.head?_eq_none_iff, List.eq_nil_iff_forall_not_mem]
  constructor
  · intro h text rest captures he hd
    exact h ⟨text, captures, rest⟩ (mem_matchings.mpr ⟨he, hd⟩)
  · intro h m hm
    obtain ⟨he, hd⟩ := mem_matchings.mp hm
    exact h m.text m.rest m.captures he hd

-- A search fails exactly when no part of the input is a text of the expression.
theorem search_eq_none : regex.search input = none ↔ ∀ before text rest captures,
    input = before ++ (text ++ rest) → ¬regex.Denotes text captures := by
  induction input with
  | nil =>
      simp only [search, head?_matchings_eq_none]
      constructor
      · intro h before text rest captures he
        obtain ⟨-, hnil⟩ := List.append_eq_nil_iff.mp he.symm
        exact h text rest captures hnil.symm
      · intro h text rest captures he
        exact h [] text rest captures he
  | cons a input ih =>
      simp only [search]
      cases hh : (regex.matchings (a :: input)).head? with
      | some m =>
          obtain ⟨he, hd⟩ := mem_matchings.mp (List.mem_of_head? hh)
          simp only [reduceCtorEq, false_iff]
          exact fun h => h [] m.text m.rest m.captures he hd
      | none =>
          rw [head?_matchings_eq_none] at hh
          simp only [ih]
          constructor
          · intro h before text rest captures he
            cases before with
            | nil => exact hh text rest captures he
            | cons b before => exact h before text rest captures (List.cons.inj he).2
          · intro h before text rest captures he
            exact h (a :: before) text rest captures (congrArg (a :: ·) he)

-- A search that succeeds does so at the leftmost start there is.
theorem search_eq_some (h : regex.search input = some m) :
    ∃ before, input = before ++ (m.text ++ m.rest) ∧ regex.Denotes m.text m.captures ∧
      ∀ earlier text rest captures, input = earlier ++ (text ++ rest) →
        regex.Denotes text captures → before.length ≤ earlier.length := by
  induction input with
  | nil =>
      obtain ⟨he, hd⟩ := mem_matchings.mp (List.mem_of_head? h)
      exact ⟨[], he, hd, fun _ _ _ _ _ _ => Nat.zero_le _⟩
  | cons a input ih =>
      simp only [search] at h
      cases hh : (regex.matchings (a :: input)).head? with
      | some m' =>
          simp only [hh, Option.some.injEq] at h
          subst m'
          obtain ⟨he, hd⟩ := mem_matchings.mp (List.mem_of_head? hh)
          exact ⟨[], he, hd, fun _ _ _ _ _ _ => Nat.zero_le _⟩
      | none =>
          simp only [hh] at h
          rw [head?_matchings_eq_none] at hh
          obtain ⟨before, he, hd, hleft⟩ := ih h
          refine ⟨a :: before, congrArg (a :: ·) he, hd, ?_⟩
          intro earlier text rest captures hi hd'
          cases earlier with
          | nil => exact absurd hd' (hh text rest captures hi)
          | cons b earlier =>
              exact Nat.succ_le_succ (hleft earlier text rest captures (List.cons.inj hi).2 hd')

end Regex

end Rito
