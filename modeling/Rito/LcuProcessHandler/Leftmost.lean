import Rito.LcuProcessHandler.Extraction

namespace Rito

namespace LcuProcessHandler

variable {option input rest value other : List Char} {isValueChar : Char → Bool} {what : String}
  {char : Char} {index : Nat}

-- At this index the option, behind it a longest run of value characters that is
-- not empty, and behind the run at least one character more.
def RunAt (option : List Char) (isValueChar : Char → Bool) (input : List Char) (index : Nat)
    (value : List Char) : Prop :=
  ∃ suffix, input.drop index = option ++ suffix ∧ suffix.takeWhile isValueChar = value ∧
    value ≠ [] ∧ value.length < suffix.length

def IsLeftmost (option : List Char) (isValueChar : Char → Bool) (input value : List Char) : Prop :=
  ∃ index, RunAt option isValueChar input index value ∧
    ∀ later other, RunAt option isValueChar input later other → index ≤ later

-- The run behind the option at the start of the input.
def runFrom (option : List Char) (isValueChar : Char → Bool) (input : List Char) :
    Option (List Char) :=
  if option.isPrefixOf input then
    let suffix := input.drop option.length
    let value := suffix.takeWhile isValueChar
    if value ≠ [] ∧ value.length < suffix.length then some value else none
  else none

-- One pass over the input, which never goes back.
def scan (option : List Char) (isValueChar : Char → Bool) : List Char → Option (List Char)
  | [] => none
  | char :: rest =>
      match runFrom option isValueChar (char :: rest) with
      | some value => some value
      | none => scan option isValueChar rest

theorem runFrom_eq_some_iff :
    runFrom option isValueChar input = some value ↔ RunAt option isValueChar input 0 value := by
  simp only [runFrom, RunAt, List.drop_zero]
  by_cases hp : option.isPrefixOf input = true
  · obtain ⟨suffix, rfl⟩ := List.isPrefixOf_iff_prefix.mp hp
    rw [if_pos hp, List.drop_left]
    constructor
    · intro h
      by_cases hv : suffix.takeWhile isValueChar ≠ [] ∧
          (suffix.takeWhile isValueChar).length < suffix.length
      · rw [if_pos hv] at h
        have hvalue := Option.some.inj h
        exact ⟨suffix, rfl, hvalue, hvalue ▸ hv.1, hvalue ▸ hv.2⟩
      · rw [if_neg hv] at h
        cases h
    · intro h
      obtain ⟨suffix', he, htake, hne, hlen⟩ := h
      have hs : suffix = suffix' := List.append_cancel_left he
      rw [← hs] at htake hlen
      rw [htake, if_pos ⟨hne, hlen⟩]
  · rw [if_neg hp]
    apply iff_of_false
    · simp
    · intro h
      obtain ⟨suffix, he, -⟩ := h
      exact hp (List.isPrefixOf_iff_prefix.mpr ⟨suffix, he.symm⟩)

theorem RunAt.unique (h : RunAt option isValueChar input index value)
    (h' : RunAt option isValueChar input index other) : value = other := by
  obtain ⟨suffix, he, htake, -⟩ := h
  obtain ⟨suffix', he', htake', -⟩ := h'
  have hs : suffix = suffix' := List.append_cancel_left (he.symm.trans he')
  rw [← htake, ← htake', hs]

theorem not_runAt_nil : ¬RunAt option isValueChar [] index value := by
  intro h
  obtain ⟨suffix, he, htake, hne, -⟩ := h
  rw [List.drop_nil] at he
  have hs : suffix = [] := (List.append_eq_nil_iff.mp he.symm).2
  rw [hs, List.takeWhile_nil] at htake
  exact hne htake.symm

theorem runAt_succ : RunAt option isValueChar (char :: rest) (index + 1) value ↔
    RunAt option isValueChar rest index value :=
  Iff.rfl

-- A run at the start is the leftmost one.
theorem isLeftmost_of_runFrom (h : runFrom option isValueChar input = some value) :
    IsLeftmost option isValueChar input other ↔ value = other := by
  have hstart := runFrom_eq_some_iff.mp h
  constructor
  · intro hl
    obtain ⟨index, hrun, hleft⟩ := hl
    have hzero : index = 0 := by
      have hle := hleft 0 value hstart
      omega
    rw [hzero] at hrun
    exact hstart.unique hrun
  · intro he
    exact ⟨0, he ▸ hstart, fun _ _ _ => Nat.zero_le _⟩

-- Without one the leftmost run is that of the rest.
theorem isLeftmost_cons (h : runFrom option isValueChar (char :: rest) = none) :
    IsLeftmost option isValueChar (char :: rest) value ↔
      IsLeftmost option isValueChar rest value := by
  have hno : ∀ other, ¬RunAt option isValueChar (char :: rest) 0 other := by
    intro other ho
    rw [runFrom_eq_some_iff.mpr ho] at h
    cases h
  constructor
  · intro hl
    obtain ⟨index, hrun, hleft⟩ := hl
    cases index with
    | zero => exact absurd hrun (hno value)
    | succ index =>
        refine ⟨index, runAt_succ.mp hrun, fun later other ho => ?_⟩
        have hle := hleft (later + 1) other (runAt_succ.mpr ho)
        omega
  · intro hl
    obtain ⟨index, hrun, hleft⟩ := hl
    refine ⟨index + 1, runAt_succ.mpr hrun, fun later other ho => ?_⟩
    cases later with
    | zero => exact absurd ho (hno other)
    | succ later =>
        have hle := hleft later other (runAt_succ.mp ho)
        omega

theorem scan_eq_some_iff :
    scan option isValueChar input = some value ↔ IsLeftmost option isValueChar input value := by
  induction input with
  | nil =>
      apply iff_of_false
      · simp [scan]
      · intro h
        obtain ⟨index, hrun, -⟩ := h
        exact not_runAt_nil hrun
  | cons char rest ih =>
      cases h : runFrom option isValueChar (char :: rest) with
      | some first => rw [isLeftmost_of_runFrom h, scan, h, Option.some.injEq]
      | none => rw [isLeftmost_cons h, ← ih, scan, h]

theorem not_runAt_of_scan (h : scan option isValueChar input = none) (index : Nat)
    (value : List Char) : ¬RunAt option isValueChar input index value := by
  induction input generalizing index with
  | nil => exact not_runAt_nil
  | cons char rest ih =>
      rw [scan] at h
      cases hfirst : runFrom option isValueChar (char :: rest) with
      | some first =>
          rw [hfirst] at h
          cases h
      | none =>
          rw [hfirst] at h
          intro hrun
          cases index with
          | zero =>
              rw [runFrom_eq_some_iff.mpr hrun] at hfirst
              cases hfirst
          | succ index => exact ih h index (runAt_succ.mp hrun)

theorem all_eq_false_iff {suffix : List Char} :
    suffix.all isValueChar = false ↔ (suffix.takeWhile isValueChar).length < suffix.length := by
  have hlen : (suffix.takeWhile isValueChar).length ≤ suffix.length :=
    (List.takeWhile_prefix isValueChar).length_le
  constructor
  · intro h
    obtain ⟨last, after, hs, -⟩ := exists_takeWhile_cons h
    have hcut := congrArg List.length hs
    rw [List.length_append, List.length_cons] at hcut
    omega
  · intro h
    by_contra hall
    rw [Bool.not_eq_false] at hall
    have htake : suffix.takeWhile isValueChar = suffix :=
      List.takeWhile_eq_self_iff.mpr (List.all_eq_true.mp hall)
    rw [htake] at h
    omega

-- The values a regular expression can find are the runs.
theorem valueAt_iff_runAt : (∃ before, before.length = index ∧
      ValueAt option isValueChar input before value) ↔
    RunAt option isValueChar input index value := by
  constructor
  · intro h
    obtain ⟨before, rfl, suffix, he, htake, hne, hall⟩ := h
    refine ⟨suffix, ?_, htake, hne, htake ▸ all_eq_false_iff.mp hall⟩
    rw [he, List.drop_left]
  · intro h
    obtain ⟨suffix, he, htake, hne, hlen⟩ := h
    have hindex : index ≤ input.length := by
      by_contra hlt
      rw [List.drop_of_length_le (by omega)] at he
      have hs : suffix = [] := (List.append_eq_nil_iff.mp he.symm).2
      rw [hs] at hlen
      exact absurd hlen (Nat.not_lt_zero _)
    refine ⟨input.take index, List.length_take_of_le hindex, suffix, ?_, htake, hne,
      all_eq_false_iff.mpr (htake ▸ hlen)⟩
    rw [← he, List.take_append_drop]

-- The search with backtracking finds what the scan does.
theorem extract_eq_scan (option : List Char) (isValueChar : Char → Bool) (what : String)
    (input : List Char) :
    extract (optionRegex option isValueChar) what input =
      match scan option isValueChar input with
      | some value => .ok value
      | none => .error (.lcuParameters what) := by
  cases he : extract (optionRegex option isValueChar) what input with
  | ok value =>
      obtain ⟨before, hv, hleft⟩ := extract_eq_ok he
      have hleftmost : IsLeftmost option isValueChar input value := by
        refine ⟨before.length, valueAt_iff_runAt.mp ⟨before, rfl, hv⟩, fun later other ho => ?_⟩
        obtain ⟨earlier, rfl, hearlier⟩ := valueAt_iff_runAt.mpr ho
        exact hleft earlier other hearlier
      rw [scan_eq_some_iff.mpr hleftmost]
  | error exception =>
      obtain ⟨rfl, hnone⟩ := extract_eq_error he
      cases hscan : scan option isValueChar input with
      | none => rfl
      | some value =>
          obtain ⟨index, hrun, -⟩ := scan_eq_some_iff.mp hscan
          obtain ⟨before, -, hv⟩ := valueAt_iff_runAt.mpr hrun
          exact absurd hv (hnone before value)

-- The leftmost run is what an extraction returns, and where there is none it
-- throws.
def ExtractsLeftmost (option : List Char) (isValueChar : Char → Bool) (input : List Char)
    (extraction : Except Exception (List Char)) : Prop :=
  (∀ value, extraction = .ok value ↔ IsLeftmost option isValueChar input value) ∧
    ((∃ what, extraction = .error (.lcuParameters what)) ↔
      ∀ index value, ¬RunAt option isValueChar input index value)

theorem extract_leftmost (option : List Char) (isValueChar : Char → Bool) (what : String)
    (input : List Char) :
    ExtractsLeftmost option isValueChar input
      (extract (optionRegex option isValueChar) what input) := by
  rw [extract_eq_scan]
  cases hscan : scan option isValueChar input with
  | some found =>
      have hfound := scan_eq_some_iff.mp hscan
      constructor
      · intro value
        rw [← scan_eq_some_iff, hscan, Option.some.injEq, Except.ok.injEq]
      · apply iff_of_false
        · simp
        · intro hnone
          obtain ⟨index, hrun, -⟩ := hfound
          exact hnone index found hrun
  | none =>
      constructor
      · intro value
        rw [← scan_eq_some_iff, hscan]
        simp
      · exact iff_of_true ⟨what, rfl⟩ (not_runAt_of_scan hscan)

theorem extraction_leftmost (lcuCommand : List Char) :
    ExtractsLeftmost tokenOption isTokenChar lcuCommand (extractRemotingAuthToken lcuCommand) ∧
      ExtractsLeftmost portOption Char.isDigit lcuCommand (extractAppPort lcuCommand) :=
  ⟨extract_leftmost tokenOption isTokenChar _ lcuCommand,
    extract_leftmost portOption Char.isDigit _ lcuCommand⟩

-- The first of the two ports has nothing behind it that a run can end at.
example : extractAppPort "--app-port=--app-port=12 ".toList = .ok "12".toList := by decide

end LcuProcessHandler

end Rito
