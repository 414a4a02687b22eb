import Mathlib.Data.List.TakeWhile
import Rito.LcuProcessHandler

namespace Rito

namespace LcuProcessHandler

variable {option value command before suffix : List Char} {isValueChar : Char → Bool}
  {what : String}

-- The option stands behind `before`, a run of value characters behind it, and
-- further on a character that is none.
def ValueAt (option : List Char) (isValueChar : Char → Bool) (command before value : List Char) :
    Prop :=
  ∃ suffix, command = before ++ (option ++ suffix) ∧ suffix.takeWhile isValueChar = value ∧
    value ≠ [] ∧ suffix.all isValueChar = false

theorem takeWhile_append_cons {last : Char} {after : List Char}
    (hall : value.all isValueChar = true) (hlast : isValueChar last = false) :
    (value ++ last :: after).takeWhile isValueChar = value := by
  rw [List.takeWhile_append_of_pos (List.all_eq_true.mp hall),
    List.takeWhile_cons_of_neg (by simp [hlast]), List.append_nil]

theorem exists_takeWhile_cons (h : suffix.all isValueChar = false) :
    ∃ last after, suffix = suffix.takeWhile isValueChar ++ last :: after ∧
      isValueChar last = false := by
  have hd : suffix.dropWhile isValueChar ≠ [] := by
    intro hnil
    have hall := List.all_eq_true.mpr (List.dropWhile_eq_nil_iff.mp hnil)
    rw [h] at hall
    cases hall
  obtain ⟨last, after, hcons⟩ := List.exists_cons_of_ne_nil hd
  refine ⟨last, after, ?_, ?_⟩
  · rw [← hcons, List.takeWhile_append_dropWhile]
  · have hhead := List.head_dropWhile_not isValueChar hd
    simpa [hcons] using hhead

theorem denotes_optionRegex {text : List Char} {captures : List (List Char)} :
    (optionRegex option isValueChar).Denotes text captures ↔
      ∃ value last, text = option ++ (value ++ [last]) ∧ captures = [value] ∧ value ≠ [] ∧
        value.all isValueChar = true ∧ isValueChar last = false := by
  simp only [optionRegex, Regex.denotes_seq, Regex.denotes_literal, Regex.denotes_group_plus,
    Regex.denotes_symbol, Bool.not_eq_true']
  constructor
  · rintro ⟨_, _, _, _, rfl, rfl, ⟨rfl, rfl⟩, value, _, _, _, rfl, rfl, ⟨rfl, hne, hall⟩, last, rfl,
      rfl, hlast⟩
    exact ⟨value, last, rfl, rfl, hne, hall, hlast⟩
  · rintro ⟨value, last, rfl, rfl, hne, hall, hlast⟩
    exact ⟨option, _, [], [value], rfl, rfl, ⟨rfl, rfl⟩, value, [last], [value], [], rfl, rfl,
      ⟨rfl, hne, hall⟩, last, rfl, rfl, hlast⟩

theorem exists_denotes_iff : (∃ text rest, command = before ++ (text ++ rest) ∧
      (optionRegex option isValueChar).Denotes text [value]) ↔
    ValueAt option isValueChar command before value := by
  simp only [denotes_optionRegex, List.cons.injEq, and_true]
  constructor
  · rintro ⟨_, rest, rfl, _, last, rfl, rfl, hne, hall, hlast⟩
    refine ⟨value ++ last :: rest, by simp, takeWhile_append_cons hall hlast, hne, ?_⟩
    simp [hlast]
  · rintro ⟨suffix, rfl, rfl, hne, hall⟩
    obtain ⟨last, after, hs, hlast⟩ := exists_takeWhile_cons hall
    refine ⟨_, after, ?_, _, last, rfl, rfl, hne, List.all_takeWhile, hlast⟩
    conv_lhs => rw [hs]
    simp

theorem ValueAt.unique {other value' : List Char} (h : ValueAt option isValueChar command before value)
    (h' : ValueAt option isValueChar command other value') (hl : before.length = other.length) :
    value = value' := by
  obtain ⟨suffix, he, rfl, -⟩ := h
  obtain ⟨suffix', he', rfl, -⟩ := h'
  obtain ⟨-, hs⟩ := List.append_inj (he.symm.trans he') hl
  rw [List.append_cancel_left hs]

-- Extraction takes the leftmost value there is, and fails where there is none.
theorem extract_eq_ok (h : extract (optionRegex option isValueChar) what command = .ok value) :
    ∃ before, ValueAt option isValueChar command before value ∧
      ∀ earlier value', ValueAt option isValueChar command earlier value' →
        before.length ≤ earlier.length := by
  unfold extract at h
  split at h
  · next found hfound =>
      obtain ⟨before, he, hd, hleft⟩ := Regex.search_eq_some hfound
      obtain ⟨value', -, -, hc, -⟩ := denotes_optionRegex.mp hd
      rw [hc] at hd h
      obtain rfl : value' = value := by simpa using h
      refine ⟨before, exists_denotes_iff.mp ⟨_, _, he, hd⟩, fun earlier other ho => ?_⟩
      obtain ⟨text, rest, he', hd'⟩ := exists_denotes_iff.mpr ho
      exact hleft earlier text rest _ he' hd'
  · cases h

theorem extract_eq_error {exception : Exception}
    (h : extract (optionRegex option isValueChar) what command = .error exception) :
    exception = .lcuParameters what ∧
      ∀ before value, ¬ValueAt option isValueChar command before value := by
  unfold extract at h
  split at h
  · cases h
  · next hnone =>
      refine ⟨by simpa using h.symm, fun before value hv => ?_⟩
      obtain ⟨text, rest, he, hd⟩ := exists_denotes_iff.mpr hv
      exact Regex.search_eq_none.mp hnone before text rest _ he hd

-- Where the option stands only once, what follows it decides.
theorem extract_of_unique (hc : command = before ++ (option ++ suffix))
    (hu : ∀ other after, command = other ++ (option ++ after) → other = before) :
    extract (optionRegex option isValueChar) what command =
      if suffix.takeWhile isValueChar ≠ [] ∧ suffix.all isValueChar = false then
        .ok (suffix.takeWhile isValueChar)
      else .error (.lcuParameters what) := by
  split
  · next hs =>
      have hv : ValueAt option isValueChar command before (suffix.takeWhile isValueChar) :=
        ⟨suffix, hc, rfl, hs.1, hs.2⟩
      cases he : extract (optionRegex option isValueChar) what command with
      | error exception => exact absurd hv ((extract_eq_error he).2 _ _)
      | ok value =>
          obtain ⟨other, ho, -⟩ := extract_eq_ok he
          obtain ⟨after, hafter, -⟩ := id ho
          rw [ho.unique hv (congrArg List.length (hu other after hafter))]
  · next hs =>
      cases he : extract (optionRegex option isValueChar) what command with
      | error exception => rw [(extract_eq_error he).1]
      | ok value =>
          obtain ⟨other, ⟨after, hafter, htake, hne, hall⟩, -⟩ := extract_eq_ok he
          rw [hu other after hafter] at hafter
          have hsuffix : suffix = after := by
            simpa using hc.symm.trans hafter
          subst hsuffix
          exact absurd ⟨htake ▸ hne, hall⟩ hs

theorem rejected_of_unique (hc : command = before ++ (option ++ suffix))
    (hu : ∀ other after, command = other ++ (option ++ after) → other = before) :
    (∃ what', extract (optionRegex option isValueChar) what command =
        .error (.lcuParameters what')) ↔
      (suffix.takeWhile isValueChar = [] ∨ suffix.all isValueChar = true) := by
  rw [extract_of_unique hc hu]
  split
  · next hs => simp [hs.1, hs.2]
  · next hs =>
      refine iff_of_true ⟨what, rfl⟩ ?_
      by_contra hn
      rw [not_or, Bool.not_eq_true] at hn
      exact hs hn

theorem takeWhile_append (more : List Char) (h : suffix.all isValueChar = false) :
    (suffix ++ more).takeWhile isValueChar = suffix.takeWhile isValueChar := by
  obtain ⟨last, after, hs, hlast⟩ := exists_takeWhile_cons h
  have hcut : suffix ++ more = suffix.takeWhile isValueChar ++ last :: (after ++ more) := by
    conv_lhs => rw [hs]
    simp
  rw [hcut, takeWhile_append_cons List.all_takeWhile hlast]

theorem ValueAt.append (h : ValueAt option isValueChar command before value) (more : List Char) :
    ValueAt option isValueChar (command ++ more) before value := by
  obtain ⟨suffix, rfl, rfl, hne, hall⟩ := h
  exact ⟨suffix ++ more, by simp, takeWhile_append more hall, hne, by simp [hall]⟩

-- A value further left in the longer line ends before the one in the shorter
-- line does: the character that ends the latter cannot be part of it.
theorem ValueAt.of_append {more other value' : List Char}
    (h : ValueAt option isValueChar command before value)
    (h' : ValueAt option isValueChar (command ++ more) other value')
    (hl : other.length ≤ before.length) : ValueAt option isValueChar command other value' := by
  obtain ⟨suffix, rfl, -, -, hall⟩ := h
  obtain ⟨suffix', he, rfl, hne, -⟩ := h'
  simp only [List.append_assoc] at he
  obtain ⟨gap, rfl⟩ : ∃ gap, before = other ++ gap :=
    (List.prefix_of_prefix_length_le ⟨_, he.symm⟩ ⟨_, rfl⟩ hl).imp fun _ => Eq.symm
  rw [List.append_assoc, List.append_cancel_left_eq] at he
  obtain ⟨shift, hshift⟩ : ∃ shift, gap ++ option = option ++ shift := by
    refine (List.prefix_of_prefix_length_le ⟨suffix', rfl⟩ ⟨suffix ++ more, ?_⟩ ?_).imp
      fun _ => Eq.symm
    · rw [← he, List.append_assoc]
    · simp
  have hsuffix : suffix' = (shift ++ suffix) ++ more := by
    have hcancel : option ++ suffix' = option ++ ((shift ++ suffix) ++ more) := by
      rw [← he, ← List.append_assoc, hshift]
      simp
    exact List.append_cancel_left hcancel
  have hend : (shift ++ suffix).all isValueChar = false := by simp [hall]
  refine ⟨shift ++ suffix, ?_, ?_, hne, hend⟩
  · rw [List.append_assoc, ← List.append_assoc gap, hshift, List.append_assoc]
  · rw [hsuffix, takeWhile_append more hend]

-- What is extracted from the start of a line is extracted from the whole line.
theorem extract_append (h : extract (optionRegex option isValueChar) what command = .ok value)
    (more : List Char) :
    extract (optionRegex option isValueChar) what (command ++ more) = .ok value := by
  obtain ⟨before, hv, hleft⟩ := extract_eq_ok h
  cases he : extract (optionRegex option isValueChar) what (command ++ more) with
  | error exception => exact absurd (hv.append more) ((extract_eq_error he).2 _ _)
  | ok value' =>
      obtain ⟨other, ho, hleft'⟩ := extract_eq_ok he
      have hle : other.length ≤ before.length := hleft' before value (hv.append more)
      have hin : ValueAt option isValueChar command other value' := hv.of_append ho hle
      rw [hv.unique hin (Nat.le_antisymm (hleft other value' hin) hle)]

end LcuProcessHandler

end Rito
