import Rito.Json.Parser

namespace Rito

namespace Json

variable {text rest : List Char} {items : List Item} {value : Json} {fuel : Nat}
  {read : List Char → Option (Json × List Char)}

theorem some_pair_inj {α β : Type} {first first' : α} {second second' : β}
    (h : some (first, second) = some (first', second')) : first = first' ∧ second = second' := by
  simpa using h

-- What a reader that goes on from another one gives, the other one read.
theorem map_eq_some_pair {α β : Type} {part : Option (α × List Char)} {f : α → β} {value : β}
    (h : part.map (fun (found, text) => (f found, text)) = some (value, rest)) :
    ∃ found, part = some (found, rest) ∧ f found = value := by
  obtain ⟨⟨found, text⟩, hp, he⟩ := Option.map_eq_some_iff.mp h
  obtain ⟨hf, rfl⟩ := Prod.mk.inj he
  exact ⟨found, hp, hf⟩

theorem exists_skipBlank (text : List Char) :
    ∃ gap, text = gap ++ skipBlank text ∧ gap.all isBlank = true :=
  ⟨text.takeWhile isBlank, (List.takeWhile_append_dropWhile).symm, List.all_takeWhile⟩

theorem parseItems_sound (h : parseItems text = some (items, rest)) :
    text = items.flatMap Item.text ++ '"' :: rest ∧ items.all Item.valid = true := by
  fun_induction parseItems text generalizing items with
  | case1 rest' =>
      obtain ⟨rfl, rfl⟩ := some_pair_inj h
      exact ⟨rfl, rfl⟩
  | case2 first second third fourth tail hv ih
  | case4 char tail _ hv ih
  | case6 char tail _ _ _ hv ih =>
      obtain ⟨later, hl, rfl⟩ := map_eq_some_pair h
      obtain ⟨rfl, hall⟩ := ih hl
      refine ⟨by simp [Item.text], ?_⟩
      rw [List.all_cons, hall, Bool.and_true]
      exact hv
  | _ => cases h

theorem parseSign_sound (text : List Char) :
    text = (if (parseSign text).1 then ['-'] else []) ++ (parseSign text).2 := by
  fun_cases parseSign text <;> rfl

theorem parseInteger_sound {integer : List Char} (h : parseInteger text = some (integer, rest)) :
    text = integer ++ rest ∧ Number.validInteger integer = true := by
  unfold parseInteger at h
  by_cases hzero : text.head? = some '0'
  · rw [if_pos hzero] at h
    obtain ⟨rfl, rfl⟩ := some_pair_inj h
    refine ⟨?_, rfl⟩
    cases text with
    | nil => cases hzero
    | cons first text =>
        obtain rfl := Option.some.inj hzero
        rfl
  · rw [if_neg hzero] at h
    by_cases hnil : text.takeWhile Char.isDigit = []
    · rw [if_pos hnil] at h
      cases h
    · rw [if_neg hnil] at h
      obtain ⟨rfl, rfl⟩ := some_pair_inj h
      refine ⟨List.takeWhile_append_dropWhile.symm, ?_⟩
      have hhead : (text.takeWhile Char.isDigit).head? ≠ some '0' := by
        cases text with
        | nil => simp
        | cons first text =>
            by_cases hfirst : first.isDigit = true
            · simpa [List.takeWhile_cons, hfirst] using hzero
            · simp [hfirst]
      have hall : (text.takeWhile Char.isDigit).all Char.isDigit = true := List.all_takeWhile
      simp [Number.validInteger, hnil, hhead, hall]

theorem parseFraction_sound {fraction : List Char}
    (h : parseFraction text = some (fraction, rest)) :
    text = Number.fractionText fraction ++ rest ∧ fraction.all Char.isDigit = true := by
  by_cases hdot : ∃ digits, text = '.' :: digits
  · obtain ⟨digits, rfl⟩ := hdot
    by_cases hnil : digits.takeWhile Char.isDigit = []
    · simp [parseFraction, hnil] at h
    · simp only [parseFraction, if_neg hnil, Option.some.injEq, Prod.mk.injEq] at h
      obtain ⟨rfl, rfl⟩ := h
      refine ⟨?_, List.all_takeWhile⟩
      rw [Number.fractionText, if_neg hnil, List.cons_append, List.takeWhile_append_dropWhile]
  · rw [parseFraction] at h
    · simp only [Option.some.injEq, Prod.mk.injEq] at h
      obtain ⟨rfl, rfl⟩ := h
      exact ⟨rfl, rfl⟩
    · exact fun digits he => hdot ⟨digits, he⟩

theorem parseExponentSign_sound (text : List Char) :
    text = (parseExponentSign text).1 ++ (parseExponentSign text).2 ∧
      ((parseExponentSign text).1 = [] ∨ (parseExponentSign text).1 = ['+'] ∨
        (parseExponentSign text).1 = ['-']) := by
  fun_cases parseExponentSign text <;> simp

theorem parseExponent_sound {exponent : Option Exponent}
    (h : parseExponent text = some (exponent, rest)) :
    text = Number.exponentText exponent ++ rest ∧ exponent.all Exponent.valid = true := by
  cases text with
  | nil =>
      simp only [parseExponent, Option.some.injEq, Prod.mk.injEq] at h
      obtain ⟨rfl, rfl⟩ := h
      exact ⟨rfl, rfl⟩
  | cons letter text =>
      obtain ⟨hsign, hsigns⟩ := parseExponentSign_sound text
      rw [parseExponent] at h
      by_cases hletter : (letter = 'e' || letter = 'E') = true
      · rw [if_pos hletter] at h
        by_cases hnil : (parseExponentSign text).2.takeWhile Char.isDigit = []
        · simp [hnil] at h
        · simp only [if_neg hnil, Option.some.injEq, Prod.mk.injEq] at h
          obtain ⟨rfl, rfl⟩ := h
          have hdigits : ((parseExponentSign text).2.takeWhile Char.isDigit).all Char.isDigit =
              true := List.all_takeWhile
          constructor
          · simp only [Number.exponentText, Exponent.text, List.cons_append, List.append_assoc,
              List.takeWhile_append_dropWhile]
            rw [← hsign]
          · have hs : ((parseExponentSign text).1 = [] || (parseExponentSign text).1 = ['+'] ||
                (parseExponentSign text).1 = ['-']) = true := by
              simpa [or_assoc] using hsigns
            simp only [Option.all_some, Exponent.valid, hletter, hs, hdigits, ne_eq, hnil,
              not_false_eq_true, decide_true, Bool.and_self]
      · rw [if_neg hletter] at h
        obtain ⟨rfl, rfl⟩ := some_pair_inj h
        exact ⟨rfl, rfl⟩

theorem parseNumber_sound {number : Number} (h : parseNumber text = some (number, rest)) :
    text = number.text ++ rest ∧ number.valid = true := by
  have hsign := parseSign_sound text
  unfold parseNumber at h
  cases hi : parseInteger (parseSign text).2 with
  | none => simp [hi] at h
  | some integer =>
      obtain ⟨integer, afterInteger⟩ := integer
      cases hf : parseFraction afterInteger with
      | none => simp [hi, hf] at h
      | some fraction =>
          obtain ⟨fraction, afterFraction⟩ := fraction
          cases he : parseExponent afterFraction with
          | none => simp [hi, hf, he] at h
          | some exponent =>
              obtain ⟨exponent, afterExponent⟩ := exponent
              simp only [hi, hf, he, Option.some.injEq, Prod.mk.injEq] at h
              obtain ⟨rfl, rfl⟩ := h
              obtain ⟨hit, hiv⟩ := parseInteger_sound hi
              obtain ⟨hft, hfv⟩ := parseFraction_sound hf
              obtain ⟨het, hev⟩ := parseExponent_sound he
              rw [hit, hft, het] at hsign
              exact ⟨by simpa [Number.text] using hsign, by simp [Number.valid, hiv, hfv, hev]⟩

theorem parseLiteral_sound (h : parseLiteral text = some (value, rest)) :
    ∃ front, text = front ++ rest ∧ Value front value := by
  have hfront : ∀ (name : List Char) (result : Json), Value name result →
      name.isPrefixOf text = true → result = value → text.drop name.length = rest →
      ∃ front, text = front ++ rest ∧ Value front value := by
    rintro name _ hv hp rfl rfl
    obtain ⟨tail, rfl⟩ := List.isPrefixOf_iff_prefix.mp hp
    exact ⟨name, by simp, hv⟩
  rw [parseLiteral] at h
  split at h
  · next hp =>
    simp only [Option.some.injEq, Prod.mk.injEq] at h
    exact hfront _ _ .null hp h.1 h.2
  · split at h
    · next hp =>
      simp only [Option.some.injEq, Prod.mk.injEq] at h
      exact hfront _ _ .true hp h.1 h.2
    · split at h
      · next hp =>
        simp only [Option.some.injEq, Prod.mk.injEq] at h
        exact hfront _ _ .false hp h.1 h.2
      · cases h

theorem parseElements_sound {values : List Json}
    (hp : ∀ text value rest, read text = some (value, rest) →
      ∃ front, text = front ++ rest ∧ Value front value)
    (h : parseElements read fuel text = some (values, rest)) :
    ∃ (first : Element) (others : List Element),
      text = separated first.whole (others.map Element.whole) ++ ']' :: rest ∧
        (∀ element ∈ first :: others, element.blank = true) ∧
        (∀ element ∈ first :: others, Value element.text element.value) ∧
        values = (first :: others).map Element.value := by
  induction fuel generalizing text values with
  | zero => cases h
  | succ fuel ih =>
      obtain ⟨before, htext, hbefore⟩ := exists_skipBlank text
      rw [parseElements] at h
      cases hfirst : read (skipBlank text) with
      | none => simp [hfirst] at h
      | some result =>
          obtain ⟨value, tail⟩ := result
          obtain ⟨front, hfront, hv⟩ := hp _ _ _ hfirst
          obtain ⟨after, htail, hafter⟩ := exists_skipBlank tail
          have hblank : Element.blank ⟨before, front, after, value⟩ = true := by
            rw [Element.blank, hbefore, hafter, Bool.and_self]
          simp only [hfirst] at h
          split at h
          · next later hcomma =>
            obtain ⟨values, hlater, rfl⟩ := map_eq_some_pair h
            obtain ⟨first, others, rfl, hb, hvs, rfl⟩ := ih hlater
            refine ⟨⟨before, front, after, value⟩, first :: others, ?_, ?_, ?_, rfl⟩
            · rw [htext, hfront, htail, hcomma]
              simp [separated, Element.whole]
            · exact List.forall_mem_cons.mpr ⟨hblank, hb⟩
            · exact List.forall_mem_cons.mpr ⟨hv, hvs⟩
          · next last hclose =>
            obtain ⟨rfl, rfl⟩ := some_pair_inj h
            refine ⟨⟨before, front, after, value⟩, [], ?_, ?_, ?_, rfl⟩
            · rw [htext, hfront, htail, hclose]
              simp [separated, Element.whole]
            · exact List.forall_mem_singleton.mpr hblank
            · exact List.forall_mem_singleton.mpr hv
          · cases h

theorem parseName_sound (h : parseName text = some (items, rest)) :
    ∃ before after, text = before ++ quoted items ++ after ++ ':' :: rest ∧
      before.all isBlank = true ∧ items.all Item.valid = true ∧ after.all isBlank = true := by
  obtain ⟨before, htext, hbefore⟩ := exists_skipBlank text
  rw [parseName] at h
  split at h
  · next tail hquote =>
    cases hi : parseItems tail with
    | none => simp [hi] at h
    | some result =>
        obtain ⟨name, afterName⟩ := result
        obtain ⟨rfl, hvalid⟩ := parseItems_sound hi
        obtain ⟨after, hafterName, hafter⟩ := exists_skipBlank afterName
        simp only [hi] at h
        split at h
        · next last hcolon =>
          obtain ⟨rfl, rfl⟩ := some_pair_inj h
          refine ⟨before, after, ?_, hbefore, hvalid, hafter⟩
          rw [htext, hquote, hafterName, hcolon]
          simp [quoted]
        · cases h
  · cases h

theorem parseMembers_sound {members : List (List Char × Json)}
    (hp : ∀ text value rest, read text = some (value, rest) →
      ∃ front, text = front ++ rest ∧ Value front value)
    (h : parseMembers read fuel text = some (members, rest)) :
    ∃ (first : Member) (others : List Member),
      text = separated first.whole (others.map Member.whole) ++ '}' :: rest ∧
        (∀ member ∈ first :: others, member.valid = true) ∧
        (∀ member ∈ first :: others, Value member.element.text member.element.value) ∧
        members = (first :: others).map Member.value := by
  induction fuel generalizing text members with
  | zero => cases h
  | succ fuel ih =>
      rw [parseMembers] at h
      cases hname : parseName text with
      | none => simp [hname] at h
      | some result =>
          obtain ⟨name, colon⟩ := result
          obtain ⟨before, after, htext, hbefore, hitems, hafter⟩ := parseName_sound hname
          obtain ⟨gap, hcolon, hgap⟩ := exists_skipBlank colon
          simp only [hname] at h
          cases hfirst : read (skipBlank colon) with
          | none => simp [hfirst] at h
          | some result =>
              obtain ⟨value, tail⟩ := result
              obtain ⟨front, hfront, hv⟩ := hp _ _ _ hfirst
              obtain ⟨last, htail, hlast⟩ := exists_skipBlank tail
              have hvalid : Member.valid ⟨before, name, after, ⟨gap, front, last, value⟩⟩ = true := by
                simp only [Member.valid, Element.blank, hbefore, hitems, hafter, hgap, hlast,
                  Bool.and_self]
              simp only [hfirst] at h
              split at h
              · next later hcomma =>
                obtain ⟨members, hlater, rfl⟩ := map_eq_some_pair h
                obtain ⟨first, others, rfl, hb, hvs, rfl⟩ := ih hlater
                refine ⟨⟨before, name, after, ⟨gap, front, last, value⟩⟩, first :: others,
                  ?_, ?_, ?_, rfl⟩
                · rw [htext, hcolon, hfront, htail, hcomma]
                  simp [separated, Member.whole, Element.whole]
                · exact List.forall_mem_cons.mpr ⟨hvalid, hb⟩
                · exact List.forall_mem_cons.mpr ⟨hv, hvs⟩
              · next closing hclose =>
                obtain ⟨rfl, rfl⟩ := some_pair_inj h
                refine ⟨⟨before, name, after, ⟨gap, front, last, value⟩⟩, [], ?_, ?_, ?_, rfl⟩
                · rw [htext, hcolon, hfront, htail, hclose]
                  simp [separated, Member.whole, Element.whole]
                · exact List.forall_mem_singleton.mpr hvalid
                · exact List.forall_mem_singleton.mpr hv
              · cases h

theorem parseValue_sound (h : parseValue fuel text = some (value, rest)) :
    ∃ front, text = front ++ rest ∧ Value front value := by
  induction fuel generalizing text value rest with
  | zero => simp [parseValue] at h
  | succ fuel ih =>
      have hp : ∀ text value rest, parseValue fuel text = some (value, rest) →
          ∃ front, text = front ++ rest ∧ Value front value := fun _ _ _ h => ih h
      unfold parseValue at h
      split at h
      · cases ‹fuel + 1 = 0›
      · next same tail hsame =>
        obtain rfl := Nat.succ.inj hsame
        obtain ⟨gap, htail, hgap⟩ := exists_skipBlank tail
        split at h
        · next last hclose =>
          obtain ⟨rfl, rfl⟩ := some_pair_inj h
          refine ⟨_, ?_, .emptyArray gap hgap⟩
          rw [htail, hclose]
          simp
        · obtain ⟨values, hvalues, rfl⟩ := map_eq_some_pair h
          obtain ⟨first, others, htail, hb, hv, rfl⟩ := parseElements_sound hp hvalues
          exact ⟨_, by rw [htail]; simp, .array first others hb hv⟩
      · next same tail hsame =>
        obtain rfl := Nat.succ.inj hsame
        obtain ⟨gap, htail, hgap⟩ := exists_skipBlank tail
        split at h
        · next last hclose =>
          obtain ⟨rfl, rfl⟩ := some_pair_inj h
          refine ⟨_, ?_, .emptyObject gap hgap⟩
          rw [htail, hclose]
          simp
        · obtain ⟨members, hmembers, rfl⟩ := map_eq_some_pair h
          obtain ⟨first, others, htail, hb, hv, rfl⟩ := parseMembers_sound hp hmembers
          exact ⟨_, by rw [htail]; simp, .object first others hb hv⟩
      · obtain ⟨items, hitems, rfl⟩ :=
          map_eq_some_pair (f := fun items => Json.string (decode items)) h
        obtain ⟨rfl, hvalid⟩ := parseItems_sound hitems
        exact ⟨_, by simp [quoted], .string items hvalid⟩
      · rcases Option.or_eq_some_iff.mp h with hliteral | ⟨-, hnumber⟩
        · exact parseLiteral_sound hliteral
        · obtain ⟨number, hparsed, rfl⟩ :=
            map_eq_some_pair (f := fun digits : Number => Json.number digits.value) hnumber
          obtain ⟨rfl, hvalid⟩ := parseNumber_sound hparsed
          exact ⟨_, rfl, .number number hvalid⟩

-- Whatever the parser accepts is a JSON text of the value it gives.
theorem parse_sound (h : parse text = some value) : Text text value := by
  obtain ⟨before, htext, hbefore⟩ := exists_skipBlank text
  rw [parse] at h
  cases hv : parseValue text.length (skipBlank text) with
  | none => simp [hv] at h
  | some result =>
      obtain ⟨first, tail⟩ := result
      obtain ⟨after, htail, hafter⟩ := exists_skipBlank tail
      simp only [hv] at h
      split at h
      · next hend =>
        obtain rfl := Option.some.inj h
        obtain ⟨front, hfront, hvalue⟩ := parseValue_sound hv
        refine ⟨⟨before, front, after, first⟩, ?_, hvalue, ?_, rfl⟩
        · rw [Element.blank, hbefore, hafter, Bool.and_self]
        · rw [htext, hfront, htail, hend]
          simp [Element.whole]
      · cases h

end Json

end Rito
