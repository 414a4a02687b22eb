import Mathlib.Data.List.TakeWhile
import Rito.Json.Soundness

namespace Rito

namespace Json

variable {text rest gap digits : List Char} {char : Char} {items : List Item} {value : Json}
  {fuel : Nat} {read : List Char → Option (Json × List Char)}

-- What may follow a number without becoming part of it.
def endsNumber : List Char → Bool
  | [] => true
  | char :: _ => !(char.isDigit || char = '.' || char = 'e' || char = 'E')

-- No digit comes next.
def endsDigits : List Char → Bool
  | [] => true
  | char :: _ => !char.isDigit

theorem endsDigits_of_endsNumber (h : endsNumber rest = true) : endsDigits rest = true := by
  cases rest with
  | nil => rfl
  | cons char rest =>
      simp only [endsNumber, Bool.not_eq_true', Bool.or_eq_false_iff] at h
      simp [endsDigits, h.1.1.1]

theorem takeWhile_digits (hd : digits.all Char.isDigit = true) (hr : endsDigits rest = true) :
    (digits ++ rest).takeWhile Char.isDigit = digits ∧
      (digits ++ rest).dropWhile Char.isDigit = rest := by
  induction digits with
  | nil =>
      cases rest with
      | nil => exact ⟨rfl, rfl⟩
      | cons char rest =>
          have hc : char.isDigit = false := by simpa [endsDigits] using hr
          simp [hc]
  | cons digit digits ih =>
      rw [List.all_cons, Bool.and_eq_true] at hd
      obtain ⟨ht, hdrop⟩ := ih hd.2
      simp [hd.1, ht, hdrop]

theorem parseItems_complete (h : items.all Item.valid = true) :
    parseItems (items.flatMap Item.text ++ '"' :: rest) = some (items, rest) := by
  induction items with
  | nil => rfl
  | cons item items ih =>
      rw [List.all_cons, Bool.and_eq_true] at h
      have hrest := ih h.2
      cases item with
      | plain char =>
          have hchar : isUnescaped char = true := h.1
          have hne : char ≠ '"' ∧ char ≠ '\\' := by
            simp only [isUnescaped, Bool.and_eq_true, decide_eq_true_eq] at hchar
            exact hchar.1
          simp only [List.flatMap_cons, Item.text, List.cons_append, List.nil_append]
          rw [parseItems, if_pos hchar, hrest]
          · rfl
          · exact hne.1
          · intro _ _ _ _ _ he
            exact absurd he hne.2
          · intro _ _ he
            exact absurd he hne.2
      | escape char =>
          have hu : char ≠ 'u' := by
            rintro rfl
            exact absurd h.1 (by decide)
          simp only [List.flatMap_cons, Item.text, List.cons_append, List.nil_append]
          rw [parseItems, if_pos h.1, hrest]
          · rfl
          · intro _ _ _ _ _ he
            exact absurd he hu
      | unicode first second third fourth =>
          simp only [List.flatMap_cons, Item.text, List.cons_append, List.nil_append]
          rw [parseItems, if_pos h.1, hrest]
          rfl

theorem parseInteger_complete (hd : Number.validInteger digits = true)
    (hr : endsDigits rest = true) : parseInteger (digits ++ rest) = some (digits, rest) := by
  simp only [Number.validInteger, Bool.and_eq_true, decide_eq_true_eq, Bool.or_eq_true] at hd
  obtain ⟨⟨hne, hall⟩, hzero⟩ := hd
  obtain ⟨ht, hdrop⟩ := takeWhile_digits hall hr
  rcases hzero with hzero | rfl
  · have hhead : (digits ++ rest).head? ≠ some '0' := by
      cases digits with
      | nil => exact absurd rfl hne
      | cons digit digits => simpa using hzero
    rw [parseInteger, if_neg hhead, ht, hdrop, if_neg hne]
  · rfl

theorem parseFraction_complete (hd : digits.all Char.isDigit = true)
    (hr : endsDigits rest = true) (hdot : rest.head? ≠ some '.') :
    parseFraction (Number.fractionText digits ++ rest) = some (digits, rest) := by
  obtain ⟨ht, hdrop⟩ := takeWhile_digits hd hr
  by_cases hnil : digits = []
  · subst hnil
    rw [Number.fractionText, if_pos rfl, List.nil_append, parseFraction]
    rintro text rfl
    exact hdot rfl
  · rw [Number.fractionText, if_neg hnil, List.cons_append, parseFraction, ht, hdrop, if_neg hnil]

theorem parseExponent_complete {exponent : Option Exponent}
    (he : exponent.all Exponent.valid = true) (hr : endsNumber rest = true) :
    parseExponent (Number.exponentText exponent ++ rest) = some (exponent, rest) := by
  cases exponent with
  | none =>
      cases rest with
      | nil => rfl
      | cons char rest =>
          have hchar : ¬(char = 'e' || char = 'E') = true := by
            simp only [endsNumber, Bool.not_eq_true', Bool.or_eq_false_iff] at hr
            simp [hr.1.2, hr.2]
          simp only [Number.exponentText, List.nil_append, parseExponent]
          rw [if_neg hchar]
  | some exponent =>
      obtain ⟨letter, sign, digits⟩ := exponent
      simp only [Option.all_some, Exponent.valid, Bool.and_eq_true] at he
      obtain ⟨⟨⟨hletter, hsign⟩, hne⟩, hall⟩ := he
      have hnil : digits ≠ [] := by simpa using hne
      obtain ⟨ht, hdrop⟩ := takeWhile_digits hall (endsDigits_of_endsNumber hr)
      have hs : parseExponentSign (sign ++ (digits ++ rest)) = (sign, digits ++ rest) := by
        simp only [Bool.or_eq_true, decide_eq_true_eq] at hsign
        rcases hsign with (rfl | rfl) | rfl
        · cases digits with
          | nil => exact absurd rfl hnil
          | cons digit digits =>
              have hdigit : digit.isDigit = true := by
                rw [List.all_cons, Bool.and_eq_true] at hall
                exact hall.1
              simp only [List.nil_append, List.cons_append]
              rw [parseExponentSign]
              · rintro _ he
                obtain rfl := (List.cons.inj he).1
                exact absurd hdigit (by decide)
              · rintro _ he
                obtain rfl := (List.cons.inj he).1
                exact absurd hdigit (by decide)
        · rfl
        · rfl
      simp only [Number.exponentText, Exponent.text, List.cons_append, List.append_assoc,
        parseExponent]
      rw [if_pos hletter]
      simp only [hs, ht, hdrop, if_neg hnil]

theorem endsNumber_exponent {exponent : Option Exponent}
    (he : exponent.all Exponent.valid = true) (hr : endsNumber rest = true) :
    endsDigits (Number.exponentText exponent ++ rest) = true ∧
      (Number.exponentText exponent ++ rest).head? ≠ some '.' := by
  cases exponent with
  | none =>
      refine ⟨endsDigits_of_endsNumber hr, ?_⟩
      cases rest with
      | nil => simp [Number.exponentText]
      | cons char rest =>
          simp only [Number.exponentText, List.nil_append, List.head?_cons, ne_eq,
            Option.some.injEq]
          rintro rfl
          cases hr
  | some exponent =>
      simp only [Option.all_some, Exponent.valid, Bool.and_eq_true, Bool.or_eq_true,
        decide_eq_true_eq] at he
      obtain ⟨⟨⟨hletter, -⟩, -⟩, -⟩ := he
      simp only [Number.exponentText, Exponent.text, List.cons_append, endsDigits]
      rcases hletter with hl | hl <;> rw [hl] <;> exact ⟨rfl, by simp⟩

theorem parseNumber_complete {number : Number} (hn : number.valid = true)
    (hr : endsNumber rest = true) : parseNumber (number.text ++ rest) = some (number, rest) := by
  obtain ⟨negative, integer, fraction, exponent⟩ := number
  simp only [Number.valid, Bool.and_eq_true] at hn
  obtain ⟨⟨hi, hf⟩, he⟩ := hn
  obtain ⟨hdigits, hdot⟩ := endsNumber_exponent he hr
  have hafter : endsDigits (Number.fractionText fraction ++
      (Number.exponentText exponent ++ rest)) = true := by
    by_cases hnil : fraction = []
    · simpa [Number.fractionText, hnil] using hdigits
    · rw [Number.fractionText, if_neg hnil]
      rfl
  have hinteger := parseInteger_complete hi hafter
  have hfraction := parseFraction_complete hf hdigits hdot
  have hexponent := parseExponent_complete he hr
  have hsign : parseSign ((if negative then ['-'] else []) ++ (integer ++
      (Number.fractionText fraction ++ (Number.exponentText exponent ++ rest)))) =
        (negative, integer ++
          (Number.fractionText fraction ++ (Number.exponentText exponent ++ rest))) := by
    cases negative with
    | true => rfl
    | false =>
        simp only [Number.validInteger, Bool.and_eq_true, decide_eq_true_eq] at hi
        cases integer with
        | nil => exact absurd rfl hi.1.1
        | cons digit integer =>
            have hdigit : digit.isDigit = true := by
              have hall := hi.1.2
              rw [List.all_cons, Bool.and_eq_true] at hall
              exact hall.1
            simp only [Bool.false_eq_true, if_false, List.nil_append, List.cons_append]
            rw [parseSign]
            rintro _ he
            obtain rfl := (List.cons.inj he).1
            exact absurd hdigit (by decide)
  simp only [Number.text, List.append_assoc, parseNumber, hsign, hinteger, hfraction, hexponent]

-- A value begins with a character that is no blank and closes nothing.
def begins (char : Char) : Bool :=
  !isBlank char && char ≠ ']' && char ≠ '}'

theorem number_cons {number : Number} (h : number.valid = true) :
    ∃ char tail, number.text = char :: tail ∧ (char = '-' ∨ char.isDigit = true) := by
  obtain ⟨negative, integer, fraction, exponent⟩ := number
  simp only [Number.valid, Number.validInteger, Bool.and_eq_true, decide_eq_true_eq] at h
  obtain ⟨⟨⟨⟨hne, hall⟩, -⟩, -⟩, -⟩ := h
  cases negative with
  | true => exact ⟨'-', _, rfl, Or.inl rfl⟩
  | false =>
      cases integer with
      | nil => exact absurd rfl hne
      | cons digit integer =>
          rw [List.all_cons, Bool.and_eq_true] at hall
          exact ⟨digit, _, rfl, Or.inr hall.1⟩

theorem ne_of_number {other : Char} (h : char = '-' ∨ char.isDigit = true)
    (ho : other ≠ '-' ∧ other.isDigit = false) : char ≠ other := by
  rintro rfl
  rcases h with h | h
  · exact ho.1 h
  · rw [ho.2] at h
    cases h

theorem value_cons (h : Value text value) :
    ∃ char tail, text = char :: tail ∧ begins char = true := by
  cases h with
  | number number hn =>
      obtain ⟨char, tail, he, hc⟩ := number_cons hn
      refine ⟨char, tail, he, ?_⟩
      have hne : ∀ other, other ≠ '-' ∧ other.isDigit = false → char ≠ other :=
        fun other ho => ne_of_number hc ho
      simp only [begins, isBlank, Bool.and_eq_true, Bool.not_eq_true', Bool.or_eq_false_iff,
        decide_eq_false_iff_not, decide_eq_true_eq]
      exact ⟨⟨⟨⟨⟨hne _ (by decide), hne _ (by decide)⟩, hne _ (by decide)⟩, hne _ (by decide)⟩,
        hne _ (by decide)⟩, hne _ (by decide)⟩
  | _ => exact ⟨_, _, rfl, by decide⟩

theorem skipBlank_append (hg : gap.all isBlank = true) (hc : isBlank char = false) :
    skipBlank (gap ++ char :: rest) = char :: rest := by
  rw [skipBlank, List.dropWhile_append_of_pos (List.all_eq_true.mp hg), List.dropWhile_cons, hc]
  rfl

theorem endsNumber_append (hg : gap.all isBlank = true) (hr : endsNumber rest = true) :
    endsNumber (gap ++ rest) = true := by
  cases gap with
  | nil => exact hr
  | cons char gap =>
      rw [List.all_cons, Bool.and_eq_true] at hg
      have hchar := hg.1
      simp only [isBlank, Bool.or_eq_true, decide_eq_true_eq] at hchar
      rcases hchar with ((rfl | rfl) | rfl) | rfl <;> rfl

theorem parseLiteral_number (h : char = '-' ∨ char.isDigit = true) :
    parseLiteral (char :: text) = none := by
  have hne : ∀ other, other ≠ '-' ∧ other.isDigit = false → (other == char) = false :=
    fun other ho => beq_eq_false_iff_ne.mpr (ne_of_number h ho).symm
  simp only [parseLiteral, List.isPrefixOf, hne 'n' (by decide), hne 't' (by decide),
    hne 'f' (by decide), Bool.false_and, Bool.false_eq_true, if_false]

-- The element a parser of values meets next, whatever stands around it.
def ReadsAll (read : List Char → Option (Json × List Char)) (text : List Char) (value : Json) :
    Prop :=
  ∀ rest, endsNumber rest = true → read (text ++ rest) = some (value, rest)

theorem separated_cons (first second : List Char) (others : List (List Char)) :
    separated first (second :: others) = first ++ ',' :: separated second others := by
  simp [separated]

theorem separated_nil (first : List Char) : separated first [] = first := by
  simp [separated]

-- One element up to the comma or bracket after it.
theorem read_element {element : Element} (hb : element.blank = true)
    (hv : Value element.text element.value) (hread : ReadsAll read element.text element.value)
    (hc : isBlank char = false) (hend : endsNumber (char :: rest) = true) :
    ∃ tail, read (skipBlank (element.whole ++ char :: rest)) = some (element.value, tail) ∧
      skipBlank tail = char :: rest := by
  obtain ⟨before, front, after, value⟩ := element
  rw [Element.blank, Bool.and_eq_true] at hb
  obtain ⟨first, others, rfl, hfirst⟩ := value_cons hv
  have hblank : isBlank first = false := by
    simp only [begins, Bool.and_eq_true, Bool.not_eq_true'] at hfirst
    exact hfirst.1.1
  refine ⟨after ++ char :: rest, ?_, skipBlank_append hb.2 hc⟩
  have htext : Element.whole ⟨before, first :: others, after, value⟩ ++ char :: rest =
      before ++ first :: (others ++ (after ++ char :: rest)) := by
    simp [Element.whole]
  rw [htext, skipBlank_append hb.1 hblank]
  exact hread _ (endsNumber_append hb.2 hend)

theorem parseElements_complete {first : Element} {others : List Element}
    (hb : ∀ element ∈ first :: others, element.blank = true)
    (hv : ∀ element ∈ first :: others, Value element.text element.value)
    (hread : ∀ element ∈ first :: others, ReadsAll read element.text element.value)
    (hfuel : others.length < fuel) :
    parseElements read fuel
        (separated first.whole (others.map Element.whole) ++ ']' :: rest) =
      some ((first :: others).map Element.value, rest) := by
  induction others generalizing first fuel with
  | nil =>
      obtain ⟨fuel, rfl⟩ : ∃ n, fuel = n + 1 := ⟨fuel - 1, by omega⟩
      obtain ⟨hbf, -⟩ := List.forall_mem_cons.mp hb
      obtain ⟨hvf, -⟩ := List.forall_mem_cons.mp hv
      obtain ⟨hrf, -⟩ := List.forall_mem_cons.mp hread
      have hclose : endsNumber (']' :: rest) = true := rfl
      obtain ⟨tail, hfirst, htail⟩ := read_element hbf hvf hrf (by decide) hclose
      rw [List.map_nil, separated_nil, parseElements]
      simp only [hfirst, htail, List.map_cons, List.map_nil]
  | cons second others ih =>
      rw [List.length_cons] at hfuel
      obtain ⟨fuel, rfl⟩ : ∃ n, fuel = n + 1 := ⟨fuel - 1, by omega⟩
      obtain ⟨hbf, hb⟩ := List.forall_mem_cons.mp hb
      obtain ⟨hvf, hv⟩ := List.forall_mem_cons.mp hv
      obtain ⟨hrf, hread⟩ := List.forall_mem_cons.mp hread
      have hlt : others.length < fuel := by omega
      have hlater := ih hb hv hread hlt
      have hcomma : endsNumber (',' :: (separated second.whole (others.map Element.whole) ++
          ']' :: rest)) = true := rfl
      obtain ⟨tail, hfirst, htail⟩ := read_element hbf hvf hrf (by decide) hcomma
      rw [List.map_cons, separated_cons, List.append_assoc, List.cons_append, parseElements]
      simp only [hfirst, htail, hlater, Option.map_some, List.map_cons]

theorem parseName_complete {before after : List Char} (hbefore : before.all isBlank = true)
    (hi : items.all Item.valid = true) (hafter : after.all isBlank = true) :
    parseName (before ++ (quoted items ++ (after ++ ':' :: rest))) = some (items, rest) := by
  have hquoted : quoted items ++ (after ++ ':' :: rest) =
      '"' :: (items.flatMap Item.text ++ '"' :: (after ++ ':' :: rest)) := by
    simp [quoted]
  rw [parseName, hquoted, skipBlank_append hbefore (by decide)]
  simp only [parseItems_complete hi, skipBlank_append hafter (by decide : isBlank ':' = false)]

-- One member up to the comma or brace after it.
theorem read_member {member : Member} (hb : member.valid = true)
    (hv : Value member.element.text member.element.value)
    (hread : ReadsAll read member.element.text member.element.value)
    (hc : isBlank char = false) (hend : endsNumber (char :: rest) = true) :
    ∃ colon tail, parseName (member.whole ++ char :: rest) = some (member.name, colon) ∧
      read (skipBlank colon) = some (member.element.value, tail) ∧
      skipBlank tail = char :: rest := by
  simp only [Member.valid, Bool.and_eq_true] at hb
  obtain ⟨⟨⟨hbefore, hname⟩, hafter⟩, hblank⟩ := hb
  obtain ⟨tail, hvalue, htail⟩ := read_element hblank hv hread hc hend
  refine ⟨member.element.whole ++ char :: rest, tail, ?_, hvalue, htail⟩
  have hwhole : member.whole ++ char :: rest = member.before ++ (quoted member.name ++
      (member.after ++ ':' :: (member.element.whole ++ char :: rest))) := by
    simp [Member.whole]
  rw [hwhole, parseName_complete hbefore hname hafter]

theorem parseMembers_complete {first : Member} {others : List Member}
    (hb : ∀ member ∈ first :: others, member.valid = true)
    (hv : ∀ member ∈ first :: others, Value member.element.text member.element.value)
    (hread : ∀ member ∈ first :: others, ReadsAll read member.element.text member.element.value)
    (hfuel : others.length < fuel) :
    parseMembers read fuel (separated first.whole (others.map Member.whole) ++ '}' :: rest) =
      some ((first :: others).map Member.value, rest) := by
  induction others generalizing first fuel with
  | nil =>
      obtain ⟨fuel, rfl⟩ : ∃ n, fuel = n + 1 := ⟨fuel - 1, by omega⟩
      obtain ⟨hbf, -⟩ := List.forall_mem_cons.mp hb
      obtain ⟨hvf, -⟩ := List.forall_mem_cons.mp hv
      obtain ⟨hrf, -⟩ := List.forall_mem_cons.mp hread
      have hclose : endsNumber ('}' :: rest) = true := rfl
      obtain ⟨colon, tail, hname, hfirst, htail⟩ := read_member hbf hvf hrf (by decide) hclose
      rw [List.map_nil, separated_nil, parseMembers]
      simp only [hname, hfirst, htail, List.map_cons, List.map_nil, Member.value]
  | cons second others ih =>
      rw [List.length_cons] at hfuel
      obtain ⟨fuel, rfl⟩ : ∃ n, fuel = n + 1 := ⟨fuel - 1, by omega⟩
      obtain ⟨hbf, hb⟩ := List.forall_mem_cons.mp hb
      obtain ⟨hvf, hv⟩ := List.forall_mem_cons.mp hv
      obtain ⟨hrf, hread⟩ := List.forall_mem_cons.mp hread
      have hlt : others.length < fuel := by omega
      have hlater := ih hb hv hread hlt
      have hcomma : endsNumber (',' :: (separated second.whole (others.map Member.whole) ++
          '}' :: rest)) = true := rfl
      obtain ⟨colon, tail, hname, hfirst, htail⟩ := read_member hbf hvf hrf (by decide) hcomma
      rw [List.map_cons, separated_cons, List.append_assoc, List.cons_append, parseMembers]
      simp only [hname, hfirst, htail, hlater, Option.map_some, List.map_cons, Member.value]

theorem length_le_separated {first part : List Char} {others : List (List Char)}
    (h : part ∈ first :: others) : part.length ≤ (separated first others).length := by
  induction others generalizing first with
  | nil =>
      obtain rfl := List.mem_singleton.mp h
      rw [separated_nil]
  | cons second others ih =>
      have hlen : (separated first (second :: others)).length =
          first.length + ((separated second others).length + 1) := by
        rw [separated_cons, List.length_append, List.length_cons]
      rcases List.mem_cons.mp h with rfl | hm
      · omega
      · have hpart := ih hm
        omega

-- Every comma counts, and so does the bracket at the end.
theorem length_others_lt {α : Type} (whole : α → List Char) (first : α) (others : List α)
    (char : Char) (rest : List Char) :
    others.length < (separated (whole first) (others.map whole) ++ char :: rest).length := by
  induction others generalizing first with
  | nil =>
      rw [List.length_append, List.length_cons, List.length_nil]
      omega
  | cons second others ih =>
      have hlen := ih second
      rw [List.length_append] at hlen
      rw [List.map_cons, separated_cons, List.length_append, List.length_append, List.length_cons,
        List.length_cons]
      omega

theorem length_text_le (element : Element) : element.text.length ≤ element.whole.length := by
  rw [Element.whole, List.length_append, List.length_append]
  omega

-- What stands after an opening bracket with a value in it is no closing one.
theorem skipBlank_value {before front : List Char} (hb : before.all isBlank = true)
    (hv : Value front value) (rest : List Char) :
    ∃ char tail, skipBlank (before ++ (front ++ rest)) = char :: tail ∧ begins char = true := by
  obtain ⟨char, tail, rfl, hchar⟩ := value_cons hv
  have hblank : isBlank char = false := by
    simp only [begins, Bool.and_eq_true, Bool.not_eq_true'] at hchar
    exact hchar.1.1
  exact ⟨char, tail ++ rest, skipBlank_append hb hblank, hchar⟩

theorem parseValue_array {first : Element} {others : List Element}
    (hb : ∀ element ∈ first :: others, element.blank = true)
    (hv : ∀ element ∈ first :: others, Value element.text element.value)
    (hread : ∀ element ∈ first :: others,
      ReadsAll (parseValue fuel) element.text element.value) :
    ReadsAll (parseValue (fuel + 1))
      ('[' :: (separated first.whole (others.map Element.whole) ++ [']']))
      (.array ((first :: others).map Element.value)) := by
  intro rest _
  have hparsed : parseElements (parseValue fuel) _
      (separated first.whole (others.map Element.whole) ++ ']' :: rest) = _ :=
    parseElements_complete hb hv hread (length_others_lt Element.whole first others ']' rest)
  have hfirst := hb first List.mem_cons_self
  rw [Element.blank, Bool.and_eq_true] at hfirst
  obtain ⟨char, tail, hskip, hchar⟩ := skipBlank_value hfirst.1 (hv first List.mem_cons_self)
    (first.after ++ ((others.map Element.whole).flatMap (',' :: ·) ++ ']' :: rest))
  have htext : separated first.whole (others.map Element.whole) ++ ']' :: rest =
      first.before ++ (first.text ++ (first.after ++
        ((others.map Element.whole).flatMap (',' :: ·) ++ ']' :: rest))) := by
    simp [separated, Element.whole]
  rw [List.cons_append, List.append_assoc, List.singleton_append, parseValue, hparsed]
  split
  · next closing hclose =>
    rw [htext, hskip] at hclose
    obtain rfl := (List.cons.inj hclose).1
    exact absurd hchar (by decide)
  · rfl

theorem parseValue_object {first : Member} {others : List Member}
    (hb : ∀ member ∈ first :: others, member.valid = true)
    (hv : ∀ member ∈ first :: others, Value member.element.text member.element.value)
    (hread : ∀ member ∈ first :: others,
      ReadsAll (parseValue fuel) member.element.text member.element.value) :
    ReadsAll (parseValue (fuel + 1))
      ('{' :: (separated first.whole (others.map Member.whole) ++ ['}']))
      (.object ((first :: others).map Member.value)) := by
  intro rest _
  have hparsed : parseMembers (parseValue fuel) _
      (separated first.whole (others.map Member.whole) ++ '}' :: rest) = _ :=
    parseMembers_complete hb hv hread (length_others_lt Member.whole first others '}' rest)
  have hfirst := hb first List.mem_cons_self
  simp only [Member.valid, Bool.and_eq_true] at hfirst
  have hskip : skipBlank (separated first.whole (others.map Member.whole) ++ '}' :: rest) =
      '"' :: (first.name.flatMap Item.text ++ '"' :: (first.after ++ ':' ::
        (first.element.whole ++
          ((others.map Member.whole).flatMap (',' :: ·) ++ '}' :: rest)))) := by
    rw [← skipBlank_append hfirst.1.1.1 (by decide : isBlank '"' = false)]
    simp [separated, Member.whole, quoted]
  rw [List.cons_append, List.append_assoc, List.singleton_append, parseValue, hparsed]
  split
  · next closing hclose =>
    rw [hskip] at hclose
    exact absurd (List.cons.inj hclose).1 (by decide)
  · rfl

theorem parseValue_complete (h : Value text value) (hfuel : text.length ≤ fuel) :
    ReadsAll (parseValue fuel) text value := by
  induction h generalizing fuel with
  | null | true | false =>
      obtain ⟨fuel, rfl⟩ : ∃ n, fuel = n + 1 := ⟨fuel - 1, by simp at hfuel; omega⟩
      intro rest _
      rfl
  | number number hn =>
      obtain ⟨char, tail, htext, hc⟩ := number_cons hn
      rw [htext, List.length_cons] at hfuel
      obtain ⟨fuel, rfl⟩ : ∃ n, fuel = n + 1 := ⟨fuel - 1, by omega⟩
      intro rest hr
      have hparsed := parseNumber_complete hn hr
      rw [htext, List.cons_append] at hparsed ⊢
      rw [parseValue, parseLiteral_number hc, hparsed]
      · rfl
      · rintro _ he
        exact ne_of_number hc (by decide) (List.cons.inj he).1
      · rintro _ he
        exact ne_of_number hc (by decide) (List.cons.inj he).1
      · rintro _ he
        exact ne_of_number hc (by decide) (List.cons.inj he).1
  | string items hi =>
      rw [quoted, List.length_cons] at hfuel
      obtain ⟨fuel, rfl⟩ : ∃ n, fuel = n + 1 := ⟨fuel - 1, by omega⟩
      intro rest _
      have hparsed : parseItems (items.flatMap Item.text ++ '"' :: rest) = some (items, rest) :=
        parseItems_complete hi
      rw [quoted, List.cons_append, List.append_assoc, List.singleton_append, parseValue, hparsed]
      rfl
  | emptyArray gap hg =>
      rw [List.length_cons] at hfuel
      obtain ⟨fuel, rfl⟩ : ∃ n, fuel = n + 1 := ⟨fuel - 1, by omega⟩
      intro rest _
      rw [List.cons_append, List.append_assoc, List.singleton_append, parseValue,
        skipBlank_append hg (by decide)]
      rfl
  | emptyObject gap hg =>
      rw [List.length_cons] at hfuel
      obtain ⟨fuel, rfl⟩ : ∃ n, fuel = n + 1 := ⟨fuel - 1, by omega⟩
      intro rest _
      rw [List.cons_append, List.append_assoc, List.singleton_append, parseValue,
        skipBlank_append hg (by decide)]
      rfl
  | array first others hb hv ih =>
      rw [List.length_cons, List.length_append, List.length_singleton] at hfuel
      obtain ⟨fuel, rfl⟩ : ∃ n, fuel = n + 1 := ⟨fuel - 1, by omega⟩
      refine parseValue_array hb hv fun element hm => ih element hm ?_
      have hwhole : element.whole ∈ first.whole :: others.map Element.whole :=
        List.mem_map_of_mem (f := Element.whole) hm
      have hle := length_le_separated hwhole
      have htext := length_text_le element
      omega
  | object first others hb hv ih =>
      rw [List.length_cons, List.length_append, List.length_singleton] at hfuel
      obtain ⟨fuel, rfl⟩ : ∃ n, fuel = n + 1 := ⟨fuel - 1, by omega⟩
      refine parseValue_object hb hv fun member hm => ih member hm ?_
      have hwhole : member.whole ∈ first.whole :: others.map Member.whole :=
        List.mem_map_of_mem (f := Member.whole) hm
      have hle := length_le_separated hwhole
      have htext := length_text_le member.element
      have helement : member.element.whole.length ≤ member.whole.length := by
        rw [Member.whole, List.length_append, List.length_cons]
        omega
      omega

-- The parser accepts exactly the JSON texts, and gives their value.
theorem parse_eq_some_iff : parse text = some value ↔ Text text value := by
  refine ⟨parse_sound, ?_⟩
  rintro ⟨⟨before, front, after, value⟩, hblank, hv, rfl, rfl⟩
  rw [Element.blank, Bool.and_eq_true] at hblank
  obtain ⟨hbefore, hafter⟩ : before.all isBlank = true ∧ after.all isBlank = true := hblank
  have hfront : Value front value := hv
  obtain ⟨char, tail, htext, hchar⟩ := value_cons hfront
  have hskip : skipBlank (before ++ front ++ after) = front ++ after := by
    have hbegin : isBlank char = false := by
      simp only [begins, Bool.and_eq_true, Bool.not_eq_true'] at hchar
      exact hchar.1.1
    rw [htext, List.append_assoc, List.cons_append, skipBlank_append hbefore hbegin]
  have hend : skipBlank after = [] :=
    List.dropWhile_eq_nil_iff.mpr (List.all_eq_true.mp hafter)
  have hfuel : front.length ≤ (before ++ front ++ after).length := by
    rw [List.length_append, List.length_append]
    omega
  have hnumber : endsNumber (after ++ []) = true := endsNumber_append hafter rfl
  rw [List.append_nil] at hnumber
  rw [parse, Element.whole, hskip]
  simp only [parseValue_complete hfront hfuel after hnumber, hend, if_true]

example : parse "[5, \"\\u00e9\"]".toList = some (.array [.number 5, .string ['é']]) := rfl

-- A text stands for one value.
theorem Text.unique {other : Json} (h : Text text value) (ho : Text text other) :
    value = other := by
  rw [← parse_eq_some_iff] at h ho
  exact Option.some.inj (h.symm.trans ho)

end Json

end Rito
