import Mathlib.Data.List.Basic
import Rito.Json.Completeness

namespace Rito

namespace Json

variable {text rest tail string : List Char} {items : List Item} {value : Json}
  {strings : List (List Char)} {elements : List Element}

theorem decode_plain (string : List Char) : decode (string.map .plain) = string := by
  induction string with
  | nil => rfl
  | cons char string ih =>
      cases string with
      | nil => rfl
      | cons next string =>
          have hpair : (Item.plain char).pair (.plain next) = none := rfl
          simp only [List.map_cons] at ih ⊢
          simp only [decode, hpair, ih, Item.char]

theorem flatMap_plain (string : List Char) : (string.map Item.plain).flatMap Item.text = string := by
  induction string with
  | nil => rfl
  | cons char string ih => rw [List.map_cons, List.flatMap_cons, ih]; rfl

theorem all_valid_plain (string : List Char) :
    (string.map Item.plain).all Item.valid = string.all isUnescaped := by
  rw [List.all_map]
  rfl

-- An item is at least as long as what it stands for, and longer unless it is
-- that character itself.
theorem item_length (item : Item) : item = .plain item.char ∧ item.text = [item.char] ∨
    2 ≤ item.text.length := by
  cases item with
  | plain char => exact Or.inl ⟨rfl, rfl⟩
  | escape char => exact Or.inr (Nat.le_refl 2)
  | unicode first second third fourth => exact Or.inr (by simp [Item.text])

theorem length_decode_le (items : List Item) :
    (decode items).length ≤ (items.flatMap Item.text).length ∧
      ((decode items).length = (items.flatMap Item.text).length →
        items = (decode items).map .plain) := by
  fun_induction decode items with
  | case1 => exact ⟨Nat.le_refl _, fun _ => rfl⟩
  | case2 item =>
      rcases item_length item with ⟨hplain, htext⟩ | hlong
      · rw [List.flatMap_singleton, htext]
        refine ⟨Nat.le_refl _, fun _ => ?_⟩
        rw [List.map_singleton, ← hplain]
      · rw [List.flatMap_singleton, List.length_singleton]
        exact ⟨by omega, fun h => by omega⟩
  | case3 item next rest char hpair ih =>
      obtain ⟨hle, -⟩ := ih
      have hlong : 2 ≤ item.text.length := by
        cases item with
        | unicode _ _ _ _ => simp [Item.text]
        | _ => cases hpair
      simp only [List.flatMap_cons, List.length_append, List.length_cons]
      exact ⟨by omega, fun h => by omega⟩
  | case4 item next rest hpair ih =>
      obtain ⟨hle, heq⟩ := ih
      rw [List.flatMap_cons, List.length_append, List.length_cons]
      rcases item_length item with ⟨hplain, htext⟩ | hlong
      · rw [htext, List.length_singleton]
        refine ⟨by omega, fun h => ?_⟩
        rw [List.map_cons, ← hplain, ← heq (by omega)]
      · exact ⟨by omega, fun h => by omega⟩

theorem notMem_unicode {first second third fourth : Char}
    (hv : (Item.unicode first second third fourth).valid = true) :
    '"' ∉ (Item.unicode first second third fourth).text := by
  intro hin
  simp only [Item.valid, List.all_cons, List.all_nil, Bool.and_true, Bool.and_eq_true] at hv
  have hhex : (hexValue '"').isSome = false := by decide
  have hdigit : '"' = first ∨ '"' = second ∨ '"' = third ∨ '"' = fourth := by
    simpa [Item.text] using hin
  rcases hdigit with rfl | rfl | rfl | rfl <;> simp [hhex] at hv

theorem idxOf_cons_le (char first : Char) (rest : List Char) :
    (first :: rest).idxOf char ≤ rest.idxOf char + 1 := by
  by_cases h : first = char
  · rw [List.idxOf_cons_eq _ h]
    omega
  · rw [List.idxOf_cons_ne _ h]

-- Only an escape brings a quotation mark between the quotes, and the character
-- it stands for comes before the mark itself.
theorem idxOf_item {item : Item} {decoded raw : List Char} (hv : item.valid = true)
    (h : '"' ∈ raw → decoded.idxOf '"' < raw.idxOf '"') (hm : '"' ∈ item.text ++ raw) :
    (item.char :: decoded).idxOf '"' < (item.text ++ raw).idxOf '"' := by
  have hle := idxOf_cons_le '"' item.char decoded
  by_cases hin : '"' ∈ item.text
  · cases item with
    | plain char =>
        obtain rfl := List.mem_singleton.mp hin
        exact absurd hv (by decide)
    | escape char =>
        have hchar : char = '"' := by simpa [Item.text, eq_comm] using hin
        subst hchar
        have hfirst : (Item.escape '"').char = '"' := rfl
        rw [List.idxOf_cons_eq _ hfirst, Item.text, List.cons_append,
          List.idxOf_cons_ne _ (by decide)]
        exact Nat.succ_pos _
    | unicode first second third fourth => exact absurd hin (notMem_unicode hv)
  · have hraw : '"' ∈ raw := (List.mem_append.mp hm).resolve_left hin
    have hlt := h hraw
    rw [List.idxOf_append_of_notMem hin]
    rcases item_length item with ⟨-, htext⟩ | hlong
    · have hchar : item.char ≠ '"' := by
        intro he
        rw [htext, he] at hin
        exact hin (List.mem_singleton.mpr rfl)
      rw [htext, List.idxOf_cons_ne _ hchar, List.length_singleton]
      omega
    · omega

theorem idxOf_decode (hv : items.all Item.valid = true) (hm : '"' ∈ items.flatMap Item.text) :
    (decode items).idxOf '"' < (items.flatMap Item.text).idxOf '"' := by
  fun_induction decode items with
  | case1 => cases hm
  | case2 item =>
      rw [List.all_cons, Bool.and_eq_true] at hv
      rw [List.flatMap_cons] at hm ⊢
      exact idxOf_item hv.1 (by simp) hm
  | case3 item next rest char hpair ih =>
      rw [List.all_cons, Bool.and_eq_true, List.all_cons, Bool.and_eq_true] at hv
      obtain ⟨hitem, hnext, hrest⟩ := hv
      have hnot : '"' ∉ item.text ∧ '"' ∉ next.text := by
        cases item with
        | unicode _ _ _ _ =>
            cases next with
            | unicode _ _ _ _ => exact ⟨notMem_unicode hitem, notMem_unicode hnext⟩
            | _ => cases hpair
        | _ => cases hpair
      rw [List.flatMap_cons, List.flatMap_cons] at hm ⊢
      have hm' := (List.mem_append.mp ((List.mem_append.mp hm).resolve_left hnot.1)).resolve_left
        hnot.2
      have hlt := ih hrest hm'
      have hle := idxOf_cons_le '"' char (decode rest)
      have hlong : 2 ≤ item.text.length := by
        cases item with
        | unicode _ _ _ _ => simp [Item.text]
        | _ => cases hpair
      rw [List.idxOf_append_of_notMem hnot.1, List.idxOf_append_of_notMem hnot.2]
      omega
  | case4 item next rest hpair ih =>
      rw [List.all_cons, Bool.and_eq_true] at hv
      rw [List.flatMap_cons] at hm ⊢
      exact idxOf_item hv.1 (ih hv.2) hm

-- Text that is put between quotes as it is, and read back as itself, closes its
-- string where it was meant to, and needs no escape.
theorem items_eq_plain (hv : items.all Item.valid = true) (hd : decode items = string)
    (h : items.flatMap Item.text ++ '"' :: rest = string ++ '"' :: tail) :
    items = string.map .plain ∧ rest = tail := by
  obtain ⟨hle, heq⟩ := length_decode_le items
  rw [hd] at hle heq
  by_cases hlen : string.length = (items.flatMap Item.text).length
  · obtain ⟨-, htail⟩ := List.append_inj h hlen.symm
    exact ⟨heq hlen, (List.cons.inj htail).2⟩
  · rcases List.append_eq_append_iff.mp h with ⟨gap, hs, -⟩ | ⟨gap, hraw, hgap⟩
    · rw [hs, List.length_append] at hle hlen
      omega
    · -- the string ends early, at a quotation mark of the text
      cases gap with
      | nil =>
          rw [hraw, List.append_nil] at hlen
          exact absurd rfl hlen
      | cons mark gap =>
          obtain rfl := (List.cons.inj hgap).1
          have hin : '"' ∈ items.flatMap Item.text := by simp [hraw]
          have hlt := idxOf_decode hv hin
          rw [hd, hraw] at hlt
          by_cases hmem : '"' ∈ string
          · rw [List.idxOf_append_of_mem hmem] at hlt
            omega
          · rw [List.idxOf_append_of_notMem hmem, List.idxOf_cons_self,
              List.idxOf_of_notMem hmem] at hlt
            omega

theorem value_number {number : Rat} (h : Value text (.number number)) :
    ∃ digits : Number, digits.valid = true ∧ text = digits.text ∧ number = digits.value := by
  cases h with
  | number digits hn => exact ⟨digits, hn, rfl, rfl⟩

theorem value_string (h : Value text (.string string)) :
    ∃ items, items.all Item.valid = true ∧ text = quoted items ∧ string = decode items := by
  cases h with
  | string items hi => exact ⟨items, hi, rfl, rfl⟩

-- A value that begins like an array ends like one.
theorem value_bracket (h : Value ('[' :: text) value) :
    ∃ front, '[' :: text = front ++ [']'] ∧ ∃ values, value = .array values := by
  generalize ht : '[' :: text = whole at h
  cases h with
  | emptyArray gap _ => exact ⟨'[' :: gap, rfl, _, rfl⟩
  | array first others _ _ => exact ⟨'[' :: separated first.whole _, rfl, _, rfl⟩
  | number number hn =>
      obtain ⟨char, tail, he, hc⟩ := number_cons hn
      rw [he] at ht
      exact absurd (List.cons.inj ht).1.symm (ne_of_number hc (by decide))
  | _ => simp [quoted] at ht

theorem value_array {values : List Json} (h : Value ('[' :: text) (.array values)) :
    values = [] ∨ ∃ first others, (∀ element ∈ first :: others, element.blank = true) ∧
      (∀ element ∈ first :: others, Value element.text element.value) ∧
      text = separated first.whole (others.map Element.whole) ++ [']'] ∧
      values = (first :: others).map Element.value := by
  generalize ht : '[' :: text = whole at h
  cases h with
  | emptyArray gap _ => exact Or.inl rfl
  | array first others hb hv =>
      exact Or.inr ⟨first, others, hb, hv, (List.cons.inj ht).2, rfl⟩

-- A text that begins with a bracket is the value at once, and blanks after it.
theorem text_bracket (h : Text ('[' :: text) value) :
    ∃ body after, Value ('[' :: body) value ∧ text = body ++ after ∧
      after.all isBlank = true := by
  obtain ⟨⟨before, whole, after, value⟩, hblank, hv, htext, rfl⟩ := h
  obtain ⟨hbefore, hafter⟩ : before.all isBlank = true ∧ after.all isBlank = true := by
    simpa [Element.blank] using hblank
  obtain ⟨char, tail, rfl, -⟩ := value_cons hv
  have hnil : before = [] := by
    cases before with
    | nil => rfl
    | cons first before =>
        rw [List.all_cons, Bool.and_eq_true] at hbefore
        obtain rfl : '[' = first := (List.cons.inj htext).1
        exact absurd hbefore.1 (by decide)
  subst hnil
  obtain ⟨rfl, rfl⟩ := List.cons.inj htext
  exact ⟨tail, after, hv, rfl, hafter⟩

-- A text that begins with a bracket and ends with a quotation mark is no text.
theorem parse_unclosed (text : List Char) : parse ('[' :: (text ++ ['"'])) = none := by
  cases h : parse ('[' :: (text ++ ['"'])) with
  | none => rfl
  | some value =>
      obtain ⟨body, after, hv, htext, hafter⟩ := text_bracket (parse_sound h)
      obtain ⟨front, hfront, -⟩ := value_bracket hv
      have hwhole : '[' :: text ++ ['"'] = front ++ ']' :: after := by
        rw [List.cons_append, htext, ← List.cons_append, hfront, List.append_assoc,
          List.singleton_append]
      rcases List.eq_nil_or_concat after with rfl | ⟨gap, last, rfl⟩
      · have hlast := (List.append_singleton_inj.mp hwhole).2
        exact absurd hlast (by decide)
      · rw [List.concat_eq_append, ← List.cons_append, ← List.append_assoc] at hwhole
        obtain rfl := (List.append_singleton_inj.mp hwhole).2
        have hblank := List.all_eq_true.mp hafter '"' (by simp)
        exact absurd hblank (by decide)

-- A string put between quotes as it is, after a comma and a space.
def nextString (string : List Char) : List Char :=
  ',' :: ' ' :: '"' :: (string ++ ['"'])

-- The text of an array of a number and strings that are put in as they are.
def arrayText (head : Number) (strings : List (List Char)) : List Char :=
  '[' :: (head.text ++ (strings.flatMap nextString ++ [']']))

theorem notMem_of_all {char : Char} {p : Char → Bool} (h : text.all p = true)
    (hp : p char = false) : char ∉ text := by
  intro hm
  have hc := List.all_eq_true.mp h char hm
  rw [hp] at hc
  cases hc

theorem comma_notMem_number {number : Number} (h : number.valid = true) : ',' ∉ number.text := by
  obtain ⟨negative, integer, fraction, exponent⟩ := number
  simp only [Number.valid, Number.validInteger, Bool.and_eq_true] at h
  obtain ⟨⟨⟨⟨-, hi⟩, -⟩, hf⟩, he⟩ := h
  have hinteger := notMem_of_all hi (by decide : ','.isDigit = false)
  have hfraction := notMem_of_all hf (by decide : ','.isDigit = false)
  have hexponent : ',' ∉ Number.exponentText exponent := by
    cases exponent with
    | none => simp [Number.exponentText]
    | some exponent =>
        simp only [Option.all_some, Exponent.valid, Bool.and_eq_true, Bool.or_eq_true,
          decide_eq_true_eq] at he
        obtain ⟨⟨⟨hletter, hsign⟩, -⟩, hd⟩ := he
        have hdigits := notMem_of_all hd (by decide : ','.isDigit = false)
        rcases hletter with hl | hl <;> rcases hsign with (hs | hs) | hs <;>
          simp [Number.exponentText, Exponent.text, hl, hs, hdigits]
  have hminus : ',' ∉ (if negative then ['-'] else []) := by cases negative <;> simp
  have hpoint : ',' ∉ Number.fractionText fraction := by
    unfold Number.fractionText
    split <;> simp [hfraction]
  simp only [Number.text, List.mem_append, not_or]
  exact ⟨⟨⟨hminus, hinteger⟩, hpoint⟩, hexponent⟩

-- Texts before the first occurrence of a character are the same.
theorem append_cons_inj {char : Char} {front front' : List Char}
    (h : front ++ char :: rest = front' ++ char :: tail) (hf : char ∉ front)
    (hf' : char ∉ front') : front = front' ∧ rest = tail := by
  have hlen : front.length = front'.length := by
    have hidx := congrArg (List.idxOf char) h
    rwa [List.idxOf_append_of_notMem hf, List.idxOf_append_of_notMem hf', List.idxOf_cons_self,
      List.idxOf_cons_self] at hidx
  obtain ⟨hfront, htail⟩ := List.append_inj h hlen
  exact ⟨hfront, (List.cons.inj htail).2⟩

-- Blanks up to a quotation mark are the one blank that was put there.
theorem blank_quote {gap : List Char} (hg : gap.all isBlank = true)
    (h : gap ++ '"' :: rest = ' ' :: '"' :: tail) : gap = [' '] ∧ rest = tail := by
  have hnot := notMem_of_all hg (by decide : isBlank '"' = false)
  have hsingle : '"' ∉ [' '] := by decide
  exact append_cons_inj h hnot hsingle

-- Elements that are read back as the strings that were put in.
theorem unescaped_of_elements
    (he : ∀ element ∈ elements, element.blank = true ∧ Value element.text element.value)
    (hvalues : elements.map Element.value = strings.map .string)
    (h : (elements.map Element.whole).flatMap (',' :: ·) ++ ']' :: rest =
      strings.flatMap nextString ++ ']' :: tail) :
    ∀ string ∈ strings, string.all isUnescaped = true := by
  induction strings generalizing elements with
  | nil => simp
  | cons string strings ih =>
      cases elements with
      | nil => simp at hvalues
      | cons element elements =>
          obtain ⟨hfirst, hlater⟩ := List.forall_mem_cons.mp he
          rw [List.map_cons, List.map_cons] at hvalues
          obtain ⟨hvalue, hothers⟩ := List.cons.inj hvalues
          obtain ⟨before, front, after, value⟩ := element
          obtain ⟨hblank, hv⟩ := hfirst
          obtain rfl : value = .string string := hvalue
          obtain ⟨items, hvalid, hitems, hstring⟩ := value_string hv
          obtain rfl : front = quoted items := hitems
          obtain ⟨hbefore, hafter⟩ : before.all isBlank = true ∧ after.all isBlank = true := by
            simpa [Element.blank] using hblank
          -- the quotation mark that opens the string is the one put in
          have hopen : before ++ '"' :: (items.flatMap Item.text ++ '"' :: (after ++
                ((elements.map Element.whole).flatMap (',' :: ·) ++ ']' :: rest))) =
              ' ' :: '"' :: (string ++ '"' :: (strings.flatMap nextString ++ ']' :: tail)) := by
            simpa [Element.whole, quoted, nextString] using h
          obtain ⟨rfl, hbody⟩ := blank_quote hbefore hopen
          obtain ⟨rfl, hclose⟩ := items_eq_plain hvalid hstring.symm hbody
          have hunescaped : string.all isUnescaped = true := by
            rw [← all_valid_plain]
            exact hvalid
          -- and what follows its closing mark is no blank
          have hnil : after = [] := by
            cases after with
            | nil => rfl
            | cons char after =>
                rw [List.all_cons, Bool.and_eq_true] at hafter
                cases strings with
                | nil =>
                    obtain rfl : char = ']' := (List.cons.inj hclose).1
                    exact absurd hafter.1 (by decide)
                | cons next strings =>
                    obtain rfl : char = ',' := (List.cons.inj hclose).1
                    exact absurd hafter.1 (by decide)
          subst hnil
          exact List.forall_mem_cons.mpr ⟨hunescaped, ih hlater hothers hclose⟩

-- What precedes the strings is read as the number it is.
theorem unescaped_of_array {head : Number} {first : Element} (hn : head.valid = true)
    (hb : ∀ element ∈ first :: elements, element.blank = true)
    (hv : ∀ element ∈ first :: elements, Value element.text element.value)
    (hvalues : (first :: elements).map Element.value =
      .number head.value :: strings.map .string)
    (h : separated first.whole (elements.map Element.whole) ++ ']' :: rest =
      head.text ++ (strings.flatMap nextString ++ ']' :: tail)) :
    ∀ string ∈ strings, string.all isUnescaped = true := by
  rw [List.map_cons] at hvalues
  obtain ⟨hnumber, hstrings⟩ := List.cons.inj hvalues
  cases strings with
  | nil => simp
  | cons string strings =>
      cases elements with
      | nil => simp at hstrings
      | cons second elements =>
          have hfirst := hv first List.mem_cons_self
          rw [hnumber] at hfirst
          obtain ⟨digits, hvalid, htext, -⟩ := value_number hfirst
          have hblank := hb first List.mem_cons_self
          rw [Element.blank, Bool.and_eq_true] at hblank
          have hcomma : isBlank ',' = false := by decide
          have hwhole : ',' ∉ first.whole := by
            rw [Element.whole, htext]
            simp [notMem_of_all hblank.1 hcomma, notMem_of_all hblank.2 hcomma,
              comma_notMem_number hvalid]
          have hsplit : first.whole ++ ',' :: (second.whole ++
                ((elements.map Element.whole).flatMap (',' :: ·) ++ ']' :: rest)) =
              head.text ++ ',' :: (' ' :: '"' :: (string ++ '"' ::
                (strings.flatMap nextString ++ ']' :: tail))) := by
            simpa [separated, nextString] using h
          obtain ⟨-, htail⟩ := append_cons_inj hsplit hwhole (comma_notMem_number hn)
          have helements : ((second :: elements).map Element.whole).flatMap (',' :: ·) ++
              ']' :: rest = (string :: strings).flatMap nextString ++ ']' :: tail := by
            simpa [nextString] using htail
          refine unescaped_of_elements (fun element hm => ?_) hstrings helements
          exact ⟨hb element (List.mem_cons_of_mem _ hm), hv element (List.mem_cons_of_mem _ hm)⟩

-- The element a string is meant to be.
def stringElement (string : List Char) : Element where
  before := [' ']
  text := quoted (string.map .plain)
  after := []
  value := .string string

theorem whole_stringElement (string : List Char) :
    ',' :: (stringElement string).whole = nextString string := by
  simp [stringElement, Element.whole, quoted, flatMap_plain, nextString]

theorem value_stringElement (h : string.all isUnescaped = true) :
    Value (stringElement string).text (stringElement string).value := by
  have hv : Value (quoted (string.map .plain)) (.string (decode (string.map .plain))) :=
    .string _ (by rw [all_valid_plain, h])
  rwa [decode_plain] at hv

theorem flatMap_stringElement (strings : List (List Char)) :
    ((strings.map stringElement).map Element.whole).flatMap (',' :: ·) =
      strings.flatMap nextString := by
  induction strings with
  | nil => rfl
  | cons string strings ih =>
      have hwhole := whole_stringElement string
      simp only [List.map_cons, List.flatMap_cons, ih, hwhole]

theorem value_arrayText {head : Number} (hn : head.valid = true)
    (h : ∀ string ∈ strings, string.all isUnescaped = true) :
    Value (arrayText head strings) (.array (.number head.value :: strings.map .string)) := by
  have harray := Value.array ⟨[], head.text, [], .number head.value⟩
    (strings.map stringElement) ?_ ?_
  · have hvalues : (strings.map stringElement).map Element.value = strings.map .string := by
      rw [List.map_map]
      rfl
    rw [List.map_cons, hvalues, separated, flatMap_stringElement] at harray
    simpa [arrayText, Element.whole] using harray
  · intro element hm
    rcases List.mem_cons.mp hm with rfl | hm
    · rfl
    · obtain ⟨string, -, rfl⟩ := List.mem_map.mp hm
      rfl
  · intro element hm
    rcases List.mem_cons.mp hm with rfl | hm
    · exact .number head hn
    · obtain ⟨string, hs, rfl⟩ := List.mem_map.mp hm
      exact value_stringElement (h string hs)

-- Such a text means what was put in exactly when no string needs an escape.
theorem parse_arrayText_iff {head : Number} (hn : head.valid = true)
    (strings : List (List Char)) :
    parse (arrayText head strings) = some (.array (.number head.value :: strings.map .string)) ↔
      ∀ string ∈ strings, string.all isUnescaped = true := by
  rw [parse_eq_some_iff]
  constructor
  · intro h
    obtain ⟨body, after, hv, htext, -⟩ := text_bracket h
    rcases value_array hv with hnil | ⟨first, others, hb, helements, rfl, hvalues⟩
    · cases hnil
    · rw [List.append_assoc, List.singleton_append] at htext
      exact unescaped_of_array hn hb helements hvalues.symm htext.symm
  · intro h
    refine ⟨⟨[], arrayText head strings, [], _⟩, rfl, value_arrayText hn h, ?_, rfl⟩
    simp [Element.whole]

end Json

end Rito
