import Rito.Json.Strings
import Rito.LcuWampHandler

namespace Rito

namespace LcuWampHandler

-- The number 2 as std::to_string writes it.
def callNumber : Json.Number := ⟨false, ['2'], [], none⟩

theorem argument_eq (text : List Char) : argument text = Json.nextString text := by
  unfold argument
  simp [Json.nextString]

theorem argumentList_eq (first : List Char) (rest : List (List Char)) :
    argumentList first rest = (first :: rest).flatMap Json.nextString := by
  induction rest generalizing first with
  | nil => rw [argumentList, argument_eq, List.flatMap_singleton]
  | cons next rest ih => rw [argumentList, ih next, argument_eq, ← List.flatMap_cons]

theorem call_eq (identifier function first : List Char) (rest : List (List Char)) :
    call identifier function first rest =
      Json.arrayText callNumber (identifier :: function :: first :: rest) := by
  have htype : typeText .call = callNumber.text := by decide
  unfold call
  rewrite [argumentList_eq, htype]
  simp [Json.arrayText, Json.nextString]

-- A call with arguments means what its caller passed if and only if no string
-- has a quotation mark, a backslash or a control character.
theorem call_meaning_iff (identifier function first : List Char) (rest : List (List Char)) :
    Json.parse (call identifier function first rest) =
        some (.array (.number 2 :: (identifier :: function :: first :: rest).map .string)) ↔
      ∀ string ∈ identifier :: function :: first :: rest,
        string.all Json.isUnescaped = true := by
  rw [call_eq]
  exact Json.parse_arrayText_iff (by decide) _

-- The text of a WAMP CALL. Each argument stands in quotation marks behind a
-- comma and a space.
def callText (identifier function : List Char) (arguments : List (List Char)) : List Char :=
  "[2, \"".toList ++ identifier ++ "\", \"".toList ++ function ++ "\"".toList ++
    arguments.flatMap (fun text => ", \"".toList ++ text ++ "\"".toList) ++ "]".toList

-- The text call() sends: the overload without arguments takes the empty list.
def callSent (identifier function : List Char) : List (List Char) → List Char
  | [] => callNoArguments identifier function
  | first :: rest => call identifier function first rest

-- The number 5 in its place.
def subscribeNumber : Json.Number := ⟨false, ['5'], [], none⟩

theorem callNoArguments_eq (identifier function : List Char) :
    callNoArguments identifier function =
      Json.arrayText subscribeNumber [identifier, function] := by
  have htype : typeText .subscribe = subscribeNumber.text := by decide
  unfold callNoArguments
  rewrite [htype]
  simp [Json.arrayText, Json.nextString]

-- The two overloads send the text of a WAMP CALL if and only if there is an
-- argument.
theorem call_sent_iff (identifier function : List Char) (arguments : List (List Char)) :
    callSent identifier function arguments = callText identifier function arguments ↔
      arguments ≠ [] := by
  cases arguments with
  | nil =>
      have htype : typeText .subscribe = ['5'] := by decide
      refine iff_of_false (fun h => ?_) (fun h => h rfl)
      unfold callSent callNoArguments callText at h
      rewrite [htype] at h
      simp at h
  | cons first rest =>
      have htype : typeText .call = ['2'] := by decide
      have hstring : ∀ text, Json.nextString text = ", \"".toList ++ text ++ "\"".toList := by
        intro text
        simp [Json.nextString]
      have htext : call identifier function first rest =
          callText identifier function (first :: rest) := by
        unfold call callText
        rewrite [htype, argumentList_eq, funext hstring]
        simp
      exact iff_of_true htext (List.cons_ne_nil first rest)

-- A call without arguments is read as a SUBSCRIBE.
theorem summonerCall_subscribes :
    callSent "1".toList "GET /lol-summoner/v1/current-summoner".toList [] ≠
        callText "1".toList "GET /lol-summoner/v1/current-summoner".toList [] ∧
      Json.parse (callSent "1".toList "GET /lol-summoner/v1/current-summoner".toList []) =
        some (.array [.number 5, .string "1".toList,
          .string "GET /lol-summoner/v1/current-summoner".toList]) := by
  constructor
  · decide
  · unfold callSent
    rewrite [callNoArguments_eq]
    exact (Json.parse_arrayText_iff (by decide) _).mpr (by decide)

-- No subscription is a JSON text: the closing bracket is missing.
theorem subscription_unreadable (event : List Char) :
    Json.parse (subscribe event) = none ∧ Json.parse (unsubscribe event) = none := by
  constructor
  · have htext : subscribe event = '[' :: (('5' :: ',' :: ' ' :: '"' :: event) ++ ['"']) := by
      have htype : typeText .subscribe = ['5'] := by decide
      unfold subscribe
      simp [htype]
    rw [htext, Json.parse_unclosed]
  · have htext : unsubscribe event = '[' :: (('6' :: ',' :: ' ' :: '"' :: event) ++ ['"']) := by
      have htype : typeText .unsubscribe = ['6'] := by decide
      unfold unsubscribe
      simp [htype]
    rw [htext, Json.parse_unclosed]

theorem subscribe_onJsonApiEvent :
    Json.parse (subscribe "OnJsonApiEvent".toList) ≠
        some (.array [.number 5, .string "OnJsonApiEvent".toList]) ∧
      Json.parse (unsubscribe "OnJsonApiEvent".toList) ≠
        some (.array [.number 6, .string "OnJsonApiEvent".toList]) := by
  have hnone : (Json.parse (subscribe "OnJsonApiEvent".toList)).isSome = false ∧
      (Json.parse (unsubscribe "OnJsonApiEvent".toList)).isSome = false := by decide
  constructor
  · intro h
    rw [h] at hnone
    cases hnone.1
  · intro h
    rw [h] at hnone
    cases hnone.2

end LcuWampHandler

end Rito
