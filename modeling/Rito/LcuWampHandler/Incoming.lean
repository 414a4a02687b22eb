import Rito.Json.Completeness
import Rito.LcuWampHandler

namespace Rito

-- What Poco documents of these calls, for the JSON values that a Var and an
-- array hold: a JSON null is an empty Var.
structure PocoJson.Documented {Var ArrayPtr : Type} (poco : PocoJson Var ArrayPtr)
    (holds : Var → Json → Prop) (holdsArray : ArrayPtr → List Json → Prop) : Prop where
  parse : ∀ text value, Json.Text text value →
    ∃ var, poco.parse (utf8 text) = .ok var ∧ holds var value
  extractArray : ∀ var values, holds var (.array values) →
    ∃ array, poco.extractArray var = .ok array ∧ holdsArray array values
  get : ∀ array values index value, holdsArray array values → values[index]? = some value →
    holds (poco.get array index) value
  toInt : ∀ var (number : Int), holds var (.number number) → -2 ^ 31 ≤ number →
    number < 2 ^ 31 → poco.toInt var = .ok number
  toString_null : ∀ var, holds var .null → ∃ what, poco.toString var = .error what
  toString_string : ∀ var text, holds var (.string text) → poco.toString var = .ok (utf8 text)
  toString_value : ∀ var value, holds var value → value ≠ .null →
    ∃ text, poco.toString var = .ok text

-- A WAMP message the dispatcher has a callback for.
inductive IncomingMessage where
  | callResult (identifier : List Char) (value : Json)
  | callError (identifier error errorDescription : List Char)
  | event (event : List Char) (value : Json)

namespace IncomingMessage

def json : IncomingMessage → Json
  | .callResult identifier value => .array [.number 3, .string identifier, value]
  | .callError identifier error errorDescription =>
      .array [.number 4, .string identifier, .string error, .string errorDescription]
  | .event name value => .array [.number 8, .string name, value]

-- The element of a message that can be any value.
def payload : IncomingMessage → Option Json
  | .callResult _ value | .event _ value => some value
  | .callError _ _ _ => none

-- Its callback is invoked once, with its strings, and nothing else is invoked.
def Delivered : IncomingMessage → List WampInvocation → Prop
  | .callResult identifier _, invocations =>
      ∃ jsonData, invocations = [.callResult (utf8 identifier) jsonData]
  | .callError identifier error errorDescription, invocations =>
      invocations = [.callError (utf8 identifier) (utf8 error) (utf8 errorDescription)]
  | .event name _, invocations => ∃ jsonData, invocations = [.event (utf8 name) jsonData]

end IncomingMessage

theorem utf8_ne_nil {text : List Char} (h : text ≠ []) : utf8 text ≠ [] := by
  cases text with
  | nil => exact absurd rfl h
  | cons char text =>
      rw [utf8, List.flatMap_cons]
      exact List.append_ne_nil_of_left_ne_nil String.utf8EncodeChar_ne_nil _

theorem Json.Text.ne_nil {text : List Char} {value : Json} (h : Json.Text text value) :
    text ≠ [] := by
  obtain ⟨element, -, hv, rfl, -⟩ := h
  obtain ⟨char, tail, htext, -⟩ := Json.value_cons hv
  simp [Json.Element.whole, htext]

namespace LcuWampHandler

variable {Var ArrayPtr : Type} {poco : PocoJson Var ArrayPtr} {holds : Var → Json → Prop}
  {holdsArray : ArrayPtr → List Json → Prop} {text : List Char} {values : List Json}
  {handler : LcuWampHandler} {message : IncomingMessage} {array : ArrayPtr}

def allRegistered : LcuWampHandler := ⟨true, true, true⟩

-- The text of an array reaches the switch as that array.
theorem onMessage_array (hd : poco.Documented holds holdsArray)
    (ht : Json.Text text (.array values)) (handler : LcuWampHandler) :
    ∃ array, holdsArray array values ∧ handler.onMessage poco (utf8 text) =
      match handler.dispatchArray poco array with
      | .ok invocations => invocations
      | .error _ => [] := by
  obtain ⟨var, hparse, hvar⟩ := hd.parse _ _ ht
  obtain ⟨array, hextract, harray⟩ := hd.extractArray _ _ hvar
  have hempty : (utf8 text).isEmpty = false := by
    simpa using utf8_ne_nil ht.ne_nil
  have hdispatch : handler.dispatch poco (utf8 text) = handler.dispatchArray poco array := by
    simp only [dispatch, hparse, hextract, bind, Except.bind]
  refine ⟨array, harray, ?_⟩
  rw [onMessage, hempty, dispatchMessage, hdispatch]
  rfl

-- How the three kinds go through the switch, by what the conversion of their
-- last element gives.
theorem dispatchArray_callResult {identifier : List Char} {value : Json}
    (hd : poco.Documented holds holdsArray)
    (ha : holdsArray array [.number 3, .string identifier, value]) :
    allRegistered.dispatchArray poco array =
      (poco.toString (poco.get array 2)).map fun jsonData =>
        [.callResult (utf8 identifier) jsonData] := by
  have hid : poco.toInt (poco.get array 0) = .ok 3 :=
    hd.toInt _ 3 (hd.get array _ 0 (.number 3) ha rfl) (by decide) (by decide)
  have hidentifier := hd.toString_string _ _ (hd.get array _ 1 _ ha rfl)
  cases hdata : poco.toString (poco.get array 2) <;>
    simp [dispatchArray, parseCallResult, hid, hidentifier, hdata, WampMessageType.value,
      onCallResult, allRegistered, bind, Except.bind, pure, Except.pure, Except.map]

theorem dispatchArray_event {name : List Char} {value : Json}
    (hd : poco.Documented holds holdsArray)
    (ha : holdsArray array [.number 8, .string name, value]) :
    allRegistered.dispatchArray poco array =
      (poco.toString (poco.get array 2)).map fun jsonData => [.event (utf8 name) jsonData] := by
  have hid : poco.toInt (poco.get array 0) = .ok 8 :=
    hd.toInt _ 8 (hd.get array _ 0 (.number 8) ha rfl) (by decide) (by decide)
  have hname := hd.toString_string _ _ (hd.get array _ 1 _ ha rfl)
  cases hdata : poco.toString (poco.get array 2) <;>
    simp [dispatchArray, parseEvent, hid, hname, hdata, WampMessageType.value, onEvent,
      allRegistered, bind, Except.bind, pure, Except.pure, Except.map]

theorem dispatchArray_callError {identifier error errorDescription : List Char}
    (hd : poco.Documented holds holdsArray)
    (ha : holdsArray array
      [.number 4, .string identifier, .string error, .string errorDescription]) :
    allRegistered.dispatchArray poco array =
      .ok [.callError (utf8 identifier) (utf8 error) (utf8 errorDescription)] := by
  have hid : poco.toInt (poco.get array 0) = .ok 4 :=
    hd.toInt _ 4 (hd.get array _ 0 (.number 4) ha rfl) (by decide) (by decide)
  have hidentifier := hd.toString_string _ _ (hd.get array _ 1 _ ha rfl)
  have herror := hd.toString_string _ _ (hd.get array _ 2 _ ha rfl)
  have hdescription := hd.toString_string _ _ (hd.get array _ 3 _ ha rfl)
  simp [dispatchArray, parseCallError, hid, hidentifier, herror, hdescription,
    WampMessageType.value, onCallError, allRegistered, bind, Except.bind, pure, Except.pure]

-- A message is delivered if and only if its payload is not null.
theorem delivered_iff (hd : poco.Documented holds holdsArray) (message : IncomingMessage)
    (ht : Json.Text text message.json) :
    message.Delivered (allRegistered.onMessage poco (utf8 text)) ↔
      message.payload ≠ some .null := by
  have hlast : ∀ array values value, holdsArray array values → values[2]? = some value →
      ((∃ data, poco.toString (poco.get array 2) = .ok data) ↔ value ≠ .null) := by
    intro array values value ha hv
    have hholds := hd.get array values 2 value ha hv
    constructor
    · rintro ⟨data, hdata⟩ rfl
      obtain ⟨what, herror⟩ := hd.toString_null _ hholds
      rw [hdata] at herror
      cases herror
    · exact hd.toString_value _ _ hholds
  cases message with
  | callResult identifier value =>
      obtain ⟨array, ha, hm⟩ := onMessage_array hd ht allRegistered
      rw [hm, dispatchArray_callResult hd ha]
      have hvalue := hlast array _ value ha rfl
      cases hdata : poco.toString (poco.get array 2) <;>
        simp_all [IncomingMessage.Delivered, IncomingMessage.payload, Except.map]
  | callError identifier error errorDescription =>
      obtain ⟨array, ha, hm⟩ := onMessage_array hd ht allRegistered
      rw [hm, dispatchArray_callError hd ha]
      simp [IncomingMessage.Delivered, IncomingMessage.payload]
  | event name value =>
      obtain ⟨array, ha, hm⟩ := onMessage_array hd ht allRegistered
      rw [hm, dispatchArray_event hd ha]
      have hvalue := hlast array _ value ha rfl
      cases hdata : poco.toString (poco.get array 2) <;>
        simp_all [IncomingMessage.Delivered, IncomingMessage.payload, Except.map]

def decodeUtf8 (bytes : Bytes) : Option (List Char) :=
  bytes.toByteArray.utf8Decode?.map Array.toList

theorem decodeUtf8_utf8 (text : List Char) : decodeUtf8 (utf8 text) = some text := by
  have h : (text.flatMap String.utf8EncodeChar).toByteArray.utf8Decode? = some text.toArray :=
    List.utf8Decode?_utf8Encode
  simp [decodeUtf8, utf8, h]

-- The text of a value that is no container.
def scalarText : Json → List Char
  | .bool value => (toString value).toList
  | .number value => (toString value).toList
  | .string text => text
  | _ => []

-- An implementation of these calls in which a Var is the JSON value it holds.
-- The texts of arrays and objects are left out of it.
def valuePoco : PocoJson Json (List Json) where
  parse bytes :=
    match (decodeUtf8 bytes).bind Json.parse with
    | some value => .ok value
    | none => .error "JSON Exception"
  extractArray var :=
    match var with
    | .array values => .ok values
    | _ => .error "Bad cast exception"
  get array index := array[index]?.getD .null
  toInt var :=
    match var with
    | .number value =>
        if value.den = 1 ∧ -2 ^ 31 ≤ value.num ∧ value.num < 2 ^ 31 then .ok value.num
        else .error "Out of range"
    | _ => .error "Bad cast exception"
  toString var :=
    match var with
    | .null => .error "Invalid access"
    | value => .ok (utf8 (scalarText value))

theorem valuePoco_documented : valuePoco.Documented Eq Eq where
  parse text value ht := by
    have hparse := Json.parse_eq_some_iff.mpr ht
    exact ⟨value, by simp [valuePoco, decodeUtf8_utf8, hparse], rfl⟩
  extractArray var values hv := ⟨values, by rw [hv]; rfl, rfl⟩
  get array values index value ha hv := by simp [valuePoco, ha, hv]
  toInt var number hv hlow hhigh := by
    have hrange : -2 ^ 31 ≤ number ∧ number < 2 ^ 31 := ⟨hlow, hhigh⟩
    simpa [valuePoco, hv] using hrange
  toString_null var hv := ⟨"Invalid access", by rw [hv]; rfl⟩
  toString_string var text hv := by rw [hv]; rfl
  toString_value var value hv hne := by
    subst hv
    cases var with
    | null => exact absurd rfl hne
    | _ => exact ⟨_, rfl⟩

-- A call whose result is null.
def nullResult : List Char := "[3, \"a\", null]".toList

theorem nullResult_dropped :
    valuePoco.Documented Eq Eq ∧ Json.Text nullResult (IncomingMessage.callResult ['a'] .null).json ∧
      allRegistered.onMessage valuePoco (utf8 nullResult) = [] := by
  have ht : Json.Text nullResult (IncomingMessage.callResult ['a'] .null).json :=
    Json.parse_sound rfl
  refine ⟨valuePoco_documented, ht, ?_⟩
  obtain ⟨array, rfl, hm⟩ := onMessage_array valuePoco_documented ht allRegistered
  rw [hm, dispatchArray_callResult valuePoco_documented rfl]
  rfl

theorem delivered_iff_jsonApiEvent :
    (IncomingMessage.event "OnJsonApiEvent".toList (.bool true)).Delivered
      (allRegistered.onMessage valuePoco (utf8 "[8, \"OnJsonApiEvent\", true]".toList)) :=
  (delivered_iff valuePoco_documented _ (Json.parse_sound rfl)).mpr (by
    simp [IncomingMessage.payload])

end LcuWampHandler

end Rito
