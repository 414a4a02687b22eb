import Mathlib.Data.List.Infix
import Rito.LcuProcessHandler.Extraction

namespace Rito

-- What stands between two arguments of a command line.
inductive Separator where
  | space
  | nul
  deriving DecidableEq, Repr

def Separator.char : Separator → Char
  | .space => ' '
  | .nul => '\x00'

-- A command line as its first argument, and the others with what stands before
-- them. A line that ends in a separator has an empty last argument.
structure CommandLine where
  first : List Char
  others : List (Separator × List Char)
  deriving DecidableEq, Repr

namespace CommandLine

def arguments (line : CommandLine) : List (List Char) := line.first :: line.others.map Prod.snd

def text (line : CommandLine) : List Char :=
  line.first ++ line.others.flatMap fun (separator, argument) => separator.char :: argument

-- An argument is followed by a separator or by the end of the line.
theorem exists_text {line : CommandLine} {argument : List Char} (h : argument ∈ line.arguments) :
    ∃ before tail, line.text = before ++ (argument ++ tail) ∧
      (tail = [] ∨ ∃ (separator : Separator) (after : List Char), tail = separator.char :: after) := by
  have hend : ∀ others : List (Separator × List Char),
      let tail := others.flatMap fun (separator, argument) => separator.char :: argument
      tail = [] ∨ ∃ (separator : Separator) (after : List Char), tail = separator.char :: after := by
    intro others
    cases others with
    | nil => exact Or.inl rfl
    | cons pair others => exact Or.inr ⟨pair.1, _, rfl⟩
  rcases List.mem_cons.mp h with rfl | hm
  · exact ⟨[], _, rfl, hend line.others⟩
  · obtain ⟨⟨separator, _⟩, hpair, rfl⟩ := List.mem_map.mp hm
    obtain ⟨left, right, hsplit⟩ := List.append_of_mem hpair
    refine ⟨line.first ++ (left.flatMap fun (separator, argument) => separator.char :: argument) ++
      [separator.char], _, ?_, hend right⟩
    simp [text, hsplit]

end CommandLine

namespace LcuProcessHandler

variable {option value : List Char} {isValueChar : Char → Bool} {what : String}
  {line : CommandLine}

-- An option that stands once on the line, with a malformed value, is only
-- accepted where the value starts with a value character.
theorem rejects_iff (hsep : ∀ separator : Separator, isValueChar separator.char = false)
    (hv : option ++ value ∈ line.arguments) (hu : ∃! before, before ++ option <+: line.text) :
    ((value = [] ∨ ∃ char ∈ value, isValueChar char = false) →
        ∃ what', extract (optionRegex option isValueChar) what line.text =
          .error (.lcuParameters what')) ↔
      ∀ char ∈ value.head?, isValueChar char = true → value.all isValueChar = true := by
  obtain ⟨before, tail, htext, htail⟩ := CommandLine.exists_text hv
  rw [List.append_assoc] at htext
  obtain ⟨unique, -, huniq⟩ := hu
  have honly : ∀ other after, line.text = other ++ (option ++ after) → other = before := by
    intro other after ho
    rw [huniq before ⟨value ++ tail, by simp [htext]⟩]
    exact huniq other ⟨after, by simp [ho]⟩
  rw [rejected_of_unique htext honly]
  cases value with
  | nil =>
      have hnone : ([] ++ tail).takeWhile isValueChar = [] := by
        rcases htail with rfl | ⟨separator, after, rfl⟩
        · rfl
        · exact List.takeWhile_cons_of_neg (by simp [hsep])
      exact iff_of_true (fun _ => Or.inl hnone) (fun char hc => by cases hc)
  | cons char rest =>
      cases hall : (char :: rest).all isValueChar with
      | true =>
          refine iff_of_true ?_ (fun _ _ _ => rfl)
          rintro (hnil | ⟨bad, hm, hbad⟩)
          · cases hnil
          · rw [List.all_eq_true.mp hall bad hm] at hbad
            cases hbad
      | false =>
          have hbad : ∃ bad ∈ char :: rest, isValueChar bad = false := by
            obtain ⟨bad, hm, hb⟩ := List.all_eq_false.mp hall
            exact ⟨bad, hm, by simpa using hb⟩
          have hsuffix : (char :: rest ++ tail).all isValueChar = false := by
            rw [List.all_append, hall, Bool.false_and]
          simp only [hbad, or_true, true_imp_iff, hsuffix, Bool.false_eq_true, or_false,
            List.head?_cons, Option.mem_def, Option.some.injEq, forall_eq', imp_false]
          cases hchar : isValueChar char with
          | true => simp [hchar]
          | false => simp [hchar]

-- A malformed token or port is rejected exactly when its first character is
-- already malformed, or missing.
theorem malformed_rejected_iff (line : CommandLine) :
    (∀ value, tokenOption ++ value ∈ line.arguments →
        (∃! before, before ++ tokenOption <+: line.text) →
        (((value = [] ∨ ∃ char ∈ value, isTokenChar char = false) →
            ∃ what, extractRemotingAuthToken line.text = .error (.lcuParameters what)) ↔
          ∀ char ∈ value.head?, isTokenChar char = true → value.all isTokenChar = true)) ∧
      ∀ value, portOption ++ value ∈ line.arguments →
        (∃! before, before ++ portOption <+: line.text) →
        (((value = [] ∨ ∃ char ∈ value, char.isDigit = false) →
            ∃ what, extractAppPort line.text = .error (.lcuParameters what)) ↔
          ∀ char ∈ value.head?, char.isDigit = true → value.all Char.isDigit = true) :=
  ⟨fun _ => rejects_iff (by intro separator; cases separator <;> decide),
    fun _ => rejects_iff (by intro separator; cases separator <;> decide)⟩

-- The token has a character outside its alphabet behind two that are in it.
def cutToken : CommandLine :=
  ⟨"LeagueClientUx.exe".toList,
    [(.space, "--remoting-auth-token=ab@cd".toList), (.space, "--app-port=51234".toList)]⟩

theorem existsUnique_of_inits {text : List Char} (before : List Char)
    (h : text.inits.filter (fun start => (start ++ option).isPrefixOf text) = [before]) :
    ∃! before, before ++ option <+: text := by
  have hmem : ∀ start, start ++ option <+: text ↔ start ∈ [before] := by
    intro start
    rw [← h, List.mem_filter, List.mem_inits, List.isPrefixOf_iff_prefix]
    exact ⟨fun hs => ⟨(List.prefix_append start option).trans hs, hs⟩, fun hs => hs.2⟩
  exact ⟨before, (hmem before).mpr (by simp), fun start hs => by simpa using (hmem start).mp hs⟩

theorem cutToken_accepted :
    tokenOption ++ "ab@cd".toList ∈ cutToken.arguments ∧
      (∃! before, before ++ tokenOption <+: cutToken.text) ∧
      (∃ char ∈ "ab@cd".toList, isTokenChar char = false) ∧
      extractRemotingAuthToken cutToken.text = .ok "ab".toList :=
  ⟨by decide, existsUnique_of_inits "LeagueClientUx.exe ".toList (by decide),
    ⟨'@', by decide, by decide⟩, by decide⟩

-- A token whose first character is malformed, and no port at all.
def wrongToken : CommandLine :=
  ⟨"LeagueClientUx.exe".toList,
    [(.nul, "--remoting-auth-token='Has@".toList), (.nul, "--app-port=".toList), (.nul, [])]⟩

theorem malformed_rejected_iff_wrongToken :
    (∃ what, extractRemotingAuthToken wrongToken.text = .error (.lcuParameters what)) ∧
      ∃ what, extractAppPort wrongToken.text = .error (.lcuParameters what) :=
  ⟨((malformed_rejected_iff wrongToken).1 "'Has@".toList (by decide)
      (existsUnique_of_inits "LeagueClientUx.exe\x00".toList (by decide))).mpr
      (by rintro char ⟨⟩; decide) (Or.inr ⟨'@', by decide, by decide⟩),
    ((malformed_rejected_iff wrongToken).2 [] (by decide)
      (existsUnique_of_inits
        "LeagueClientUx.exe\x00--remoting-auth-token='Has@\x00".toList (by decide))).mpr
      (by rintro char ⟨⟩) (Or.inl rfl)⟩

-- An option without a blank stands inside one of the joined arguments.
theorem occurrence_split {arguments : List (List Char)} {other after : List Char}
    (hb : ' ' ∉ option) (ho : option ≠ [])
    (h : [' '].intercalate arguments = other ++ (option ++ after)) :
    ∃ left x y right, arguments = left ++ (x ++ (option ++ y)) :: right ∧
      other = left.flatMap (· ++ [' ']) ++ x := by
  induction arguments generalizing other with
  | nil => simp [ho] at h
  | cons argument arguments ih =>
      cases arguments with
      | nil =>
          rw [List.intercalate_singleton] at h
          exact ⟨[], other, after, [], by rw [h]; rfl, rfl⟩
      | cons next rest =>
          rw [List.intercalate_cons_cons, List.append_assoc, List.singleton_append] at h
          rcases List.append_eq_append_iff.mp h with ⟨inner, rfl, hr⟩ | ⟨inner, rfl, hr⟩
          · cases inner with
            | nil =>
                obtain ⟨first, option, rfl⟩ := List.exists_cons_of_ne_nil ho
                obtain ⟨rfl, -⟩ := List.cons.inj hr
                exact absurd List.mem_cons_self hb
            | cons blank inner =>
                obtain ⟨rfl, hrest⟩ := List.cons.inj hr
                obtain ⟨left, x, y, right, hargs, rfl⟩ := ih hrest
                exact ⟨argument :: left, x, y, right, by rw [hargs]; rfl, by simp⟩
          · rcases List.append_eq_append_iff.mp hr with ⟨inner', rfl, -⟩ | ⟨inner', rfl, hr'⟩
            · exact ⟨[], other, inner', next :: rest, rfl, rfl⟩
            · cases inner' with
              | nil => exact ⟨[], other, [], next :: rest, by simp, rfl⟩
              | cons blank inner' =>
                  obtain ⟨rfl, -⟩ := List.cons.inj hr'
                  simp at hb

theorem intercalate_split (left right : List (List Char)) (argument : List Char) :
    [' '].intercalate (left ++ argument :: right) =
      left.flatMap (· ++ [' ']) ++ (argument ++ right.flatMap (' ' :: ·)) := by
  induction left with
  | nil =>
      induction right generalizing argument with
      | nil => simp
      | cons next right ih =>
          simp only [List.nil_append] at ih ⊢
          rw [List.intercalate_cons_cons, ih]
          simp
  | cons first left ih =>
      rw [List.cons_append, List.intercalate_cons_of_ne_nil (by simp), ih]
      simp

-- With one argument that has the option at its start, and no other place it
-- stands, the value is found unless that argument is the last one.
theorem extract_joined {arguments rest : List (List Char)} (hb : ' ' ∉ option) (ho : option ≠ [])
    (hblank : isValueChar ' ' = false) (hne : value ≠ []) (hall : value.all isValueChar = true)
    (hargs : arguments.Perm ((option ++ value) :: rest))
    (hfree : ∀ argument ∈ rest, ¬option <:+: argument)
    (hstart : ∀ x y, option ++ value = x ++ (option ++ y) → x = []) :
    extract (optionRegex option isValueChar) what ([' '].intercalate arguments) =
      if arguments.getLast? = some (option ++ value) then .error (.lcuParameters what)
      else .ok value := by
  obtain ⟨left, right, rfl⟩ := List.append_of_mem (hargs.mem_iff.mpr List.mem_cons_self)
  have hothers : ∀ argument ∈ left ++ right, ¬option <:+: argument := by
    intro argument hm
    exact hfree argument ((List.perm_middle.symm.trans hargs).cons_inv.mem_iff.mp hm)
  have hself : option <:+: option ++ value := List.infix_append' [] option value
  have htext : [' '].intercalate (left ++ (option ++ value) :: right) =
      left.flatMap (· ++ [' ']) ++ (option ++ (value ++ right.flatMap (' ' :: ·))) := by
    rw [intercalate_split, List.append_assoc option]
  have honly : ∀ other after, [' '].intercalate (left ++ (option ++ value) :: right) =
      other ++ (option ++ after) → other = left.flatMap (· ++ [' ']) := by
    intro other after hother
    obtain ⟨left', x, y, right', hsplit, rfl⟩ := occurrence_split hb ho hother
    have hinside : ∀ argument ∈ left ++ right, x ++ (option ++ y) ≠ argument := by
      rintro argument hm rfl
      exact hothers _ hm ⟨x, y, by simp⟩
    obtain ⟨rfl, hvalue, -⟩ := (List.append_cons_inj_of_notMem
      (fun hm => hinside _ (List.mem_append_left _ hm) rfl)
      (fun hm => hinside _ (List.mem_append_right _ hm) rfl)).mp hsplit
    rw [hstart x y hvalue, List.append_nil]
  rw [extract_of_unique htext honly]
  cases right with
  | nil =>
      have hrun : value.takeWhile isValueChar = value := by
        rw [List.takeWhile_eq_self_iff]
        exact List.all_eq_true.mp hall
      simp [hrun, hall, hne]
  | cons next right =>
      have hrun : (value ++ ' ' :: (next ++ right.flatMap (' ' :: ·))).takeWhile isValueChar =
          value := takeWhile_append_cons hall hblank
      have hlast : (left ++ (option ++ value) :: next :: right).getLast? ≠ some (option ++ value) := by
        intro h
        have hm : option ++ value ∈ next :: right := by
          rw [List.getLast?_append, List.getLast?_cons_cons] at h
          exact List.mem_of_getLast? (by simpa using h)
        exact hothers _ (List.mem_append_right _ hm) hself
      rw [if_neg hlast]
      simp [hrun, hne, hblank]

end LcuProcessHandler

-- The launch arguments of the client in some order: one well-formed token, one
-- well-formed port, and others in which neither option stands.
structure LaunchArguments where
  token : List Char
  port : List Char
  others : List (List Char)
  token_ne : token ≠ []
  token_valid : token.all LcuProcessHandler.isTokenChar = true
  port_ne : port ≠ []
  port_valid : port.all Char.isDigit = true
  others_free : ∀ argument ∈ others, ¬LcuProcessHandler.tokenOption <:+: argument ∧
    ¬LcuProcessHandler.portOption <:+: argument

namespace LaunchArguments

open LcuProcessHandler

def tokenArgument (launch : LaunchArguments) : List Char := tokenOption ++ launch.token

def portArgument (launch : LaunchArguments) : List Char := portOption ++ launch.port

def arguments (launch : LaunchArguments) : List (List Char) :=
  launch.tokenArgument :: launch.portArgument :: launch.others

-- The one equals sign of an argument is the end of the option in it.
theorem name_eq {name other value x y : List Char} (hn : '=' ∉ name) (hv : '=' ∉ value)
    (h : name ++ ['='] ++ value = x ++ (other ++ ['='] ++ y)) : name = x ++ other := by
  have hcons : name ++ '=' :: value = (x ++ other) ++ '=' :: y := by simpa using h
  exact ((List.append_cons_inj_of_notMem hn hv).mp hcons).1

variable (launch : LaunchArguments) {x y : List Char}

theorem tokenOption_eq : tokenOption = "--remoting-auth-token".toList ++ ['='] := by decide

theorem portOption_eq : portOption = "--app-port".toList ++ ['='] := by decide

theorem equals_notMem_token : '=' ∉ launch.token := by
  intro hm
  have hv := List.all_eq_true.mp launch.token_valid '=' hm
  exact absurd hv (by decide)

theorem equals_notMem_port : '=' ∉ launch.port := by
  intro hm
  have hv := List.all_eq_true.mp launch.port_valid '=' hm
  exact absurd hv (by decide)

theorem token_start (h : launch.tokenArgument = x ++ (tokenOption ++ y)) : x = [] := by
  rw [tokenArgument, tokenOption_eq] at h
  exact List.self_eq_append_left.mp (name_eq (by decide) launch.equals_notMem_token h)

theorem port_start (h : launch.portArgument = x ++ (portOption ++ y)) : x = [] := by
  rw [portArgument, portOption_eq] at h
  exact List.self_eq_append_left.mp (name_eq (by decide) launch.equals_notMem_port h)

theorem not_tokenOption_infix : ¬tokenOption <:+: launch.portArgument := by
  rintro ⟨x, y, h⟩
  rw [portArgument, tokenOption_eq, portOption_eq, List.append_assoc x] at h
  have hsuffix : "--remoting-auth-token".toList <:+ "--app-port".toList :=
    ⟨x, (name_eq (by decide) launch.equals_notMem_port h.symm).symm⟩
  exact absurd hsuffix (by decide)

theorem not_portOption_infix : ¬portOption <:+: launch.tokenArgument := by
  rintro ⟨x, y, h⟩
  rw [tokenArgument, tokenOption_eq, portOption_eq, List.append_assoc x] at h
  have hsuffix : "--app-port".toList <:+ "--remoting-auth-token".toList :=
    ⟨x, (name_eq (by decide) launch.equals_notMem_token h.symm).symm⟩
  exact absurd hsuffix (by decide)

-- In whatever order the arguments come, token and port are found if and only
-- if neither of the two is the last argument.
theorem arguments_extracted_iff {arguments : List (List Char)} (h : arguments.Perm launch.arguments) :
    (extractRemotingAuthToken ([' '].intercalate arguments) = .ok launch.token ∧
        extractAppPort ([' '].intercalate arguments) = .ok launch.port) ↔
      ∀ last ∈ arguments.getLast?,
        last ≠ launch.tokenArgument ∧ last ≠ launch.portArgument := by
  obtain ⟨what, htoken⟩ : ∃ what, extractRemotingAuthToken ([' '].intercalate arguments) =
      if arguments.getLast? = some launch.tokenArgument then .error (.lcuParameters what)
      else .ok launch.token := by
    refine ⟨_, extract_joined (by decide) (by decide) (by decide) launch.token_ne
      launch.token_valid h ?_ fun x y => launch.token_start⟩
    intro argument hm
    rcases List.mem_cons.mp hm with rfl | hm
    · exact launch.not_tokenOption_infix
    · exact (launch.others_free argument hm).1
  obtain ⟨what', hport⟩ : ∃ what', extractAppPort ([' '].intercalate arguments) =
      if arguments.getLast? = some launch.portArgument then .error (.lcuParameters what')
      else .ok launch.port := by
    refine ⟨_, extract_joined (by decide) (by decide) (by decide) launch.port_ne
      launch.port_valid (h.trans (.swap _ _ _)) ?_ fun x y => launch.port_start⟩
    intro argument hm
    rcases List.mem_cons.mp hm with rfl | hm
    · exact launch.not_portOption_infix
    · exact (launch.others_free argument hm).2
  rw [htoken, hport]
  constructor
  · rintro ⟨ht, hp⟩ last hlast
    rw [Option.mem_def] at hlast
    constructor
    · rintro rfl
      rw [if_pos hlast] at ht
      cases ht
    · rintro rfl
      rw [if_pos hlast] at hp
      cases hp
  · intro hlast
    have ht : arguments.getLast? ≠ some launch.tokenArgument := fun h => (hlast _ h).1 rfl
    have hp : arguments.getLast? ≠ some launch.portArgument := fun h => (hlast _ h).2 rfl
    rw [if_neg ht, if_neg hp]
    exact ⟨rfl, rfl⟩

def launched : LaunchArguments where
  token := "MyExampleAuthToken".toList
  port := "12345".toList
  others := ["LeagueClientUx.exe".toList, "--respawn-display-name=League of Legends".toList]
  token_ne := by decide
  token_valid := by decide
  port_ne := by decide
  port_valid := by decide
  others_free := by decide

theorem portLast_rejected :
    [launched.others[0], launched.tokenArgument, launched.others[1], launched.portArgument].Perm
        launched.arguments ∧
      (extractAppPort ([' '].intercalate [launched.others[0], launched.tokenArgument,
        launched.others[1], launched.portArgument])).isOk = false := by
  decide

theorem arguments_extracted_iff_tokenFirst :
    extractRemotingAuthToken ([' '].intercalate [launched.tokenArgument, launched.portArgument,
        launched.others[1], launched.others[0]]) = .ok launched.token ∧
      extractAppPort ([' '].intercalate [launched.tokenArgument, launched.portArgument,
        launched.others[1], launched.others[0]]) = .ok launched.port :=
  (launched.arguments_extracted_iff (by decide)).mpr (by decide)

end LaunchArguments

end Rito
