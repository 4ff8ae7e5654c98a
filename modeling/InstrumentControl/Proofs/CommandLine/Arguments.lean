import InstrumentControl.CommandLine.Run
import InstrumentControl.Proofs.Text.Affix

/-! How arguments are read.  An argument without a leading dash is a word.  One with a leading dash is
none, unless it stands after the separator, where every argument is one.  So the words of a command
are all its arguments only if none of them has a leading dash.  A command is given or help is asked
for, but not both. -/

namespace InstrumentControl.CommandLine

/-- The name by which arguments ask for the command. -/
def Command.name : Command → String
  | drivers => "drivers"
  | params _ => "params"
  | get .. => "get"
  | set .. => "set"
  | call .. => "call"
  | snapshot _ => "snapshot"

/-- What follows the name. -/
def Command.arguments : Command → List String
  | drivers => []
  | params driver => [driver]
  | get device parameter => [device, parameter]
  | set device parameter value => [device, parameter, value]
  | call device function arguments => device :: function :: arguments
  | snapshot device => [device]

theorem Command.isDashed_name (command : Command) : isDashed command.name = false := by
  cases command <;> rw [name] <;> decide

@[simp] theorem Command.command?_name_arguments (command : Command) :
    command? command.name command.arguments = some command := by
  cases command <;> rfl

theorem Command.arguments_of_command? {command : Command} {name : String} {arguments : List String}
    (h : command? name arguments = some command) : command.arguments = arguments := by
  unfold command? at h
  split at h <;> cases h <;> rfl

variable {argument name word : String} {arguments : List String} {ts : List Token}
  {command : Command} {i : Invocation}

/-! ### Tokens -/

theorem isDashed_iff :
    isDashed argument = true ↔ ∃ c rest, argument.toList = '-' :: c :: rest := by
  constructor
  · intro h
    rw [isDashed] at h
    split at h
    · next heq => exact ⟨_, _, heq⟩
    · cases h
  · rintro ⟨c, rest, heq⟩
    rw [isDashed, heq]
    rfl

theorem isDashed_of_dropHead? {head : List Char} {c : Char} {rest : List Char}
    (h : Text.dropHead? ('-' :: c :: head) argument.toList = some rest) :
    isDashed argument = true :=
  isDashed_iff.mpr ⟨c, head ++ rest, Text.dropHead?_eq_some.mp h⟩

theorem token?_word (h : isDashed argument = false) : token? argument = some (.word argument) := by
  have hne {option : String} (hoption : isDashed option = true) : argument ≠ option := by
    rintro rfl
    rw [h] at hoption
    cases hoption
  rw [token?, if_neg (hne (by decide)), if_neg (hne (by decide))]
  split
  · next hpath => rw [isDashed_of_dropHead? hpath] at h; cases h
  · rw [h]
    rfl

theorem of_token?_eq_word (h : token? argument = some (.word word)) :
    word = argument ∧ isDashed argument = false := by
  rw [token?] at h
  split at h
  · cases h
  · split at h
    · cases h
    · split at h
      · rw [path?] at h
        split at h <;> cases h
      · split at h
        · cases h
        · next hplain =>
          cases h
          exact ⟨rfl, Bool.eq_false_iff.mpr hplain⟩

theorem isDashed_of_isHelp (h : isHelp argument = true) : isDashed argument = true := by
  rw [isHelp, Bool.or_eq_true, decide_eq_true_eq, List.isPrefixOf_iff_prefix] at h
  rcases h with rfl | ⟨rest, hrest⟩
  · decide
  · exact isDashed_iff.mpr ⟨'h', rest, hrest.symm⟩

theorem isHelp_of_not_isDashed (h : isDashed argument = false) : isHelp argument = false := by
  rw [Bool.eq_false_iff]
  intro hhelp
  rw [isDashed_of_isHelp hhelp] at h
  cases h

theorem tokens?_cons (h : isDashed argument = false) :
    tokens? (argument :: arguments) = (tokens? arguments).map (.word argument :: ·) := by
  rw [tokens?, isHelp_of_not_isDashed h, token?_word h]
  · cases tokens? arguments <;> rfl
  · rintro rfl
    cases h
  · rintro p rest rfl
    cases h

theorem tokens?_words_append (h : ∀ a ∈ arguments, isDashed a = false) (rest : List String) :
    tokens? (arguments ++ rest) = (tokens? rest).map (arguments.map .word ++ ·) := by
  induction arguments with
  | nil => simp
  | cons argument arguments ih =>
    rw [List.forall_mem_cons] at h
    rw [List.cons_append, tokens?_cons h.1, ih h.2, Option.map_map]
    rfl

theorem tokens?_words (h : ∀ a ∈ arguments, isDashed a = false) :
    tokens? arguments = some (arguments.map .word) := by
  have hwords := tokens?_words_append h []
  rw [List.append_nil] at hwords
  rw [hwords, tokens?]
  simp

theorem tokens?_help (h : isHelp argument = true) (rest : List String) :
    tokens? (argument :: rest) = some [.help] := by
  rw [tokens?, if_pos h]
  · rintro rfl
    cases h
  · rintro p more rfl
    cases h

@[simp] theorem words_map_word (arguments : List String) :
    words (arguments.map .word) = arguments := by
  simp [words, List.filterMap_map]

theorem words_cons_option {t : Token} (h : ∀ s, t ≠ .word s) (ts : List Token) :
    words (t :: ts) = words ts := by
  cases t with
  | word s => exact absurd rfl (h s)
  | _ => rfl

/-- The words are arguments in their order, and they are all of them only if each is a word. -/
theorem words_sublist (h : tokens? arguments = some ts) :
    (words ts).Sublist arguments ∧
      (words ts = arguments → ∀ a ∈ arguments, isDashed a = false) := by
  have hskip {argument : String} {rest ws : List String} (hsublist : ws.Sublist rest) :
      ws.Sublist (argument :: rest) ∧
        (ws = argument :: rest → ∀ a ∈ argument :: rest, isDashed a = false) := by
    refine ⟨hsublist.cons _, fun heq => ?_⟩
    rw [heq] at hsublist
    exact absurd hsublist.length_le (Nat.not_succ_le_self _)
  fun_induction tokens? arguments generalizing ts with
  | case1 =>
    cases h
    exact ⟨.slnil, fun _ _ => nofun⟩
  | case2 rest =>
    cases h
    rw [words_cons_option (t := .separator) nofun, words_map_word]
    exact hskip (List.Sublist.refl rest)
  | case3 => cases h
  | case4 p rest hp ih =>
    simp only [Option.bind_eq_bind, Option.bind_eq_some_iff, Option.pure_def,
      Option.some.injEq] at h
    obtain ⟨t, ht, ts, hts, rfl⟩ := h
    obtain ⟨hsublist, -⟩ := ih hts
    have hoption (s : String) : t ≠ .word s := by
      rintro rfl
      rw [path?] at ht
      split at ht <;> cases ht
    rw [words_cons_option hoption]
    exact hskip (hsublist.cons _)
  | case5 argument rest _ _ _ =>
    cases h
    exact hskip (List.nil_sublist rest)
  | case6 argument rest _ _ _ ih =>
    simp only [Option.bind_eq_bind, Option.bind_eq_some_iff, Option.pure_def,
      Option.some.injEq] at h
    obtain ⟨t, ht, ts, hts, rfl⟩ := h
    obtain ⟨hsublist, hall⟩ := ih hts
    by_cases hword : ∃ s, t = .word s
    · obtain ⟨s, rfl⟩ := hword
      obtain ⟨rfl, hplain⟩ := of_token?_eq_word ht
      refine ⟨hsublist.cons_cons _, fun heq => ?_⟩
      rw [List.forall_mem_cons]
      exact ⟨hplain, hall (List.cons.inj heq).2⟩
    · rw [words_cons_option (not_exists.mp hword)]
      exact hskip hsublist

/-! ### Commands -/

theorem switches?_of_no_option (h : ∀ t ∈ ts, isOption t = false) :
    switches? ts = some ⟨none, false, false⟩ := by
  have hnone {t : Token} (ht : isOption t = true) : t ∉ ts := fun hmem => by simp [h t hmem] at ht
  have hpaths {path : Token → Option String} (hpath : ∀ t, isOption t = false → path t = none) :
      ts.filterMap path = [] :=
    List.filterMap_eq_nil_iff.mpr fun t ht => hpath t (h t ht)
  have hdry : Token.dryRun ∉ ts := hnone rfl
  have hjson : Token.json ∉ ts := hnone rfl
  have hhelp : Token.help ∉ ts := hnone rfl
  rw [switches?, hpaths, List.count_eq_zero.mpr hdry, List.count_eq_zero.mpr hjson]
  · simp [hdry, hjson, hhelp]
  · intro t ht
    cases t with
    | path p => cases ht
    | _ => rfl

/-- What is read after a name that no option precedes. -/
theorem parse?_cons (h : isDashed name = false) : parse? (name :: arguments) = do
    let ts ← tokens? arguments
    let inner ← switches? ts
    let command ← command? name (words ts)
    return { path := inner.path.getD "labinstr.toml", isDry := inner.isDry,
             asJson := inner.asJson, command } := by
  rw [parse?, tokens?_cons h]
  cases tokens? arguments with
  | none => rfl
  | some ts =>
    have hnone : switches? [] = some ⟨none, false, false⟩ := rfl
    simp [List.takeWhile, List.dropWhile, isOption, hnone]

/-- A command is read from its name and arguments if each argument is a word. -/
theorem parse?_words (h : ∀ a ∈ command.arguments, isDashed a = false) :
    parse? (command.name :: command.arguments) = some { command } := by
  have hswitches : switches? (command.arguments.map .word) = some ⟨none, false, false⟩ :=
    switches?_of_no_option (by simp [isOption])
  rw [parse?_cons command.isDashed_name, tokens?_words h]
  simp [hswitches]

/-- After the separator every argument is a word. -/
theorem parse?_separated (command : Command) :
    parse? (command.name :: "--" :: command.arguments) = some { command } := by
  have hswitches : switches? (.separator :: command.arguments.map .word) =
      some ⟨none, false, false⟩ := switches?_of_no_option (by simp [isOption])
  have hwords : words (.separator :: command.arguments.map .word) = command.arguments :=
    words_map_word _
  rw [parse?_cons command.isDashed_name, tokens?]
  simp [hswitches, hwords]

/-- The name and the arguments of a command are read as that command only if each argument is a
word. -/
theorem not_isDashed_of_parse? (hi : parse? (command.name :: command.arguments) = some i)
    (hcommand : i.command = command) : ∀ a ∈ command.arguments, isDashed a = false := by
  rw [parse?_cons command.isDashed_name] at hi
  simp only [Option.bind_eq_bind, Option.bind_eq_some_iff, Option.pure_def, Option.some.injEq] at hi
  obtain ⟨ts, hts, _, _, read, hread, rfl⟩ := hi
  obtain rfl : read = command := hcommand
  exact (words_sublist hts).2 (Command.arguments_of_command? hread).symm

/-- The name and the arguments of a command are read as the command exactly if each argument is a
word. -/
theorem parse?_iff (command : Command) :
    parse? (command.name :: command.arguments) = some { command } ↔
      ∀ a ∈ command.arguments, isDashed a = false :=
  ⟨fun h => not_isDashed_of_parse? h rfl, parse?_words⟩

/-! ### Short options -/

/-- The argument has one leading dash and does not ask for help.  There is no other option of that
kind. -/
def IsShort (argument : String) : Prop :=
  ∃ c rest, argument.toList = '-' :: c :: rest ∧ c ≠ '-' ∧ c ≠ 'h'

theorem IsShort.isDashed (h : IsShort argument) : isDashed argument = true := by
  obtain ⟨c, rest, heq, -⟩ := h
  exact isDashed_iff.mpr ⟨c, rest, heq⟩

theorem IsShort.not_isPrefix (h : IsShort argument) : ¬ ['-', '-'] <+: argument.toList := by
  obtain ⟨c, rest, heq, hc, -⟩ := h
  rintro ⟨more, hmore⟩
  rw [heq] at hmore
  cases hmore
  exact hc rfl

theorem IsShort.ne (h : IsShort argument) {option : String}
    (hoption : ['-', '-'] <+: option.toList) : argument ≠ option :=
  fun heq => h.not_isPrefix (heq ▸ hoption)

theorem IsShort.token?_eq_none (h : IsShort argument) : token? argument = none := by
  rw [token?, if_neg (h.ne (by decide)), if_neg (h.ne (by decide))]
  split
  · next hpath =>
    rw [Text.dropHead?_eq_some] at hpath
    exact absurd ⟨_, hpath.symm⟩ h.not_isPrefix
  · exact if_pos h.isDashed

theorem IsShort.isHelp_eq_false (h : IsShort argument) : isHelp argument = false := by
  rw [Bool.eq_false_iff]
  intro hhelp
  rw [isHelp, Bool.or_eq_true, decide_eq_true_eq, List.isPrefixOf_iff_prefix] at hhelp
  rcases hhelp with hlong | ⟨more, hmore⟩
  · exact h.ne (by decide) hlong
  · obtain ⟨c, rest, heq, -, hc⟩ := h
    rw [heq] at hmore
    cases hmore
    exact hc rfl

theorem tokens?_short (h : IsShort argument) : tokens? (argument :: arguments) = none := by
  rw [tokens?, h.isHelp_eq_false, h.token?_eq_none]
  · rfl
  · exact h.ne (by decide)
  · exact fun _ _ heq _ => h.ne (by decide) heq

/-- Arguments are not understood if one is dashed and all that are dashed are short options. -/
theorem tokens?_eq_none_of_short (hname : isDashed name = false)
    (hshort : ∀ a ∈ arguments, isDashed a = true → IsShort a)
    (hdashed : ∃ a ∈ arguments, isDashed a = true) : tokens? (name :: arguments) = none := by
  have hnone : tokens? arguments = none := by
    induction arguments with
    | nil => simp at hdashed
    | cons argument arguments ih =>
      rw [List.forall_mem_cons] at hshort
      rw [List.exists_mem_cons_iff] at hdashed
      cases hfirst : isDashed argument with
      | true => exact tokens?_short (hshort.1 hfirst)
      | false =>
        rw [hfirst] at hdashed
        rw [tokens?_cons hfirst, ih hshort.2 (hdashed.resolve_left nofun)]
        rfl
  rw [tokens?_cons hname, hnone]
  rfl

/-! ### Help -/

theorem not_mem_of_switches? {switches : Switches} (h : switches? ts = some switches) :
    Token.help ∉ ts := by
  intro hmem
  simp [switches?, hmem] at h

/-- Arguments that ask for help give no command to perform. -/
theorem asksHelp_of_parse? (h : parse? arguments = some i) : asksHelp arguments = false := by
  unfold parse? at h
  simp only [Option.bind_eq_bind, Option.bind_eq_some_iff] at h
  obtain ⟨ts, hts, outer, houter, h⟩ := h
  split at h
  · next name rest hdrop =>
    simp only [Option.bind_eq_some_iff] at h
    obtain ⟨inner, hinner, command, hcommand, -⟩ := h
    have hhelp : ts.getLast? ≠ some .help := by
      intro hlast
      have hmem := List.mem_of_getLast? hlast
      rw [← List.takeWhile_append_dropWhile (p := isOption) (l := ts), hdrop, List.mem_append,
        List.mem_cons] at hmem
      rcases hmem with hmem | hmem | hmem
      · exact not_mem_of_switches? houter hmem
      · cases hmem
      · exact not_mem_of_switches? hinner hmem
    have hname : name ≠ "help" := by
      rintro rfl
      cases hcommand
    rw [asksHelp, hts]
    simp only [if_neg hhelp, isHelpCommand, hdrop]
    split <;> simp_all
  · cases h

/-- Help is given whatever the surroundings are, and it is no failure. -/
theorem run_of_asksHelp (h : asksHelp arguments = true) (c : Catalogue) (s : Surroundings) :
    run c s arguments = { exitCode := 0, output := s.help arguments } := by
  cases hparse : parse? arguments with
  | some i => exact absurd h (by simp [asksHelp_of_parse? hparse])
  | none => simp [run, hparse, h]

/-- A command lacks three arguments at most. -/
theorem isCompletable_iff : isCompletable name arguments = true ↔
    ∃ more command, command? name (arguments ++ more) = some command := by
  rw [isCompletable, List.any_eq_true]
  constructor
  · rintro ⟨n, -, hn⟩
    obtain ⟨command, hcommand⟩ := Option.isSome_iff_exists.mp hn
    exact ⟨_, command, hcommand⟩
  · rintro ⟨more, command, hcommand⟩
    have hwords := Command.arguments_of_command? hcommand
    -- the command says how many arguments there are, and so how many of them are missing
    unfold command? at hcommand
    split at hcommand <;> cases hcommand <;>
      rcases arguments with _ | ⟨a, _ | ⟨b, _ | ⟨c, ws⟩⟩⟩ <;>
      simp_all [Command.arguments, command?, List.range_succ]

/-- After the name of a command and some of its arguments help can be asked for, whatever stands
after that. -/
theorem asksHelp_after_words (hname : isDashed name = false)
    (hwords : ∀ a ∈ arguments, isDashed a = false) (hhelp : isHelp argument = true)
    (rest : List String) :
    asksHelp (name :: arguments ++ argument :: rest) = isCompletable name arguments := by
  have htokens : tokens? (name :: arguments ++ argument :: rest) =
      some ((name :: arguments).map .word ++ [.help]) := by
    rw [tokens?_words_append (List.forall_mem_cons.mpr ⟨hname, hwords⟩), tokens?_help hhelp]
    rfl
  have hswitches : switches? (arguments.map .word) = some ⟨none, false, false⟩ :=
    switches?_of_no_option (by simp [isOption])
  have hnone : switches? [] = some ⟨none, false, false⟩ := rfl
  rw [asksHelp, htokens]
  simp only [List.getLast?_concat, List.dropLast_concat, if_true, isBeginning, List.map_cons]
  simp [List.takeWhile, List.dropWhile, isOption, hnone, hswitches]

end InstrumentControl.CommandLine
