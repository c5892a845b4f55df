import Mathlib
import LoadHarness.Cli.Program

/-!
# What an accepted command line reads

A command reads its arguments into a `Reading`: every parameter starts at its default, and a
parameter is only ever set to what its own type reads from an argument.  `Reading.Sound` states
that as an invariant of readings: one entry per parameter, under the parameter's key and in the
parameters' order, each holding the default or a value of the type of a parameter of that key.

Every move of the reader keeps it: setting a parameter (`Reading.Sound.set`), giving the waiting
positional parameters their shares (`fillPositionals_sound`) and reading an option
(`readOption_ok`), whose parameter always comes from the parser's own options
(`pieces_targets`).  So does every reading a command finishes with (`Command.sound_of_read`),
and the program hands one of its commands the rest of its arguments, so every invocation it reads
names one of its commands with a sound reading (`Program.read_invocation`).  The value stored under
a parameter's key is then of that parameter's type (`Reading.Sound.get_hasType`).
-/

namespace LoadHarness

namespace Cli

deriving instance DecidableEq for ArgType

/-- Whether a value is of the given type: text, a whole number or a double. -/
def ArgValue.hasType (value : ArgValue) (type : ArgType) : Bool :=
  match type, value with
  | .text, .text _ | .integer, .integer _ | .decimal, .decimal _ => true
  | _, _ => false

/-- A value `param` can hold: its default, or a value of its type. -/
def Param.Admits (param : Param) (value : ArgValue) : Prop :=
  value = param.default ∨ value.hasType param.type = true

/-- An option target that sets one of `params`, or asks for help. -/
def Target.Within (params : List Param) : Target → Prop
  | .help => True
  | .param setting => setting ∈ params

/-- A piece whose option, if it is one, is within `params`. -/
def Piece.TargetsIn (params : List Param) : Piece → Prop
  | .option target _ _ => target.Within params
  | _ => True

/-- A reading of `params`: one entry per parameter, under its key and in the parameters' order,
each holding a value that a parameter of that key admits; the positional parameters still
waiting for a share are among `params`. -/
structure Reading.Sound (params : List Param) (reading : Reading) : Prop where
  keys : reading.values.map Prod.fst = params.map Param.dest
  admitted : ∀ entry ∈ reading.values, ∃ param ∈ params, param.dest = entry.1 ∧ param.Admits entry.2
  waiting : ∀ param ∈ reading.waiting, param ∈ params

/-- What an argument converts to is of the parameter's type. -/
theorem convert_hasType {param : Param} {text : String} {value : ArgValue}
    (converted : convert param text = .ok value) : value.hasType param.type = true := by
  unfold convert at converted
  split at converted
  · cases converted
    rename_i text
    simp [ArgValue.hasType, *]
  all_goals
    split at converted
    · cases converted
      simp [ArgValue.hasType, *]
    · cases converted

namespace Reading

variable {params : List Param} {reading : Reading}

theorem sound_start (params : List Param) : (start params).Sound params where
  keys := by simp [start]
  admitted := by
    intro entry member
    simp only [start, List.mem_map] at member
    obtain ⟨param, member, rfl⟩ := member
    exact ⟨param, member, rfl, .inl rfl⟩
  waiting := fun _ member => (List.mem_filter.1 member).1

/-- Setting a parameter of the reading to a value it admits keeps the reading sound: only the
entries under its key change. -/
theorem Sound.set (sound : reading.Sound params) {param : Param} (member : param ∈ params)
    {value : ArgValue} (admits : param.Admits value) : (reading.set param value).Sound params where
  keys := by
    rw [← sound.keys, Reading.set, List.map_map]
    congr 1
    funext entry
    obtain ⟨key, old⟩ := entry
    simp only [Function.comp]
    split <;> rfl
  admitted := by
    intro entry changed
    simp only [Reading.set, List.mem_map] at changed
    obtain ⟨⟨key, old⟩, original, rfl⟩ := changed
    by_cases same : key = param.dest
    · simp only [same, beq_self_eq_true, if_true]
      exact ⟨param, member, rfl, admits⟩
    · simp only [beq_iff_eq, same, if_false]
      exact sound.admitted _ original
  waiting := sound.waiting

theorem Sound.leave (sound : reading.Sound params) (texts : List String) :
    (reading.leave texts).Sound params :=
  ⟨sound.keys, sound.admitted, sound.waiting⟩

/-- A parameter's key reads back a value that a parameter of that key admits. -/
theorem Sound.get_admitted (sound : reading.Sound params) {key : String} (known : key ∈ params.map Param.dest) :
    ∃ param ∈ params, param.dest = key ∧ param.Admits (reading.get key) := by
  rw [← sound.keys, List.mem_map] at known
  obtain ⟨entry, member, keyed⟩ := known
  have present : (reading.values.find? (·.1 == key)).isSome := List.find?_isSome.2 ⟨entry, member, by simp [keyed]⟩
  obtain ⟨found, finds⟩ := Option.isSome_iff_exists.1 present
  obtain ⟨param, within, dest, admits⟩ := sound.admitted found (List.mem_of_find?_eq_some finds)
  have foundKey : found.1 = key := by simpa using List.find?_some finds
  refine ⟨param, within, dest.trans foundKey, ?_⟩
  simpa [Reading.get, finds] using admits

/-- The value under a key of parameters of one type, whose defaults are of that type, is of that
type. -/
theorem Sound.get_hasType (sound : reading.Sound params) {key : String} {type : ArgType}
    (known : key ∈ params.map Param.dest)
    (typed : ∀ param ∈ params, param.dest = key → param.type = type ∧ param.default.hasType type = true) :
    (reading.get key).hasType type = true := by
  obtain ⟨param, within, dest, admits⟩ := sound.get_admitted known
  obtain ⟨sameType, defaultTyped⟩ := typed param within dest
  rcases admits with isDefault | ofType
  · rw [isDefault]
    exact defaultTyped
  · rw [← sameType]
    exact ofType

end Reading

/-! ### The arguments left to read -/

theorem share_suffix (args : List Arg) : (share args).2 <:+ args := by
  unfold share
  simp only [List.span_eq_takeWhile_dropWhile]
  have lead := List.dropWhile_suffix (l := args) (fun arg : Arg => arg.2.isMarker)
  generalize args.dropWhile (fun arg : Arg => arg.2.isMarker) = middle at lead ⊢
  refine (List.dropWhile_suffix _).trans (List.IsSuffix.trans ?_ lead)
  -- the value taken, if any, is the first of the arguments after the markers
  split
  · exact List.suffix_cons _ _
  · exact List.suffix_refl _

variable {params : List Param}

/-- Giving the waiting parameters, all of `params`, their shares keeps a reading sound and leaves a
suffix of the arguments. -/
theorem fillPositionals_go_sound :
    ∀ (waiting : List Param) (reading : Reading) (args : List Arg) {filled : Reading} {rest : List Arg},
      (∀ param ∈ waiting, param ∈ params) → reading.Sound params →
      fillPositionals.go reading args waiting = .ok (filled, rest) → filled.Sound params ∧ rest <:+ args
  | [], reading, args, filled, rest, _, sound, done => by
      simp only [fillPositionals.go, Except.ok.injEq, Prod.mk.injEq] at done
      obtain ⟨rfl, rfl⟩ := done
      exact ⟨sound, List.suffix_refl _⟩
  | param :: others, reading, args, filled, rest, within, sound, done => by
      have member : param ∈ params := within param List.mem_cons_self
      have othersWithin : ∀ other ∈ others, other ∈ params := fun other mem => within other (List.mem_cons_of_mem _ mem)
      have shared := share_suffix args
      simp only [fillPositionals.go] at done
      generalize share args = split at done shared
      obtain ⟨texts, after⟩ := split
      split at done
      · obtain ⟨soundAfter, suffix⟩ := fillPositionals_go_sound others reading after othersWithin sound done
        exact ⟨soundAfter, suffix.trans shared⟩
      · rename_i text _ _
        cases converted : convert param text with
        | error stop => simp [converted, bind, Except.bind] at done
        | ok value =>
            simp only [converted, bind, Except.bind] at done
            obtain ⟨soundAfter, suffix⟩ := fillPositionals_go_sound others _ after othersWithin
              (sound.set member (.inr (convert_hasType converted))) done
            exact ⟨soundAfter, suffix.trans shared⟩

theorem fillPositionals_sound {reading filled : Reading} {args rest : List Arg} (sound : reading.Sound params)
    (filling : fillPositionals reading args = .ok (filled, rest)) : filled.Sound params ∧ rest <:+ args :=
  have cleared : ({ reading with waiting := [] } : Reading).Sound params := ⟨sound.keys, sound.admitted, by simp⟩
  fillPositionals_go_sound reading.waiting _ args sound.waiting cleared filling

/-- An option that was read set its own parameter to a value of the parameter's type, and left a
suffix of the arguments after it. -/
theorem readOption_ok {reading read : Reading} {target : Target} {written : String}
    {attached : Option String} {rest rest' : List Arg}
    (reading' : readOption reading target written attached rest = .ok (read, rest')) :
    ∃ param value text, target = .param param ∧ convert param text = .ok value ∧
      read = reading.set param value ∧ rest' <:+ rest := by
  unfold readOption at reading'
  split at reading'
  · cases reading'
  · split at reading' <;> cases reading'
  · rename_i param given
    cases converted : convert param given with
    | error stop => simp [converted, bind, Except.bind] at reading'
    | ok value =>
        simp only [converted, bind, Except.bind, pure, Except.pure, Except.ok.injEq, Prod.mk.injEq] at reading'
        obtain ⟨rfl, rfl⟩ := reading'
        exact ⟨param, value, given, rfl, converted, rfl, List.suffix_refl _⟩
  · rename_i param
    split at reading'
    · rename_i text more
      cases converted : convert param text with
      | error stop => simp [converted, bind, Except.bind] at reading'
      | ok value =>
          simp only [converted, bind, Except.bind, pure, Except.pure, Except.ok.injEq, Prod.mk.injEq] at reading'
          obtain ⟨rfl, rfl⟩ := reading'
          exact ⟨param, value, text, rfl, converted, rfl, List.suffix_cons _ _⟩
    · cases reading'

/-- Reading a command's arguments, whose options all set parameters among `params`, keeps a reading
of `params` sound. -/
theorem readArgs_sound :
    ∀ (fuel : Nat) (args : List Arg) (reading : Reading) {finished : Reading},
      (∀ arg ∈ args, arg.2.TargetsIn params) → reading.Sound params →
      readArgs fuel args reading = .ok finished → finished.Sound params
  | 0, args, reading, finished, _, sound, done => by
      simp only [readArgs, Except.ok.injEq] at done
      exact done ▸ sound
  | fuel + 1, args, reading, finished, targets, sound, done => by
      rw [readArgs] at done
      -- the arguments before the first option, and what follows it
      have split : args = (args.span fun arg => !arg.2.isOption).1 ++ (args.span fun arg => !arg.2.isOption).2 := by
        simp [List.span_eq_takeWhile_dropWhile]
      generalize args.span (fun arg => !arg.2.isOption) = parts at done split
      obtain ⟨before, after⟩ := parts
      simp only at split
      subst split
      cases after with
      | nil =>
          simp only [bind, Except.bind] at done
          cases filling : fillPositionals reading before with
          | error stop => simp [filling] at done
          | ok result =>
              obtain ⟨filled, rest⟩ := result
              simp only [filling, pure, Except.pure, Except.ok.injEq] at done
              subst done
              exact (fillPositionals_sound sound filling).1.leave _
      | cons first after =>
          obtain ⟨text, piece⟩ := first
          simp only at done
          split at done
          · simp only [bind, Except.bind] at done
            cases filling : fillPositionals reading (before ++ (text, piece) :: after) with
            | error stop => simp [filling] at done
            | ok result =>
                obtain ⟨filled, rest⟩ := result
                simp only [filling] at done
                obtain ⟨soundFilled, suffix⟩ := fillPositionals_sound sound filling
                exact readArgs_sound fuel rest filled (fun arg mem => targets arg (suffix.subset mem))
                  soundFilled done
          · have soundLeft := sound.leave (before.map (·.1))
            have afterTargets : ∀ arg ∈ after, arg.2.TargetsIn params := fun arg mem => targets arg (by simp [mem])
            split at done
            · rename_i target written attached
              simp only [bind, Except.bind] at done
              cases option : readOption (reading.leave (before.map (·.1))) target written attached after with
              | error stop => simp [option] at done
              | ok result =>
                  obtain ⟨read, rest⟩ := result
                  simp only [option] at done
                  obtain ⟨param, value, given, rfl, converted, rfl, suffix⟩ := readOption_ok option
                  have member : param ∈ params := targets (text, .option (.param param) written attached) (by simp)
                  exact readArgs_sound fuel rest _ (fun arg mem => afterTargets arg (suffix.subset mem))
                    (soundLeft.set member (.inr (convert_hasType converted))) done
            · exact readArgs_sound fuel after _ afterTargets (soundLeft.leave [text]) done

/-! ### Where options come from -/

theorem knownOptions_within (options : List Param) :
    ∀ entry ∈ knownOptions options, entry.2.Within options := by
  intro entry member
  simp only [knownOptions, List.mem_cons, List.mem_map] at member
  rcases member with rfl | rfl | ⟨param, within, rfl⟩
  · trivial
  · trivial
  · exact within

/-- Every piece a filter over the known options makes is the option of its entry. -/
theorem filterMap_targets {known : List (String × Target)} {options : List Param}
    (within : ∀ entry ∈ known, entry.2.Within options) {make : String × Target → Option Piece}
    (naming : ∀ entry piece, make entry = some piece → ∃ written attached, piece = .option entry.2 written attached) :
    ∀ piece ∈ known.filterMap make, piece.TargetsIn options := by
  intro piece member
  obtain ⟨entry, listed, made⟩ := List.mem_filterMap.1 member
  obtain ⟨written, attached, rfl⟩ := naming entry piece made
  exact within entry listed

theorem candidates_targets {known : List (String × Target)} {options : List Param}
    (within : ∀ entry ∈ known, entry.2.Within options) (arg : String) :
    ∀ piece ∈ candidates known arg, piece.TargetsIn options := by
  intro piece member
  unfold candidates at member
  dsimp only at member
  -- both spellings filter the known options, naming each by its own entry
  split at member
  · refine filterMap_targets within (fun ⟨name, target⟩ piece made => ?_) piece member
    dsimp only at made
    split_ifs at made
    obtain rfl := Option.some.inj made
    exact ⟨_, _, rfl⟩
  · refine filterMap_targets within (fun ⟨name, target⟩ piece made => ?_) piece member
    dsimp only at made
    split_ifs at made
    · obtain rfl := Option.some.inj made
      exact ⟨_, _, rfl⟩
    · obtain rfl := Option.some.inj made
      exact ⟨_, _, rfl⟩

/-- A piece the parser makes of an argument names an option among its own, or help. -/
theorem classify_targets {options : List Param} {arg : String} {piece : Piece}
    (classified : classify options arg = .ok piece) : piece.TargetsIn options := by
  have within := knownOptions_within options
  have looked : ∀ {key : String} {target : Target}, List.lookup key (knownOptions options) = some target →
      target.Within options := by
    intro key target found
    obtain ⟨front, back, listed, -⟩ := List.lookup_eq_some_iff.1 found
    exact within (key, target) (by rw [listed]; simp)
  unfold classify at classified
  dsimp only at classified
  split at classified
  · split at classified
    · cases classified
      exact looked ‹_›
    · split at classified
      · -- an option written with its value after `=`
        rename_i piece' found
        obtain rfl := Except.ok.inj classified
        split at found
        · obtain ⟨target, listed, rfl⟩ := Option.map_eq_some_iff.1 found
          exact looked listed
        · cases found
      · -- the start of exactly one option's name, or a value
        split at classified
        · obtain rfl := Except.ok.inj classified
          exact candidates_targets within arg _ (by simp [*])
        · obtain rfl := Except.ok.inj classified
          split <;> trivial
        · cases classified
  · cases classified
    trivial

theorem pieces_targets {options : List Param} :
    ∀ {args : List String} {parsed : List Arg}, pieces options args = .ok parsed →
      ∀ arg ∈ parsed, arg.2.TargetsIn options := by
  intro args
  induction args with
  | nil =>
      intro parsed done
      simp only [pieces, Except.ok.injEq] at done
      subst done
      simp
  | cons arg rest induction =>
      intro parsed done
      by_cases marker : arg = "--"
      · subst marker
        simp only [pieces, Except.ok.injEq] at done
        subst done
        intro entry member
        simp only [List.mem_cons, List.mem_map] at member
        rcases member with rfl | ⟨text, -, rfl⟩ <;> trivial
      · rw [pieces.eq_3 _ _ _ marker] at done
        simp only [bind, Except.bind] at done
        cases classified : classify options arg with
        | error message => simp [classified] at done
        | ok piece =>
            cases others : pieces options rest with
            | error message => simp [classified, others] at done
            | ok parsedRest =>
                simp only [classified, others, pure, Except.pure, Except.ok.injEq] at done
                subst done
                intro entry member
                rcases List.mem_cons.1 member with rfl | later
                · exact classify_targets classified
                · exact induction others entry later

theorem Piece.TargetsIn.mono {small large : List Param} (sub : ∀ param ∈ small, param ∈ large) :
    ∀ {piece : Piece}, piece.TargetsIn small → piece.TargetsIn large
  | .option (.param param) _ _, within => sub param within
  | .option .help _ _, _ | .marker, _ | .plain, _ | .unknown, _ => trivial

/-! ### Commands and the program -/

/-- Every reading a command finishes with is sound for its parameters. -/
theorem Command.sound_of_read {command : Command} {args : List String} {reading : Reading}
    (read : command.read args = .ok reading) : reading.Sound command.params := by
  unfold Command.read at read
  split at read
  · cases read
  · rename_i parsed parsing
    have options : ∀ param ∈ command.options, param ∈ command.params :=
      fun param member => (List.mem_filter.1 member).1
    exact readArgs_sound _ parsed _
      (fun arg member => (pieces_targets parsing arg member).mono options) (Reading.sound_start _) read

theorem Program.runCommand_ok {program : Program} {texts : List String} {command : Command} {reading : Reading}
    (ran : program.runCommand texts = .ok (command, reading)) :
    command ∈ program.commands ∧ command.read texts.tail = .ok reading := by
  unfold Program.runCommand at ran
  dsimp only at ran
  split at ran
  · cases ran
  · rename_i chosen found
    split at ran
    · cases ran
      exact ⟨List.mem_of_find?_eq_some found, by assumption⟩
    · cases ran

/-- Reading the program's own arguments chooses a command only by handing it the rest of the
arguments. -/
theorem Program.readOwn_chosen (program : Program) :
    ∀ (fuel : Nat) (args : List Arg) (own : Reading) (chosen : Option (Command × Reading))
      {own' : Reading} {chosen' : Option (Command × Reading)},
      program.readOwn fuel args own chosen = .ok (own', chosen') →
      chosen' = chosen ∨ ∃ texts picked, program.runCommand texts = .ok picked ∧ chosen' = some picked
  | 0, args, own, chosen, own', chosen', done => by
      simp only [Program.readOwn, Except.ok.injEq, Prod.mk.injEq] at done
      exact .inl done.2.symm
  | fuel + 1, args, own, chosen, own', chosen', done => by
      rw [Program.readOwn] at done
      dsimp only at done
      split at done
      · split at done
        · simp only [bind, Except.bind] at done
          cases ran : program.runCommand (args.map (·.1)) with
          | error halt => simp [ran] at done
          | ok picked =>
              simp only [ran, pure, Except.pure, Except.ok.injEq, Prod.mk.injEq] at done
              exact .inr ⟨_, picked, ran, done.2.symm⟩
        · simp only [Except.ok.injEq, Prod.mk.injEq] at done
          exact .inl done.2.symm
      · split at done
        · simp only [bind, Except.bind] at done
          cases ran : program.runCommand (args.map (·.1)) with
          | error halt => simp [ran] at done
          | ok picked =>
              simp only [ran, pure, Except.pure, Except.ok.injEq, Prod.mk.injEq] at done
              exact .inr ⟨_, picked, ran, done.2.symm⟩
        · split at done
          · split at done
            · exact program.readOwn_chosen fuel _ _ chosen done
            · cases done
          · exact program.readOwn_chosen fuel _ _ chosen done

/-- An invocation the program reads names one of its commands, with a reading sound for that
command's parameters. -/
theorem Program.read_invocation {program : Program} {args : List String} {invocation : Invocation}
    (read : program.read args = .ok invocation) :
    invocation.command ∈ program.commands ∧ invocation.reading.Sound invocation.command.params := by
  unfold Program.read at read
  simp only [bind, Except.bind] at read
  split at read
  · cases read
  · rename_i parsed _
    cases owning : program.readOwn (parsed.length + 1) parsed (Reading.start program.options) none with
    | error halt => simp [owning] at read
    | ok result =>
        obtain ⟨own, chosen⟩ := result
        simp only [owning] at read
        cases chosen with
        | none => cases read
        | some picked =>
            obtain ⟨command, reading⟩ := picked
            simp only [pure, Except.pure, Except.ok.injEq] at read
            subst read
            -- the command was chosen by handing it the rest of the arguments
            rcases program.readOwn_chosen _ _ _ none owning with unchosen | ⟨texts, picked, ran, chosen⟩
            · cases unchosen
            · obtain rfl := Option.some.inj chosen
              obtain ⟨member, commandRead⟩ := Program.runCommand_ok ran
              exact ⟨member, Command.sound_of_read commandRead⟩

end Cli

end LoadHarness
