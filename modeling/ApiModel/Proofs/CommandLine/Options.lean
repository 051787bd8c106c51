import ApiModel.CommandLine.Arguments

/-!
# The option for the file to write to

Options are read one after another, and what each does to the choices so far does not depend on the
file to write to. So the option that names it may be put among the others, at any place and in any
of its spellings: where none of the others names a file, it does so, and changes nothing else.

* `takeOptions_aim`: a file that is named beforehand, unless others are, is all that changes.
* `takeOptions_spelling`: what each spelling of the option does.
* `invocation_spelling`: what arguments ask for with the option among them.
-/

namespace ApiModel.CommandLine

variable {c d : Choices} {rest left before after spelling : List String} {path arg name : String}

/-- The choices with a file to write to, unless they name one already. -/
def Choices.aim (path : String) (c : Choices) : Choices :=
  { c with options := { c.options with output := c.options.output <|> some path } }

/-! ## One option -/

/-- A file that was named beforehand is no matter to an effect. -/
def Effect.KeepsAim (path : String) : Effect → Prop
  | .flag f => ∀ c, f (c.aim path) = (f c).aim path
  | .value f => ∀ v c, f v (c.aim path) = (f v c).aim path

theorem keepsAim_of_named? {e : Effect} (h : named? name = some e) : e.KeepsAim path := by
  unfold named? at h
  split at h <;> cases h
  case h_8 => exact fun _ _ => rfl
  case h_9 => exact fun _ _ => rfl
  all_goals exact fun _ => rfl

theorem keepsAim_of_lettered? {l : Char} {e : Effect} (h : lettered? l = some e) :
    e.KeepsAim path := by
  unfold lettered? at h
  split at h <;> cases h
  case h_3 => exact fun _ _ => rfl
  all_goals exact fun _ => rfl

theorem takeLetters_aim {ls : List Char} :
    takeLetters (c.aim path) rest ls =
      (takeLetters c rest ls).map fun r => (r.1.aim path, r.2) := by
  induction ls generalizing c with
  | nil => rfl
  | cons l ls ih =>
    unfold takeLetters
    cases he : lettered? l with
    | none => rfl
    | some e =>
      have hkeeps : e.KeepsAim path := keepsAim_of_lettered? he
      cases e with
      | flag f =>
        dsimp only
        rw [hkeeps c]
        exact ih
      | value f =>
        dsimp only
        split
        · cases rest with
          | nil => rfl
          | cons v rest => exact congrArg (fun d => some (d, rest)) (hkeeps v c)
        · exact congrArg (fun d => some (d, rest)) (hkeeps _ c)

theorem takeNamed_aim {value : Option String} :
    takeNamed (c.aim path) rest name value =
      (takeNamed c rest name value).map fun r => (r.1.aim path, r.2) := by
  unfold takeNamed
  cases he : named? name with
  | none => rfl
  | some e =>
    have hkeeps : e.KeepsAim path := keepsAim_of_named? he
    cases e with
    | flag f =>
      cases value with
      | none => exact congrArg (fun d => some (d, rest)) (hkeeps c)
      | some v => rfl
    | value f =>
      cases value with
      | some v => exact congrArg (fun d => some (d, rest)) (hkeeps v c)
      | none =>
        cases rest with
        | nil => rfl
        | cons v rest => exact congrArg (fun d => some (d, rest)) (hkeeps v c)

theorem takeOption_aim {option : List Char} :
    takeOption (c.aim path) rest option =
      (takeOption c rest option).map fun r => (r.1.aim path, r.2) := by
  unfold takeOption
  split
  · exact takeNamed_aim
  · exact takeLetters_aim
  · rfl

/-! ## Options one after another -/

/-- An option is read, and the others follow on the choices after it. -/
theorem takeOptions_cons (hend : arg ≠ "--") (hoption : isOption arg.toList = true) :
    takeOptions c (arg :: rest) =
      (takeOption c rest arg.toList).bind fun r => takeOptions r.1 r.2 := by
  rw [takeOptions, if_neg hend, if_pos hoption]
  split
  · rename_i d left h
    exact (congrArg (Option.bind · fun r => takeOptions r.1 r.2) h).symm
  · rename_i h
    exact (congrArg (Option.bind · fun r => takeOptions r.1 r.2) h).symm

theorem takeOptions_of_option (hend : arg ≠ "--") (hoption : isOption arg.toList = true)
    (h : takeOption c rest arg.toList = some (d, left)) :
    takeOptions c (arg :: rest) = takeOptions d left := by
  rw [takeOptions_cons hend hoption, h]
  rfl

theorem takeOptions_of_word (hend : arg ≠ "--") (hword : isOption arg.toList = false) :
    takeOptions c (arg :: rest) = some (c, arg :: rest) := by
  rw [takeOptions, if_neg hend, hword]
  rfl

/-- A file that is named before all options makes no other difference. -/
theorem takeOptions_aim {args : List String} :
    takeOptions (c.aim path) args =
      (takeOptions c args).map fun r => (r.1.aim path, r.2) := by
  fun_induction takeOptions c args with
  | case1 c =>
    rw [takeOptions]
    rfl
  | case2 c rest =>
    rw [takeOptions, if_pos rfl]
    rfl
  | case3 c arg rest hend hoption d left h _ ih =>
    rw [takeOptions_cons hend hoption, takeOption_aim, h]
    exact ih
  | case4 c arg rest hend hoption h =>
    rw [takeOptions_cons hend hoption, takeOption_aim, h]
    rfl
  | case5 c arg rest hend hoption =>
    rw [takeOptions_of_word hend (Bool.eq_false_iff.2 hoption)]
    rfl

/-- Where no file is named in the end, none was named before. -/
theorem output_eq_none_of_takeOptions {args : List String}
    (h : takeOptions c args = some (d, left)) (hnone : d.options.output = none) :
    c.options.output = none := by
  cases hc : c.options.output with
  | none => rfl
  | some p =>
    -- naming another file then changes nothing, neither before nor in the end
    have hsame : c.aim "" = c := by
      obtain ⟨⟨_, _, _, _, _, _, _⟩, _⟩ := c
      cases hc
      rfl
    have haim : takeOptions (c.aim "") args = some (d.aim "", left) := by
      rw [takeOptions_aim, h]
      rfl
    rw [hsame, h] at haim
    have hd : d = d.aim "" := (Prod.mk.inj (Option.some.inj haim)).1
    have hsome : (d.aim "").options.output = some "" := by
      unfold Choices.aim
      rw [hnone]
      rfl
    rw [← hd, hnone] at hsome
    cases hsome

/-- The options with a file to write to. -/
def Options.writeTo (path : String) (o : Options) : Options := { o with output := some path }

theorem aim_of_output_eq_none (h : c.options.output = none) :
    c.aim path = { c with options := c.options.writeTo path } := by
  unfold Choices.aim
  rw [h]
  rfl

/-! ## Spellings -/

/-- The ways to spell the option that names the file to write to, by itself. -/
def spellings (path : String) : List (List String) :=
  [["-o", path], ["-o" ++ path], ["--output", path], ["--output=" ++ path]]

theorem toList_letter : ("-o" ++ path).toList = '-' :: 'o' :: path.toList := String.toList_append

theorem toList_name :
    ("--output=" ++ path).toList = ['-', '-', 'o', 'u', 't', 'p', 'u', 't'] ++ '=' :: path.toList :=
  String.toList_append

/-- The path may follow the letter directly, unless it is empty. -/
theorem takeOption_letter (hpath : path ≠ "") :
    takeOption c rest ("-o" ++ path).toList =
      some ({ c with options := c.options.writeTo path }, rest) := by
  have hvalue : path.toList.isEmpty = false :=
    List.isEmpty_eq_false_iff.2 fun hnil => hpath (String.toList_eq_nil_iff.1 hnil)
  have heffect : lettered? 'o' = some (changeBy fun s o => { o with output := some s }) := rfl
  rw [toList_letter]
  show takeLetters c rest ('o' :: path.toList) = _
  rw [takeLetters, heffect]
  simp only [changeBy, hvalue, String.ofList_toList]
  rfl

/-- The path may follow the name after an equals sign. -/
theorem takeOption_name :
    takeOption c rest ("--output=" ++ path).toList =
      some ({ c with options := c.options.writeTo path }, rest) := by
  have hsplit : splitValue ("--output=" ++ path).toList = ("--output", some path) := by
    rw [toList_name, splitValue]
    simp [List.dropWhile, List.takeWhile]
  have hnamed : takeOption c rest ("--output=" ++ path).toList =
      takeNamed c rest (splitValue ("--output=" ++ path).toList).1
        (splitValue ("--output=" ++ path).toList).2 := by
    rw [toList_name]
    rfl
  rw [hnamed, hsplit]
  rfl

/-- Every spelling of the option names the file to write to. -/
theorem takeOptions_spelling (hpath : path ≠ "") (h : spelling ∈ spellings path) :
    takeOptions c (spelling ++ rest) =
      takeOptions { c with options := c.options.writeTo path } rest := by
  simp only [spellings, List.mem_cons, List.not_mem_nil, or_false] at h
  rcases h with rfl | rfl | rfl | rfl
  · exact takeOptions_of_option (by decide) (by decide) rfl
  · refine takeOptions_of_option (fun heq => ?_) ?_ (takeOption_letter hpath)
    · have hchars := congrArg String.toList heq
      rw [toList_letter] at hchars
      cases hchars
    · rw [toList_letter]
      rfl
  · exact takeOptions_of_option (by decide) (by decide) rfl
  · refine takeOptions_of_option (fun heq => ?_) ?_ takeOption_name
    · have hchars := congrArg String.toList heq
      rw [toList_name] at hchars
      cases hchars
    · rw [toList_name]
      rfl

/-! ## Invocations -/

theorem invocation_eq_command_iff {args : List String} {options : Options} {command : Command} :
    invocation args = .command options command rest ↔
      ∃ word, takeOptions ⟨{}, none⟩ args = some (⟨options, none⟩, word :: rest) ∧
        Command.ofWord? word = some command := by
  have hlate : ∀ args, lateRequest args ≠ .command options command rest := by
    intro args
    unfold lateRequest
    split <;> exact nofun
  unfold invocation
  split
  · rename_i h
    rw [h]
    exact ⟨nofun, nofun⟩
  · rename_i h
    rw [h]
    exact ⟨nofun, nofun⟩
  · rename_i h
    rw [h]
    split
    · rename_i hword
      constructor
      · intro heq
        cases heq
        exact ⟨_, rfl, hword⟩
      · rintro ⟨word, heq, hword'⟩
        cases heq
        cases hword.symm.trans hword'
        rfl
    · rename_i hword
      refine ⟨fun heq => absurd heq (hlate _), ?_⟩
      rintro ⟨word, heq, hword'⟩
      cases heq
      cases hword.symm.trans hword'
  · rename_i h
    rw [h]
    exact ⟨nofun, nofun⟩

/-- Arguments are options with their values, whatever follows them. -/
def AreOptions (before : List String) : Prop :=
  ∃ d, ∀ rest, takeOptions ⟨{}, none⟩ (before ++ rest) = takeOptions d rest

/-- The option that names the file to write to, in any spelling and after any other options, does
that and nothing else. -/
theorem invocation_spelling {options : Options} {command : Command} (hbefore : AreOptions before)
    (hpath : path ≠ "") (h : spelling ∈ spellings path)
    (hargs : invocation (before ++ after) = .command options command rest)
    (hnone : options.output = none) :
    invocation (before ++ spelling ++ after) = .command (options.writeTo path) command rest := by
  obtain ⟨d, hbefore⟩ := hbefore
  obtain ⟨word, htake, hword⟩ := invocation_eq_command_iff.1 hargs
  rw [hbefore] at htake
  have hd : d.options.output = none := output_eq_none_of_takeOptions htake hnone
  refine invocation_eq_command_iff.2 ⟨word, ?_, hword⟩
  calc takeOptions ⟨{}, none⟩ (before ++ spelling ++ after)
      = takeOptions d (spelling ++ after) := by rw [List.append_assoc, hbefore]
    _ = takeOptions (d.aim path) after := by
        rw [takeOptions_spelling hpath h, aim_of_output_eq_none hd]
    _ = some (Choices.aim path ⟨options, none⟩, word :: rest) := by
        rw [takeOptions_aim, htake]
        rfl
    _ = some (⟨options.writeTo path, none⟩, word :: rest) := by
        rw [aim_of_output_eq_none hnone]

end ApiModel.CommandLine
