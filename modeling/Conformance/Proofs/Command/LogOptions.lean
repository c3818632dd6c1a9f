import Conformance.Proofs.Command.Spelling
import Mathlib.Tactic.SplitIfs

/-!
# Options for the log

What a command line chooses for the log is read apart from the rest of it: wherever options for the
log stand, and whatever they choose, the line is read as the same request but for that choice, or it
is refused for the same fault.
-/
namespace Conformance.Command

variable {page : Page}

/-! ### Requests without their log -/

/-- The choices, without those for the log. -/
def Choices.quiet (choices : Choices) : Choices :=
  { choices with logLevel := none, logChannels := none }

/-- The request, without its choices for the log. -/
def Request.quiet : Request → Request
  | .validate schema inst choices => .validate schema inst choices.quiet
  | .checkSchema schema choices => .checkSchema schema choices.quiet
  | .help page => .help page
  | .version => .version

/-- A reading under way, without what it chose for the log. -/
def Progress.quiet (p : Progress) : Progress := { p with choices := p.choices.quiet }

/-- What matters of a reading in the end, without what it chose for the log. -/
def Progress.settled (p : Progress) : Progress := { p.quiet with justTook := false }

/-- What matters of a reading of all arguments, without what it chose for the log. -/
def readQuietly (page : Page) (tokens : List (Text × Token)) (p : Progress) :
    Except Ending Progress :=
  (takeArguments page tokens p).map Progress.settled

section Apply

variable {option : CommandOption} {spelling value : Text} {c d : Choices}

theorem applyValue_quiet (same : c.quiet = d.quiet) :
    (applyValue page option value c).map Choices.quiet =
      (applyValue page option value d).map Choices.quiet := by
  obtain ⟨format, failFast, maxDepth, _, _⟩ := c
  obtain ⟨format', failFast', maxDepth', _, _⟩ := d
  simp only [Choices.quiet, Choices.mk.injEq, and_true] at same
  obtain ⟨rfl, rfl, rfl⟩ := same
  cases option with
  | format | maxDepth | logLevel =>
    simp only [applyValue]
    split <;> rfl
  | help | version | failFast | logChannel => rfl

theorem applySwitch_quiet (same : c.quiet = d.quiet) :
    (applySwitch page option c).map Choices.quiet =
      (applySwitch page option d).map Choices.quiet := by
  obtain ⟨format, failFast, maxDepth, _, _⟩ := c
  obtain ⟨format', failFast', maxDepth', _, _⟩ := d
  simp only [Choices.quiet, Choices.mk.injEq, and_true] at same
  obtain ⟨rfl, rfl, rfl⟩ := same
  cases option <;> rfl

theorem applyCluster_quiet (same : c.quiet = d.quiet) :
    (applyCluster page option spelling value c).map Choices.quiet =
      (applyCluster page option spelling value d).map Choices.quiet := by
  simp only [applyCluster]
  split_ifs
  · rfl
  · split
    · exact applySwitch_quiet same
    · rfl

/-- Choices that are alike but for the log go on alike. -/
theorem continue_congr {step other : Except Ending Choices}
    (same : step.map Choices.quiet = other.map Choices.quiet)
    {next later : Choices → Except Ending Progress}
    (go : ∀ c d, c.quiet = d.quiet →
      (next c).map Progress.settled = (later d).map Progress.settled) :
    (step >>= next).map Progress.settled = (other >>= later).map Progress.settled := by
  rcases map_eq_map_iff.mp same with ⟨ending, rfl, rfl⟩ | ⟨c, d, rfl, rfl, alike⟩
  · rfl
  · exact go c d alike

end Apply

/-! ### Arguments behind arguments -/

theorem Progress.exists_of_quiet_eq {p q : Progress} (same : p.quiet = q.quiet) :
    ∃ choices : Choices, p.choices.quiet = choices.quiet ∧ q = { p with choices } := by
  obtain ⟨choices, wanted, taken, unknown, justTook⟩ := p
  obtain ⟨others, _, _, _, _⟩ := q
  simp only [quiet, mk.injEq] at same
  obtain ⟨alike, rfl, rfl, rfl, rfl⟩ := same
  exact ⟨others, alike, rfl⟩

/-- An option that waits for its value. -/
def Token.Waits (token : Token) : Prop :=
  ∃ option spelling, token = .dashed (some ⟨option, spelling, none⟩) ∧ option.takesValue = true

/-- No value stands in front. -/
def Valueless (tokens : List (Text × Token)) : Prop := ∀ entry ∈ tokens.head?, entry.2 ≠ .plain

theorem Valueless.append {tokens : List (Text × Token)} (valueless : Valueless tokens ∧ tokens ≠ [])
    (rest : List (Text × Token)) : Valueless (tokens ++ rest) := by
  obtain ⟨valueless, some⟩ := valueless
  cases tokens with
  | nil => exact absurd rfl some
  | cons entry others => exact valueless

/-- Behind these tokens it makes no difference to their own reading which of two rests follows. -/
structure Exchangeable (front more others : List (Text × Token)) : Prop where
  separated : ∀ entry ∈ front, entry.2 = .separator → more = others
  waiting : ∀ entry ∈ front.getLast?, entry.2.Waits → Valueless more ∧ Valueless others

theorem Exchangeable.tail {entry : Text × Token} {front more others : List (Text × Token)}
    (exchangeable : Exchangeable (entry :: front) more others) :
    Exchangeable front more others where
  separated other member := exchangeable.separated other (List.mem_cons_of_mem entry member)
  waiting last member := by
    cases front with
    | nil => cases member
    | cons next rest => exact exchangeable.waiting last (by rwa [List.getLast?_cons_cons])

section Take

variable {option : CommandOption} (t spelling value : Text) (rest : List (Text × Token))
  (p : Progress)

theorem takeArguments_joined : takeArguments page
    ((t, .dashed (some ⟨option, spelling, some value⟩)) :: rest) p =
      (if option.takesValue then applyValue page option value p.choices
        else applyCluster page option spelling value p.choices) >>= fun choices =>
          takeArguments page rest { p with choices, justTook := false } := by
  simp only [takeArguments]
  generalize (if option.takesValue then applyValue page option value p.choices
    else applyCluster page option spelling value p.choices) = applied
  cases applied <;> rfl

theorem takeArguments_valued (takes : option.takesValue = true) : takeArguments page
    ((t, .dashed (some ⟨option, spelling, none⟩)) :: (value, .plain) :: rest) p =
      applyValue page option value p.choices >>= fun choices =>
        takeArguments page rest { p with choices, justTook := false } := by
  simp only [takeArguments, takes, if_true]
  cases applyValue page option value p.choices <;> rfl

theorem takeArguments_switch (takes : option.takesValue = false) : takeArguments page
    ((t, .dashed (some ⟨option, spelling, none⟩)) :: rest) p =
      applySwitch page option p.choices >>= fun choices =>
        takeArguments page rest { p with choices, justTook := false } := by
  match rest with
  | [] | (_, .plain) :: _ | (_, .separator) :: _ | (_, .dashed _) :: _ =>
    simp only [takeArguments, takes, Bool.false_eq_true, if_false]
    cases applySwitch page option p.choices <;> rfl

variable {rest} in
theorem takeArguments_valueless (takes : option.takesValue = true) (valueless : Valueless rest) :
    takeArguments page ((t, .dashed (some ⟨option, spelling, none⟩)) :: rest) p =
      refuse page (.noValue option) := by
  cases rest with
  | nil => simp only [takeArguments, takes, if_true]
  | cons entry rest =>
    obtain ⟨value, token⟩ := entry
    cases token with
    | plain => exact absurd rfl (valueless (value, .plain) rfl)
    | separator | dashed => simp only [takeArguments, takes, if_true]

end Take

/-- Readings that go on alike are alike from the start. -/
theorem readQuietly_exchange {more others : List (Text × Token)}
    (go : ∀ p q, p.quiet = q.quiet → readQuietly page more p = readQuietly page others q)
    (front : List (Text × Token)) (p q : Progress)
    (exchangeable : Exchangeable front more others) (same : p.quiet = q.quiet) :
    readQuietly page (front ++ more) p = readQuietly page (front ++ others) q := by
  -- An option may take the next argument along, so the induction is on the number of tokens.
  induction size : front.length using Nat.strongRecOn generalizing front p q with
  | ind n shorter =>
  subst size
  cases front with
  | nil => exact go p q same
  | cons entry rest =>
    obtain ⟨choices, alike, rfl⟩ := Progress.exists_of_quiet_eq same
    have next (p q : Progress) (same : p.quiet = q.quiet) :
        readQuietly page (rest ++ more) p = readQuietly page (rest ++ others) q :=
      shorter rest.length (Nat.lt_succ_self _) rest p q exchangeable.tail same rfl
    have chosen (c d : Choices) (same : c.quiet = d.quiet) :
        readQuietly page (rest ++ more) { p with choices := c, justTook := false } =
          readQuietly page (rest ++ others) { p with choices := d, justTook := false } :=
      next _ _ (by simp [Progress.quiet, same])
    obtain ⟨t, token⟩ := entry
    cases token with
    | plain =>
      simp only [readQuietly, List.cons_append, takeArguments]
      cases p.wanted with
      | nil => exact next _ _ (by simp [Progress.quiet, alike])
      | cons name wanted => exact next _ _ (by simp [Progress.quiet, alike])
    | separator =>
      obtain rfl := exchangeable.separated _ List.mem_cons_self rfl
      simp only [readQuietly, List.cons_append, takeArguments]
      split_ifs
      · exact next _ _ (by simp [Progress.quiet, alike])
      · exact next _ _ (by simp [Progress.quiet, alike])
    | dashed meaning =>
      rcases meaning with _ | ⟨option, spelling, value⟩
      · exact next _ _ (by simp [Progress.quiet, alike])
      rw [List.cons_append, List.cons_append, readQuietly, readQuietly]
      cases value with
      | some value =>
        rw [takeArguments_joined, takeArguments_joined]
        refine continue_congr ?_ chosen
        split_ifs
        · exact applyValue_quiet alike
        · exact applyCluster_quiet alike
      | none =>
        cases takes : option.takesValue with
        | false =>
          rw [takeArguments_switch _ _ _ _ takes, takeArguments_switch _ _ _ _ takes]
          exact continue_congr (applySwitch_quiet alike) chosen
        | true =>
          cases rest with
          | nil =>
            -- The option waits for a value, and neither rest begins with one.
            obtain ⟨first, second⟩ := exchangeable.waiting _ rfl ⟨option, spelling, rfl, takes⟩
            rw [List.nil_append, List.nil_append, takeArguments_valueless _ _ _ takes first,
              takeArguments_valueless _ _ _ takes second]
          | cons following rest =>
            obtain ⟨value, token⟩ := following
            cases token with
            | separator | dashed => simp only [List.cons_append, takeArguments, takes, if_true]
            | plain =>
              simp only [List.cons_append, takeArguments_valued _ _ _ _ _ takes]
              refine continue_congr (applyValue_quiet alike) fun c d same => ?_
              exact shorter rest.length (by simp only [List.length_cons]; omega) rest
                { p with choices := c, justTook := false } { p with choices := d, justTook := false }
                exchangeable.tail.tail (by simp [Progress.quiet, same]) rfl

/-- What was chosen for the log does not matter to the rest of a reading. -/
theorem readQuietly_congr {p q : Progress} (same : p.quiet = q.quiet)
    (tokens : List (Text × Token)) : readQuietly page tokens p = readQuietly page tokens q := by
  have ends (p q : Progress) (same : p.quiet = q.quiet) :
      readQuietly page [] p = readQuietly page [] q := by
    show Except.ok p.settled = Except.ok q.settled
    rw [Progress.settled, Progress.settled, same]
  have exchanged := readQuietly_exchange ends tokens p q
    ⟨fun _ _ _ => rfl, fun _ _ _ => ⟨nofun, nofun⟩⟩ same
  rwa [List.append_nil] at exchanged

/-- Whether an argument was taken right before matters to a separator alone. -/
theorem readQuietly_justTook {tokens : List (Text × Token)}
    (apart : ∀ entry ∈ tokens.head?, entry.2 ≠ .separator) (p : Progress) (justTook : Bool) :
    readQuietly page tokens { p with justTook } = readQuietly page tokens p := by
  match tokens with
  | [] => rfl
  | (_, .separator) :: _ => exact absurd rfl (apart _ rfl)
  | (_, .plain) :: _ | (_, .dashed none) :: _ | (_, .dashed (some ⟨_, _, some _⟩)) :: _ => rfl
  | (t, .dashed (some ⟨option, spelling, none⟩)) :: rest =>
    cases takes : option.takesValue with
    | false => simp only [readQuietly, takeArguments_switch _ _ _ _ takes]
    | true =>
      match rest with
      | [] | (_, .separator) :: _ | (_, .dashed _) :: _ =>
        simp only [readQuietly, takeArguments, takes, if_true]
      | (value, .plain) :: rest => simp only [readQuietly, takeArguments_valued _ _ _ _ _ takes]

/-- Readings that differ in what was chosen for the log, and in whether an argument was taken right
before, go on alike unless a separator comes next. -/
theorem readQuietly_settled {p q : Progress} (same : p.settled = q.settled)
    {tokens : List (Text × Token)}
    (apart : p.justTook = q.justTook ∨ ∀ entry ∈ tokens.head?, entry.2 ≠ .separator) :
    readQuietly page tokens p = readQuietly page tokens q := by
  obtain ⟨choices, wanted, taken, unknown, justTook⟩ := p
  obtain ⟨choices', wanted', taken', unknown', justTook'⟩ := q
  simp only [Progress.settled, Progress.quiet, Progress.mk.injEq, and_true] at same
  obtain ⟨alike, rfl, rfl, rfl⟩ := same
  have quiet : readQuietly page tokens ⟨choices, wanted, taken, unknown, justTook'⟩ =
      readQuietly page tokens ⟨choices', wanted, taken, unknown, justTook'⟩ :=
    readQuietly_congr (by simp [Progress.quiet, alike]) tokens
  rw [← quiet]
  rcases apart with rfl | apart
  · rfl
  · exact (readQuietly_justTook apart ⟨choices, wanted, taken, unknown, justTook⟩ justTook').symm

/-! ### Options for the log -/

/-- What an option for the log may choose: a level by its name, or any list of channels. -/
inductive LogValue : CommandOption → Text → Prop where
  | level (level : Logging.Level) : LogValue .logLevel level.smallName
  | channels (list : Text) : LogValue .logChannel list

/-- One option for the log as it may stand on a command line, with a value of its own, which must not
look like an option, or with a value that is joined to it. A list of channels that does look like an
option has to be joined, as in `--log-channel=-x`. -/
inductive LogOption : List Text → Prop where
  | apart {entry : Text × CommandOption} {spelling value : Text} (listed : entry ∈ logNames)
      (known : spelling ∈ logSpellings entry.1) (chooses : LogValue entry.2 value)
      (plain : ∀ page, sortArgument page value = .ok .plain) : LogOption [spelling, value]
  | joined {entry : Text × CommandOption} {spelling value : Text} (listed : entry ∈ logNames)
      (known : spelling ∈ logSpellings entry.1) (chooses : LogValue entry.2 value) :
      LogOption [spelling ++ "=" ++ value]

/-- A command takes what an option for the log may choose, and it changes nothing else. -/
theorem LogValue.applyValue_eq {option : CommandOption} {value : Text}
    (chooses : LogValue option value) (page : Page) (c : Choices) :
    ∃ choices : Choices, choices.quiet = c.quiet ∧ applyValue page option value c = .ok choices := by
  cases chooses with
  | level level => exact ⟨{ c with logLevel := some level }, rfl, by cases level <;> rfl⟩
  | channels => exact ⟨{ c with logChannels := some value }, rfl, rfl⟩

theorem LogValue.takesValue {option : CommandOption} {value : Text}
    (chooses : LogValue option value) : option.takesValue = true := by
  cases chooses <;> rfl

namespace LogOption

variable {option : List Text}

/-- Before the command is known an option for the log is sorted in some way. -/
theorem sorted_main (known : LogOption option) :
    ∀ t ∈ option, ∃ token, sortArgument .main t = .ok token := by
  cases known with
  | apart listed known _ plain =>
    exact List.forall_mem_cons.mpr ⟨(foreign_logSpellings listed known).apart,
      List.forall_mem_singleton.mpr ⟨_, plain .main⟩⟩
  | joined listed known =>
    exact List.forall_mem_singleton.mpr ((foreign_logSpellings listed known).joined _)

theorem ne_separator (known : LogOption option) : ∀ t ∈ option, t ≠ "--" := by
  intro t member
  obtain ⟨token, sorted⟩ := known.sorted_main t member
  exact ne_separator_of_sorted sorted

theorem flatten_sorted_main {options : List (List Text)}
    (known : ∀ option ∈ options, LogOption option) :
    ∀ t ∈ options.flatten, t ≠ "--" ∧ ∃ token, sortArgument .main t = .ok token := by
  intro t member
  obtain ⟨option, listed, inside⟩ := List.mem_flatten.mp member
  exact ⟨(known option listed).ne_separator t inside, (known option listed).sorted_main t inside⟩

end LogOption

/-- The arguments are read as a choice for the log, and nothing else. -/
def Unheard (page : Page) (arguments : List Text) : Prop :=
  ∃ tokens, sortArguments page arguments = .ok tokens ∧
    (∃ entry rest, tokens = entry :: rest ∧ entry.2 ≠ .plain) ∧
    ∀ more p, ∃ choices : Choices, choices.quiet = p.choices.quiet ∧
      takeArguments page (tokens ++ more) p =
        takeArguments page more { p with choices, justTook := false }

/-- A command reads each option for the log as a choice for the log, and nothing else. -/
theorem LogOption.unheard {option : List Text} (known : LogOption option)
    (command : page ∈ Page.commands) : Unheard page option := by
  cases known with
  | @apart entry spelling value listed known chooses plain =>
    have sorted := (spells_logSpellings command listed known).apart
    refine ⟨[(spelling, .dashed (some ⟨entry.2, entry.1, none⟩)), (value, .plain)], ?_,
      ⟨_, _, rfl, nofun⟩, fun more p => ?_⟩
    · rw [sortArguments_cons (ne_separator_of_sorted sorted) sorted,
        sortArguments_cons (ne_separator_of_sorted (plain page)) (plain page)]
      rfl
    · obtain ⟨choices, quiet, done⟩ := chooses.applyValue_eq page p.choices
      refine ⟨choices, quiet, ?_⟩
      simp only [List.cons_append, List.nil_append]
      rw [takeArguments_valued _ _ _ _ _ chooses.takesValue, done]
      rfl
  | @joined entry spelling value listed known chooses =>
    have sorted := (spells_logSpellings command listed known).joined value
    refine ⟨[(spelling ++ "=" ++ value, .dashed (some ⟨entry.2, entry.1, some value⟩))], ?_,
      ⟨_, _, rfl, nofun⟩, fun more p => ?_⟩
    · rw [sortArguments_cons (ne_separator_of_sorted sorted) sorted]
      rfl
    · obtain ⟨choices, quiet, done⟩ := chooses.applyValue_eq page p.choices
      refine ⟨choices, quiet, ?_⟩
      rw [List.cons_append, takeArguments_joined, if_pos chooses.takesValue, done]
      rfl

/-- Arguments are sorted one after another up to a separator. -/
theorem sortArguments_append {front : List Text} (before : ∀ t ∈ front, t ≠ "--")
    (rest : List Text) : sortArguments page (front ++ rest) =
      sortArguments page front >>= fun first => (sortArguments page rest).map (first ++ ·) := by
  induction front with
  | nil =>
    show sortArguments page rest = (sortArguments page rest).map ([] ++ ·)
    cases sortArguments page rest <;> rfl
  | cons t front ih =>
    obtain ⟨other, later⟩ := List.forall_mem_cons.mp before
    rw [List.cons_append, sortArguments, sortArguments, if_neg other, if_neg other, ih later]
    cases sortArgument page t with
    | error fault => rfl
    | ok token =>
      cases sortArguments page front with
      | error fault => rfl
      | ok first => cases sortArguments page rest <;> rfl

/-- The options are sorted into the tokens, and a reading passes over these: it goes on as it would
have without them. -/
structure PassedOver (page : Page) (options : List (List Text)) (tokens : List (Text × Token)) :
    Prop where
  sorted : sortArguments page options.flatten = .ok tokens
  valueless : options ≠ [] → Valueless tokens ∧ tokens ≠ []
  take : ∀ more p, ∃ q, takeArguments page (tokens ++ more) p = takeArguments page more q ∧
    q.settled = p.settled ∧ (options ≠ [] ∨ p.justTook = false → q.justTook = false)

/-- Options for the log are read one after another, and leave the rest of the reading as it was. -/
theorem exists_passedOver {options : List (List Text)} (known : ∀ option ∈ options, LogOption option)
    (command : page ∈ Page.commands) : ∃ tokens, PassedOver page options tokens := by
  induction options with
  | nil => exact ⟨[], rfl, (absurd rfl ·), fun _ p => ⟨p, rfl, rfl, by simp⟩⟩
  | cons option rest ih =>
    obtain ⟨first, later⟩ := List.forall_mem_cons.mp known
    obtain ⟨tokens, sorted, ⟨entry, others, rfl, dashed⟩, take⟩ := first.unheard command
    obtain ⟨tokens', sorted', -, take'⟩ := ih later
    refine ⟨entry :: others ++ tokens', ?_, fun _ => ⟨?_, nofun⟩, fun more p => ?_⟩
    · rw [List.flatten_cons, sortArguments_append first.ne_separator,
        sorted, sorted']
      rfl
    · rintro _ ⟨⟩
      exact dashed
    · obtain ⟨choices, quiet, taken⟩ := take (tokens' ++ more) p
      obtain ⟨q, taken', settled, just⟩ := take' more { p with choices, justTook := false }
      refine ⟨q, ?_, settled.trans ?_, fun _ => just (.inr rfl)⟩
      · rw [List.append_assoc, taken, taken']
      · simp [Progress.settled, Progress.quiet, quiet]

/-! ### Lines with options for the log -/

/-- A place between arguments: in front no option waits for its value, and behind stands no
separator that would belong to an argument right before it. -/
structure Cut (page : Page) (front back : List Text) : Prop where
  complete : ∀ t ∈ front.getLast?, ∀ token, sortArgument page t = .ok token → ¬token.Waits
  apart : front = [] ∨ back.head? ≠ some "--"

/-- An argument that is sorted for itself is no separator. -/
theorem sortArgument_ne_separator (t : Text) : sortArgument page t ≠ .ok .separator := by
  rw [sortArgument]
  split
  · rintro ⟨⟩
  · split
    · rintro ⟨⟩
    · simp only
      split
      · rintro ⟨⟩
      · split
        · split_ifs
          · rintro ⟨⟩
          · rintro ⟨⟩
        · rintro ⟨⟩
        · rintro ⟨⟩

/-- An argument before the separator is sorted for itself, and then the rest. -/
theorem exists_of_sortArguments_cons {t : Text} {rest : List Text} (other : t ≠ "--")
    {tokens : List (Text × Token)} (sorted : sortArguments page (t :: rest) = .ok tokens) :
    ∃ token others, sortArgument page t = .ok token ∧ sortArguments page rest = .ok others ∧
      tokens = (t, token) :: others := by
  rw [sortArguments, if_neg other] at sorted
  obtain ⟨token, first, sorted⟩ := bind_eq_ok_iff.mp sorted
  obtain ⟨others, known, same⟩ := bind_eq_ok_iff.mp sorted
  exact ⟨token, others, first, known, pure_eq_ok_iff.mp same⟩

/-- Sorting keeps the arguments. -/
theorem map_fst_of_sortArguments {arguments : List Text} {tokens : List (Text × Token)}
    (sorted : sortArguments page arguments = .ok tokens) : tokens.map Prod.fst = arguments := by
  induction arguments generalizing tokens with
  | nil =>
    cases sorted
    rfl
  | cons t rest ih =>
    by_cases separator : t = "--"
    · rw [sortArguments, if_pos separator] at sorted
      cases sorted
      simp [Function.comp_def]
    · obtain ⟨token, others, -, known, rfl⟩ := exists_of_sortArguments_cons separator sorted
      rw [List.map_cons, ih known]

/-- Before a separator each argument is sorted for itself. -/
theorem sortArgument_of_mem {arguments : List Text} (before : ∀ t ∈ arguments, t ≠ "--")
    {tokens : List (Text × Token)} (sorted : sortArguments page arguments = .ok tokens) :
    ∀ entry ∈ tokens, sortArgument page entry.1 = .ok entry.2 := by
  induction arguments generalizing tokens with
  | nil =>
    cases sorted
    exact List.forall_mem_nil _
  | cons t rest ih =>
    obtain ⟨other, later⟩ := List.forall_mem_cons.mp before
    obtain ⟨token, others, first, known, rfl⟩ := exists_of_sortArguments_cons other sorted
    exact List.forall_mem_cons.mpr ⟨first, ih later known⟩

/-- A line that starts with no separator is sorted into tokens that start with none. -/
theorem head?_ne_separator {arguments : List Text} (apart : arguments.head? ≠ some "--")
    {tokens : List (Text × Token)} (sorted : sortArguments page arguments = .ok tokens) :
    ∀ entry ∈ tokens.head?, entry.2 ≠ .separator := by
  cases arguments with
  | nil =>
    cases sorted
    nofun
  | cons t rest =>
    have other : t ≠ "--" := fun same => apart (congrArg some same)
    obtain ⟨token, others, first, -, rfl⟩ := exists_of_sortArguments_cons other sorted
    rintro _ ⟨⟩ rfl
    exact sortArgument_ne_separator t first

section Lines

variable {front back : List Text} {given others : List (List Text)}

/-- Tokens of a line around options for the log. -/
theorem sortArguments_around (before : ∀ t ∈ front, t ≠ "--") {options : List (List Text)}
    (known : ∀ option ∈ options, LogOption option) {tokens : List (Text × Token)}
    (sorted : sortArguments page options.flatten = .ok tokens) :
    sortArguments page (front ++ options.flatten ++ back) =
      sortArguments page front >>= fun first =>
        (sortArguments page back).map fun last => first ++ (tokens ++ last) := by
  have free : ∀ t ∈ options.flatten, t ≠ "--" := fun t member =>
    (LogOption.flatten_sorted_main known t member).1
  rw [List.append_assoc, sortArguments_append before, sortArguments_append free, sorted]
  cases sortArguments page front with
  | error fault => rfl
  | ok first => cases sortArguments page back <;> rfl

/-- Behind options for the log a reading goes on alike, whichever options these are: it differs in no
more than whether an argument was just taken. -/
theorem readQuietly_behind {tokens tokens' last : List (Text × Token)}
    (passed : PassedOver page given tokens) (passed' : PassedOver page others tokens')
    (back_eq : sortArguments page back = .ok last) {p q : Progress} (same : p.quiet = q.quiet)
    (apart : given ≠ [] ∧ others ≠ [] ∨ p.justTook = false ∨ back.head? ≠ some "--") :
    readQuietly page (tokens ++ last) p = readQuietly page (tokens' ++ last) q := by
  obtain ⟨p', taken, settled, just⟩ := passed.take last p
  obtain ⟨q', taken', settled', just'⟩ := passed'.take last q
  have alike : p'.settled = q'.settled := by
    rw [settled, settled', Progress.settled, Progress.settled, same]
  -- Behind an option nothing was just taken; without options it is as it was before.
  have both (left : given ≠ [] ∨ p.justTook = false) (right : others ≠ [] ∨ p.justTook = false) :
      p'.justTook = q'.justTook := by
    have taken : p.quiet.justTook = q.quiet.justTook := congrArg Progress.justTook same
    rw [just left, just' (right.imp_right taken.symm.trans)]
  rw [readQuietly, readQuietly, taken, taken']
  refine readQuietly_settled alike ?_
  rcases apart with ⟨some, some'⟩ | just | apart
  · exact .inl (both (.inl some) (.inl some'))
  · exact .inl (both (.inr just) (.inr just))
  · exact .inr (head?_ne_separator apart back_eq)

/-- Tokens around options for the log are read alike, whichever options these are. -/
theorem readQuietly_around {tokens tokens' first last : List (Text × Token)}
    (passed : PassedOver page given tokens) (passed' : PassedOver page others tokens')
    (before : ∀ t ∈ front, t ≠ "--") (front_eq : sortArguments page front = .ok first)
    (back_eq : sortArguments page back = .ok last)
    (placed : given = [] → Cut page front back) (placed' : others = [] → Cut page front back)
    {p : Progress} (just : p.justTook = false) :
    readQuietly page (first ++ (tokens ++ last)) p =
      readQuietly page (first ++ (tokens' ++ last)) p := by
  have plainly : ∀ entry ∈ first, entry.2 ≠ .separator := fun entry member same =>
    sortArgument_ne_separator entry.1 (same ▸ sortArgument_of_mem before front_eq entry member)
  by_cases both : given ≠ [] ∧ others ≠ []
  · refine readQuietly_exchange
      (fun p q same => readQuietly_behind passed passed' back_eq same (.inl both)) first p p ?_ rfl
    exact ⟨fun entry member same => absurd same (plainly entry member), fun _ _ _ =>
      ⟨.append (passed.valueless both.1) last, .append (passed'.valueless both.2) last⟩⟩
  · have cut : Cut page front back := by
      rcases Classical.not_and_iff_not_or_not.mp both with none | none
      · exact placed (Classical.not_not.mp none)
      · exact placed' (Classical.not_not.mp none)
    rcases cut.apart with rfl | apart
    · cases front_eq
      exact readQuietly_behind passed passed' back_eq rfl (.inr (.inl just))
    · refine readQuietly_exchange (fun p q same =>
        readQuietly_behind passed passed' back_eq same (.inr (.inr apart))) first p p ?_ rfl
      -- No option of the front waits for a value, so it does not matter what stands behind.
      refine ⟨fun entry member same => absurd same (plainly entry member),
        fun entry last waits => absurd waits ?_⟩
      have sorted := sortArgument_of_mem before front_eq entry (List.mem_of_getLast? last)
      refine cut.complete entry.1 ?_ entry.2 sorted
      rw [← map_fst_of_sortArguments front_eq, List.getLast?_map, Option.mem_def.mp last]
      rfl

/-- The request that a finished reading comes to, with what is unknown. -/
def requestRead (page : Page) (p : Progress) : Except Ending (Request × List Text) :=
  match p.wanted with
  | [] => .ok (requestOf page p.taken p.choices, p.unknown)
  | missing => refuse page (.missing missing)

theorem requestOf_quiet (taken : List Text) (choices : Choices) :
    (requestOf page taken choices).quiet = requestOf page taken choices.quiet := by
  rw [requestOf.eq_def, requestOf.eq_def]
  split <;> rfl

/-- A request and what is unknown, without the choices for the log. -/
def quietly (reading : Request × List Text) : Request × List Text :=
  (reading.1.quiet, reading.2)

theorem readCommand_quiet (arguments : List Text) : (readCommand page arguments).map quietly =
    (sortArguments page arguments).mapError .fault >>= fun tokens =>
      readQuietly page tokens { wanted := page.arguments } >>= requestRead page := by
  rw [readCommand]
  cases sortArguments page arguments with
  | error fault => rfl
  | ok tokens =>
    show (takeArguments page tokens { wanted := page.arguments } >>= _).map quietly =
      (takeArguments page tokens { wanted := page.arguments }).map Progress.settled >>= _
    cases takeArguments page tokens { wanted := page.arguments } with
    | error ending => rfl
    | ok p =>
      obtain ⟨choices, wanted, taken, unknown, justTook⟩ := p
      cases wanted with
      | nil =>
        exact congrArg (fun request => Except.ok (request, unknown)) (requestOf_quiet taken choices)
      | cons missing rest => rfl

/-- A command reads options for the log alike, whichever they are. -/
theorem readCommand_around (command : page ∈ Page.commands) (before : ∀ t ∈ front, t ≠ "--")
    (known : ∀ option ∈ given, LogOption option) (known' : ∀ option ∈ others, LogOption option)
    (placed : given = [] → Cut page front back) (placed' : others = [] → Cut page front back) :
    (readCommand page (front ++ given.flatten ++ back)).map quietly =
      (readCommand page (front ++ others.flatten ++ back)).map quietly := by
  obtain ⟨tokens, passed⟩ := exists_passedOver known command
  obtain ⟨tokens', passed'⟩ := exists_passedOver known' command
  rw [readCommand_quiet, readCommand_quiet, sortArguments_around before known passed.sorted,
    sortArguments_around before known' passed'.sorted]
  cases front_eq : sortArguments page front with
  | error fault => rfl
  | ok first =>
    cases back_eq : sortArguments page back with
    | error fault => rfl
    | ok last =>
      exact congrArg (· >>= requestRead page)
        (readQuietly_around passed passed' before front_eq back_eq placed placed' rfl)

/-- The request that a whole line comes to. -/
def requestOfLine : Except Ending (Request × List Text) → Except UsageError Request
  | .error (.fault error) => .error error
  | .error (.request request) => .ok request.quiet
  | .ok (request, []) => .ok request
  | .ok (_, unknown) => .error ⟨.main, .unrecognized unknown⟩

/-- A line for a command is read by the command, once the page of the whole line could sort it. -/
theorem read_quiet (command : page ∈ Page.commands) (arguments : List Text) :
    (Command.read (page.commandName :: arguments)).map Request.quiet =
      requestOfLine ((sortArguments .main arguments).mapError .fault >>= fun _ =>
        (readCommand page arguments).map quietly) := by
  have plain : Plain page.commandName := by
    cases page <;> exact .inl (by decide)
  have found : ∀ page ∈ Page.commands, findCommand page.commandName = .ok page :=
    List.forall_mem_cons.mpr ⟨rfl, List.forall_mem_singleton.mpr rfl⟩
  rw [Command.read, sortArguments_cons_plain plain]
  cases sorted : sortArguments .main arguments with
  | error fault => rfl
  | ok tokens =>
    have line : readMain ((page.commandName, .plain) :: tokens) = readCommand page arguments := by
      rw [readMain, found page command, ← map_fst_of_sortArguments sorted]
      rfl
    show (match readMain ((page.commandName, .plain) :: tokens) with
      | .error (.fault error) => .error error
      | .error (.request request) => .ok request
      | .ok (request, []) => .ok request
      | .ok (_, unknown) => .error ⟨.main, .unrecognized unknown⟩ : Except UsageError Request).map
        Request.quiet = requestOfLine ((readCommand page arguments).map quietly)
    rw [line]
    rcases readCommand page arguments with (error | request) | ⟨request, _ | _⟩ <;> rfl

/-- Wherever options for the log stand on a line for a command, and whatever they choose, the line is
read as the same request but for that choice, or is refused for the same fault. -/
theorem read_around (command : page ∈ Page.commands) (before : ∀ t ∈ front, t ≠ "--")
    (known : ∀ option ∈ given, LogOption option) (known' : ∀ option ∈ others, LogOption option)
    (placed : given = [] → Cut page front back) (placed' : others = [] → Cut page front back) :
    (Command.read (page.commandName :: (front ++ given.flatten ++ back))).map Request.quiet =
      (Command.read (page.commandName :: (front ++ others.flatten ++ back))).map
        Request.quiet := by
  have sorted {options : List (List Text)} (known : ∀ option ∈ options, LogOption option) :
      ∃ tokens, sortArguments .main options.flatten = .ok tokens := by
    obtain ⟨tokens, sorted, -⟩ := exists_sortArguments (LogOption.flatten_sorted_main known)
    exact ⟨tokens, sorted⟩
  obtain ⟨tokens, given_eq⟩ := sorted known
  obtain ⟨tokens', others_eq⟩ := sorted known'
  rw [read_quiet command, read_quiet command, sortArguments_around before known given_eq,
    sortArguments_around before known' others_eq,
    readCommand_around command before known known' placed placed']
  cases sortArguments .main front with
  | error fault => rfl
  | ok first => cases sortArguments .main back <;> rfl

end Lines

end Conformance.Command
