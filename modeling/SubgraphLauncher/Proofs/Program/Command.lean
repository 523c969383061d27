import SubgraphLauncher.Proofs.Journal.Routing
import SubgraphLauncher.Proofs.Program.Course

/-!
# Which command is launched

The host is asked for a process with the words of the arguments behind the name. These are the
arguments themselves only where each of them is a word: an empty argument is lost, and one that
holds blanks comes apart, since the line in between knows no quoting. The flags in front of the name
do what they say, and nothing behind it is read as a flag.
-/

namespace SubgraphLauncher

open SubgraphLauncher.Action RunnerAction

/-! ### The flags and the words -/

/-- Flags at the front are read as flags, up to the first argument that is none. -/
theorem splitFlags_map_text (flags : List Flag) {name : String}
    (hname : Flag.ofText? name = none) (texts : List String) :
    splitFlags (flags.map Flag.text ++ name :: texts) = (flags, name :: texts) := by
  induction flags with
  | nil => exact splitFlags_of_no_flag hname texts
  | cons flag rest ih =>
      rw [List.map_cons, List.cons_append, splitFlags_cons_of_flag, ih]

namespace Program

variable {program : Program} {flags : List Flag} {name : String} {texts : List String}

theorem splitFlags_of_arguments (hname : Flag.ofText? name = none)
    (harguments : program.arguments = flags.map Flag.text ++ name :: texts) :
    splitFlags program.arguments = (flags, name :: texts) := by
  rw [harguments, splitFlags_map_text flags hname]

theorem task?_of_split (hsplit : splitFlags program.arguments = (flags, name :: texts))
    {named line : String} (htask : program.task? = some (named, line)) :
    named = name ∧ line = String.intercalate " " texts := by
  rw [task?, hsplit] at htask
  cases texts with
  | nil => cases htask
  | cons word rest =>
      cases htask
      exact ⟨rfl, rfl⟩

theorem consoleLevel_of_verbose (hverbose : Flag.verbose ∈ (splitFlags program.arguments).1) :
    program.consoleLevel = .ok Level.debug.number := by
  rw [consoleLevel, if_pos (List.contains_iff_mem.mpr hverbose)]

theorem consoleLevel_of_no_verbose (hverbose : Flag.verbose ∉ (splitFlags program.arguments).1)
    {level : Int} (hlevel : program.consoleLevel = .ok level) :
    ∃ text, program.settings.text? .logLevel = some text ∧ level = Journal.levelOfName text := by
  rw [consoleLevel, if_neg (fun hflag => hverbose (List.contains_iff_mem.mp hflag))] at hlevel
  cases htext : program.settings.text? .logLevel with
  | none =>
      rw [htext] at hlevel
      cases hlevel
  | some text =>
      rw [htext] at hlevel
      exact ⟨text, rfl, (Except.ok.inj hlevel).symm⟩

namespace Begins

variable {world : World Float (Desk Float)} {journal : Journal} {report : Report}
  (begins : program.Begins world journal report)

theorem handlers_head : report.journal.handlers.head? = some (.console begins.level) := by
  have hsetUp := Journal.setUp_handlers journal begins.level none
    (program.settings.value .logFile)
  rw [begins.ready_eq] at hsetUp
  rw [begins.journal_eq, Journal.foldl_observe_handlers, hsetUp]

include begins

/-- A launch that is seen has the words of the line. -/
theorem argv_of_launched {argv : List String} {options : List (String × Value)}
    (hlaunched : .launched argv options ∈ report.events) : argv = wordsOf begins.line := by
  have hmem : argv ∈ report.events.filterMap Event.launched? :=
    List.mem_filterMap.mpr ⟨_, hlaunched, rfl⟩
  rcases begins.asksOnce with hnone | hone
  · rw [hnone] at hmem
    cases hmem
  · rw [hone] at hmem
    exact List.mem_singleton.mp hmem

/-- A program that launches takes stock of the endpoints before just if it is to discover. -/
theorem surveyed_iff {argv : List String} {options : List (String × Value)}
    (hlaunched : .launched argv options ∈ report.events) :
    .surveyed ∈ report.events ↔ .discover ∈ (splitFlags program.arguments).1 := by
  have hstarted : .launched argv options ∈ begins.started.events :=
    begins.mem_started hlaunched (fun hparting => hparting) (fun heq => by cases heq)
  constructor
  · intro hsurveyed
    by_contra hdiscover
    have hmem : .surveyed ∈ begins.started.events :=
      begins.mem_started hsurveyed (fun hparting => hparting) (fun heq => by cases heq)
    rw [started, start_of_no_discover program _ _ _ hdiscover] at hmem
    exact (spawn_shows _ _ _ _).1 _ hmem
  · intro hdiscover
    refine begins.mem_of_started ?_
    rw [started, start_of_discover program _ _ _ hdiscover] at hstarted ⊢
    cases hplan : ProbePlan.ofSettings program.settings none .null none with
    | error failure =>
        rw [hplan] at hstarted
        cases hstarted
    | ok plan =>
        exact mem_events_bind (surveyed_mem_discover _ _ _ _ _ _) _

end Begins

/-- Flags are read ahead of the name and nowhere else. A process is asked for with the words of the
arguments behind the name, which are those arguments just where each of them is a word. -/
theorem launch_takes_words (program : Program) (world : World Float (Desk Float))
    (journal : Journal) (flags : List Flag) (name : String) (texts : List String)
    (hname : Flag.ofText? name = none)
    (harguments : program.arguments = flags.map Flag.text ++ name :: texts)
    (argv : List String) (options : List (String × Value))
    (hlaunched : .launched argv options ∈ (program.run world journal).events) :
    argv = texts.flatMap wordsOf ∧
      (argv = texts ↔ ∀ text ∈ texts, text ≠ "" ∧ ∀ c ∈ text.toList, Text.isBlank c = false) ∧
      (.surveyed ∈ (program.run world journal).events ↔ .discover ∈ flags) ∧
      (.verbose ∈ flags → (program.run world journal).journal.handlers.head? =
        some (.console Level.debug.number)) ∧
      (.verbose ∉ flags → ∃ text, program.settings.text? .logLevel = some text ∧
        (program.run world journal).journal.handlers.head? =
          some (.console (Journal.levelOfName text))) := by
  have hsplit := splitFlags_of_arguments hname harguments
  have hflags : (splitFlags program.arguments).1 = flags := congrArg Prod.fst hsplit
  obtain ⟨begins⟩ : Nonempty (program.Begins world journal (program.run world journal)) := by
    refine (program.run_cases world journal).resolve_left fun hidle => ?_
    rw [hidle.events] at hlaunched
    cases hlaunched
  have hargv : argv = texts.flatMap wordsOf := by
    rw [begins.argv_of_launched hlaunched, (task?_of_split hsplit begins.task_eq).2,
      wordsOf_intercalate]
  refine ⟨hargv, ?_, ?_, fun hverbose => ?_, fun hverbose => ?_⟩
  · rw [hargv]
    exact flatMap_wordsOf_eq_iff texts
  · rw [begins.surveyed_iff hlaunched, hflags]
  · rw [← hflags] at hverbose
    have hlevel := begins.level_eq.symm.trans (consoleLevel_of_verbose hverbose)
    rw [begins.handlers_head, Except.ok.inj hlevel]
  · rw [← hflags] at hverbose
    obtain ⟨text, htext, hlevel⟩ := consoleLevel_of_no_verbose hverbose begins.level_eq
    exact ⟨text, htext, by rw [begins.handlers_head, hlevel]⟩

end Program

/-- A host that runs nothing yet. -/
def bareHost : World Float (Desk Float) where
  scene := ⟨⟨0.0, [], false, [], false, []⟩, ⟨0, []⟩⟩
  processes := ⟨[], [], 1001, [], [], "linux", true⟩
  patience := ⟨none, 0⟩
  paused := 0
  registry := Registry.empty

/-- A journal without a file, before it is set up. -/
def bareJournal : Journal := Journal.start (.bare []) "" fun _ => []

/-- Settings with which nothing is written to a file. -/
def bareSettings : Settings where
  directory := ⟨"", []⟩
  overrides := ⟨"", []⟩
  value
    | .notifyUrl => .text "http://127.0.0.1:4099"
    | .logLevel => .text "INFO"
    | .probePaths => .tuple [.text "/"]
    | .logFile => .null
    | _ => .float 1.0

/-- The last argument holds a blank. -/
def spacedProgram : Program where
  arguments := ["--verbose", "web", "srv", "a b"]
  settings := bareSettings
  terminal := .pipe
  isInstalled executable := executable == "srv"
  waits := 0
  exits _ := none

theorem spacedProgram_task? : spacedProgram.task? = some ("web", "srv a b") := by decide

theorem spacedProgram_command : Command.parse? "srv a b" = some ⟨"srv", ["a", "b"]⟩ := by decide

/-- The program gets to its start. -/
def spacedProgram_begins :
    spacedProgram.Begins bareHost bareJournal (spacedProgram.run bareHost bareJournal) :=
  .ofReady spacedProgram "web" "srv a b" rfl rfl spacedProgram_task? rfl bareHost

/-- The start is a spawn alone. -/
theorem spacedProgram_started :
    spacedProgram_begins.started =
      spawn (spacedProgram.runnerSetup spacedProgram_begins.target) "web" "srv a b"
        (Program.opened bareHost) := by
  have hplain : Flag.discover ∉ (splitFlags spacedProgram.arguments).1 := by decide
  rw [Program.Begins.started, Program.start_of_no_discover spacedProgram _ _ _ hplain]
  rfl

theorem launched_spacedProgram :
    .launched ["srv", "a", "b"] [("stdin", .text "DEVNULL")] ∈
      (spacedProgram.run bareHost bareJournal).events := by
  refine spacedProgram_begins.mem_of_started ?_
  rw [spacedProgram_started]
  exact launched_mem_spawn _ rfl spacedProgram_command rfl

theorem launch_takes_words_spacedProgram :
    Flag.ofText? "web" = none ∧
      spacedProgram.arguments = [Flag.verbose].map Flag.text ++ "web" :: ["srv", "a b"] ∧
      .launched ["srv", "a", "b"] [("stdin", .text "DEVNULL")] ∈
        (spacedProgram.run bareHost bareJournal).events ∧
      ["srv", "a", "b"] = ["srv", "a b"].flatMap wordsOf ∧
      .surveyed ∉ (spacedProgram.run bareHost bareJournal).events ∧
      (spacedProgram.run bareHost bareJournal).journal.handlers.head? =
        some (.console Level.debug.number) := by
  have hname : Flag.ofText? "web" = none := by decide
  have harguments :
      spacedProgram.arguments = [Flag.verbose].map Flag.text ++ "web" :: ["srv", "a b"] := rfl
  obtain ⟨hargv, -, hsurveyed, hverbose, -⟩ := Program.launch_takes_words spacedProgram bareHost
    bareJournal [.verbose] "web" ["srv", "a b"] hname harguments ["srv", "a", "b"]
    [("stdin", .text "DEVNULL")] launched_spacedProgram
  refine ⟨hname, harguments, launched_spacedProgram, hargv, fun hmem => ?_,
    hverbose List.mem_cons_self⟩
  have hdiscover := hsurveyed.mp hmem
  rw [List.mem_singleton] at hdiscover
  cases hdiscover

/-- Two of the launched arguments were one argument of the program. -/
theorem launched_not_verbatim_spacedProgram :
    Flag.ofText? "web" = none ∧
      spacedProgram.arguments = [Flag.verbose].map Flag.text ++ "web" :: ["srv", "a b"] ∧
      .launched ["srv", "a", "b"] [("stdin", .text "DEVNULL")] ∈
        (spacedProgram.run bareHost bareJournal).events ∧
      ["srv", "a", "b"] ≠ ["srv", "a b"] :=
  ⟨by decide, rfl, launched_spacedProgram, by decide⟩

end SubgraphLauncher
