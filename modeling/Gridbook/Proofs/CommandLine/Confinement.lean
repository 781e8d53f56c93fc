import Gridbook.Proofs.CommandLine.Course
import Gridbook.Proofs.CommandLine.Cutting
import Gridbook.Proofs.Settings.Usable

/-!
# What a command line may change

The command reads its settings and opens its document, which changes no file.  Then its actions are
taken up to the first one that fails.  So no file is changed but the targets of the actions that were
executed, and the file of the document holds what was last saved to it.  If an action fails, nothing
tells the command line from the one that lacks all actions behind it.  If none fails, the exit code
tells whether every formula yielded a number, and the sheet is shown unless an action has output of
its own.
-/

namespace Gridbook

namespace CommandLine

namespace Arguments

/-! ## Settings and documents -/

/-- The layout that the settings give, and what is wrong with them. -/
def layout (read : String → Option Settings) (a : Arguments) (own : Option String) (fs : Files) :
    Layout × List Settings.Warning :=
  if a.noSettings then (Layout.standard, [])
  else ((Settings.loadWith read a.settings own :
    StateM Files (Layout × List Settings.Warning)).run fs).1

/-- The file of the document, if one is named, is not there yet or it holds a snapshot. -/
def Opens (a : Arguments) (fs : Files) : Prop :=
  ∀ path ∈ a.file, fs.isPresent path = true →
    ∃ source w, fs.read? path = some source ∧ Snapshot.read source = .ok w

/-- The progress at the start of the actions: the document is opened, nothing has failed, and
nothing is printed apart from what is wrong with the settings. -/
structure Starts (read : String → Option Settings) (a : Arguments) (own : Option String)
    (fs : Files) (start : Progress) : Prop where
  opened : (Document.opened a.file (layout read a own fs).1 :
    StateM Files (Except Document.Error Document)).run fs = (.ok start.document, fs)
  path : start.document.path = a.file
  succeeded : start.succeeded = true
  output : start.output = ""
  messages : start.messages =
    (layout read a own fs).2.map fun warning => "Warning: " ++ warning.message

variable {read : String → Option Settings} {a : Arguments} {xs : List String} {own : Option String}
  {fs after : Files} {start last : Progress} {executed rest : List Action} {action : Action}
  {e : Failure}

theorem exists_opened (opens : a.Opens fs) (layout : Layout) :
    ∃ d, (Document.opened a.file layout : StateM Files (Except Document.Error Document)).run fs =
      (.ok d, fs) ∧ d.path = a.file := by
  cases file : a.file with
  | none => exact ⟨Document.ofLayout layout, rfl, rfl⟩
  | some path =>
      cases present : fs.isPresent path with
      | false => exact ⟨_, Document.opened_run_of_absent present layout, rfl⟩
      | true =>
          obtain ⟨source, w, found, accepted⟩ := opens path file present
          rw [Document.opened_run_of_isPresent present, Document.load_run, found]
          dsimp only
          rw [Document.withSnapshot, accepted]
          exact ⟨_, rfl, rfl⟩

theorem exists_starts (read : String → Option Settings) (own : Option String)
    (opens : a.Opens fs) : ∃ start, Starts read a own fs start := by
  obtain ⟨d, opened, path⟩ := exists_opened opens (layout read a own fs).1
  exact ⟨⟨d, true, "", _⟩, opened, path, rfl, rfl, rfl⟩

/-- Once the document is opened, the actions are taken. -/
theorem Starts.performWith_run (starts : Starts read a own fs start) :
    (performWith read a own : StateM Files Report).run fs =
      let ((last, failure), after) := (start.takeAll a.actions :
        StateM Files (Progress × Option Failure)).run fs
      (last.report (!a.actions.any Action.hasOutput) failure, after) := by
  obtain ⟨d, succeeded, output, messages⟩ := start
  obtain ⟨opened, _, rfl, rfl, rfl⟩ := starts
  unfold layout at opened ⊢
  rw [performWith]
  split
  · rename_i plain
    rw [if_pos plain] at opened
    rw [pure_bind, StateT.run_bind, opened]
    rfl
  · rename_i plain
    -- Reading the settings changes no file.
    obtain ⟨loaded, settings⟩ : ∃ loaded,
        (Settings.loadWith read a.settings own :
          StateM Files (Layout × List Settings.Warning)).run fs = pure (loaded, fs) :=
      ⟨_, Settings.loadWith_run read a.settings own fs⟩
    rw [if_neg plain, settings] at opened
    rw [StateT.run_bind, settings, pure_bind]
    change (Document.opened a.file loaded.1 : StateM Files _).run fs = _ at opened
    dsimp only
    rw [StateT.run_bind, opened]
    rfl

theorem runWith_of_parse (accepted : parse xs = .ok a) (plain : a.help = false) :
    (runWith read xs own : StateM Files Report) = performWith read a own := by
  rw [runWith, accepted]
  dsimp only
  rw [plain]
  rfl

/-- A run in which no action fails. -/
theorem Starts.run_of_course (starts : Starts read a own fs start) (accepted : parse xs = .ok a)
    (plain : a.help = false) (course : start.Course fs a.actions last after) :
    (runWith read xs own : StateM Files Report).run fs =
      (last.report (!a.actions.any Action.hasOutput) none, after) := by
  rw [runWith_of_parse accepted plain, starts.performWith_run]
  have all := course.takeAll_append []
  rw [List.append_nil] at all
  rw [all]
  rfl

/-- A run up to an action that fails. -/
theorem Starts.run_of_fails (starts : Starts read a own fs start) (accepted : parse xs = .ok a)
    (plain : a.help = false) (course : start.Course fs executed last after)
    (fails : last.Fails after action e) (split : a.actions = executed ++ action :: rest) :
    (runWith read xs own : StateM Files Report).run fs =
      (last.report true (some e), after) := by
  rw [runWith_of_parse accepted plain, starts.performWith_run, split, course.takeAll_append,
    fails.takeAll_cons]
  rfl

/-! ## The effects of a run -/

/-- The effects of a run on the files, given the actions that were executed.  A file to which none of
them writes is left as it is.  The file of the document holds what was last saved to it, unless a
later export leads to the same place. -/
structure Confined (a : Arguments) (fs after : Files) (start : Progress)
    (executed : List Action) : Prop where
  others : ∀ place, (∀ action ∈ executed, ∀ path ∈ action.target? a.file,
    fs.locate? path ≠ some place) → after.lookup? place = fs.lookup? place
  saved : ∀ path before later, a.file = some path → executed = before ++ .write :: later →
    (∀ action ∈ later, ∀ other ∈ action.target? a.file, fs.locate? other ≠ fs.locate? path) →
    ∃ moment between, start.Course fs before moment between ∧
      after.read? path = some moment.document.snapshot

/-- The end of a run in which no action fails.  It prints one line for every action that has output;
if there is none, it prints the current sheet. -/
structure Completes (a : Arguments) (fs : Files) (report : Report) (start last : Progress) :
    Prop where
  code : report.code = 0 ↔ start.Faultless fs a.actions
  output : ∃ lines, List.Forall₂ Action.Prints (a.actions.filter Action.hasOutput) lines ∧
    report.output = String.join (lines.map (· ++ "\n")) ++
      if a.actions.any Action.hasOutput then "" else last.document.markdown

/-- A run of a command line with the exit code and the output of a report, which leaves the same
files. -/
def Repeats (read : String → Option Settings) (xs : List String) (own : Option String) (fs : Files)
    (report : Report) (after : Files) : Prop :=
  ∃ other, (runWith read xs own : StateM Files Report).run fs = (other, after) ∧
    other.code = report.code ∧ other.output = report.output

/-- The end of a run in which an action fails.  The run is that of the command line without the
actions behind the one that fails; a file, settings and options without a value that stand there are
kept.  If only actions stand there then it is the run of what is in front of them. -/
structure Stops (read : String → Option Settings) (xs : List String) (own : Option String)
    (a : Arguments) (fs : Files) (report : Report) (after : Files) (last : Progress)
    (executed : List Action) (action : Action) (rest : List Action) (e : Failure) : Prop where
  split : a.actions = executed ++ action :: rest
  fails : last.Fails after action e
  code : report.code = 1
  accepted : parse (cutAfter (executed.length + 1) xs) =
    .ok { a with actions := executed ++ [action] }
  short : Repeats read (cutAfter (executed.length + 1) xs) own fs report after
  cut : ∀ front back b, xs = front ++ back → Lists front b → b.actions = executed ++ [action] →
    Repeats read (front ++ cutAfter 0 back) own fs report after
  bare : ∀ front back b c, xs = front ++ back → Lists front b →
    b.actions = executed ++ [action] → Lists back c → c.OnlyActs →
    Repeats read front own fs report after

theorem Starts.confined (starts : Starts read a own fs start)
    (course : start.Course fs executed last after) : Confined a fs after start executed where
  others place apart := course.lookup? (starts.path ▸ apart)
  saved path before later file split apart := by
    rw [split] at course
    obtain ⟨moment, between, front, back⟩ := Progress.Course.append_iff.mp course
    have known := front.path.trans starts.path
    refine ⟨moment, between, front, back.read?_of_write (known.trans file) ?_⟩
    rw [known, front.locate?]
    exact apart

theorem Starts.completes (starts : Starts read a own fs start)
    (course : start.Course fs a.actions last after) :
    Completes a fs (last.report (!a.actions.any Action.hasOutput) none) start last where
  code := by
    have succeeded := course.succeeded
    rw [starts.succeeded, eq_self, true_and] at succeeded
    rw [← succeeded, Report.code]
    change (if last.succeeded = true then 0 else 1) = 0 ↔ _
    cases last.succeeded <;> decide
  output := by
    obtain ⟨lines, prints, output⟩ := course.output
    refine ⟨lines, prints, ?_⟩
    change last.output ++ _ = _
    rw [output, starts.output, String.empty_append]
    cases a.actions.any Action.hasOutput <;> rfl

theorem Starts.stops (starts : Starts read a own fs start) (accepted : parse xs = .ok a)
    (plain : a.help = false) (course : start.Course fs executed last after)
    (fails : last.Fails after action e) (split : a.actions = executed ++ action :: rest) :
    Stops read xs own a fs (last.report true (some e)) after last executed action rest e := by
  have first : a.withFirst (executed.length + 1) = { a with actions := executed ++ [action] } := by
    rw [withFirst, split, List.take_length_add_append]
    rfl
  -- The shorter command line has the same file and settings, so it starts with the same document.
  have shorter := parse_cutAfter accepted (executed.length + 1)
  rw [first] at shorter
  have again : Starts read { a with actions := executed ++ [action] } own fs start :=
    ⟨starts.opened, starts.path, starts.succeeded, starts.output, starts.messages⟩
  have short : Repeats read (cutAfter (executed.length + 1) xs) own fs
      (last.report true (some e)) after :=
    ⟨_, again.run_of_fails shorter plain course fails rfl, rfl, rfl⟩
  have cut : ∀ front back b, xs = front ++ back → Lists front b →
      b.actions = executed ++ [action] →
      Repeats read (front ++ cutAfter 0 back) own fs (last.report true (some e)) after := by
    intro front back b whole lists same
    have here := cutAfter_append_of_lists lists back
    rw [same, List.length_append, List.length_singleton, ← whole] at here
    rw [← here]
    exact short
  refine ⟨split, fails, rfl, shorter, short, cut, ?_⟩
  intro front back b c whole lists same behind only
  have left := cut front back b whole lists same
  rwa [cutAfter_zero_of_onlyActs behind only, List.append_nil] at left

/-- Every run of a command line that is accepted and does not ask for help, on files among which that
of the document can be opened unless it is absent, however settings files are read. -/
theorem effects_of_run (read : String → Option Settings) (accepted : parse xs = .ok a)
    (plain : a.help = false) (opens : a.Opens fs) (own : Option String) :
    ∃ report after start last executed,
      (runWith read xs own : StateM Files Report).run fs = (report, after) ∧
      Starts read a own fs start ∧ start.Course fs executed last after ∧
      Confined a fs after start executed ∧
      (a.actions = executed ∧ Completes a fs report start last ∨
        ∃ action rest e, Stops read xs own a fs report after last executed action rest e) := by
  obtain ⟨start, starts⟩ := exists_starts read own opens
  obtain ⟨executed, last, after, course, outcome⟩ := Progress.course_or_failure start fs a.actions
  rcases outcome with all | ⟨action, rest, e, split, fails⟩
  · subst all
    exact ⟨_, after, start, last, _, starts.run_of_course accepted plain course, starts, course,
      starts.confined course, .inl ⟨rfl, starts.completes course⟩⟩
  · exact ⟨_, after, start, last, executed,
      starts.run_of_fails accepted plain course fails split, starts, course,
      starts.confined course,
      .inr ⟨action, rest, e, starts.stops accepted plain course fails split⟩⟩

theorem effects_of_run_of_refused_sheet :
    let read := Settings.parse?
    let xs := ["--no-config", "-w", "--csv", "a", "--sheet", "9", "b", "-w"]
    let fs := Files.empty.place "b" (.text "[sheet 1x1] \"s\"\n(1,1): \"x\"\n")
    let a : Arguments :=
      ⟨some "b", none, true, false, [.write, .exportCsv "a", .switchSheet "9", .write]⟩
    parse xs = .ok a ∧ a.help = false ∧ a.Opens fs ∧
      ∃ report after start last executed,
        (runWith read xs none : StateM Files Report).run fs = (report, after) ∧
        Starts read a none fs start ∧ start.Course fs executed last after ∧
        Confined a fs after start executed ∧
        (a.actions = executed ∧ Completes a fs report start last ∨
          ∃ action rest e, Stops read xs none a fs report after last executed action rest e) := by
  intro read xs fs a
  have accepted : parse xs = .ok a := by decide +kernel
  have opens : a.Opens fs := by
    rintro path ⟨⟩ -
    have found : fs.read? "b" = some "[sheet 1x1] \"s\"\n(1,1): \"x\"\n" := by decide +kernel
    have snapshot : (Snapshot.read "[sheet 1x1] \"s\"\n(1,1): \"x\"\n").toBool = true := by
      decide +kernel
    cases loaded : Snapshot.read "[sheet 1x1] \"s\"\n(1,1): \"x\"\n" with
    | error failure =>
        rw [loaded] at snapshot
        cases snapshot
    | ok w => exact ⟨_, w, found, loaded⟩
  exact ⟨accepted, rfl, opens, effects_of_run read accepted rfl opens none⟩

/-- If the file stands behind the action that fails then it has to be kept: without it, the same
actions are taken on a new document. -/
theorem run_of_file_behind :
    let front := ["--no-config", "--csv", "a", "--sheet", "9"]
    let fs := Files.empty.place "b" (.text "[sheet 1x1] \"s\"\n(1,1): \"x\"\n")
    let whole := (run (front ++ ["b"]) none : StateM Files Report).run fs
    let short := (run front none : StateM Files Report).run fs
    parse (front ++ ["b"]) =
        .ok ⟨some "b", none, true, false, [.exportCsv "a", .switchSheet "9"]⟩ ∧
      parse front = .ok ⟨none, none, true, false, [.exportCsv "a", .switchSheet "9"]⟩ ∧
      whole.1.code = 1 ∧ whole.1.output = "Exported to a\n" ∧
      whole.2.read? "a" = some "x\n" ∧ short.2.read? "a" = some "" := by
  decide +kernel

end Arguments

end CommandLine

end Gridbook
