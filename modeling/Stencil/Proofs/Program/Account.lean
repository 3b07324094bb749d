/-
The account that a run of the program gives of itself.

Refused arguments and texts to show leave the files and the log alone.  Work ends with the
exit code 0 or 1.  The log then tells, with the levels that are shown where nothing else is
asked for, that there was nothing to do, each output that was written, in its order, and the
failure if there was one.  What the log does not tell of has not happened: nothing else has
changed but for a temporary file that the failure may hold.
-/

import Stencil.Program
import Stencil.Proofs.Generation.Writing

namespace Stencil

open FilePath

/-- The settings and the templates that a run works with, unless it cannot find them. -/
def Options.plan? (options : Options) (environment : Environment) :
    Option (Config × List Text) :=
  match options.effective environment.workspace environment.home with
  | .error _ => .none
  | .ok config =>
      match options.file with
      | some path => some (config, [path])
      | .none =>
          match environment.workspace.discover options.directory config.extension with
          | .error _ => .none
          | .ok templates => some (config, templates)

/-- What a run over templates has left: some outputs, and nothing else but perhaps a
temporary file. -/
structure Leaves (workspace : Workspace) (config : Config) (templates : List Text)
    (outputs : List Output) (failed : Prop) (tree : FileTree) : Prop where
  writing : ∃ written, Writing config workspace workspace.tree outputs written ∧
    (tree = written ∨ failed ∧ written.GainsTemporary tree)
  inOrder : outputs.map Output.template <+: templates
  all : ¬ failed → outputs.map Output.template = templates
  distinct : outputs.Pairwise fun first second => first.place ≠ second.place
  holds : ∀ output ∈ outputs, tree.find? output.place = some output.entry
  leads : ∀ output ∈ outputs, ∀ place entry,
    locate tree false workspace.directory (outputPath output.template) = .ok (place, entry) →
      entry = output.entry
  untouched : ∀ path ∈ templates, path ∉ outputs.map Output.template → ∀ place,
    resolve workspace.tree false workspace.directory (outputPath path) = .ok place →
      tree.find? place = workspace.tree.find? place
  elsewhere : ∀ place, (∀ output ∈ outputs, output.place ≠ place) →
    tree.find? place = workspace.tree.find? place ∨
      failed ∧ workspace.tree.find? place = none ∧
        ∃ directory, ∃ name : TemporaryName, place = directory ++ [name.text]

section Leaves

variable {workspace : Workspace} {config : Config} {templates : List Text}
  {outputs : List Output} {written tree : FileTree} {failed : Prop}

theorem leaves_of_writing (apart : workspace.Apart templates)
    (writing : Writing config workspace workspace.tree outputs written)
    (inOrder : outputs.map Output.template <+: templates)
    (all : ¬ failed → outputs.map Output.template = templates)
    (last : tree = written ∨ failed ∧ written.GainsTemporary tree) :
    Leaves workspace config templates outputs failed tree := by
  have distinct := writing.distinct apart inOrder
  have overlaid : workspace.tree.Overlaid tree := by
    rcases last with rfl | ⟨-, _, _, gains⟩
    · exact writing.overlaid
    · exact writing.overlaid.trans gains.overlaid
  have kept : ∀ output ∈ outputs, tree.find? output.place = some output.entry := by
    intro output present
    have held := writing.holds distinct output present
    rcases last with rfl | ⟨-, _, _, gains⟩
    · exact held
    · exact gains.find?_of_some held
  refine ⟨⟨written, writing, last⟩, inOrder, all, distinct, kept, ?_, ?_, ?_⟩
  · intro output present place entry located
    obtain ⟨resolved, found⟩ := locate_eq_ok_iff.mp located
    have before := resolve_of_overlaid overlaid resolved
    rw [writing.resolved output present] at before
    cases before
    rw [kept output present] at found
    exact (Option.some.inj found).symm
  · intro path requested notWritten place resolved
    have noOutput := writing.untouched apart inOrder requested notWritten resolved
    rcases last with rfl | ⟨-, directory, name, gains⟩
    · exact writing.elsewhere noOutput
    · have notTemporary := Workspace.place_ne_temporary resolved directory name
      rw [gains.elsewhere place notTemporary, writing.elsewhere noOutput]
  · intro place noOutput
    have same := writing.elsewhere noOutput
    rcases last with rfl | ⟨hasFailed, directory, name, gains⟩
    · exact Or.inl same
    · by_cases isTemporary : place = directory ++ [name.text]
      · right
        subst isTemporary
        exact ⟨hasFailed, same ▸ gains.free, directory, name, rfl⟩
      · exact Or.inl ((gains.elsewhere place isTemporary).trans same)

end Leaves

/-- A record in a log: its level, filled up to five characters, its origin and its message. -/
structure Record where
  level : Text
  origin : Text
  message : Text

namespace Record

def found (path : Text) : Record :=
  ⟨"DEBUG".toList, "qtc::generate".toList, "found template ".toList ++ path⟩

def opened (opening : Opening) : Record :=
  ⟨"DEBUG".toList, "qtc::template::parser".toList,
    "func ".toList ++ opening.name ++ " at ".toList ++ opening.position.render⟩

def generated (path : Text) : Record :=
  ⟨"INFO ".toList, "qtc::generate".toList, "generated ".toList ++ path⟩

def noTemplates (extension directory : Text) : Record :=
  ⟨"INFO ".toList, "qtc::generate".toList,
    "no *.".toList ++ extension ++ " templates under ".toList ++ directory⟩

def failed (message : Text) : Record :=
  ⟨"ERROR".toList, "qtc".toList, message⟩

/-- A record behind a lead.  The lines of its message behind the first are indented. -/
def text (lead : Text) (record : Record) : Text :=
  lead ++ record.level ++ " ".toList ++ record.origin ++ "] ".toList ++
    "\n    ".toList.intercalate (record.message.splitOn '\n') ++ "\n".toList

def ofEvent : Event → Record
  | .found path => found path
  | .opened opening => opened opening
  | .generated path => generated path
  | .noTemplates extension directory => noTemplates extension directory
  | .failed chain => failed chain

end Record

theorem intercalate_modifyHead_cons (between : Text) (c : Char) {pieces : List Text}
    (nonempty : pieces ≠ []) :
    between.intercalate (pieces.modifyHead (c :: ·)) = c :: between.intercalate pieces := by
  obtain ⟨first, rest, rfl⟩ := List.exists_cons_of_ne_nil nonempty
  cases rest with
  | nil => simp only [List.modifyHead_cons, List.intercalate_singleton]
  | cons next rest =>
      simp only [List.modifyHead_cons, List.intercalate_cons_cons, List.cons_append]

theorem Event.indented_eq (message : Text) :
    Event.indented message = "\n    ".toList.intercalate (message.splitOn '\n') := by
  unfold indented List.splitOn
  induction message with
  | nil => rfl
  | cons c rest ih =>
      have pieces := List.splitOnP_ne_nil (· == '\n') rest
      rw [List.flatMap_cons, ih, List.splitOnP_cons_eq_if_modifyHead]
      by_cases breaks : c = '\n'
      · rw [if_pos breaks, if_pos (beq_iff_eq.mpr breaks)]
        obtain ⟨first, others, split⟩ := List.exists_cons_of_ne_nil pieces
        rw [split, List.intercalate_cons_cons, List.nil_append]
      · rw [if_neg breaks, if_neg (mt beq_iff_eq.mp breaks)]
        exact (intercalate_modifyHead_cons _ c pieces).symm

/-- An event is written as its record, without what a terminal would not show. -/
theorem Event.record_eq (lead : Text) (event : Event) :
    event.record lead = Text.printable ((Record.ofEvent event).text lead) := by
  have filled : event.level.name ++ List.replicate (5 - event.level.name.length) ' ' =
        (Record.ofEvent event).level ∧
      event.origin = (Record.ofEvent event).origin ∧
      event.message = (Record.ofEvent event).message := by
    cases event with
    | found path => exact ⟨rfl, rfl, rfl⟩
    | opened opening => exact ⟨rfl, rfl, rfl⟩
    | generated path => exact ⟨rfl, rfl, rfl⟩
    | noTemplates extension directory => exact ⟨rfl, rfl, rfl⟩
    | failed chain => exact ⟨rfl, rfl, rfl⟩
  obtain ⟨level, origin, message⟩ := filled
  have blank : " ".toList = [' '] := rfl
  have newline : "\n".toList = ['\n'] := rfl
  rw [record, indented_eq, Record.text, ← level, ← origin, ← message, blank, newline]
  simp only [List.append_assoc, List.cons_append, List.nil_append]

/-- Tabs, line breaks, and all that is no control character of ASCII. -/
def Text.isPlain (c : Char) : Prop :=
  c = '\t' ∨ c = '\n' ∨ (0x20 ≤ c.toNat ∧ c.toNat ≠ 0x7f)

theorem Text.printable_of_plain {text : Text} (plain : ∀ c ∈ text, Text.isPlain c) :
    Text.printable text = text := by
  have copies : ∀ copying, withoutSequences copying .outside text = text := by
    induction text with
    | nil => exact fun _ => rfl
    | cons c rest ih =>
        intro copying
        have shown : isPrintable c = true := by
          rcases plain c List.mem_cons_self with rfl | rfl | visible
          · rfl
          · rfl
          · rw [isPrintable, between, Bool.or_eq_true, Bool.or_eq_true, Bool.and_eq_true,
              decide_eq_true_eq, decide_eq_true_eq, decide_eq_true_eq]
            omega
        have others := ih (fun d member => plain d (List.mem_cons_of_mem c member)) true
        have outside : (copying || Sequence.outside == Sequence.outside) = true := by
          rw [beq_self_eq_true, Bool.or_true]
        rw [withoutSequences, outside, shown, Bool.and_true, if_pos rfl, ite_self, others]
  exact copies false

theorem LogFilter.log_none (lead : Text) (events : List Event) :
    LogFilter.log none lead events =
      ((events.filter LogFilter.default.admits).map Record.ofEvent).flatMap fun record =>
        Text.printable (record.text lead) := by
  have written : Event.record lead = fun event =>
      Text.printable ((Record.ofEvent event).text lead) := funext (Event.record_eq lead)
  have logged : LogFilter.log none lead events =
      (events.filter LogFilter.default.admits).flatMap (Event.record lead) := rfl
  rw [logged, written, List.flatMap_map]

namespace Run

theorem ofReport_accounts {α : Type} {workspace : Workspace} {config : Config}
    {templates : List Text} {report : Report α} {notice : List Event} {outputs : List Output}
    {written : FileTree} (apart : workspace.Apart templates)
    (accounts : workspace.Accounts config templates report notice outputs written)
    (environment : Environment) :
    let run := ofReport report
    ∃ failure,
      run.events.filter LogFilter.default.admits =
        notice ++ outputs.map Output.event ++ failure ∧
      (run.exitCode = 0 ∧ failure = [] ∨ run.exitCode = 1 ∧ ∃ chain, failure = [.failed chain]) ∧
      Leaves workspace config templates outputs (run.exitCode = 1) (run.tree environment) := by
  obtain ⟨writing, inOrder, told, ends⟩ := accounts
  cases answer : report.result with
  | ok value =>
      rw [answer] at ends
      obtain ⟨all, rfl⟩ := ends
      refine ⟨[], ?_, ?_, ?_⟩
      · simp only [ofReport, answer, events, told, List.append_nil]
      · simp only [ofReport, answer]
        exact Or.inl ⟨rfl, trivial⟩
      · simp only [ofReport, answer]
        exact leaves_of_writing apart writing inOrder (fun _ => all) (Or.inl rfl)
  | error fault =>
      rw [answer] at ends
      refine ⟨[.failed fault.chain], ?_, ?_, ?_⟩
      · simp only [ofReport, answer, events, List.filter_append, told]
        rfl
      · simp only [ofReport, answer]
        exact Or.inr ⟨rfl, _, rfl⟩
      · simp only [ofReport, answer]
        have failed : exitCode (.worked true report.heldTree
            (report.events ++ [.failed fault.chain])) = 1 := rfl
        refine leaves_of_writing apart writing inOrder (fun succeeded => absurd failed succeeded) ?_
        exact ends.imp_right fun gains => ⟨failed, gains⟩

/-- What work on some options tells and leaves: a notice that there was nothing to do, the
outputs that were written, and the failure, each with its record. -/
structure Account (environment : Environment) (options : Options) (lead : Text) (run : Run)
    (notice : List Record) (outputs : List Output) (failure : List Record) : Prop where
  told : LogFilter.log none lead run.events =
    (notice ++ outputs.map (fun output => Record.generated (outputPath output.template)) ++
      failure).flatMap fun record : Record => Text.printable (record.text lead)
  exits : run.exitCode = 0 ∧ failure = [] ∨
    run.exitCode = 1 ∧ ∃ message, failure = [Record.failed message]
  leaves : match options.plan? environment with
    | none =>
        notice = [] ∧ outputs = [] ∧ run.exitCode = 1 ∧
          run.tree environment = environment.workspace.tree
    | some (config, templates) =>
        notice = (if templates = [] then [.noTemplates config.extension options.directory]
          else []) ∧
        Leaves environment.workspace config templates outputs (run.exitCode = 1)
          (run.tree environment)

section Act

variable {environment : Environment} {options : Options}

theorem account_of_failure {chain : Text} (noPlan : options.plan? environment = none)
    (fails : act environment options =
      .worked true environment.workspace.tree [.failed chain]) (lead : Text) :
    Account environment options lead (act environment options) [] [] [.failed chain] := by
  rw [fails]
  refine ⟨LogFilter.log_none lead _, Or.inr ⟨rfl, chain, rfl⟩, ?_⟩
  rw [noPlan]
  exact ⟨rfl, rfl, rfl, rfl⟩

theorem account_of_report {α : Type} {config : Config} {templates : List Text}
    {report : Report α} {notice : List Event} {outputs : List Output} {written : FileTree}
    (plan : options.plan? environment = some (config, templates))
    (acts : act environment options = ofReport report)
    (apart : environment.workspace.Apart templates)
    (accounts : environment.workspace.Accounts config templates report notice outputs written)
    (noticed : notice =
      if templates = [] then [.noTemplates config.extension options.directory] else [])
    (lead : Text) :
    ∃ failure, Account environment options lead (act environment options)
      (notice.map Record.ofEvent) outputs failure := by
  obtain ⟨failure, told, exits, leaves⟩ := ofReport_accounts apart accounts environment
  rw [acts]
  refine ⟨failure.map Record.ofEvent, ?_, ?_, ?_⟩
  · rw [LogFilter.log_none, told, List.map_append, List.map_append, List.map_map]
    rfl
  · rcases exits with ⟨code, rfl⟩ | ⟨code, chain, rfl⟩
    · exact Or.inl ⟨code, rfl⟩
    · exact Or.inr ⟨code, chain, rfl⟩
  · rw [plan]
    refine ⟨?_, leaves⟩
    rw [noticed]
    split
    · rfl
    · rfl

end Act

theorem act_accounts (environment : Environment) (options : Options) (lead : Text) :
    ∃ notice outputs failure,
      Account environment options lead (act environment options) notice outputs failure := by
  cases settings : options.effective environment.workspace environment.home with
  | error fault =>
      have noPlan : options.plan? environment = none := by
        simp only [Options.plan?, settings]
      refine ⟨[], [], [.failed (fault.chain environment.complaint)],
        account_of_failure noPlan ?_ lead⟩
      simp only [act, settings]
  | ok config =>
      cases file : options.file with
      | some path =>
          obtain ⟨outputs, accounts⟩ := environment.workspace.compileFile_accounts config path
          have plan : options.plan? environment = some (config, [path]) := by
            simp only [Options.plan?, settings, file]
          have acts : act environment options =
              ofReport (environment.workspace.compileFile config path) := by
            simp only [act, settings, file]
          have apart : environment.workspace.Apart [path] := List.pairwise_singleton _ _
          exact ⟨[], outputs, account_of_report plan acts apart accounts rfl lead⟩
      | none =>
          cases found : environment.workspace.discover options.directory config.extension with
          | error fault =>
              have noPlan : options.plan? environment = none := by
                simp only [Options.plan?, settings, file, found]
              have fails : act environment options = .worked true environment.workspace.tree
                  [.failed (GenerationFault.walk options.directory fault).chain] := by
                simp only [act, settings, file, Workspace.compileDirectory, found]
                rfl
              exact ⟨[], [], _, account_of_failure noPlan fails lead⟩
          | ok templates =>
              obtain ⟨outputs, accounts⟩ := Workspace.compileDirectory_accounts found
              have plan : options.plan? environment = some (config, templates) := by
                simp only [Options.plan?, settings, file, found]
              have acts : act environment options = ofReport
                  (environment.workspace.compileDirectory config options.directory) := by
                simp only [act, settings, file]
              have apart := Workspace.discover_apart found
              exact ⟨_, outputs, account_of_report plan acts apart accounts rfl lead⟩

/-- The exit code, the log and the files of a run agree, with the levels that are shown where
nothing else is asked for.  Of a record nothing gets lost, unless it has control characters. -/
theorem ofArguments_accounts (environment : Environment) (arguments : List Text)
    (lead : Text) :
    let run := ofArguments environment arguments
    let unchanged := run.tree environment = environment.workspace.tree ∧
      LogFilter.log none lead run.events = []
    (∀ text, (∀ c ∈ text, Text.isPlain c) → Text.printable text = text) ∧
    match Request.ofArguments arguments with
    | .error _ => run.exitCode = 2 ∧ unchanged
    | .ok .help => run.exitCode = 0 ∧ unchanged
    | .ok .version => run.exitCode = 0 ∧ unchanged
    | .ok (.act options) =>
        ∃ notice outputs failure,
          Account environment options lead run notice outputs failure := by
  intro run unchanged
  refine ⟨fun _ => Text.printable_of_plain, ?_⟩
  cases request : Request.ofArguments arguments with
  | error fault =>
      have refused : run = .refused fault := by simp only [run, ofArguments, request]
      simp only [unchanged, refused]
      exact ⟨rfl, rfl, rfl⟩
  | ok asked =>
      cases asked with
      | help =>
          have shown : run = .shown helpText := by simp only [run, ofArguments, request]
          simp only [unchanged, shown]
          exact ⟨rfl, rfl, rfl⟩
      | version =>
          have shown : run = .shown versionText := by simp only [run, ofArguments, request]
          simp only [unchanged, shown]
          exact ⟨rfl, rfl, rfl⟩
      | act options =>
          have acts : run = act environment options := by simp only [run, ofArguments, request]
          rw [acts]
          exact act_accounts environment options lead

end Run
end Stencil
