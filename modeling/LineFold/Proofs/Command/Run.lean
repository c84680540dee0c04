import LineFold.Proofs.Command.Action
import LineFold.Proofs.Command.Standard
import LineFold.Proofs.Files.Document
import LineFold.Proofs.Settings.Building

/-! Runs of the command. A run that succeeds has passed every check on the way, from the path to the lengths
of the lines, and prints the ranges for the file and the settings that were built for it. As this is the
last thing the command does, no other run prints anything. The library around the command is a parameter,
of which only that is used which it documents; and a shell that asks it for completions is an exception. -/
namespace LineFold.Command
open LineFold.Guards

/-- The rule that options describe: two patterns or else two texts, with the offsets that are given, or none
where there are no options for it. -/
inductive Describes (r : Request) : Option Entries → Prop where
  | patterns {opening closing : String} (first : r.openingPattern = some opening)
      (second : r.closingPattern = some closing) :
      Describes r (some ([("beginRegex", .text opening), ("endRegex", .text closing)] ++ offsets r))
  | texts {opening closing : String} (noFirst : r.openingPattern = none)
      (noSecond : r.closingPattern = none) (first : r.opening = some opening)
      (second : r.closing = some closing) :
      Describes r (some ([("begin", .text opening), ("end", .text closing)] ++ offsets r))
  | nothing (noFirstPattern : r.openingPattern = none) (noSecondPattern : r.closingPattern = none)
      (noFirst : r.opening = none) (noSecond : r.closing = none) (noOffsets : offsets r = []) :
      Describes r none

/-- What a run goes through from a request to what is printed: the path of the file, the rule of the
options, the settings for its directory and the text, which keeps the limits in force. -/
structure Passes (compiler : Pattern.Compiler) (host : Host) (r : Request) (path : Path)
    (rule : Option Entries) (settings : Settings) (text output : String) : Prop where
  located : ∃ base, host.resolveLoosely (Path.ofParts host.current) = .ok base ∧
    host.locate r.file base = .ok path
  described : Describes r rule
  configured : ∃ checked, Settings.build host path.parent (overrides rule r.clamp) = .ok (settings, checked)
  file : host.linkEntry path.toText = .ok (.file (Text.Utf8.encode text.toList))
  readable : host.read path.toText = .ok (Text.Utf8.encode text.toList)
  fits : ∃ configured limit, settings.maxFileSize = .int configured ∧
    InForce host.environment "EXPLICIT_FOLDING_MAX_FILE_SIZE" configured limit ∧
      (Text.Utf8.encode text.toList).length ≤ limit
  linesFit : ∃ configured limit, settings.maxLineLength = .int configured ∧
    InForce host.environment "EXPLICIT_FOLDING_MAX_LINE_LENGTH" configured limit ∧
      ∀ line ∈ Text.splitLines text, (line.length : Int) ≤ limit
  printed : ∃ set, (Rule.logged (settings.ruleSet compiler)).1 = .ok set ∧
    Range.render? r.format r.oneBased (set.ranges ((Text.splitLines text).map Pattern.Line.ofText)) =
      some output

variable {library : Library} {compiler : Pattern.Compiler} {host : Host} {arguments : List String}
  {r : Request} {path : Path} {rule : Option Entries} {settings : Settings}
  {checked : Settings.Checked} {text output : String} {lines : List String}

section Options

lemma pairOf_eq_ok_iff {options keys : String × String} {opening closing : Option String}
    {pair : Option Entries} :
    pairOf options keys opening closing = .ok pair ↔
      (opening = none ∧ closing = none ∧ pair = none) ∨
        ∃ first second, opening = some first ∧ closing = some second ∧
          pair = some [(keys.1, .text first), (keys.2, .text second)] := by
  cases opening <;> cases closing <;> simp [pairOf, eq_comm]

lemma ruleOf_eq_ok_iff : ruleOf r = .ok rule ↔ Describes r rule := by
  constructor
  · intro h
    obtain ⟨patterns, hpatterns, h⟩ := bind_eq_ok.mp h
    rcases pairOf_eq_ok_iff.mp hpatterns with ⟨noFirst, noSecond, rfl⟩ | ⟨_, _, first, second, rfl⟩
    · obtain ⟨texts, htexts, h⟩ := bind_eq_ok.mp h
      rcases pairOf_eq_ok_iff.mp htexts with ⟨noOpening, noClosing, rfl⟩ | ⟨_, _, opening, closing, rfl⟩
      · cases hoffsets : (offsets r).isEmpty with
        | true =>
          simp only [hoffsets] at h
          cases h
          exact .nothing noFirst noSecond noOpening noClosing (List.isEmpty_iff.mp hoffsets)
        | false =>
          simp only [hoffsets] at h
          cases h
      · cases h
        exact .texts noFirst noSecond opening closing
    · cases h
      exact .patterns first second
  · intro h
    unfold ruleOf
    cases h with
    | patterns first second =>
      rw [first, second]
      rfl
    | texts noFirst noSecond first second =>
      rw [noFirst, noSecond, first, second]
      rfl
    | nothing noFirstPattern noSecondPattern noFirst noSecond noOffsets =>
      rw [noFirstPattern, noSecondPattern, noFirst, noSecond, noOffsets]
      rfl

end Options

section Stages

lemma quiet_provide : Quiet (provide compiler r checked) := by
  unfold provide
  refine .bind (quiet_printErrors _) fun _ => .bind (quiet_check _) fun set => ?_
  exact .bind (quiet_printErrors _) fun _ => .bind (quiet_printErrors _) fun _ => quiet_pure set

lemma result_provide : result (provide compiler r checked) =
    (Rule.logged (RuleSet.compile compiler (.list checked.rules) checked.clamp)).1.mapError
      fun abort => .crash (.abort abort) := by
  unfold provide
  generalize Rule.logged (RuleSet.compile compiler (.list checked.rules) checked.clamp) = found
  obtain ⟨compiled, warnings⟩ := found
  cases compiled <;> rfl

lemma render_eq_ok_iff {set : RuleSet} :
    render r set lines = .ok output ↔
      Range.render? r.format r.oneBased (set.ranges (lines.map Pattern.Line.ofText)) = some output := by
  unfold render
  cases Range.render? r.format r.oneBased (set.ranges (lines.map Pattern.Line.ofText)) <;> simp

lemma quiet_rangesText (compiler : Pattern.Compiler) (host : Host) (r : Request) :
    Quiet (rangesText compiler host r) :=
  .bind (quiet_check _) fun _ => .bind quiet_provide fun _ => quiet_check _

lemma rangesText_eq_ok_iff :
    result (rangesText compiler host r) = .ok output ↔
      ∃ checked lines, prepare host r = .ok (checked, lines) ∧
        ∃ set, (Rule.logged (RuleSet.compile compiler (.list checked.rules) checked.clamp)).1 = .ok set ∧
          Range.render? r.format r.oneBased (set.ranges (lines.map Pattern.Line.ofText)) = some output := by
  have hresult : result (rangesText compiler host r) =
      prepare host r >>= fun prepared => result (provide compiler r prepared.1) >>= fun set =>
        render r set prepared.2 := by
    rw [rangesText, result_bind fun _ => .bind quiet_provide fun _ => quiet_check _]
    refine bind_congr fun prepared => ?_
    exact result_bind fun _ => quiet_check _
  simp only [hresult, bind_eq_ok, result_provide, mapError_eq_ok, render_eq_ok_iff, Prod.exists]

lemma prepare_eq_ok_iff :
    prepare host r = .ok (checked, lines) ↔
      ∃ base path rule settings fileLimit lineLimit size,
        host.resolveLoosely (Path.ofParts host.current) = .ok base ∧
        host.locate r.file base = .ok path ∧ ruleOf r = .ok rule ∧
        Settings.build host path.parent (overrides rule r.clamp) = .ok (settings, checked) ∧
        maxFileSize host.environment checked.maxFileSize = .ok fileLimit ∧
        maxLineLength host.environment checked.maxLineLength = .ok lineLimit ∧
        host.checkedFileSize path fileLimit = .ok size ∧
        host.document path.given (some lineLimit) = .ok lines := by
  simp only [prepare, bind_eq_ok, mapError_eq_ok, Prod.exists]
  constructor
  · rintro ⟨base, hbase, path, hpath, rule, hrule, settings, found, hbuild, fileLimit, hfile, lineLimit,
      hline, size, hsize, _, hdocument, h⟩
    cases h
    exact ⟨base, path, rule, settings, fileLimit, lineLimit, size, hbase, hpath, hrule, hbuild, hfile,
      hline, hsize, hdocument⟩
  · rintro ⟨base, path, rule, settings, fileLimit, lineLimit, size, hbase, hpath, hrule, hbuild, hfile,
      hline, hsize, hdocument⟩
    exact ⟨base, hbase, path, hpath, rule, hrule, settings, checked, hbuild, fileLimit, hfile, lineLimit,
      hline, size, hsize, lines, hdocument, rfl⟩

/-- A path names a file of text where the file may be read and holds the text. -/
lemma holdsText_given_iff :
    host.HoldsText path.given text ↔ host.read path.toText = .ok (Text.Utf8.encode text.toList) := by
  unfold Host.HoldsText
  rw [Path.path_given]
  exact and_iff_right (unencodableFrom?_eq_none_iff.mp path.unencodable?_given)

/-- The content of a file whose size was checked is that of the text that is read from it. -/
lemma content_eq_encode {content : List UInt8} (found : host.linkEntry path.toText = .ok (.file content))
    (readable : host.read path.toText = .ok (Text.Utf8.encode text.toList)) :
    content = Text.Utf8.encode text.toList := by
  have hentry := Host.entry_of_linkEntry found fun _ => Entry.noConfusion
  obtain ⟨place, hfind, -⟩ := Host.read_eq_ok_iff.mp readable
  rw [Host.entry_eq_ok_iff.mpr ⟨place, hfind⟩] at hentry
  cases hentry
  rfl

lemma passes_of_rangesText (h : result (rangesText compiler host r) = .ok output) :
    ∃ path rule settings text, Passes compiler host r path rule settings text output := by
  obtain ⟨checked, lines, hprepare, hprinted⟩ := rangesText_eq_ok_iff.mp h
  obtain ⟨base, path, rule, settings, fileLimit, lineLimit, size, hbase, hpath, hrule, hbuild, hfile,
    hline, hsize, hdocument⟩ := prepare_eq_ok_iff.mp hprepare
  obtain ⟨holds, filePositive, linePositive⟩ := Settings.holds_of_build hbuild
  obtain ⟨⟨content, found, rfl⟩, hle⟩ := Host.checkedFileSize_eq_ok_iff.mp hsize
  obtain ⟨-, ⟨text, holdsText, rfl⟩, hlines⟩ := Host.document_eq_ok_iff.mp hdocument
  have readable := holdsText_given_iff.mp holdsText
  obtain rfl := content_eq_encode found readable
  have fileInForce := (readLimit_eq_ok_iff filePositive).mp hfile
  have lineInForce := (readLimit_eq_ok_iff linePositive).mp hline
  refine ⟨path, rule, settings, text, ⟨base, hbase, hpath⟩, ruleOf_eq_ok_iff.mp hrule, ⟨checked, hbuild⟩,
    found, readable, ⟨_, _, holds.fileSize, fileInForce, hle⟩,
    ⟨_, _, holds.lineLength, lineInForce, hlines⟩, ?_⟩
  rw [holds.ruleSet_eq compiler]
  exact hprinted

lemma Passes.rangesText (passes : Passes compiler host r path rule settings text output) :
    result (rangesText compiler host r) = .ok output := by
  obtain ⟨⟨base, hbase, hpath⟩, hrule, ⟨checked, hbuild⟩, found, readable, ⟨fileValue, fileLimit,
    hfileValue, fileInForce, hle⟩, ⟨lineValue, lineLimit, hlineValue, lineInForce, hlines⟩, hprinted⟩ :=
    passes
  obtain ⟨holds, filePositive, linePositive⟩ := Settings.holds_of_build hbuild
  rw [holds.fileSize] at hfileValue
  rw [holds.lineLength] at hlineValue
  cases hfileValue
  cases hlineValue
  rw [holds.ruleSet_eq compiler] at hprinted
  have hdocument : host.document path.given (some lineLimit) = .ok (Text.splitLines text) :=
    Host.document_eq_ok_iff.mpr
      ⟨lineInForce.positive, ⟨text, holdsText_given_iff.mpr readable, rfl⟩, hlines⟩
  refine rangesText_eq_ok_iff.mpr ⟨checked, Text.splitLines text, ?_, hprinted⟩
  exact prepare_eq_ok_iff.mpr ⟨base, path, rule, settings, fileLimit, lineLimit, _, hbase, hpath,
    ruleOf_eq_ok_iff.mpr hrule, hbuild, (readLimit_eq_ok_iff filePositive).mpr fileInForce,
    (readLimit_eq_ok_iff linePositive).mpr lineInForce,
    Host.checkedFileSize_eq_ok_iff.mpr ⟨⟨_, found, rfl⟩, hle⟩, hdocument⟩

end Stages

section Runs

/-- A call of the command prints the text of the ranges if there is one, and fails without output if there
is none. -/
lemma run_of_call (compiler : Pattern.Compiler) (lawful : library.Lawful)
    (call : library.dispatch host arguments = .call r) :
    (∀ output, (run library compiler host arguments).exitCode = 0 ∧
        (run library compiler host arguments).output = output ↔
      result (rangesText compiler host r) = .ok output) ∧
    ((run library compiler host arguments).exitCode ≠ 0 →
      (run library compiler host arguments).output = "") := by
  have hrun : run library compiler host arguments =
      library.conclude ((execute compiler host r).run.run {}).1 ((execute compiler host r).run.run {}).2 := by
    rw [run, call]
    rfl
  obtain ⟨hresult, houtput⟩ := run_print (quiet_rangesText compiler host r)
  rw [hrun]
  change ((execute compiler host r).run.run {}).1 = _ at hresult
  change ((execute compiler host r).run.run {}).2.output = _ at houtput
  generalize (execute compiler host r).run.run {} = outcome at hresult houtput
  obtain ⟨ended, streams⟩ := outcome
  cases hranges : result (rangesText compiler host r) with
  | ok text =>
    rw [hranges] at hresult houtput
    cases hresult
    obtain ⟨hcode, hsame⟩ := lawful.success streams
    refine ⟨fun output => ?_, fun h => absurd hcode h⟩
    rw [hsame, houtput]
    simp [hcode, Except.toOption]
  | error raised =>
    rw [hranges] at hresult houtput
    cases hresult
    obtain ⟨hcode, hsame⟩ := lawful.failure raised streams
    refine ⟨fun output => ?_, fun _ => hsame.trans houtput⟩
    simp [hcode]

end Runs

/-- For a library that keeps its word a run that is asked for no notice succeeds with an output exactly where
the command is called, passes all checks and has the ranges of the file printed so, and any other run prints
nothing. -/
theorem run_prints_iff_passes (library : Library) (lawful : library.Lawful) (compiler : Pattern.Compiler)
    (host : Host) (arguments : List String)
    (notAsked : ∀ notice report, library.dispatch host arguments ≠ .stop (some notice) report) :
    (∀ output, (run library compiler host arguments).exitCode = 0 ∧
        (run library compiler host arguments).output = output ↔
      ∃ r path rule settings text, library.dispatch host arguments = .call r ∧
        Passes compiler host r path rule settings text output) ∧
    ((run library compiler host arguments).exitCode ≠ 0 →
      (run library compiler host arguments).output = "") := by
  cases hdispatch : library.dispatch host arguments with
  | stop asked report =>
    cases asked with
    | some notice => exact absurd hdispatch (notAsked notice report)
    | none =>
      obtain ⟨hcode, hsilent⟩ := lawful.stop host arguments report hdispatch
      have hrun : run library compiler host arguments = report := by rw [run, hdispatch]
      rw [hrun]
      exact ⟨fun output => by simp [hcode], fun _ => hsilent⟩
  | call r =>
    obtain ⟨hprints, hsilent⟩ := run_of_call compiler lawful hdispatch
    refine ⟨fun output => (hprints output).trans ⟨fun h => ?_, ?_⟩, hsilent⟩
    · obtain ⟨path, rule, settings, text, passes⟩ := passes_of_rangesText h
      exact ⟨r, path, rule, settings, text, rfl, passes⟩
    · rintro ⟨same, path, rule, settings, text, hsame, passes⟩
      cases hsame
      exact passes.rangesText

/-- A host with one file of three lines, the first and the last of them with a bracket. -/
def bracketsHost (environment : Environment) : Host where
  disk := { entries := [(["notes.txt"], .file (Text.Utf8.encode "<\na\n>\n".toList))] }
  current := []
  environment := environment
  homes := []

def bracketsArguments : List String := ["notes.txt", "--begin=<", "--end", ">", "--one-based"]

def bracketsRequest : Request where
  file := "notes.txt"
  opening := some "<"
  closing := some ">"
  openingPattern := none
  closingPattern := none
  topOffset := none
  bottomOffset := none
  clamp := none
  format := .text
  oneBased := true
  verbose := false

/-- A run that has the ranges printed, and one that stops at the limit on the size of the file. -/
theorem run_prints_iff_passes_brackets :
    Library.standard.Lawful ∧
      (∀ notice report, Library.standard.dispatch (bracketsHost []) bracketsArguments ≠
        .stop (some notice) report) ∧
      (∃ path rule settings text,
        Passes .plain (bracketsHost []) bracketsRequest path rule settings text "1-2\n") ∧
      (run .standard .plain (bracketsHost [("EXPLICIT_FOLDING_MAX_FILE_SIZE", "5")])
        bracketsArguments).output = "" := by
  have called : Library.standard.dispatch (bracketsHost []) bracketsArguments = .call bracketsRequest := by
    decide +kernel
  have calledWithLimit : Library.standard.dispatch (bracketsHost [("EXPLICIT_FOLDING_MAX_FILE_SIZE", "5")])
      bracketsArguments = .call bracketsRequest := by
    decide +kernel
  have notAsked : ∀ notice report, Library.standard.dispatch (bracketsHost []) bracketsArguments ≠
      .stop (some notice) report := by
    simp [called]
  have notAskedWithLimit : ∀ notice report, Library.standard.dispatch
      (bracketsHost [("EXPLICIT_FOLDING_MAX_FILE_SIZE", "5")]) bracketsArguments ≠
        .stop (some notice) report := by
    simp [calledWithLimit]
  have hsuccess : (run .standard .plain (bracketsHost []) bracketsArguments).exitCode = 0 ∧
      (run .standard .plain (bracketsHost []) bracketsArguments).output = "1-2\n" := by
    decide +kernel
  have hfailure : (run .standard .plain (bracketsHost [("EXPLICIT_FOLDING_MAX_FILE_SIZE", "5")])
      bracketsArguments).exitCode ≠ 0 := by
    decide +kernel
  obtain ⟨prints, -⟩ := run_prints_iff_passes .standard lawful_standard .plain _ _ notAsked
  obtain ⟨-, silent⟩ := run_prints_iff_passes .standard lawful_standard .plain _ _ notAskedWithLimit
  obtain ⟨r, path, rule, settings, text, hcall, passes⟩ := (prints "1-2\n").mp hsuccess
  cases called.symm.trans hcall
  exact ⟨lawful_standard, notAsked, ⟨path, rule, settings, text, passes⟩, silent hfailure⟩

/-- What a shell sets to have the first word completed, here one that no option begins with. -/
def completionEnvironment : Environment :=
  [("_CLI_COMPLETE", "zsh_complete"), ("COMP_WORDS", "cli --zzz"), ("COMP_CWORD", "1")]

/-- A run that is asked neither for help nor for the version may print without a call of the command. -/
theorem completion_prints_without_file :
    ¬ ∀ (library : Library), library.Lawful → ∀ (compiler : Pattern.Compiler) (host : Host)
        (arguments : List String),
      (∀ report, library.dispatch host arguments ≠ .stop (some .help) report) →
      (∀ report, library.dispatch host arguments ≠ .stop (some .version) report) →
      (run library compiler host arguments).exitCode = 0 →
      ∃ r path rule settings text, library.dispatch host arguments = .call r ∧
        Passes compiler host r path rule settings text (run library compiler host arguments).output := by
  intro h
  have asked : Library.standard.dispatch (bracketsHost completionEnvironment) [] =
      .stop (some .completion) (Streams.report { output := "\n" }) := by
    decide +kernel
  obtain ⟨r, path, rule, settings, text, hcall, -⟩ :=
    h .standard lawful_standard .plain (bracketsHost completionEnvironment) [] (by simp [asked])
      (by simp [asked]) (by decide +kernel)
  cases asked.symm.trans hcall

end LineFold.Command
