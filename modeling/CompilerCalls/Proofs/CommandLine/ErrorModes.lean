import CompilerCalls.Proofs.CommandLine.Closing
import CompilerCalls.Proofs.Console.Plain
import CompilerCalls.Proofs.Report.JsonReader
import CompilerCalls.Proofs.Settings.WellTyped

/-!
# The two ways of telling a fault

A request for entries tells a fault in the settings as a document, or as a line
for the console.  The document holds the message of the fault in any case.  The
line holds it if the console shows it as it is, which it does not for a message
in which something is read as a tag.
-/

namespace CompilerCalls

namespace Run

variable {frontend : Frontend} {surroundings : Surroundings}
  {documentWords lineWords words rest : List String}
  {first message : String} {directory? config? : Option Path}
  {verbose : Bool} {fault : SettingsFault} {width : Nat}

/-- A document with a message, and the exit code of a fault. -/
def documentReport (message : String) : Report where
  exitCode := 1
  output := (Json.object [("error", .text message)]).written ++ "\n"

/-- A line with a message, and the exit code of a fault. -/
def lineReport (message : String) : Report where
  exitCode := 1
  errors := "error: " ++ message ++ "\n"

theorem documentReport_injective {other : String}
    (same : documentReport message = documentReport other) :
    message = other := by
  have written : (Json.object [("error", .text message)]).written =
      (Json.object [("error", .text other)]).written := by
    simpa [documentReport] using same
  simpa using Json.written_injective written

/-- What is left of a line which a console is asked to print. -/
def lineOutcome (printed : Except PrintFault String) : Outcome :=
  match printed with
  | .ok errors => .reported { exitCode := 1, errors }
  | .error fault => .escaped (.print fault)

/-- Two command lines, for an answer as a document and for one in lines, tell
one message. -/
structure ToldAlike (frontend : Frontend) (surroundings : Surroundings)
    (documentWords lineWords : List String) (message : String) : Prop where
  document : outcome frontend surroundings documentWords =
    .reported (documentReport message)
  line : outcome frontend surroundings lineWords =
    .reported (lineReport message)

/-- What is said about the two ways of telling a fault. -/
structure TellsBothWays (frontend : Frontend) (surroundings : Surroundings)
    (documentWords lineWords : List String) (fault : SettingsFault) :
    Prop where
  /-- A fault which no command reports is not told in either way. -/
  unreported : fault.isReported = false →
    outcome frontend surroundings documentWords = .escaped (.settings fault) ∧
      outcome frontend surroundings lineWords = .escaped (.settings fault)
  document : fault.isReported = true →
    outcome frontend surroundings documentWords =
      .reported (documentReport (fault.message frontend.decoderText))
  line : fault.isReported = true →
    outcome frontend surroundings lineWords = lineOutcome
      (frontend.errors (faultLine (fault.message frontend.decoderText)))
  /-- No other message is told alike. -/
  told : ∀ message,
    ToldAlike frontend surroundings documentWords lineWords message →
      fault.isReported = true ∧ message = fault.message frontend.decoderText
  alike : fault.isReported = true →
    (ToldAlike frontend surroundings documentWords lineWords
        (fault.message frontend.decoderText) ↔
      frontend.errors (faultLine (fault.message frontend.decoderText)) =
        .ok ("error: " ++ fault.message frontend.decoderText ++ "\n"))
  plain : fault.isReported = true → ∀ width,
    frontend.errors.ReadsMarkup width →
      Console.IsPlain (fault.message frontend.decoderText).toList →
      7 + (fault.message frontend.decoderText).length ≤ width →
        ToldAlike frontend surroundings documentWords lineWords
          (fault.message frontend.decoderText)
  missing : ∀ path width, fault = .missing path →
    frontend.errors.ReadsMarkup width →
      Console.IsPlain path.toString.toList →
      25 + path.toString.length ≤ width →
        ToldAlike frontend surroundings documentWords lineWords
          ("Config not found: " ++ path.toString)
  /-- A tag in front of the message or behind a space in it is lost. -/
  tagged : ∀ message front tag after width,
    " " ++ message = front ++ " [" ++ tag ++ "]" ++ after →
      Console.IsTagText tag.toList → frontend.errors.ReadsMarkup width →
        ¬ToldAlike frontend surroundings documentWords lineWords message
  compilersNotTable : ∀ path message width, fault = .compilersNotTable path →
    frontend.errors.ReadsMarkup width →
      ¬ToldAlike frontend surroundings documentWords lineWords message
  notTextList : ∀ key shown message width, fault = .notTextList key shown →
    frontend.errors.ReadsMarkup width →
      ¬ToldAlike frontend surroundings documentWords lineWords message

theorem errors_lineReport (message : String) :
    (lineReport message).errors = "error:" ++ (" " ++ message) ++ "\n" := by
  rw [lineReport, ← String.append_assoc]
  rfl

/-- A plain message which fits stays as it is. -/
theorem shows_of_isPlain (reads : frontend.errors.ReadsMarkup width)
    (plain : Console.IsPlain message.toList)
    (fits : 7 + message.length ≤ width) :
    frontend.errors (faultLine message) =
      .ok ("error: " ++ message ++ "\n") := by
  have short : "error:".length + (" " ++ message).length ≤ width := by
    have lengths : "error:".length = 6 ∧ " ".length = 1 := by decide
    rw [String.length_append, lengths.1, lengths.2]
    omega
  have spaced : Console.IsPlain (" " ++ message).toList := by
    rw [String.toList_append]
    exact .append_space .nil plain
  have shows := reads.plain _ _ isPlain_errorLabel spaced short
  rw [faultLine_eq_labelled, shows]
  exact congrArg _ (errors_lineReport message).symm

theorem isPlain_missing {path : Path} {decoderText : String → String}
    (plain : Console.IsPlain path.toString.toList) :
    Console.IsPlain
      (SettingsFault.message decoderText (.missing path)).toList := by
  have label : Console.IsPlain "Config not found:".toList :=
    .of_all (by decide) (by decide)
  have parts : SettingsFault.message decoderText (.missing path) =
      "Config not found:" ++ (" " ++ path.toString) := by
    rw [← String.append_assoc]
    rfl
  rw [parts, String.toList_append, String.toList_append]
  exact label.append_space plain

/-- A message with a tag in it is shown as something else. -/
theorem not_shows_of_tag {front tag after : String}
    (parts : " " ++ message = front ++ " [" ++ tag ++ "]" ++ after)
    (isTag : Console.IsTagText tag.toList)
    (reads : frontend.errors.ReadsMarkup width) :
    frontend.errors (faultLine message) ≠
      .ok (lineReport message).errors := by
  rw [faultLine_eq_labelled, errors_lineReport, parts]
  exact reads.not_shows_tag isPlain_errorLabel isTag

theorem isTagText_compilers : Console.IsTagText "compilers".toList :=
  .of_all (by decide) (by decide)

theorem spaced_compilersNotTable (path : Path)
    (decoderText : String → String) :
    " " ++ SettingsFault.message decoderText (.compilersNotTable path) =
      (" " ++ path.toString ++ ":") ++ " [" ++ "compilers" ++ "]" ++
        " must be a table" := by
  rw [SettingsFault.message_compilersNotTable]
  simp only [String.append_assoc]
  rfl

theorem spaced_notTextList (key shown : String)
    (decoderText : String → String) :
    " " ++ SettingsFault.message decoderText (.notTextList key shown) =
      "" ++ " [" ++ "compilers" ++ "]" ++
        (" " ++ key ++ " must be a list of strings, got " ++ shown) := by
  rw [SettingsFault.message_notTextList]
  simp only [String.append_assoc]
  rfl

section Fault

variable (failed : loaded surroundings config? = .error fault)

include failed

theorem outcome_of_unreported {json : Bool}
    (asked : frontend.request words =
      .ok (.analyze (first :: rest) directory? config? json verbose))
    (unreported : fault.isReported = false) :
    outcome frontend surroundings words = .escaped (.settings fault) := by
  have answers := answer_of_fault frontend
    (.analyze first rest directory? config? json verbose) failed
  rw [unreported, if_neg Bool.false_ne_true] at answers
  simp only [outcome, asked, answers]

theorem outcome_document
    (asked : frontend.request words =
      .ok (.analyze (first :: rest) directory? config? true verbose))
    (reported : fault.isReported = true) :
    outcome frontend surroundings words =
      .reported (documentReport (fault.message frontend.decoderText)) := by
  rw [reported_iff asked, answer_of_fault frontend
    (.analyze first rest directory? config? true verbose) failed,
    if_pos reported]
  rfl

theorem outcome_line
    (asked : frontend.request words =
      .ok (.analyze (first :: rest) directory? config? false verbose))
    (reported : fault.isReported = true) :
    outcome frontend surroundings words = lineOutcome
      (frontend.errors (faultLine (fault.message frontend.decoderText))) := by
  have answers := answer_of_fault frontend
    (.analyze first rest directory? config? false verbose) failed
  rw [if_pos reported, faultReport, if_neg Bool.false_ne_true, printed]
    at answers
  simp only [outcome, asked, answers, lineOutcome]
  cases frontend.errors _ <;> rfl

variable
  (askedDocument : frontend.request documentWords =
    .ok (.analyze (first :: rest) directory? config? true verbose))
  (askedLine : frontend.request lineWords =
    .ok (.analyze (first :: rest) directory? config? false verbose))

include askedDocument askedLine

theorem toldAlike_iff (reported : fault.isReported = true) :
    ToldAlike frontend surroundings documentWords lineWords
        (fault.message frontend.decoderText) ↔
      frontend.errors (faultLine (fault.message frontend.decoderText)) =
        .ok (lineReport (fault.message frontend.decoderText)).errors := by
  have line := outcome_line failed askedLine reported
  constructor
  · intro told
    rw [told.line] at line
    cases shows : frontend.errors (faultLine _) with
    | error printFault => simp [shows, lineOutcome] at line
    | ok shown =>
        rw [shows] at line
        exact congrArg _ (congrArg Report.errors (Outcome.reported.inj line)).symm
  · intro shows
    rw [shows] at line
    exact ⟨outcome_document failed askedDocument reported, line⟩

theorem message_of_toldAlike
    (told : ToldAlike frontend surroundings documentWords lineWords message) :
    fault.isReported = true ∧ message = fault.message frontend.decoderText := by
  cases reported : fault.isReported with
  | true =>
      have document := outcome_document failed askedDocument reported
      rw [told.document] at document
      exact ⟨rfl, documentReport_injective (Outcome.reported.inj document)⟩
  | false =>
      have escaped := outcome_of_unreported failed askedLine reported
      rw [told.line] at escaped
      cases escaped

theorem not_toldAlike_of_tag {front tag after : String}
    (parts : " " ++ message = front ++ " [" ++ tag ++ "]" ++ after)
    (isTag : Console.IsTagText tag.toList)
    (reads : frontend.errors.ReadsMarkup width) :
    ¬ToldAlike frontend surroundings documentWords lineWords message := by
  intro told
  obtain ⟨reported, rfl⟩ :=
    message_of_toldAlike failed askedDocument askedLine told
  exact not_shows_of_tag parts isTag reads
    ((toldAlike_iff failed askedDocument askedLine reported).mp told)

end Fault

/-- A fault is told as a document, and as a line if it stays as it is. -/
theorem tells_both_ways
    (askedDocument : frontend.request documentWords =
      .ok (.analyze (first :: rest) directory? config? true verbose))
    (askedLine : frontend.request lineWords =
      .ok (.analyze (first :: rest) directory? config? false verbose))
    (failed : loaded surroundings config? = .error fault) :
    TellsBothWays frontend surroundings documentWords lineWords fault := by
  have alike := toldAlike_iff failed askedDocument askedLine
  have plain (reported : fault.isReported = true) (width : Nat)
      (reads : frontend.errors.ReadsMarkup width)
      (isPlain : Console.IsPlain (fault.message frontend.decoderText).toList)
      (fits : 7 + (fault.message frontend.decoderText).length ≤ width) :=
    (alike reported).mpr (shows_of_isPlain reads isPlain fits)
  constructor
  case unreported =>
    intro unreported
    exact ⟨outcome_of_unreported failed askedDocument unreported,
      outcome_of_unreported failed askedLine unreported⟩
  case document => exact outcome_document failed askedDocument
  case line => exact outcome_line failed askedLine
  case told =>
    exact fun message => message_of_toldAlike failed askedDocument askedLine
  case alike => exact alike
  case plain => exact plain
  case missing =>
    rintro path width rfl reads isPlain fits
    refine plain rfl width reads (isPlain_missing isPlain) ?_
    have lengths : "Config not found: ".length = 18 := by decide
    have message : SettingsFault.message frontend.decoderText (.missing path) =
        "Config not found: " ++ path.toString := rfl
    rw [message, String.length_append, lengths]
    omega
  case tagged =>
    intro message front tag after width parts isTag reads
    exact not_toldAlike_of_tag failed askedDocument askedLine parts isTag reads
  case compilersNotTable =>
    rintro path message width rfl reads told
    obtain ⟨_, rfl⟩ := message_of_toldAlike failed askedDocument askedLine told
    exact not_toldAlike_of_tag failed askedDocument askedLine
      (spaced_compilersNotTable path _) isTagText_compilers reads told
  case notTextList =>
    rintro key shown message width rfl reads told
    obtain ⟨_, rfl⟩ := message_of_toldAlike failed askedDocument askedLine told
    exact not_toldAlike_of_tag failed askedDocument askedLine
      (spaced_notTextList key shown _) isTagText_compilers reads told

theorem tells_both_ways_of_missing_file :
    (Frontend.plain "").request
          ["analyze", "--json", "-C", "nowhere", "--", "gcc", "-c", "a.c"] =
        .ok (.analyze ["gcc", "-c", "a.c"] none
          (some (Path.ofString "nowhere")) true false) ∧
      (Frontend.plain "").request
          ["analyze", "-C", "nowhere", "--", "gcc", "-c", "a.c"] =
        .ok (.analyze ["gcc", "-c", "a.c"] none
          (some (Path.ofString "nowhere")) false false) ∧
      loaded (.atRoot {}) (some (Path.ofString "nowhere")) =
        .error (.missing (Path.ofString "nowhere")) ∧
      (Frontend.plain "").errors.ReadsMarkup 80 ∧
      ToldAlike (.plain "") (.atRoot {})
        ["analyze", "--json", "-C", "nowhere", "--", "gcc", "-c", "a.c"]
        ["analyze", "-C", "nowhere", "--", "gcc", "-c", "a.c"]
        "Config not found: nowhere" := by
  have askedDocument : (Frontend.plain "").request
      ["analyze", "--json", "-C", "nowhere", "--", "gcc", "-c", "a.c"] =
      .ok (.analyze ["gcc", "-c", "a.c"] none
        (some (Path.ofString "nowhere")) true false) := rfl
  have askedLine : (Frontend.plain "").request
      ["analyze", "-C", "nowhere", "--", "gcc", "-c", "a.c"] =
      .ok (.analyze ["gcc", "-c", "a.c"] none
        (some (Path.ofString "nowhere")) false false) := rfl
  have failed : loaded (.atRoot {}) (some (Path.ofString "nowhere")) =
      .error (.missing (Path.ofString "nowhere")) := rfl
  have reads : (Frontend.plain "").errors.ReadsMarkup 80 :=
    Console.plain_readsMarkup 80
  have tells := tells_both_ways askedDocument askedLine failed
  have written : (Path.ofString "nowhere").toString = "nowhere" := by
    decide +kernel
  have told := tells.missing _ 80 rfl reads
    (by rw [written]; exact .of_all (by decide) (by decide))
    (by rw [written]; decide)
  rw [written] at told
  exact ⟨askedDocument, askedLine, failed, reads, told⟩

/-- Not every reported fault is told alike. -/
theorem not_toldAlike_of_number :
    ¬∀ (frontend : Frontend) (surroundings : Surroundings)
      (documentWords lineWords : List String) (first : String)
      (rest : List String) (directory? config? : Option Path) (verbose : Bool)
      (fault : SettingsFault),
      frontend.request documentWords =
        .ok (.analyze (first :: rest) directory? config? true verbose) →
      frontend.request lineWords =
        .ok (.analyze (first :: rest) directory? config? false verbose) →
      loaded surroundings config? = .error fault → fault.isReported = true →
        ∃ message, ToldAlike frontend surroundings documentWords lineWords
          message := by
  intro alike
  let tree : FileTree :=
    { nodes := [(["c.toml"], .file "compilers = 3".toUTF8.toList)] }
  let path := Path.ofString "c.toml"
  have reads : Settings.tableOf path "compilers = 3".toUTF8.toList =
      .ok [("compilers", .integer 3)] := by cbv
  have resolves : tree.resolve Path.root path = .ok (Path.ofString "/c.toml") :=
    by decide +kernel
  have opens : Settings.Opens tree Path.root path
      "compilers = 3".toUTF8.toList :=
    ⟨Path.ofString "/c.toml", by decide +kernel, by decide +kernel,
      by decide +kernel⟩
  have failed : loaded (.atRoot tree) (some path) =
      .error (.compilersNotTable path) := by
    have loads := Settings.loadFrom_of_opens opens
    rw [reads, resolves] at loads
    exact loads
  have askedDocument : (Frontend.plain "").request
      ["analyze", "--json", "-C", "c.toml", "--", "gcc", "-c", "a.c"] =
      .ok (.analyze ["gcc", "-c", "a.c"] none (some path) true false) := rfl
  have askedLine : (Frontend.plain "").request
      ["analyze", "-C", "c.toml", "--", "gcc", "-c", "a.c"] =
      .ok (.analyze ["gcc", "-c", "a.c"] none (some path) false false) := rfl
  obtain ⟨message, told⟩ :=
    alike _ _ _ _ _ _ _ _ _ _ askedDocument askedLine failed rfl
  obtain ⟨_, rfl⟩ := message_of_toldAlike failed askedDocument askedLine told
  exact not_toldAlike_of_tag failed askedDocument askedLine
    (spaced_compilersNotTable path _) isTagText_compilers
    (Console.plain_readsMarkup 80) told

end Run

end CompilerCalls
