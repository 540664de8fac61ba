import CompilerCalls.CommandLine.Plain
import CompilerCalls.Proofs.CommandLine.Answers
import CompilerCalls.Proofs.Console.Reading
import CompilerCalls.Proofs.Settings.Faults
import Mathlib.Control.Monad.Basic

/-!
# Runs which end in order

A run which loads settings ends in order if they are loaded, or if a fault is
told in the style of the command.  Two things keep it from that: faults which
no command reports, and lines and tables which a console cannot print.
-/

namespace CompilerCalls

/-- The console can print this. -/
def Console.Prints (console : Console) (print : Print) : Prop :=
  ∃ text, console print = .ok text

namespace Run

section

variable {Item Result Fault : Type}

theorem exists_map_ok_iff {change : Item → Result} {found : Except Fault Item} :
    (∃ result, found.map change = .ok result) ↔ ∃ item, found = .ok item := by
  cases found <;> simp [Except.map]

end

theorem exists_printed_iff {console : Console} {print : Print} :
    (∃ text, printed console print = .ok text) ↔ console.Prints print := by
  unfold printed Console.Prints
  cases console print <;> simp [Except.mapError]

/-- The report tells of a fault, in a style. -/
structure Tells (errors : Console) (style : FaultStyle) (message : String)
    (report : Report) : Prop where
  exitCode : report.exitCode ≠ 0
  /-- The document is all that is among the output. -/
  document : style.json = true → report.errors = "" ∧
    report.output = (Json.object [("error", .text message)]).written ++ "\n"
  line : style.json = false →
    report.output = "" ∧ errors (faultLine message) = .ok report.errors
  /-- A console which reads markup leaves the label in front. -/
  label : style.json = false → ∀ width, 6 ≤ width →
    errors.ReadsMarkup width → "error:".toList <+: report.errors.toList

/-- The run ends in order: settings are loaded, or the fault is told. -/
def Closes (frontend : Frontend) (surroundings : Surroundings)
    (style : FaultStyle) (config? : Option Path) (outcome : Outcome) : Prop :=
  ∃ report, outcome = .reported report ∧
    ((∃ settings, loaded surroundings config? = .ok settings) ∨
      ∃ fault, loaded surroundings config? = .error fault ∧
        Tells frontend.errors style (fault.message frontend.decoderText) report)

/-- A request has a console print something. -/
inductive Shows (frontend : Frontend) (surroundings : Surroundings) :
    Request → Console → Print → Prop
  | fault {request : Request} {style : FaultStyle} {config? : Option Path}
      {fault : SettingsFault} (loads : request.Loads style config?)
      (plain : style.json = false)
      (failed : loaded surroundings config? = .error fault) :
      Shows frontend surroundings request frontend.errors
        (faultLine (fault.message frontend.decoderText))
  | entries {first : String} {rest : List String}
      {directory? config? : Option Path} {verbose : Bool}
      {settings : Settings} {entries : List Entry}
      (available : loaded surroundings config? = .ok settings)
      (leaves : Leaves settings (callIn surroundings first rest directory?)
        entries) :
      Shows frontend surroundings
        (.analyze (first :: rest) directory? config? false verbose)
        frontend.output (entriesPrint entries)
  | verdict {program : Path} {config? : Option Path} {settings : Settings}
      (available : loaded surroundings config? = .ok settings) :
      Shows frontend surroundings (.recognize program config?)
        frontend.output (verdictPrint settings program)

variable {frontend : Frontend} {surroundings : Surroundings}
  {request : Request} {style : FaultStyle} {config? directory? : Option Path}
  {settings : Settings} {first : String} {rest words : List String}
  {json verbose : Bool} {program : Path} {fault : SettingsFault}
  {report : Report} {console : Console} {print : Print}

theorem exitCode_ne_zero (loads : request.Loads style config?) :
    style.exitCode ≠ 0 := by
  cases loads <;> simp

theorem isPlain_errorLabel : Console.IsPlain "error:".toList :=
  .of_all (by decide) (by decide)

theorem faultLine_eq_labelled (message : String) :
    faultLine message = .line (Console.labelled "error:" ++ (" " ++ message)) := by
  rw [faultLine, ← String.append_assoc]
  rfl

theorem prefix_of_faultLine {message shown : String} {width : Nat}
    (wide : 6 ≤ width) (reads : console.ReadsMarkup width)
    (shows : console (faultLine message) = .ok shown) :
    "error:".toList <+: shown.toList := by
  rw [faultLine_eq_labelled] at shows
  exact reads.front "error:" (" " ++ message) shown
    isPlain_errorLabel (by decide) wide shows

theorem tells_of_faultReport {message : String}
    (loads : request.Loads style config?)
    (told : faultReport frontend style message = .ok report) :
    Tells frontend.errors style message report := by
  unfold faultReport at told
  cases asDocument : style.json with
  | true =>
      rw [if_pos asDocument] at told
      cases told
      exact ⟨exitCode_ne_zero loads, fun _ => ⟨rfl, rfl⟩, by simp [asDocument],
        by simp [asDocument]⟩
  | false =>
      rw [asDocument, if_neg Bool.false_ne_true, printed] at told
      cases shows : frontend.errors (faultLine message) with
      | error printFault => simp [shows, Except.map, Except.mapError] at told
      | ok shown =>
          rw [shows] at told
          cases told
          exact ⟨exitCode_ne_zero loads, by simp [asDocument],
            fun _ => ⟨rfl, shows⟩,
            fun _ _ wide reads => prefix_of_faultLine wide reads shows⟩

/-- A fault can be reported in a document, and else if its line can be
printed. -/
theorem exists_faultReport_iff {message : String} :
    (∃ report, faultReport frontend style message = .ok report) ↔
      (style.json = false → frontend.errors.Prints (faultLine message)) := by
  unfold faultReport
  cases style.json with
  | true => simp
  | false => simp [exists_map_ok_iff, exists_printed_iff]

/-- The entries can be told in a document, and else if they can be printed. -/
theorem exists_entriesText_iff {entries : List Entry} :
    (∃ text, entriesText console json entries = .ok text) ↔
      (json = false → console.Prints (entriesPrint entries)) := by
  unfold entriesText
  cases json with
  | true => simp
  | false => simp [exists_printed_iff]

theorem reported_iff (asked : frontend.request words = .ok request) :
    outcome frontend surroundings words = .reported report ↔
      answer frontend surroundings request = .ok report := by
  simp only [outcome, asked]
  cases answer frontend surroundings request <;> simp

/-- An answer which a fault in the settings leads to tells of that fault. -/
theorem tells_of_answer (loads : request.Loads style config?)
    (failed : loaded surroundings config? = .error fault)
    (answered : answer frontend surroundings request = .ok report) :
    Tells frontend.errors style (fault.message frontend.decoderText) report := by
  rw [answer_of_fault frontend loads failed] at answered
  split at answered
  · exact tells_of_faultReport loads answered
  · cases answered

theorem closes_iff_answered (asked : frontend.request words = .ok request)
    (loads : request.Loads style config?) :
    Closes frontend surroundings style config?
        (outcome frontend surroundings words) ↔
      ∃ report, answer frontend surroundings request = .ok report := by
  simp only [Closes, reported_iff asked]
  constructor
  · rintro ⟨report, answered, _⟩
    exact ⟨report, answered⟩
  · rintro ⟨report, answered⟩
    refine ⟨report, answered, ?_⟩
    cases available : loaded surroundings config? with
    | ok settings => exact .inl ⟨settings, rfl⟩
    | error fault =>
        exact .inr ⟨fault, rfl, tells_of_answer loads available answered⟩

theorem answered_iff_of_fault (loads : request.Loads style config?)
    (failed : loaded surroundings config? = .error fault) :
    (∃ report, answer frontend surroundings request = .ok report) ↔
      fault.isReported = true ∧
        (style.json = false → frontend.errors.Prints
          (faultLine (fault.message frontend.decoderText))) := by
  rw [answer_of_fault frontend loads failed]
  by_cases reported : fault.isReported = true
  · simp [reported, exists_faultReport_iff]
  · simp [reported]

theorem Leaves.unique {call : Call} {entries others : List Entry}
    (leaves : Leaves settings call entries)
    (leavesOthers : Leaves settings call others) : entries = others := by
  unfold Leaves at leaves leavesOthers
  split at leaves
  · rw [if_pos ‹_›, leaves] at leavesOthers
    exact Except.ok.inj leavesOthers
  · rw [if_neg ‹_›] at leavesOthers
    rw [leaves, leavesOthers]

/-- With settings, a request for entries has only them printed. -/
theorem shows_analyze_iff {entries : List Entry}
    (available : loaded surroundings config? = .ok settings)
    (leaves : Leaves settings (callIn surroundings first rest directory?)
      entries) :
    Shows frontend surroundings
        (.analyze (first :: rest) directory? config? json verbose) console
        print ↔
      json = false ∧ console = frontend.output ∧
        print = entriesPrint entries := by
  constructor
  · intro shows
    cases shows with
    | fault loads _ failed =>
        cases loads
        cases available.symm.trans failed
    | entries otherAvailable otherLeaves =>
        cases available.symm.trans otherAvailable
        rw [leaves.unique otherLeaves]
        exact ⟨rfl, rfl, rfl⟩
  · rintro ⟨rfl, rfl, rfl⟩
    exact .entries available leaves

/-- With settings, a request for a verdict has only that printed. -/
theorem shows_recognize_iff
    (available : loaded surroundings config? = .ok settings) :
    Shows frontend surroundings (.recognize program config?) console print ↔
      console = frontend.output ∧ print = verdictPrint settings program := by
  constructor
  · intro shows
    cases shows with
    | fault loads _ failed =>
        cases loads
        cases available.symm.trans failed
    | verdict otherAvailable =>
        cases available.symm.trans otherAvailable
        exact ⟨rfl, rfl⟩
  · rintro ⟨rfl, rfl⟩
    exact .verdict available

/-- Without settings, a request has only the fault printed. -/
theorem shows_iff_of_fault (loads : request.Loads style config?)
    (failed : loaded surroundings config? = .error fault) :
    Shows frontend surroundings request console print ↔
      style.json = false ∧ console = frontend.errors ∧
        print = faultLine (fault.message frontend.decoderText) := by
  constructor
  · intro shows
    cases shows with
    | fault otherLoads plain otherFailed =>
        obtain ⟨rfl, rfl⟩ := loads.unique otherLoads
        cases failed.symm.trans otherFailed
        exact ⟨plain, rfl, rfl⟩
    | entries available =>
        cases loads
        cases failed.symm.trans available
    | verdict available =>
        cases loads
        cases failed.symm.trans available
  · rintro ⟨plain, rfl, rfl⟩
    exact .fault loads plain failed

/-- With settings, an answer depends on the consoles alone. -/
theorem answered_iff_of_loaded (loads : request.Loads style config?)
    (available : loaded surroundings config? = .ok settings) :
    (∃ report, answer frontend surroundings request = .ok report) ↔
      ∀ console print, Shows frontend surroundings request console print →
        console.Prints print := by
  cases loads with
  | analyze first rest directory? _ json verbose =>
      obtain ⟨entries, errors, leaves, answers⟩ := answer_analyze_of_loaded
        frontend first rest directory? json verbose available
      rw [answers, exists_map_ok_iff, exists_entriesText_iff]
      simp only [shows_analyze_iff available leaves]
      constructor
      · rintro prints console print ⟨plain, rfl, rfl⟩
        exact prints plain
      · exact fun prints plain => prints _ _ ⟨plain, rfl, rfl⟩
  | recognize program =>
      obtain ⟨exitCode, answers⟩ :=
        answer_recognize_of_loaded frontend program available
      rw [answers, exists_map_ok_iff, exists_printed_iff]
      simp only [shows_recognize_iff available]
      constructor
      · rintro prints console print ⟨rfl, rfl⟩
        exact prints
      · exact fun prints => prints _ _ ⟨rfl, rfl⟩

/-- A run which loads settings ends in order exactly if its settings file is
not unreadable and its consoles can print what it has to show. -/
theorem closes_iff_readable_and_shown
    (asked : frontend.request words = .ok request)
    (loads : request.Loads style config?) :
    Closes frontend surroundings style config?
        (outcome frontend surroundings words) ↔
      (∀ fault, ¬Settings.Unreadable surroundings.tree surroundings.current
        config? fault) ∧
      ∀ console print, Shows frontend surroundings request console print →
        console.Prints print := by
  rw [closes_iff_answered asked loads]
  simp only [Settings.unreadable_iff]
  cases available : loaded surroundings config? with
  | ok settings =>
      have readable : ∀ fault, ¬(loaded surroundings config? = .error fault ∧
          fault.isReported = false) := by simp [available]
      rw [answered_iff_of_loaded loads available]
      exact ⟨fun prints => ⟨readable, prints⟩, fun closes => closes.2⟩
  | error fault =>
      have readable : (∀ other, ¬(loaded surroundings config? = .error other ∧
          other.isReported = false)) ↔ fault.isReported = true := by
        simp [available]
      rw [answered_iff_of_fault loads available]
      refine and_congr readable.symm ?_
      simp only [shows_iff_of_fault loads available]
      constructor
      · rintro prints console print ⟨plain, rfl, rfl⟩
        exact prints plain
      · exact fun prints plain => prints _ _ ⟨plain, rfl, rfl⟩

theorem closes_iff_readable_and_shown_of_dangling_link :
    (Frontend.plain "").request ["recognize", "-C", "d", "cc"] =
        .ok (.recognize (Path.ofString "cc") (some (Path.ofString "d"))) ∧
      Request.Loads
        (.recognize (Path.ofString "cc") (some (Path.ofString "d")))
        { exitCode := 2 } (some (Path.ofString "d")) ∧
      Closes (.plain "") (.atRoot { nodes := [(["d"], .link "nowhere")] })
        { exitCode := 2 } (some (Path.ofString "d"))
        (outcome (.plain "") (.atRoot { nodes := [(["d"], .link "nowhere")] })
          ["recognize", "-C", "d", "cc"]) := by
  have loads := Request.Loads.recognize (Path.ofString "cc")
    (some (Path.ofString "d"))
  have failed :
      loaded (.atRoot { nodes := [(["d"], .link "nowhere")] })
        (some (Path.ofString "d")) = .error (.missing (Path.ofString "d")) := rfl
  refine ⟨rfl, loads, (closes_iff_readable_and_shown rfl loads).mpr ⟨?_, ?_⟩⟩
  · intro fault unreadable
    obtain ⟨otherFailed, unreported⟩ := Settings.unreadable_iff.mp unreadable
    cases failed.symm.trans otherFailed
    contradiction
  · intro console print shows
    obtain ⟨_, rfl, rfl⟩ := (shows_iff_of_fault loads failed).mp shows
    exact ⟨_, rfl⟩

/-- Not every run which loads settings ends in order: a directory in the place
of the settings file keeps it from that. -/
theorem not_closes_of_directory :
    ¬∀ (frontend : Frontend) (surroundings : Surroundings)
      (words : List String) (request : Request) (style : FaultStyle)
      (config? : Option Path),
      frontend.request words = .ok request → request.Loads style config? →
        Closes frontend surroundings style config?
          (outcome frontend surroundings words) := by
  intro closes
  obtain ⟨report, reported, _⟩ := closes (.plain "")
    (.atRoot { nodes := [(["d"], .directory)] })
    ["analyze", "--json", "--config", "d", "--", "gcc", "-c", "a.c"] _ _ _ rfl
    (.analyze "gcc" ["-c", "a.c"] none (some (Path.ofString "d")) true false)
  have ended : outcome (.plain "")
      (.atRoot { nodes := [(["d"], .directory)] })
      ["analyze", "--json", "--config", "d", "--", "gcc", "-c", "a.c"] =
      .escaped (.settings (.directory (Path.ofString "d"))) := rfl
  rw [ended] at reported
  cases reported

end Run

end CompilerCalls
