import CompilerCalls.CommandLine.Plain
import CompilerCalls.Proofs.CommandLine.Answers
import CompilerCalls.Proofs.Path.NormalForm
import CompilerCalls.Proofs.Report.JsonReader
import Mathlib.Data.List.Forall2

/-!
# What reports keep

The documents in which a run reports hold everything that they report on: the
flags of a call come back from the report on them, and so do entries.  The
words of a call are given behind `--`, so none of them is taken for an option.
-/

namespace CompilerCalls

namespace Json

def text? : Json → Option String
  | .text content => some content
  | _ => none

def texts? : Json → Option (List String)
  | .array items => items.mapM text?
  | _ => none

/-- The value of a field of an object. -/
def value? (document : Json) (name : String) : Option Json :=
  match document with
  | .object fields => fields.lookup name
  | _ => none

end Json

/-- The flag on which a document reports. -/
def Flag.ofJson? (document : Json) : Option Flag := do
  let id ← (← document.value? "category").text?
  let category ← Category.ofId? id
  let tokens ← (← document.value? "arguments").texts?
  some ⟨category, tokens⟩

/-- The entry on which a document reports.  Its paths are read again. -/
def Entry.ofJson? (document : Json) : Option Entry := do
  let file ← (← document.value? "file").text?
  let directory ← (← document.value? "directory").text?
  let words ← (← document.value? "arguments").texts?
  let output ← match document.value? "output" with
    | none => some none
    | some output => output.text?.map (some ∘ Path.ofString)
  some ⟨Path.ofString file, Path.ofString directory, output, words⟩

/-- A document holds the parts of an entry as they are written, and an output
if the entry has one. -/
structure Entry.RecordedIn (document : Json) (entry : Entry) : Prop where
  file : document.value? "file" = some (.text entry.file.toString)
  directory :
    document.value? "directory" = some (.text entry.directory.toString)
  arguments : document.value? "arguments" = some (.texts entry.words)
  output : document.value? "output" =
    entry.output.map fun output => .text output.toString

private theorem mapM_map_eq {Item Written : Type} {write : Item → Written}
    {read? : Written → Option Item}
    (inverse : ∀ item, read? (write item) = some item) (items : List Item) :
    (items.map write).mapM read? = some items := by
  induction items with
  | nil => rfl
  | cons item rest induction => simp [inverse, induction]

@[simp] theorem Json.texts?_texts (contents : List String) :
    (Json.texts contents).texts? = some contents :=
  mapM_map_eq (fun content => show (Json.text content).text? = some content
    from rfl) contents

theorem Flag.ofJson?_toJson (flag : Flag) : ofJson? flag.toJson = some flag := by
  have category :
      flag.toJson.value? "category" = some (.text flag.category.id) := rfl
  have arguments :
      flag.toJson.value? "arguments" = some (.texts flag.tokens) := rfl
  simp [ofJson?, category, arguments, Json.text?, Category.ofId?_id]

theorem Entry.recordedIn_toJson (entry : Entry) :
    RecordedIn entry.toJson entry := by
  obtain ⟨file, directory, output, words⟩ := entry
  cases output with
  | none => constructor <;> rfl
  | some output => constructor <;> rfl

/-- The parts of an entry determine it, for a written path is read as the same
path. -/
theorem Entry.RecordedIn.ofJson?_eq {document : Json} {entry : Entry}
    (recorded : RecordedIn document entry) :
    ofJson? document = some entry := by
  obtain ⟨file, directory, output, words⟩ := entry
  cases output <;>
    simp [ofJson?, recorded.file, recorded.directory, recorded.arguments,
      recorded.output, Json.text?, Path.ofString_toString]

namespace Run

theorem read?_entriesText (console : Console) (entries : List Entry) :
    ∃ text, entriesText console true entries = .ok text ∧
      Json.IsAscii text.toList ∧
      Json.read? text = some (.array (entries.map Entry.toJson)) := by
  refine ⟨_, rfl, ?_, Json.read?_written_append _ rfl⟩
  simp [Json.written, Json.isAscii_writtenAt]

/-- The frontend takes what stands behind `--` for the words of a call,
whatever they are. -/
def ReadsFlagsRequest (frontend : Frontend) : Prop :=
  ∀ first rest,
    frontend.request ("flags" :: "--json" :: "--" :: first :: rest) =
      .ok (.flags (first :: rest) true)

/-- Nothing is lost in JSON reports.  The flags of any call come back from
the report on them, and with them the words of the call; entries come back
from the report on them, part by part, so different entries are reported in
different texts.  With settings, this is how a call is answered. -/
theorem json_reports_recovered (frontend : Frontend)
    (readsFlags : ReadsFlagsRequest frontend) :
    (∀ (surroundings : Surroundings) (first : String) (rest : List String),
      ∃ report documents,
        outcome frontend surroundings
            ("flags" :: "--json" :: "--" :: first :: rest) =
          .reported report ∧
        report.exitCode = 0 ∧ report.errors = "" ∧
        Json.IsAscii report.output.toList ∧
        Json.read? report.output = some (.array documents) ∧
        documents.mapM Flag.ofJson? = some (Grammar.gnu.parse rest) ∧
        Flags.words (Grammar.gnu.parse rest) = rest) ∧
      (∀ entries : List Entry, ∃ text documents,
        entriesText frontend.output true entries = .ok text ∧
        Json.IsAscii text.toList ∧
        Json.read? text = some (.array documents) ∧
        List.Forall₂ Entry.RecordedIn documents entries ∧
        documents.mapM Entry.ofJson? = some entries) ∧
      (∀ entries others : List Entry,
        entriesText frontend.output true entries =
            entriesText frontend.output true others →
          entries = others) ∧
      ∀ (surroundings : Surroundings) (first : String) (rest : List String)
        (directory? config? : Option Path) (verbose : Bool)
        (settings : Settings),
        loaded surroundings config? = .ok settings →
          ∃ entries report,
            Leaves settings (callIn surroundings first rest directory?)
              entries ∧
            answer frontend surroundings
                (.analyze (first :: rest) directory? config? true verbose) =
              .ok report ∧
            entriesText frontend.output true entries = .ok report.output := by
  refine ⟨?_, ?_, ?_, ?_⟩
  · intro surroundings first rest
    let flags := Grammar.gnu.parse rest
    let report : Report :=
      { exitCode := 0
        output := (Json.array (flags.map Flag.toJson)).written ++ "\n" }
    have reported : outcome frontend surroundings
        ("flags" :: "--json" :: "--" :: first :: rest) = .reported report := by
      rw [outcome, readsFlags]
      rfl
    refine ⟨report, flags.map Flag.toJson, reported, rfl, rfl, ?_,
      Json.read?_written_append _ rfl, mapM_map_eq Flag.ofJson?_toJson flags,
      (Grammar.gnu.reads_parse rest).words_eq⟩
    simp [report, Json.written, Json.isAscii_writtenAt]
  · intro entries
    obtain ⟨text, written, ascii, read⟩ :=
      read?_entriesText frontend.output entries
    refine ⟨text, entries.map Entry.toJson, written, ascii, read, ?_,
      mapM_map_eq (fun entry => entry.recordedIn_toJson.ofJson?_eq) entries⟩
    rw [List.forall₂_map_left_iff, List.forall₂_same]
    exact fun entry _ => entry.recordedIn_toJson
  · intro entries others same
    have documents : entries.map Entry.toJson = others.map Entry.toJson := by
      have texts := (String.append_left_inj "\n").mp (Except.ok.inj same)
      exact Json.array.inj (Json.written_injective texts)
    have inverse := fun entry : Entry => entry.recordedIn_toJson.ofJson?_eq
    have back := mapM_map_eq inverse entries
    rw [documents, mapM_map_eq inverse others] at back
    exact (Option.some.inj back).symm
  · intro surroundings first rest directory? config? verbose settings
      available
    obtain ⟨entries, errors, leaves, answered⟩ := answer_analyze_of_loaded
      frontend first rest directory? true verbose available
    obtain ⟨text, written, _⟩ := read?_entriesText frontend.output entries
    rw [written] at answered
    exact ⟨entries, _, leaves, answered, written⟩

theorem json_reports_recovered_of_odd_words :
    ReadsFlagsRequest (.plain "") ∧
      (∃ report documents,
        outcome (.plain "") (.atRoot {})
            ["flags", "--json", "--", "gcc", "--", "--json", "-v", "",
              "é😀\"\\\x7f"] = .reported report ∧
          Json.read? report.output = some (.array documents) ∧
          documents.mapM Flag.ofJson? =
            some [⟨.other, ["--"]⟩, ⟨.other, ["--json"]⟩,
              ⟨.outputKind, ["-v"]⟩, ⟨.source, [""]⟩,
              ⟨.source, ["é😀\"\\\x7f"]⟩]) ∧
      entriesText (Frontend.plain "").output true
          [⟨Path.root, Path.root, none, ["gcc", "", "-c"]⟩] ≠
        entriesText (Frontend.plain "").output true
          [⟨Path.root, Path.root, some Path.root, ["gcc", "", "-c"]⟩] ∧
      loaded (.atRoot {}) none = .ok {} ∧
      ∃ entries report,
        answer (.plain "") (.atRoot {})
            (.analyze ["gcc", "a.c"] none none true false) = .ok report ∧
          entriesText (Frontend.plain "").output true entries =
            .ok report.output := by
  have readsFlags : ReadsFlagsRequest (.plain "") := fun _ _ => rfl
  obtain ⟨flagReports, _, injective, entryReports⟩ :=
    json_reports_recovered (.plain "") readsFlags
  refine ⟨readsFlags, ?_, ?_, rfl, ?_⟩
  · obtain ⟨report, documents, reported, _, _, _, read, recovered, _⟩ :=
      flagReports (.atRoot {}) "gcc"
        ["--", "--json", "-v", "", "é😀\"\\\x7f"]
    refine ⟨report, documents, reported, read, recovered.trans ?_⟩
    decide +kernel
  · intro same
    exact absurd (injective _ _ same) (by decide)
  · obtain ⟨entries, report, _, answered, written⟩ :=
      entryReports (.atRoot {}) "gcc" ["a.c"] none none false {} rfl
    exact ⟨entries, report, answered, written⟩

end Run

end CompilerCalls
