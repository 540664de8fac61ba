import CompilerCalls.Proofs.Path.Spelling
import CompilerCalls.Proofs.Settings.Opening
import Mathlib

/-!
# Recognition by listed paths

A settings file lists paths of programs as they are written in it.  What is
said about a program depends on the paths which are meant, never on how or in
which order they are written: an excluded path is no driver, and another one
is a driver if it is to be recognized or has the name of one.
-/

namespace CompilerCalls

theorem Recognizer.recognizes_iff {recognizer : Recognizer} {program : Path} :
    recognizer.recognizes program = true ↔
      program ∉ recognizer.excluded ∧
        (program ∈ recognizer.allowed ∨ program.namesDriver = true) := by
  simp [recognizes]

namespace Settings

/-- The part of a document which is about compilers.  Without it, nothing is
said about them. -/
inductive IsAbout (document : Toml.Table) : Toml.Table → Prop
  | nothing (absent : document.value? "compilers" = none) : IsAbout document []
  | part (compilers : Toml.Table)
      (held : document.value? "compilers" = some (.table compilers)) :
      IsAbout document compilers

/-- The texts which are listed under a key.  A key which is not there lists
none. -/
inductive Lists (compilers : Toml.Table) (key : String) : List String → Prop
  | nothing (absent : compilers.value? key = none) : Lists compilers key []
  | items (texts : List String)
      (held : compilers.value? key = some (.array (texts.map .text))) :
      Lists compilers key texts

/-- The settings file which counts stands in a directory once its links are
resolved, and lists texts to recognize and to exclude. -/
inductive Configures (tree : FileTree) (current : Path)
    (config? : Option Path) : Path → List String → List String → Prop
  | document {path file : Path} {content : List UInt8}
      {document compilers : Toml.Table} {recognize exclude : List String}
      (consults : Consults tree current config? path)
      (opens : Opens tree current path content)
      (reads : tableOf path content = .ok document)
      (resolves : tree.resolve current path = .ok file)
      (about : IsAbout document compilers)
      (recognized : Lists compilers "recognize" recognize)
      (excluded : Lists compilers "exclude" exclude) :
      Configures tree current config? file.parent recognize exclude

/-- The settings recognize the program whose path is written so. -/
def Accepts (settings : Settings) (program : String) : Prop :=
  settings.recognizer.recognizes (Path.ofString program) = true

variable {tree : FileTree} {current root : Path} {config? : Option Path}
  {document compilers : Toml.Table} {key : String}
  {texts recognize exclude : List String}

theorem pathsOf_of_lists (lists : Lists compilers key texts) :
    pathsOf root compilers key = .ok (texts.map (listedPath root)) := by
  cases lists with
  | nothing absent => simp [pathsOf, absent]
  | items _ held => simp [pathsOf, held, textItems?_eq_some_iff.mpr rfl]

theorem ofTable_of_lists (path : Path) (about : IsAbout document compilers)
    (recognized : Lists compilers "recognize" recognize)
    (excluded : Lists compilers "exclude" exclude) :
    ofTable path root document =
      .ok ⟨recognize.map (listedPath root), exclude.map (listedPath root)⟩ := by
  cases about with
  | nothing absent =>
      cases recognized with
      | items _ held => contradiction
      | nothing =>
          cases excluded with
          | items _ held => contradiction
          | nothing => simp [ofTable, absent]
  | part _ held =>
      simp only [ofTable, held, pathsOf_of_lists recognized,
        pathsOf_of_lists excluded]
      rfl

theorem load_of_configures
    (configures : Configures tree current config? root recognize exclude) :
    load tree current config? =
      .ok ⟨recognize.map (listedPath root), exclude.map (listedPath root)⟩ := by
  cases configures with
  | document consults opens reads resolves about recognized excluded =>
      rw [load_of_consults consults, loadFrom_of_opens opens, reads, resolves]
      exact ofTable_of_lists _ about recognized excluded

theorem mem_map_listedPath {path : Path} :
    path ∈ texts.map (listedPath root) ↔
      ∃ text ∈ texts, path = (Path.ofString text).absoluteIn root := by
  simp only [List.mem_map, listedPath, Path.absoluteIn_eq_join, eq_comm]

/-- What lists of texts in a directory say about the program at a path. -/
def CountsAsDriver (root : Path) (recognize exclude : List String)
    (program : Path) : Prop :=
  (∀ text ∈ exclude, program ≠ (Path.ofString text).absoluteIn root) ∧
    ((∃ text ∈ recognize, program = (Path.ofString text).absoluteIn root) ∨
      program.namesDriver = true)

theorem accepts_iff {program : String} :
    Accepts ⟨recognize.map (listedPath root), exclude.map (listedPath root)⟩
        program ↔
      CountsAsDriver root recognize exclude (Path.ofString program) := by
  simp only [Accepts, recognizer, Recognizer.recognizes_iff,
    mem_map_listedPath, CountsAsDriver, not_exists, not_and, ne_eq]

/-- Every path which is meant by the first texts is meant by the others. -/
def Covers (others texts : List String) : Prop :=
  texts.map Path.ofString ⊆ others.map Path.ofString

theorem Covers.exists_of_mem {texts others : List String} {text : String}
    (covers : Covers others texts) (member : text ∈ texts) :
    ∃ other ∈ others, Path.ofString other = Path.ofString text :=
  List.mem_map.mp (covers (List.mem_map_of_mem member))

/-- More texts to recognize and fewer to exclude take no driver away. -/
theorem CountsAsDriver.mono {moreRecognize fewerExclude : List String}
    {program : Path} (counts : CountsAsDriver root recognize exclude program)
    (more : Covers moreRecognize recognize)
    (fewer : Covers exclude fewerExclude) :
    CountsAsDriver root moreRecognize fewerExclude program := by
  obtain ⟨notExcluded, recognized⟩ := counts
  refine ⟨fun text member => ?_, recognized.imp_left ?_⟩
  · obtain ⟨other, otherMember, same⟩ := fewer.exists_of_mem member
    rw [← same]
    exact notExcluded other otherMember
  · rintro ⟨text, member, rfl⟩
    obtain ⟨other, otherMember, same⟩ := more.exists_of_mem member
    exact ⟨other, otherMember, by rw [same]⟩

/-- What is said about a program depends on the paths which are meant.  The
settings are loaded, and they accept exactly the programs which the texts of
the file count as drivers.  Texts which are added to the recognized ones or
taken from the excluded ones take no driver away, so the order of the texts,
how often they are written, and their spelling do not matter. -/
theorem accepts_by_listed_paths
    (configures : Configures tree current config? root recognize exclude) :
    ∃ settings, load tree current config? = .ok settings ∧
      (∀ program, settings.Accepts program ↔
        CountsAsDriver root recognize exclude (Path.ofString program)) ∧
      (∀ otherTree otherCurrent otherConfig? otherRecognize otherExclude,
        Configures otherTree otherCurrent otherConfig? root otherRecognize
          otherExclude →
        ∃ others, load otherTree otherCurrent otherConfig? = .ok others ∧
          ∀ program other, Path.ofString program = Path.ofString other →
            (Covers otherRecognize recognize → Covers exclude otherExclude →
              settings.Accepts program → others.Accepts other) ∧
            (Covers recognize otherRecognize → Covers otherExclude exclude →
              others.Accepts other → settings.Accepts program)) ∧
      ∀ written other, Path.Respells written other →
        Path.ofString written = Path.ofString other := by
  refine ⟨_, load_of_configures configures, fun _ => accepts_iff, ?_,
    fun _ _ respells => respells.ofString_eq⟩
  intro otherTree otherCurrent otherConfig? otherRecognize otherExclude
    otherConfigures
  refine ⟨_, load_of_configures otherConfigures, fun program other same => ?_⟩
  simp only [accepts_iff, ← same]
  exact ⟨fun more fewer accepted => accepted.mono more fewer,
    fun more fewer accepted => accepted.mono more fewer⟩

/-- The document which lists texts to recognize, and nothing to exclude. -/
def recognizing (texts : List String) : Toml.Table :=
  [("compilers", .table [("recognize", .array (texts.map .text))])]

theorem configures_of_recognizing {path file : Path} {content : List UInt8}
    (consults : Consults tree current config? path)
    (opens : Opens tree current path content)
    (reads : tableOf path content = .ok (recognizing texts))
    (resolves : tree.resolve current path = .ok file) :
    Configures tree current config? file.parent texts [] :=
  .document consults opens reads resolves
    (.part [("recognize", .array (texts.map .text))]
      (by simp [recognizing, Toml.Table.value?]))
    (.items texts (by simp [Toml.Table.value?]))
    (.nothing (by simp [Toml.Table.value?, List.lookup]))

def shortDocument : List UInt8 :=
  "compilers.recognize = ['b/w']".toUTF8.toList

def longDocument : List UInt8 :=
  "compilers.recognize = ['b/./w/', 'ld']".toUTF8.toList

/-- Two documents in a directory, and a link to one of them elsewhere. -/
def linkedDocuments : FileTree where
  nodes := [(["ccdb.toml"], .link "etc/ccdb.toml"),
    (["etc", "ccdb.toml"], .file shortDocument),
    (["etc", "other.toml"], .file longDocument)]

theorem accepts_by_listed_paths_of_link :
    ∃ settings others,
      load linkedDocuments Path.root none = .ok settings ∧
      load linkedDocuments Path.root (some (Path.ofString "etc/other.toml")) =
        .ok others ∧
      settings.Accepts "/etc//b/w" ∧ others.Accepts "/etc/b/w" ∧
      ¬settings.Accepts "/etc/ld" := by
  have short : Configures linkedDocuments Path.root none
      (Path.ofString "/etc/ccdb.toml").parent ["b/w"] [] :=
    configures_of_recognizing
      (.found (Path.ofString "/ccdb.toml") (by decide +kernel))
      ⟨Path.ofString "/etc/ccdb.toml", by decide +kernel, by decide +kernel⟩
      (show tableOf _ shortDocument = _ by cbv) (by decide +kernel)
  have long : Configures linkedDocuments Path.root
      (some (Path.ofString "etc/other.toml"))
      (Path.ofString "/etc/other.toml").parent ["b/./w/", "ld"] [] :=
    configures_of_recognizing (.given (Path.ofString "etc/other.toml"))
      ⟨Path.ofString "/etc/other.toml", by decide +kernel, by decide +kernel⟩
      (show tableOf _ longDocument = _ by cbv) (by decide +kernel)
  have sameDirectory : (Path.ofString "/etc/other.toml").parent =
      (Path.ofString "/etc/ccdb.toml").parent := by decide +kernel
  rw [sameDirectory] at long
  obtain ⟨settings, loaded, accepts, compare, _⟩ :=
    accepts_by_listed_paths short
  obtain ⟨others, othersLoaded, more⟩ := compare _ _ _ _ _ long
  have accepted : settings.Accepts "/etc//b/w" := by
    rw [accepts]
    unfold CountsAsDriver
    decide +kernel
  have noLinker : ¬settings.Accepts "/etc/ld" := by
    rw [accepts]
    unfold CountsAsDriver
    decide +kernel
  have covers : Covers ["b/./w/", "ld"] ["b/w"] := by
    unfold Covers
    decide +kernel
  exact ⟨settings, others, loaded, othersLoaded, accepted,
    (more "/etc//b/w" "/etc/b/w" (by decide +kernel)).1 covers
      (by simp [Covers]) accepted, noLinker⟩

end Settings

end CompilerCalls
