import CompilerCalls.Proofs.FileTree.Resolution
import CompilerCalls.Proofs.Settings.Faults
import CompilerCalls.Proofs.Settings.Recognition
import Mathlib

/-!
# Well-typed documents

Of the documents which can be read, settings are loaded from those in which
everything about compilers has its type, and from no other one.  Of several
values of another type the first one is told, in the order in which they are
asked for.  Whatever else stands in a document does not matter.
-/

namespace CompilerCalls

/-- The message of a fault holds a text, in whatever words a decoder speaks. -/
def SettingsFault.Mentions (fault : SettingsFault) (text : String) : Prop :=
  ∀ decoderText, text.toList <:+: (fault.message decoderText).toList

namespace SettingsFault

theorem mentions_of_parts {fault : SettingsFault} {text : String}
    (front behind : String)
    (parts : ∀ decoderText,
      fault.message decoderText = front ++ text ++ behind) :
    fault.Mentions text :=
  fun decoderText => ⟨front.toList, behind.toList, by
    rw [parts, String.toList_append, String.toList_append]⟩

theorem message_compilersNotTable (path : Path)
    (decoderText : String → String) :
    (compilersNotTable path).message decoderText =
      path.toString ++ ": [compilers] must be a table" := rfl

theorem message_notTextList (key shown : String)
    (decoderText : String → String) :
    (notTextList key shown).message decoderText =
      "[compilers] " ++ key ++ " must be a list of strings, got " ++ shown :=
  rfl

theorem compilersNotTable_mentions (path : Path) :
    (compilersNotTable path).Mentions path.toString ∧
      (compilersNotTable path).Mentions "compilers" := by
  have parts : ": [compilers] must be a table" =
      ": [" ++ "compilers" ++ "] must be a table" := rfl
  constructor
  · exact mentions_of_parts "" ": [compilers] must be a table" fun _ => by
      rw [String.empty_append, message_compilersNotTable]
  · exact mentions_of_parts (path.toString ++ ": [") "] must be a table"
      fun _ => by
        rw [message_compilersNotTable, parts, ← String.append_assoc,
          ← String.append_assoc]

theorem notTextList_mentions (key shown : String) :
    (notTextList key shown).Mentions key ∧
      (notTextList key shown).Mentions shown := by
  constructor
  · exact mentions_of_parts "[compilers] "
      (" must be a list of strings, got " ++ shown) fun _ => by
        rw [message_notTextList, ← String.append_assoc]
  · exact mentions_of_parts
      ("[compilers] " ++ key ++ " must be a list of strings, got ") ""
      fun _ => by rw [message_notTextList, String.append_empty]

end SettingsFault

namespace Settings

/-- The settings file which counts stands in a place once links are resolved,
and a document is read from it. -/
structure Holds (tree : FileTree) (current : Path) (config? : Option Path)
    (path place : Path) (document : Toml.Table) : Prop where
  noNul : tree.NamesWithoutNul
  stands : tree.IsPlace current
  consults : Consults tree current config? path
  reached : tree.reach current path = .ok place
  readable : tree.mayRead place.names = true
  read : ∃ content text, tree.node? place.names = some (.file content) ∧
    Text.decodeUtf8 content = .ok text ∧ Toml.read text = .ok document

/-- The keys under which texts are listed. -/
def listKeys : List String := ["recognize", "exclude"]

/-- Compilers have a table, if they have anything, and each of its lists holds
texts alone. -/
def WellTyped (document : Toml.Table) : Prop :=
  ∃ compilers, IsAbout document compilers ∧
    ∀ key ∈ listKeys, ∃ texts, Lists compilers key texts

/-- The value of another type which is met first in a document, and its
key. -/
inductive FirstWrong (document : Toml.Table) : String → Toml.Value → Prop
  | compilers {value : Toml.Value}
      (held : document.value? "compilers" = some value)
      (noTable : ∀ compilers, value ≠ .table compilers) :
      FirstWrong document "compilers" value
  | recognize {compilers : Toml.Table} {value : Toml.Value}
      (held : document.value? "compilers" = some (.table compilers))
      (mistypes : Mistypes compilers "recognize" value) :
      FirstWrong document "recognize" value
  | exclude {compilers : Toml.Table} {value : Toml.Value}
      (held : document.value? "compilers" = some (.table compilers))
      (recognized : ∃ texts, Lists compilers "recognize" texts)
      (mistypes : Mistypes compilers "exclude" value) :
      FirstWrong document "exclude" value

/-- A text which is listed in a settings file of a directory stands for a path
from the root: its own, or one below that directory. -/
structure StandsFor (directory : Path) (text : String) (path : Path) :
    Prop where
  absolute : path.isAbsolute = true
  itself : (Path.ofString text).isAbsolute = true → path = Path.ofString text
  below : (Path.ofString text).isAbsolute = false →
    path.anchor = directory.anchor ∧
      path.names = directory.names ++ (Path.ofString text).names

variable {tree otherTree : FileTree} {current otherCurrent path otherPath place
    directory : Path} {config? otherConfig? : Option Path}
  {document otherDocument compilers otherCompilers : Toml.Table}
  {key : String} {value : Toml.Value} {texts : List String}

theorem load_of_holds
    (holds : Holds tree current config? path place document) :
    load tree current config? = ofTable path place.parent document := by
  obtain ⟨content, text, there, decodes, reads⟩ := holds.read
  have opens : Opens tree current path content :=
    ⟨place, holds.reached, holds.readable, there⟩
  have table : tableOf path content = .ok document := by
    simp only [tableOf, decodes, reads]
    rfl
  have resolves := FileTree.resolve_of_reach holds.noNul holds.stands
    holds.reached
  rw [load_of_consults holds.consults, loadFrom_of_opens opens, table, resolves]

theorem not_mistypes_of_lists (lists : Lists compilers key texts) :
    ¬Mistypes compilers key value := by
  rintro ⟨held, noTexts⟩
  cases lists with
  | nothing absent => cases absent.symm.trans held
  | items _ listed =>
      cases listed.symm.trans held
      exact noTexts texts rfl

theorem lists_or_mistypes (compilers : Toml.Table) (key : String) :
    (∃ texts, Lists compilers key texts) ∨
      ∃ value, Mistypes compilers key value := by
  cases held : compilers.value? key with
  | none => exact .inl ⟨[], .nothing held⟩
  | some value =>
      by_cases areTexts :
          ∃ texts : List String, value = .array (texts.map .text)
      · obtain ⟨texts, rfl⟩ := areTexts
        exact .inl ⟨texts, .items texts held⟩
      · exact .inr ⟨value, held, not_exists.mp areTexts⟩

/-- A document is well-typed, or there is a first value which is not. -/
theorem wellTyped_or_exists_firstWrong (document : Toml.Table) :
    WellTyped document ∨ ∃ key value, FirstWrong document key value := by
  cases held : document.value? "compilers" with
  | none =>
      exact .inl ⟨[], .nothing held, fun key _ => ⟨[], .nothing rfl⟩⟩
  | some value =>
      by_cases isTable : ∃ compilers, value = .table compilers
      · obtain ⟨compilers, rfl⟩ := isTable
        rcases lists_or_mistypes compilers "recognize" with
          recognized | ⟨wrong, mistypes⟩
        · rcases lists_or_mistypes compilers "exclude" with
            excluded | ⟨wrong, mistypes⟩
          · exact .inl ⟨compilers, .part compilers held,
              by simpa [listKeys] using ⟨recognized, excluded⟩⟩
          · exact .inr ⟨_, wrong, .exclude held recognized mistypes⟩
        · exact .inr ⟨_, wrong, .recognize held mistypes⟩
      · exact .inr ⟨_, value, .compilers held (not_exists.mp isTable)⟩

theorem ofTable_of_wellTyped (wellTyped : WellTyped document) :
    ∃ compilers recognize exclude, IsAbout document compilers ∧
      Lists compilers "recognize" recognize ∧
      Lists compilers "exclude" exclude ∧
      ofTable path directory document =
        .ok ⟨recognize.map (listedPath directory),
          exclude.map (listedPath directory)⟩ := by
  obtain ⟨compilers, about, typed⟩ := wellTyped
  obtain ⟨recognize, recognized⟩ := typed "recognize" (by simp [listKeys])
  obtain ⟨exclude, excluded⟩ := typed "exclude" (by simp [listKeys])
  exact ⟨compilers, recognize, exclude, about, recognized, excluded,
    ofTable_of_lists path about recognized excluded⟩

/-- The fault of a document which is not well-typed is that of its first wrong
value. -/
def faultOf (path : Path) (key : String) (value : Toml.Value) :
    SettingsFault :=
  if key = "compilers" then .compilersNotTable path else .ofValue key value

theorem ofTable_of_firstWrong (wrong : FirstWrong document key value) :
    ofTable path directory document = .error (faultOf path key value) := by
  cases wrong with
  | compilers held noTable =>
      unfold ofTable
      rw [held]
      cases value with
      | table compilers => exact absurd rfl (noTable compilers)
      | _ => rfl
  | recognize held mistypes =>
      exact ofTable_of_mistypes held (.inl rfl) mistypes
  | exclude held recognized mistypes =>
      obtain ⟨texts, lists⟩ := recognized
      exact ofTable_of_mistypes held
        (.inr ⟨rfl, fun _ => not_mistypes_of_lists lists⟩) mistypes

theorem isOk_ofTable_iff :
    (∃ settings, ofTable path directory document = .ok settings) ↔
      WellTyped document := by
  constructor
  · rintro ⟨settings, loaded⟩
    refine (wellTyped_or_exists_firstWrong document).resolve_right ?_
    rintro ⟨key, value, wrong⟩
    cases loaded.symm.trans (ofTable_of_firstWrong wrong)
  · intro wellTyped
    obtain ⟨_, _, _, _, _, _, loaded⟩ := ofTable_of_wellTyped wellTyped
    exact ⟨_, loaded⟩

theorem standsFor_listedPath (absolute : directory.isAbsolute = true)
    (text : String) : StandsFor directory text (listedPath directory text) where
  absolute := Path.isAbsolute_join _ absolute
  itself := Path.join_of_isAbsolute directory
  below relative := by
    have anchor : (Path.ofString text).anchor = .relative := by
      simpa [Path.isAbsolute] using relative
    simp [listedPath, Path.join, anchor]

theorem forall₂_standsFor (absolute : directory.isAbsolute = true)
    (texts : List String) :
    List.Forall₂ (StandsFor directory) texts
      (texts.map (listedPath directory)) :=
  List.forall₂_map_right_iff.mpr
    (List.forall₂_same.mpr fun text _ => standsFor_listedPath absolute text)

theorem ofTable_of_about (about : IsAbout document compilers) :
    ofTable path directory document = do
      let recognize ← pathsOf directory compilers "recognize"
      let exclude ← pathsOf directory compilers "exclude"
      return ⟨recognize, exclude⟩ := by
  cases about with
  | nothing absent => simp only [ofTable, absent]; rfl
  | part _ held => simp only [ofTable, held]

/-- Only what the lists hold counts. -/
theorem ofTable_eq_of_agree (about : IsAbout document compilers)
    (otherAbout : IsAbout otherDocument otherCompilers)
    (agree : ∀ key ∈ listKeys,
      otherCompilers.value? key = compilers.value? key) :
    ofTable otherPath directory otherDocument =
      ofTable path directory document := by
  have same (key : String) (member : key ∈ listKeys) :
      pathsOf directory otherCompilers key =
        pathsOf directory compilers key := by
    rw [pathsOf, pathsOf, agree key member]
  rw [ofTable_of_about about, ofTable_of_about otherAbout,
    same "recognize" (by simp [listKeys]), same "exclude" (by simp [listKeys])]

/-- Settings are loaded from well-typed documents alone, and otherwise the
first wrong value is told, if it can be shown.  The lists of the settings are
those of the document, with relative paths below the directory of the resolved
file, and nothing else in the document counts. -/
structure LoadsByType (tree : FileTree) (current : Path) (config? : Option Path)
    (path place : Path) (document : Toml.Table) : Prop where
  resolves : tree.resolve current path = .ok place
  accepts : (∃ settings, load tree current config? = .ok settings) ↔
    WellTyped document
  rejects : WellTyped document ∨ ∃ key value, FirstWrong document key value
  notTable : ∀ value, FirstWrong document "compilers" value →
    load tree current config? = .error (.compilersNotTable path) ∧
      SettingsFault.Mentions (.compilersNotTable path) path.toString ∧
      SettingsFault.Mentions (.compilersNotTable path) "compilers"
  notTexts : ∀ key ∈ listKeys, ∀ value shown, FirstWrong document key value →
    value.written = .ok shown →
    load tree current config? = .error (.notTextList key shown) ∧
      SettingsFault.Mentions (.notTextList key shown) key ∧
      SettingsFault.Mentions (.notTextList key shown) shown
  lists : ∀ settings, load tree current config? = .ok settings →
    ∃ compilers recognize exclude, IsAbout document compilers ∧
      Lists compilers "recognize" recognize ∧
      Lists compilers "exclude" exclude ∧
      List.Forall₂ (StandsFor place.parent) recognize settings.recognize ∧
      List.Forall₂ (StandsFor place.parent) exclude settings.exclude
  agrees : ∀ compilers otherTree otherCurrent otherConfig? otherPath
    otherDocument otherCompilers, IsAbout document compilers →
    Holds otherTree otherCurrent otherConfig? otherPath place otherDocument →
    IsAbout otherDocument otherCompilers →
    (∀ key ∈ listKeys, otherCompilers.value? key = compilers.value? key) →
    load otherTree otherCurrent otherConfig? = load tree current config?

theorem loadsByType_of_holds
    (holds : Holds tree current config? path place document) :
    LoadsByType tree current config? path place document := by
  have loads := load_of_holds holds
  have atRoot : place.anchor = .root :=
    (FileTree.leads_of_reach holds.stands holds.reached).1
  have absolute : place.parent.isAbsolute = true := by
    simp [Path.isAbsolute, Path.parent, atRoot]
  constructor
  · exact FileTree.resolve_of_reach holds.noNul holds.stands holds.reached
  · rw [loads]
    exact isOk_ofTable_iff
  · exact wellTyped_or_exists_firstWrong document
  · intro value wrong
    rw [loads, ofTable_of_firstWrong wrong]
    exact ⟨rfl, SettingsFault.compilersNotTable_mentions path⟩
  · intro key member value shown wrong isShown
    have fault : faultOf path key value = .notTextList key shown := by
      have noTable : key ≠ "compilers" := by
        rintro rfl
        simp [listKeys] at member
      rw [faultOf, if_neg noTable, SettingsFault.ofValue, isShown]
    rw [loads, ofTable_of_firstWrong wrong, fault]
    exact ⟨rfl, SettingsFault.notTextList_mentions key shown⟩
  · intro settings loaded
    rw [loads] at loaded
    obtain ⟨compilers, recognize, exclude, about, recognized, excluded, same⟩ :=
      ofTable_of_wellTyped (isOk_ofTable_iff.mp ⟨settings, loaded⟩)
    cases loaded.symm.trans same
    exact ⟨compilers, recognize, exclude, about, recognized, excluded,
      forall₂_standsFor absolute recognize, forall₂_standsFor absolute exclude⟩
  · intro compilers _ _ _ _ _ otherCompilers about otherHolds otherAbout agree
    rw [loads, load_of_holds otherHolds]
    exact ofTable_eq_of_agree about otherAbout agree

theorem exists_text_of_tableOf {content : List UInt8}
    (reads : tableOf path content = .ok document) :
    ∃ text, Text.decodeUtf8 content = .ok text ∧
      Toml.read text = .ok document := by
  unfold tableOf at reads
  split at reads
  · cases reads
  · rename_i text decodes
    refine ⟨text, decodes, ?_⟩
    cases read : Toml.read text with
    | error fault => rw [read] at reads; cases reads
    | ok table => rw [read] at reads; cases reads; rfl

def notedDocument : List UInt8 :=
  "[compilers]\nsince = 1979-05-27\nrecognize = ['b/w']".toUTF8.toList

def noted : Toml.Table :=
  [("compilers", .table [
    ("since", .moment (.date ⟨1979, 5, 27, by decide, by decide, by decide⟩)),
    ("recognize", .array [.text "b/w"])])]

theorem loadsByType_of_holds_through_link :
    Holds linkedDocuments Path.root none (Path.ofString "/ccdb.toml")
        (Path.ofString "/etc/ccdb.toml") (recognizing ["b/w"]) ∧
      (∃ settings, load linkedDocuments Path.root none = .ok settings) ∧
      load { nodes := [(["etc", "ccdb.toml"], .file notedDocument)] } Path.root
          (some (Path.ofString "etc/ccdb.toml")) =
        load linkedDocuments Path.root none := by
  have holds : Holds linkedDocuments Path.root none
      (Path.ofString "/ccdb.toml") (Path.ofString "/etc/ccdb.toml")
      (recognizing ["b/w"]) := by
    obtain ⟨text, decodes, reads⟩ := exists_text_of_tableOf
      (show tableOf (Path.ofString "/ccdb.toml") shortDocument =
        .ok (recognizing ["b/w"]) by cbv)
    exact ⟨by unfold FileTree.NamesWithoutNul; decide +kernel,
      FileTree.isPlace_root, .found _ (by decide +kernel), by decide +kernel,
      rfl, shortDocument, text, by decide +kernel, decodes, reads⟩
  have others : Holds { nodes := [(["etc", "ccdb.toml"], .file notedDocument)] }
      Path.root (some (Path.ofString "etc/ccdb.toml"))
      (Path.ofString "etc/ccdb.toml") (Path.ofString "/etc/ccdb.toml")
      noted := by
    obtain ⟨text, decodes, reads⟩ := exists_text_of_tableOf
      (show tableOf (Path.ofString "etc/ccdb.toml") notedDocument =
        .ok noted by cbv)
    exact ⟨by unfold FileTree.NamesWithoutNul; decide +kernel,
      FileTree.isPlace_root, .given _, by decide +kernel, rfl, notedDocument, text, by decide +kernel, decodes, reads⟩
  have byType := loadsByType_of_holds holds
  have about : IsAbout (recognizing ["b/w"])
      [("recognize", .array [.text "b/w"])] := .part _ rfl
  have wellTyped : WellTyped (recognizing ["b/w"]) :=
    ⟨_, about, by
      simp only [listKeys, List.forall_mem_cons]
      exact ⟨⟨_, .items ["b/w"] rfl⟩, ⟨_, .nothing rfl⟩, by simp⟩⟩
  exact ⟨holds, byType.accepts.mpr wellTyped,
    byType.agrees _ _ _ _ _ _ _ about others (.part _ rfl) (by
      simp only [listKeys, List.forall_mem_cons]
      exact ⟨rfl, rfl, by simp⟩)⟩

/-- A value in the place of the table is not told. -/
theorem not_mentions_of_number :
    ¬∀ (tree : FileTree) (current : Path) (config? : Option Path)
      (path place : Path) (document : Toml.Table),
      Holds tree current config? path place document →
        ∀ key value shown, FirstWrong document key value →
          value.written = .ok shown →
          ∃ fault, load tree current config? = .error fault ∧
            fault.Mentions key ∧ fault.Mentions shown := by
  intro told
  obtain ⟨text, decodes, reads⟩ := exists_text_of_tableOf
    (show tableOf (Path.ofString "c.toml") "compilers = 3".toUTF8.toList =
      .ok [("compilers", .integer 3)] by cbv)
  have holds : Holds
      { nodes := [(["c.toml"], .file "compilers = 3".toUTF8.toList)] } Path.root
      (some (Path.ofString "c.toml")) (Path.ofString "c.toml")
      (Path.ofString "/c.toml") [("compilers", .integer 3)] :=
    ⟨by unfold FileTree.NamesWithoutNul; decide +kernel,
      FileTree.isPlace_root, .given _, by decide +kernel, rfl, _, text, by decide +kernel, decodes, reads⟩
  have wrong : FirstWrong [("compilers", .integer 3)] "compilers"
      (.integer 3) := .compilers rfl (by simp)
  obtain ⟨fault, failed, _, mentions⟩ :=
    told _ _ _ _ _ _ holds "compilers" (.integer 3) "3" wrong (by cbv)
  rw [load_of_holds holds, ofTable_of_firstWrong wrong] at failed
  cases failed
  have digit := (mentions fun _ => "").subset (show '3' ∈ "3".toList by decide)
  exact absurd digit (by decide +kernel)

end Settings

end CompilerCalls
