import CompilerCalls.Proofs.Settings.Opening

/-!
# Faults which are not reported

Most faults of a settings file are reported.  The others come from a path
which can be neither found nor missed, or leads to what cannot be opened as a
file, and from what is nested too deeply to be read or to be shown.
-/

namespace CompilerCalls

namespace Settings

/-- A table has a value under a key which is no list of texts. -/
def Mistypes (compilers : Toml.Table) (key : String) (value : Toml.Value) :
    Prop :=
  compilers.value? key = some value ∧
    ∀ texts : List String, value ≠ .array (texts.map .text)

/-- Settings are not loaded, for a fault which is not reported. -/
inductive Unreadable (tree : FileTree) (current : Path) :
    Option Path → SettingsFault → Prop
  | search {fault : SearchFault}
      (fails : find? tree current current = .error fault) :
      Unreadable tree current none (.search fault)
  | unclear {config? : Option Path} {path : Path} {fault : SearchFault}
      (consults : Consults tree current config? path)
      (unclear : IsUnclear tree current path fault) :
      Unreadable tree current config? (.search fault)
  | denied {config? : Option Path} {path place : Path}
      (consults : Consults tree current config? path)
      (reached : tree.reach current path = .ok place)
      (unreadable : tree.mayRead place.names = false) :
      Unreadable tree current config? (.denied path)
  | special {config? : Option Path} {path place : Path}
      (consults : Consults tree current config? path)
      (reached : tree.reach current path = .ok place)
      (readable : tree.mayRead place.names = true)
      (there : tree.node? place.names = some .special) :
      Unreadable tree current config? (.special path)
  /-- Something else is there which is no file. -/
  | directory {config? : Option Path} {path place : Path}
      (consults : Consults tree current config? path)
      (reached : tree.reach current path = .ok place)
      (readable : tree.mayRead place.names = true)
      (noFile : ∀ content, tree.node? place.names ≠ some (.file content))
      (noSpecial : tree.node? place.names ≠ some .special) :
      Unreadable tree current config? (.directory path)
  | documentTooDeep {config? : Option Path} {path : Path}
      {content : List UInt8} {document : String}
      (consults : Consults tree current config? path)
      (opens : Opens tree current path content)
      (decodes : Text.decodeUtf8 content = .ok document)
      (tooDeep : Toml.read document = .error .tooDeep) :
      Unreadable tree current config? .documentTooDeep
  /-- The links of a file which can be opened cannot be resolved. -/
  | unresolved {config? : Option Path} {path : Path} {content : List UInt8}
      {document : Toml.Table} {fault : FileTree.ResolutionFault}
      (consults : Consults tree current config? path)
      (opens : Opens tree current path content)
      (reads : tableOf path content = .ok document)
      (fails : tree.resolve current path = .error fault) :
      Unreadable tree current config? (.search (.unresolved fault))
  /-- A value which is no list of texts is nested too deeply to be shown. -/
  | valueTooDeep {config? : Option Path} {path file : Path}
      {content : List UInt8} {document compilers : Toml.Table}
      {key : String} {value : Toml.Value}
      (consults : Consults tree current config? path)
      (opens : Opens tree current path content)
      (reads : tableOf path content = .ok document)
      (resolves : tree.resolve current path = .ok file)
      (held : document.value? "compilers" = some (.table compilers))
      (first : key = "recognize" ∨ key = "exclude" ∧
        ∀ value, ¬Mistypes compilers "recognize" value)
      (mistypes : Mistypes compilers key value)
      (tooDeep : value.written = .error .tooDeep) :
      Unreadable tree current config? (.unwritable .tooDeep)

variable {tree : FileTree} {current path directory : Path}
  {config? : Option Path} {content : List UInt8}
  {document compilers : Toml.Table} {key : String} {value : Toml.Value}
  {fault : SettingsFault}

theorem pathsOf_of_mistypes (mistypes : Mistypes compilers key value) :
    pathsOf directory compilers key = .error (.ofValue key value) := by
  obtain ⟨held, noTexts⟩ := mistypes
  unfold pathsOf
  rw [held]
  cases value with
  | array items =>
      cases texts : textItems? items with
      | some texts' =>
          exact absurd (congrArg _ (textItems?_eq_some_iff.mp texts))
            (noTexts texts')
      | none => simp [texts]
  | _ => rfl

theorem pathsOf_error_iff :
    pathsOf directory compilers key = .error fault ↔
      ∃ value, Mistypes compilers key value ∧ fault = .ofValue key value := by
  constructor
  · intro failed
    unfold pathsOf at failed
    split at failed
    · cases failed
    · split at failed
      · cases failed
      · rename_i items held _ noTexts
        cases failed
        refine ⟨_, ⟨held, fun texts same => ?_⟩, rfl⟩
        cases same
        rw [textItems?_eq_some_iff.mpr rfl] at noTexts
        contradiction
    · rename_i value other held
      cases failed
      refine ⟨value, ⟨held, fun texts same => other _ same⟩, rfl⟩
  · rintro ⟨value, mistypes, rfl⟩
    exact pathsOf_of_mistypes mistypes

theorem tooDeep_of_ofValue
    (unreported : (SettingsFault.ofValue key value).isReported = false) :
    value.written = .error .tooDeep := by
  unfold SettingsFault.ofValue at unreported
  split at unreported
  · contradiction
  · rename_i fault failed
    cases fault with
    | integerTooLong => contradiction
    | tooDeep => exact failed

theorem ofValue_of_tooDeep (tooDeep : value.written = .error .tooDeep) :
    SettingsFault.ofValue key value = .unwritable .tooDeep := by
  rw [SettingsFault.ofValue, tooDeep]

theorem tooDeep_of_tableOf (failed : tableOf path content = .error fault)
    (unreported : fault.isReported = false) :
    fault = .documentTooDeep ∧ ∃ document,
      Text.decodeUtf8 content = .ok document ∧
        Toml.read document = .error .tooDeep := by
  unfold tableOf at failed
  split at failed
  · cases failed
    contradiction
  · rename_i document decoded
    cases read : Toml.read document with
    | ok table =>
        rw [read] at failed
        cases failed
    | error readFault =>
        rw [read] at failed
        cases failed
        cases readFault with
        | malformed => contradiction
        | integerTooLong => contradiction
        | tooDeep => exact ⟨rfl, document, decoded, read⟩

theorem ofTable_of_mistypes
    (held : document.value? "compilers" = some (.table compilers))
    (first : key = "recognize" ∨ key = "exclude" ∧
      ∀ value, ¬Mistypes compilers "recognize" value)
    (mistypes : Mistypes compilers key value) :
    ofTable path directory document = .error (.ofValue key value) := by
  rcases first with rfl | ⟨rfl, noValue⟩
  · simp only [ofTable, held, pathsOf_of_mistypes mistypes]
    rfl
  · cases recognized : pathsOf directory compilers "recognize" with
    | error other =>
        obtain ⟨wrong, wrongMistypes, _⟩ := pathsOf_error_iff.mp recognized
        exact absurd wrongMistypes (noValue wrong)
    | ok paths =>
        simp only [ofTable, held, recognized, pathsOf_of_mistypes mistypes]
        rfl

theorem mistypes_of_ofTable
    (failed : ofTable path directory document = .error fault)
    (unreported : fault.isReported = false) :
    fault = .unwritable .tooDeep ∧ ∃ compilers key value,
      document.value? "compilers" = some (.table compilers) ∧
        (key = "recognize" ∨ key = "exclude" ∧
          ∀ value, ¬Mistypes compilers "recognize" value) ∧
        Mistypes compilers key value ∧ value.written = .error .tooDeep := by
  unfold ofTable at failed
  split at failed
  · cases failed
  · rename_i compilers held
    cases recognized : pathsOf directory compilers "recognize" with
    | error other =>
        simp only [recognized] at failed
        cases failed
        obtain ⟨value, mistypes, rfl⟩ := pathsOf_error_iff.mp recognized
        have tooDeep := tooDeep_of_ofValue unreported
        exact ⟨ofValue_of_tooDeep tooDeep, compilers, _, value, held, .inl rfl,
          mistypes, tooDeep⟩
    | ok paths =>
        have noValue : ∀ value, ¬Mistypes compilers "recognize" value := by
          intro value mistypes
          rw [pathsOf_of_mistypes mistypes] at recognized
          contradiction
        cases excluded : pathsOf directory compilers "exclude" with
        | ok others =>
            simp only [recognized, excluded] at failed
            cases failed
        | error other =>
            simp only [recognized, excluded] at failed
            cases failed
            obtain ⟨value, mistypes, rfl⟩ := pathsOf_error_iff.mp excluded
            have tooDeep := tooDeep_of_ofValue unreported
            exact ⟨ofValue_of_tooDeep tooDeep, compilers, _, value, held,
              .inr ⟨rfl, noValue⟩, mistypes, tooDeep⟩
  · cases failed
    contradiction

theorem unreadable_of_opens (consults : Consults tree current config? path)
    (opens : Opens tree current path content)
    (failed : loadFrom tree current path = .error fault)
    (unreported : fault.isReported = false) :
    Unreadable tree current config? fault := by
  rw [loadFrom_of_opens opens] at failed
  cases reads : tableOf path content with
  | error other =>
      simp only [reads, Except.error.injEq] at failed
      subst failed
      obtain ⟨rfl, document, decodes, tooDeep⟩ :=
        tooDeep_of_tableOf reads unreported
      exact .documentTooDeep consults opens decodes tooDeep
  | ok document =>
      cases resolves : tree.resolve current path with
      | error other =>
          simp only [reads, resolves, Except.error.injEq] at failed
          subst failed
          exact .unresolved consults opens reads resolves
      | ok file =>
          simp only [reads, resolves] at failed
          obtain ⟨rfl, compilers, key, value, held, first, mistypes,
            tooDeep⟩ := mistypes_of_ofTable failed unreported
          exact .valueTooDeep consults opens reads resolves held first
            mistypes tooDeep

theorem unreadable_of_loadFrom
    (consults : Consults tree current config? path)
    (failed : loadFrom tree current path = .error fault)
    (unreported : fault.isReported = false) :
    Unreadable tree current config? fault := by
  cases reached : tree.reach current path with
  | error lookupFault =>
      simp only [loadFrom, reached] at failed
      cases unclear : SearchFault.ofLookup? path lookupFault with
      | some searchFault =>
          simp only [unclear] at failed
          cases failed
          exact .unclear consults
            (isUnclear_iff.mpr ⟨lookupFault, reached, unclear⟩)
      | none =>
          simp only [unclear] at failed
          cases failed
          contradiction
  | ok place =>
      cases readable : tree.mayRead place.names with
      | false =>
          simp only [loadFrom, reached, readable] at failed
          cases failed
          exact .denied consults reached readable
      | true =>
          -- The fault is kept as it is for a file, whose content counts.
          have ended := failed
          simp only [loadFrom, reached, readable, Bool.not_true,
            Bool.false_eq_true, if_false] at ended
          split at ended
          · rename_i held
            exact unreadable_of_opens consults ⟨place, reached, readable, held⟩
              failed unreported
          · cases ended
            exact .special consults reached readable ‹_›
          · rename_i noFile noSpecial
            cases ended
            exact .directory consults reached readable noFile noSpecial

/-- Exactly these faults are left to nobody. -/
theorem unreadable_iff :
    Unreadable tree current config? fault ↔
      load tree current config? = .error fault ∧ fault.isReported = false := by
  constructor
  · intro unreadable
    cases unreadable with
    | search fails => exact ⟨by simp only [load, fails], rfl⟩
    | unclear consults unclear =>
        obtain ⟨lookupFault, failed, same⟩ := isUnclear_iff.mp unclear
        rw [load_of_consults consults]
        exact ⟨by simp only [loadFrom, failed, same], rfl⟩
    | denied consults reached unreadable =>
        rw [load_of_consults consults]
        exact ⟨by simp [loadFrom, reached, unreadable], rfl⟩
    | special consults reached readable there =>
        rw [load_of_consults consults]
        exact ⟨by simp [loadFrom, reached, readable, there], rfl⟩
    | directory consults reached readable noFile noSpecial =>
        rw [load_of_consults consults]
        exact ⟨by simp [loadFrom, reached, readable], rfl⟩
    | documentTooDeep consults opens decodes tooDeep =>
        rw [load_of_consults consults, loadFrom_of_opens opens]
        simp only [tableOf, decodes, tooDeep]
        exact ⟨rfl, rfl⟩
    | unresolved consults opens reads fails =>
        rw [load_of_consults consults, loadFrom_of_opens opens, reads, fails]
        exact ⟨rfl, rfl⟩
    | valueTooDeep consults opens reads resolves held first mistypes tooDeep =>
        rw [load_of_consults consults, loadFrom_of_opens opens, reads,
          resolves, ← ofValue_of_tooDeep tooDeep]
        exact ⟨ofTable_of_mistypes held first mistypes,
          by rw [ofValue_of_tooDeep tooDeep]; rfl⟩
  · rintro ⟨failed, unreported⟩
    rcases load_cases tree current config? with
      ⟨path, consults⟩ | ⟨rfl, loaded⟩ | ⟨searchFault, rfl, fails, ended⟩
    · rw [load_of_consults consults] at failed
      exact unreadable_of_loadFrom consults failed unreported
    · rw [loaded] at failed
      cases failed
    · rw [ended] at failed
      cases failed
      exact .search fails

end Settings

end CompilerCalls
