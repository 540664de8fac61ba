import CompilerCalls.CommandLine.Run
import CompilerCalls.Proofs.Call.Answers

/-!
# Answers and the settings

Requests for entries and for a verdict on a program are answered with the
settings at hand.  An answer depends on how loading them ends: loaded settings
lead to a report on the call or the program, and a fault leads to a report on
the fault or escapes.
-/

namespace CompilerCalls

/-- What a run sees which works at the root of a file system and has no
variables. -/
def Surroundings.atRoot (tree : FileTree) : Surroundings where
  tree
  current := Path.root
  current_isAbsolute := rfl

/-- The request is answered with the settings which a path leads to, and a
fault in them is reported in a style. -/
inductive Request.Loads : Request → Run.FaultStyle → Option Path → Prop
  | analyze (first : String) (rest : List String)
      (directory? config? : Option Path) (json verbose : Bool) :
      Loads (.analyze (first :: rest) directory? config? json verbose)
        { json } config?
  | recognize (program : Path) (config? : Option Path) :
      Loads (.recognize program config?) { exitCode := 2 } config?

/-- A request loads settings in one way. -/
theorem Request.Loads.unique {request : Request} {style other : Run.FaultStyle}
    {config? otherConfig? : Option Path} (loads : request.Loads style config?)
    (otherLoads : request.Loads other otherConfig?) :
    style = other ∧ config? = otherConfig? := by
  cases loads with
  | analyze => cases otherLoads with | analyze => exact ⟨rfl, rfl⟩
  | recognize => cases otherLoads with | recognize => exact ⟨rfl, rfl⟩

namespace Run

variable {surroundings : Surroundings} {request : Request}
  {style : FaultStyle} {config? : Option Path} {settings : Settings}

/-- How loading the settings ends in some surroundings. -/
def loaded (surroundings : Surroundings) (config? : Option Path) :
    Except SettingsFault Settings :=
  Settings.load surroundings.tree surroundings.current config?

/-- The entries which a call leaves with some settings. -/
def Leaves (settings : Settings) (call : Call) (entries : List Entry) : Prop :=
  if settings.recognizer.recognizes call.program then
    call.entries = .ok entries
  else entries = []

theorem answer_of_fault (frontend : Frontend) {fault : SettingsFault}
    (loads : request.Loads style config?)
    (failed : loaded surroundings config? = .error fault) :
    answer frontend surroundings request =
      if fault.isReported then
        faultReport frontend style (fault.message frontend.decoderText)
      else .error (.settings fault) := by
  unfold loaded at failed
  by_cases reported : fault.isReported
  · cases loads with
    | analyze =>
        rw [answer, analyze, Run.settings, failed]
        cases ended : faultReport frontend _ _ <;>
          simp [reported, ended, Except.map]
    | recognize =>
        rw [answer, recognize, Run.settings, failed]
        cases ended : faultReport frontend _ _ <;>
          simp [reported, ended, Except.map]
  · cases loads with
    | analyze => simp [answer, analyze, Run.settings, failed, reported]
    | recognize => simp [answer, recognize, Run.settings, failed, reported]

/-- With settings, a call is answered with a report on the entries which it
leaves. -/
theorem answer_analyze_of_loaded (frontend : Frontend) (first : String)
    (rest : List String) (directory? : Option Path) (json verbose : Bool)
    (available : loaded surroundings config? = .ok settings) :
    ∃ entries errors,
      Leaves settings (callIn surroundings first rest directory?) entries ∧
      answer frontend surroundings
          (.analyze (first :: rest) directory? config? json verbose) =
        (entriesText frontend.output json entries).map fun output =>
          { exitCode := 0, output, errors } := by
  unfold loaded at available
  let call := callIn surroundings first rest directory?
  obtain ⟨analysis, analyzed, answered⟩ := call.exists_analysis
  rw [answer, analyze, Run.settings, available]
  by_cases recognized : settings.recognizer.recognizes call.program
  · refine ⟨analysis.entries,
      logText frontend surroundings verbose analysis.events, ?_, ?_⟩
    · rw [Leaves, if_pos recognized]
      exact answered
    · simp only [entriesReport]
      rw [if_pos recognized, analyzed]
  · refine ⟨[], "", ?_, ?_⟩
    · rw [Leaves, if_neg recognized]
    · simp only [entriesReport]
      rw [if_neg recognized]

theorem answer_recognize_of_loaded (frontend : Frontend) (program : Path)
    (available : loaded surroundings config? = .ok settings) :
    ∃ exitCode,
      answer frontend surroundings (.recognize program config?) =
        (printed frontend.output (verdictPrint settings program)).map
          fun output => { exitCode, output } := by
  unfold loaded at available
  rw [answer, recognize, Run.settings, available]
  exact ⟨_, rfl⟩

end Run

end CompilerCalls
