import CompilerCalls.DriverName

/-!
# Recognition of compiler drivers

Paths may be listed as drivers or as anything but drivers.  A path which is
not listed is judged by its last name.
-/

namespace CompilerCalls

/-- Which programs are compiler drivers whatever their names say. -/
structure Recognizer where
  allowed : List Path := []
  excluded : List Path := []

namespace Recognizer

/-- An excluded path is no driver, even if it is allowed too. -/
def recognizes (recognizer : Recognizer) (program : Path) : Bool :=
  !recognizer.excluded.contains program &&
    (recognizer.allowed.contains program || program.namesDriver)

def ofStrings (allowed excluded : List String) : Recognizer :=
  ⟨allowed.map Path.ofString, excluded.map Path.ofString⟩

end Recognizer

end CompilerCalls
