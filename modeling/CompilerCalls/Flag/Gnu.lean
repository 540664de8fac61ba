import CompilerCalls.Flag.Stream

/-!
# The flags of GNU compiler drivers

The flag table of the drivers which take the options of the GNU compilers,
and what their flags say about a call as a whole.
-/

namespace CompilerCalls

namespace Gnu

/-- Options about the output as a whole. -/
def overallRules : List Rule :=
  [⟨"-x", 1, .both, .outputKind, false⟩,
   ⟨"-c", 0, .exact, .noLinking, false⟩,
   ⟨"-S", 0, .exact, .noLinking, false⟩,
   ⟨"-E", 0, .exact, .noLinking, false⟩,
   ⟨"-o", 1, .both, .outputPath, false⟩,
   ⟨"-dumpbase", 1, .exact, .outputKind, false⟩,
   ⟨"-dumpbase-ext", 1, .exact, .outputKind, false⟩,
   ⟨"-dumpdir", 1, .exact, .outputKind, false⟩,
   ⟨"-v", 0, .exact, .outputKind, false⟩,
   ⟨"-###", 0, .exact, .outputKind, false⟩,
   ⟨"-pass-exit-codes", 0, .exact, .outputKind, false⟩,
   ⟨"-pipe", 0, .exact, .outputKind, false⟩,
   ⟨"-specs", 0, .leading, .outputKind, true⟩,
   ⟨"-wrapper", 1, .exact, .outputKind, false⟩,
   ⟨"-ffile-prefix-map", 0, .leading, .outputKind, true⟩,
   ⟨"-fplugin", 0, .leading, .outputKind, true⟩,
   ⟨"@", 0, .leading, .outputKind, false⟩]

/-- Questions which the driver answers before it exits. -/
def queryRules : List Rule :=
  [⟨"--help", 0, .both, .query, true⟩,
   ⟨"--target-help", 0, .exact, .query, false⟩,
   ⟨"--version", 0, .exact, .query, false⟩,
   ⟨"-dumpversion", 0, .exact, .query, false⟩,
   ⟨"-dumpfullversion", 0, .exact, .query, false⟩,
   ⟨"-dumpmachine", 0, .exact, .query, false⟩,
   ⟨"-dumpspecs", 0, .exact, .query, false⟩,
   ⟨"-print-", 0, .leading, .query, false⟩]

/-- Options of the preprocessor. -/
def preprocessorRules : List Rule :=
  [⟨"-A", 1, .both, .preprocessor, false⟩,
   ⟨"-D", 1, .both, .preprocessor, false⟩,
   ⟨"-U", 1, .both, .preprocessor, false⟩,
   ⟨"-include", 1, .exact, .preprocessor, false⟩,
   ⟨"-imacros", 1, .exact, .preprocessor, false⟩,
   ⟨"-undef", 0, .exact, .preprocessor, false⟩,
   ⟨"-pthread", 0, .exact, .preprocessor, false⟩,
   ⟨"-C", 0, .exact, .preprocessor, false⟩,
   ⟨"-CC", 0, .exact, .preprocessor, false⟩,
   ⟨"-P", 0, .exact, .preprocessor, false⟩,
   ⟨"-traditional", 0, .both, .preprocessor, false⟩,
   ⟨"-trigraphs", 0, .exact, .preprocessor, false⟩,
   ⟨"-remap", 0, .exact, .preprocessor, false⟩,
   ⟨"-H", 0, .exact, .preprocessor, false⟩,
   ⟨"-Xpreprocessor", 1, .exact, .preprocessor, false⟩,
   ⟨"-Wp,", 0, .leading, .preprocessor, false⟩]

/-- Options which write the dependencies of a source. -/
def dependencyRules : List Rule :=
  [⟨"-M", 0, .exact, .dependencies, false⟩,
   ⟨"-MM", 0, .exact, .dependencies, false⟩,
   ⟨"-MG", 0, .exact, .dependencies, false⟩,
   ⟨"-MP", 0, .exact, .dependencies, false⟩,
   ⟨"-MD", 0, .exact, .dependencies, false⟩,
   ⟨"-MMD", 0, .exact, .dependencies, false⟩,
   ⟨"-MF", 1, .both, .dependencies, false⟩,
   ⟨"-MT", 1, .both, .dependencies, false⟩,
   ⟨"-MQ", 1, .both, .dependencies, false⟩]

/-- Directories of headers, plugins, and libraries. -/
def directoryRules : List Rule :=
  [⟨"-I", 1, .both, .directorySearch, false⟩,
   ⟨"-iplugindir", 0, .leading, .directorySearch, true⟩,
   ⟨"-iquote", 1, .both, .directorySearch, false⟩,
   ⟨"-isystem", 1, .both, .directorySearch, false⟩,
   ⟨"-idirafter", 1, .both, .directorySearch, false⟩,
   ⟨"-iprefix", 1, .exact, .directorySearch, false⟩,
   ⟨"-iwithprefix", 1, .exact, .directorySearch, false⟩,
   ⟨"-iwithprefixbefore", 1, .exact, .directorySearch, false⟩,
   ⟨"-isysroot", 1, .exact, .directorySearch, false⟩,
   ⟨"-imultilib", 1, .exact, .directorySearch, false⟩,
   ⟨"-B", 1, .both, .directorySearch, false⟩,
   ⟨"--sysroot", 1, .both, .directorySearch, true⟩,
   ⟨"-L", 1, .both, .librarySearch, false⟩]

/-- Options of the linker. -/
def linkerRules : List Rule :=
  [⟨"-flinker-output", 0, .leading, .linker, true⟩,
   ⟨"-fuse-ld", 0, .leading, .linker, true⟩,
   ⟨"-l", 1, .both, .linker, false⟩,
   ⟨"-nostartfiles", 0, .exact, .linker, false⟩,
   ⟨"-nodefaultlibs", 0, .exact, .linker, false⟩,
   ⟨"-nolibc", 0, .exact, .linker, false⟩,
   ⟨"-nostdlib", 0, .exact, .linker, false⟩,
   ⟨"-e", 1, .exact, .linker, false⟩,
   ⟨"-entry", 0, .leading, .linker, true⟩,
   ⟨"-pie", 0, .exact, .linker, false⟩,
   ⟨"-no-pie", 0, .exact, .linker, false⟩,
   ⟨"-static-pie", 0, .exact, .linker, false⟩,
   ⟨"-r", 0, .exact, .linker, false⟩,
   ⟨"-rdynamic", 0, .exact, .linker, false⟩,
   ⟨"-s", 0, .exact, .linker, false⟩,
   ⟨"-symbolic", 0, .exact, .linker, false⟩,
   ⟨"-static", 0, .both, .linker, false⟩,
   ⟨"-shared", 0, .both, .linker, false⟩,
   ⟨"-T", 1, .exact, .linker, false⟩,
   ⟨"-Xlinker", 1, .exact, .linker, false⟩,
   ⟨"-Wl,", 0, .leading, .linker, false⟩,
   ⟨"-u", 1, .exact, .linker, false⟩,
   ⟨"-z", 1, .exact, .linker, false⟩]

/-- Everything else is passed on untouched. -/
def passedRules : List Rule :=
  [⟨"-Xassembler", 1, .exact, .other, false⟩,
   ⟨"-Wa,", 0, .leading, .other, false⟩,
   ⟨"-ansi", 0, .exact, .other, false⟩,
   ⟨"-aux-info", 1, .exact, .other, false⟩,
   ⟨"-std", 0, .leading, .other, true⟩,
   ⟨"-O", 0, .both, .other, false⟩,
   ⟨"-g", 0, .both, .other, false⟩,
   ⟨"-f", 0, .leading, .other, false⟩,
   ⟨"-m", 0, .leading, .other, false⟩,
   ⟨"-p", 0, .leading, .other, false⟩,
   ⟨"-W", 0, .leading, .other, false⟩,
   ⟨"-no", 0, .leading, .other, false⟩,
   ⟨"-tno", 0, .leading, .other, false⟩,
   ⟨"-save", 0, .leading, .other, false⟩,
   ⟨"-d", 0, .leading, .other, false⟩,
   ⟨"-E", 0, .leading, .other, false⟩,
   ⟨"-Q", 0, .leading, .other, false⟩,
   ⟨"-X", 0, .leading, .other, false⟩,
   ⟨"-Y", 0, .leading, .other, false⟩,
   ⟨"--", 0, .leading, .other, false⟩]

/-- The whole table. -/
def rules : List Rule :=
  overallRules ++ queryRules ++ preprocessorRules ++ dependencyRules ++
    directoryRules ++ linkerRules ++ passedRules

/-- Words which make the driver stop before it compiles, when they are read as
flags about dependencies. -/
def stopWords : List String := ["-M", "-MM", "-E"]

/-- Categories which say nothing about the compilation of a single source. -/
def dropped : Category → Bool
  | .linker | .dependencies | .librarySearch => true
  | _ => false

end Gnu

/-- The grammar of the drivers which take the options of the GNU compilers. -/
def Grammar.gnu : Grammar := ⟨Gnu.rules, by decide +kernel⟩

end CompilerCalls
