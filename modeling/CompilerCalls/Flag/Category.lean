/-!
# Flag categories

The category of a flag drives every later decision about a compiler call:
whether it compiles at all, which words name sources, and which words are
dropped when one source is compiled on its own.
-/

namespace CompilerCalls

/-- What a flag of a compiler driver is about. -/
inductive Category where
  /-- The kind of output or the way it is made. -/
  | outputKind
  /-- The call stops before it links. -/
  | noLinking
  | outputPath
  /-- The driver answers a question and exits. -/
  | query
  | preprocessor
  /-- Rules for a build file are written beside or in place of the output. -/
  | dependencies
  | directorySearch
  | librarySearch
  | linker
  | source
  | other
  deriving DecidableEq, Repr

namespace Category

def all : List Category :=
  [.outputKind, .noLinking, .outputPath, .query, .preprocessor, .dependencies,
    .directorySearch, .librarySearch, .linker, .source, .other]

/-- The identifier which stands for a category in written answers. -/
def id : Category → String
  | .outputKind => "output_kind"
  | .noLinking => "output_kind_no_linking"
  | .outputPath => "output_kind_output_path"
  | .query => "output_kind_info"
  | .preprocessor => "preprocessor"
  | .dependencies => "preprocessor_make"
  | .directorySearch => "directory_search"
  | .librarySearch => "directory_search_linker"
  | .linker => "linker"
  | .source => "source"
  | .other => "other"

/-- The heading of a category in tables and messages. -/
def label : Category → String
  | .outputKind => "OUTPUT_KIND"
  | .noLinking => "OUTPUT_KIND_NO_LINKING"
  | .outputPath => "OUTPUT_KIND_OUTPUT_PATH"
  | .query => "OUTPUT_KIND_INFO"
  | .preprocessor => "PREPROCESSOR"
  | .dependencies => "PREPROCESSOR_MAKE"
  | .directorySearch => "DIRECTORY_SEARCH"
  | .librarySearch => "DIRECTORY_SEARCH_LINKER"
  | .linker => "LINKER"
  | .source => "SOURCE"
  | .other => "OTHER"

def ofId? (text : String) : Option Category :=
  all.find? fun category => category.id == text

theorem ofId?_id (category : Category) : ofId? category.id = some category := by
  cases category <;> decide

end Category

end CompilerCalls
