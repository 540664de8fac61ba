import CompilerCalls.Proofs.Flag.Acceptance
import CompilerCalls.Proofs.Flag.Segmentation

/-!
# What the table of the GNU drivers says about words

Facts about the rows are checked over the table once; whatever is said about
words follows from them for all words.
-/

namespace CompilerCalls

namespace Gnu

theorem category_ne_source :
    ∀ rule ∈ rules, rule.category ≠ Category.source := by
  decide +kernel

theorem allowsExact_of_loose :
    ∀ rule ∈ rules, rule.arity = 1 → rule.sticky = false →
      rule.mode.allowsExact = true := by
  decide +kernel

/-- A spelling whose value is the next word. -/
def SpellsValueFlag (token : String) : Prop :=
  ∃ rule ∈ rules, rule.key = token ∧ rule.arity = 1 ∧ rule.sticky = false

instance (token : String) : Decidable (SpellsValueFlag token) :=
  inferInstanceAs (Decidable (∃ rule ∈ rules, _))

end Gnu

/-- Without its value the spelling of a flag is a source, unless a shorter
spelling which stands in front of it passes it on. -/
theorem Gnu.category_read_none :
    ∀ rule ∈ rules, rule.arity = 1 → rule.sticky = false →
      (Grammar.gnu.read rule.key none).category = .source ∨
        (Grammar.gnu.read rule.key none).category = .other := by
  decide +kernel

/-- Every flag about a source is a single word. -/
def Flags.SourcesAreWords (flags : List Flag) : Prop :=
  ∀ flag ∈ flags, flag.category = .source → ∃ source, flag.tokens = [source]

namespace Grammar

variable {token : String} {tokens : List String} {flags : List Flag}
  {category : Category}

theorem gnu_takesNext_of_mem {rule : Rule} (member : rule ∈ Gnu.rules)
    (one : rule.arity = 1) (loose : rule.sticky = false) :
    gnu.TakesNext rule.key rule.category := by
  have exactly := Gnu.allowsExact_of_loose rule member one loose
  have spelled : rule.spells rule.key = true :=
    Rule.spells_iff.mpr ⟨exactly, rfl⟩
  exact takesNext_of_spells member spelled (by omega) loose

theorem gnu_takesNext_iff :
    (∃ category, gnu.TakesNext token category) ↔
      Gnu.SpellsValueFlag token := by
  constructor
  · rintro ⟨category, takesNext⟩
    obtain ⟨rule, member, key, one, loose, _⟩ := takesNext.exists_rule
    exact ⟨rule, member, key, one, loose⟩
  · rintro ⟨rule, member, rfl, one, loose⟩
    exact ⟨rule.category, gnu_takesNext_of_mem member one loose⟩

theorem gnu_lacksValue_iff {flag : Flag} :
    gnu.LacksValue flag ↔
      ∃ token, flag.tokens = [token] ∧ Gnu.SpellsValueFlag token := by
  constructor
  · rintro ⟨token, category, single, takesNext⟩
    exact ⟨token, single, gnu_takesNext_iff.mp ⟨category, takesNext⟩⟩
  · rintro ⟨token, single, spelling⟩
    obtain ⟨category, takesNext⟩ := gnu_takesNext_iff.mpr spelling
    exact ⟨token, category, single, takesNext⟩

/-- A flag which lacks its value has been read as a source or passed on. -/
theorem Reads.category_of_lacksValue {flag : Flag}
    (reads : Reads gnu tokens flags) (member : flag ∈ flags)
    (lacksValue : gnu.LacksValue flag) :
    flag.category = .source ∨ flag.category = .other := by
  obtain ⟨_, word, category, _, takesNext, lone, _⟩ :=
    reads.waiting_of_lacksValue member lacksValue
  obtain ⟨rule, listed, rfl, one, loose⟩ :=
    gnu_takesNext_iff.mp ⟨category, takesNext⟩
  have categories := Gnu.category_read_none rule listed one loose
  rwa [lone] at categories

theorem gnu_standsAlone_of_mem {rule : Rule} (member : rule ∈ Gnu.rules)
    (plain : rule.arity = 0) (exactly : rule.mode.allowsExact = true) :
    gnu.StandsAlone rule.key rule.category := by
  have spelled : rule.spells rule.key = true :=
    Rule.spells_iff.mpr ⟨exactly, rfl⟩
  exact standsAlone_of_spells member spelled plain

theorem gnu_standsAlone_of_exact {key : String} {category : Category}
    (listed : ⟨key, 0, .exact, category, false⟩ ∈ Gnu.rules) :
    gnu.StandsAlone key category := by
  have standsAlone := gnu_standsAlone_of_mem listed rfl rfl
  exact standsAlone

theorem gnu_takesNext_of_both {key : String} {category : Category}
    (listed : ⟨key, 1, .both, category, false⟩ ∈ Gnu.rules) :
    gnu.TakesNext key category := by
  have takesNext := gnu_takesNext_of_mem listed rfl rfl
  exact takesNext

theorem gnu_standsAlone_compileOnly : gnu.StandsAlone "-c" .noLinking :=
  gnu_standsAlone_of_exact (by decide +kernel)

theorem gnu_takesNext_include : gnu.TakesNext "-I" .directorySearch :=
  gnu_takesNext_of_both (by decide +kernel)

theorem gnu_takesNext_systemInclude :
    gnu.TakesNext "-isystem" .directorySearch :=
  gnu_takesNext_of_both (by decide +kernel)

/-- A source is a single word, for no row about sources could take two. -/
theorem Reads.sourcesAreWords (reads : Reads gnu tokens flags) :
    Flags.SourcesAreWords flags := by
  intro flag member isSource
  rcases reads.single_or_pair member with
    single | ⟨token, value, _, takesNext⟩
  · exact single
  · obtain ⟨rule, listed, _, _, _, sameCategory⟩ := takesNext.exists_rule
    exact (Gnu.category_ne_source rule listed
      (sameCategory.trans isSource)).elim

end Grammar

end CompilerCalls
