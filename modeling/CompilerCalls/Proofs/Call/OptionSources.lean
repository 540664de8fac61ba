import CompilerCalls.Proofs.Call.Answers
import CompilerCalls.Proofs.Flag.Priority
import Mathlib.Control.Monad.Basic

/-!
# Options which become sources

A word is a source when no row of the table describes it.  The spelling of a
flag is a source too if its value is missing and no row could read it without
one, which happens at the end of a call only.  Nothing else is a source: an
option which some row can read where it stands is passed on or dropped, and
has no entry of its own.
-/

namespace CompilerCalls

namespace Gnu

/-- No row describes the word. -/
def Unlisted (token : String) : Prop :=
  ∀ rule ∈ rules, ¬rule.Applies token

instance (token : String) : Decidable (Unlisted token) :=
  inferInstanceAs (Decidable (∀ rule ∈ rules, _))

/-- The word is the spelling of a flag whose value is the next word, and no
row reads it without a value. -/
structure OnlyWithValue (token : String) : Prop where
  spelling : SpellsValueFlag token
  lacking : ∀ rule ∈ rules, rule.Applies token →
    rule.arity = 1 ∧ rule.key = token

/-- The word looks like an option.  A dash alone does not. -/
def IsOption (token : String) : Prop :=
  token.toList.head? = some '-' ∧ token ≠ "-"

instance (token : String) : Decidable (IsOption token) :=
  inferInstanceAs (Decidable (_ ∧ _))

/-- Where a value has to be part of the word, the spelling without it is read
by another row. -/
theorem exists_fallback_of_sticky :
    ∀ rule ∈ rules, rule.arity = 1 → rule.sticky = true →
      ∃ other ∈ rules, other.arity = 0 ∧ other.Applies rule.key := by
  decide +kernel

end Gnu

namespace Grammar

variable {token source : String} {tokens : List String} {flags : List Flag}

/-- A word is read as a source when no row describes it, or when it lacks the
value without which it cannot be read otherwise. -/
theorem category_gnu_read_eq_source_iff (token : String)
    (next? : Option String) :
    (gnu.read token next?).category = .source ↔
      Gnu.Unlisted token ∨ next? = none ∧ Gnu.OnlyWithValue token := by
  rw [category_read_eq_source_iff Gnu.category_ne_source]
  constructor
  · intro lacking
    by_cases unlisted : Gnu.Unlisted token
    · exact Or.inl unlisted
    · simp only [Gnu.Unlisted, not_forall, not_not] at unlisted
      obtain ⟨rule, member, applies⟩ := unlisted
      obtain ⟨one, key, noValue⟩ := lacking rule member applies
      have loose : rule.sticky = false := by
        by_contra sticky
        obtain ⟨other, otherMember, plain, otherApplies⟩ :=
          Gnu.exists_fallback_of_sticky rule member one
            (Bool.not_eq_false _ ▸ sticky)
        have valued := (lacking other otherMember (key ▸ otherApplies)).1
        omega
      have atEnd : next? = none := by simpa [loose] using noValue
      refine Or.inr ⟨atEnd, ⟨rule, member, key, one, loose⟩, ?_⟩
      intro row rowMember rowApplies
      obtain ⟨rowOne, rowKey, _⟩ := lacking row rowMember rowApplies
      exact ⟨rowOne, rowKey⟩
  · rintro (unlisted | ⟨rfl, onlyWithValue⟩)
    · intro rule member applies
      exact (unlisted rule member applies).elim
    · intro rule member applies
      obtain ⟨one, key⟩ := onlyWithValue.lacking rule member applies
      exact ⟨one, key, Or.inr rfl⟩

/-- A flag is a source exactly when its first word is unlisted, or is the last
word of the call and lacks the value without which it cannot be read. -/
theorem Reads.source_iff {before behind : List Flag} {flag : Flag}
    (reads : gnu.Reads tokens (before ++ flag :: behind))
    (first : flag.tokens.head? = some token) :
    flag.category = .source ↔
      Gnu.Unlisted token ∨
        behind = [] ∧ flag.tokens = [token] ∧ Gnu.OnlyWithValue token := by
  have fromFlag := reads.behind
  generalize Flags.words (flag :: behind) = rest at fromFlag
  cases fromFlag with
  | @alone word category _ _ standsAlone _ =>
      obtain rfl : word = token := by simpa using first
      have followed := category_gnu_read_eq_source_iff word (some word)
      have atEnd := category_gnu_read_eq_source_iff word none
      rw [standsAlone] at followed atEnd
      constructor
      · intro isSource
        exact Or.inl (by simpa using followed.mp isSource)
      · rintro (unlisted | ⟨_, _, onlyWithValue⟩)
        · exact followed.mpr (Or.inl unlisted)
        · exact atEnd.mpr (Or.inr ⟨rfl, onlyWithValue⟩)
  | @pair word next category _ _ takesNext _ =>
      obtain rfl : word = token := by simpa using first
      have followed := category_gnu_read_eq_source_iff word (some next)
      rw [takesNext] at followed
      simpa using followed
  | @last word category fallback _ lone =>
      obtain rfl : word = token := by simpa using first
      have atEnd := category_gnu_read_eq_source_iff word none
      rw [lone] at atEnd
      simpa using atEnd

/-- The sources of a call are its unlisted words, apart from values, and its
last word if that lacks the value without which it cannot be read. -/
theorem Reads.mem_namedSources_iff (reads : gnu.Reads tokens flags) :
    source ∈ Flags.namedSources flags ↔
      ∃ before flag behind, flags = before ++ flag :: behind ∧
        flag.tokens.head? = some source ∧
        (Gnu.Unlisted source ∨ behind = [] ∧ flag.tokens = [source] ∧
          Gnu.OnlyWithValue source) := by
  have named : source ∈ Flags.namedSources flags ↔
      ∃ flag ∈ flags,
        flag.category = .source ∧ flag.tokens.head? = some source := by
    simp [Flags.namedSources, Flag.namedSource?]
  rw [named]
  constructor
  · rintro ⟨flag, member, isSource, first⟩
    obtain ⟨before, behind, rfl⟩ := List.append_of_mem member
    exact ⟨before, flag, behind, rfl, first,
      (reads.source_iff first).mp isSource⟩
  · rintro ⟨before, flag, behind, rfl, first, escapes⟩
    exact ⟨flag, by simp, (reads.source_iff first).mpr escapes, first⟩

end Grammar

namespace Call

variable {call : Call} {sources : List String} {entries : List Entry}

/-- An option for which there is an entry is unlisted, or is the last word of
the call and lacks the value without which it cannot be read.  A call which
compiles has an entry for each such option. -/
theorem entries_of_options (listed : Flags.sources call.flags = .ok sources)
    (answered : call.entries = .ok entries) :
    (∀ source entry, (source, entry) ∈ sources.zip entries →
      Gnu.IsOption source →
        Gnu.Unlisted source ∨ call.arguments.getLast? = some source ∧
          Gnu.OnlyWithValue source) ∧
    (Flags.runCompilation call.flags = .ok true →
      ∀ before flag behind option, call.flags = before ++ flag :: behind →
        flag.tokens.head? = some option → Gnu.IsOption option →
        (Gnu.Unlisted option ∨ behind = [] ∧ flag.tokens = [option] ∧
          Gnu.OnlyWithValue option) →
        ∃ entry, (option, entry) ∈ sources.zip entries) := by
  have reads := call.reads_flags
  constructor
  · intro source entry member _
    obtain ⟨rfl, named, _, _⟩ := entry_of_mem_zip listed answered member
    obtain ⟨before, flag, behind, flags, _, unlisted | atEnd⟩ :=
      reads.mem_namedSources_iff.mp named
    · exact Or.inl unlisted
    · obtain ⟨rfl, single, onlyWithValue⟩ := atEnd
      refine Or.inr ⟨?_, onlyWithValue⟩
      rw [← reads.words_eq, flags]
      simp [single]
  · intro compiling before flag behind option flags first _ escapes
    have named : option ∈ Flags.namedSources call.flags :=
      reads.mem_namedSources_iff.mpr
        ⟨before, flag, behind, flags, first, escapes⟩
    rw [Flags.runCompilation_eq call.haveWords_flags, Except.ok.injEq]
      at compiling
    rw [Flags.sources_eq call.haveWords_flags, Except.ok.injEq] at listed
    rw [entries_eq, compiling, if_pos rfl, Except.ok.injEq] at answered
    subst sources entries
    refine ⟨call.entry call.flags option, ?_⟩
    rw [← List.map_prod_left_eq_zip]
    exact List.mem_map_of_mem named

/-- One option is outside the table, one is read by it, and one lacks its
value. -/
theorem entries_of_options_outside_and_at_end :
    let call := launched "gcc" ["-w", "a.c", "-Wall", "-o"] Path.root rfl {}
      none
    ∃ entries, Flags.sources call.flags = .ok ["-w", "a.c", "-o"] ∧
      call.entries = .ok entries ∧
      (∀ entry, ("-Wall", entry) ∉ ["-w", "a.c", "-o"].zip entries) ∧
      (∃ entry, ("-w", entry) ∈ ["-w", "a.c", "-o"].zip entries) ∧
      ∃ entry, ("-o", entry) ∈ ["-w", "a.c", "-o"].zip entries := by
  intro call
  have listed : Flags.sources call.flags = .ok ["-w", "a.c", "-o"] := by
    decide +kernel
  have answered := call.entries_eq
  have compiling : Flags.runCompilation call.flags = .ok true := by
    decide +kernel
  have flags : call.flags =
      [⟨.source, ["-w"]⟩, ⟨.source, ["a.c"]⟩, ⟨.other, ["-Wall"]⟩,
        ⟨.source, ["-o"]⟩] := by
    decide +kernel
  have onlyWithValue : Gnu.OnlyWithValue "-o" :=
    ⟨by decide +kernel, by decide +kernel⟩
  obtain ⟨escapes, entered⟩ := entries_of_options listed answered
  refine ⟨_, listed, answered, ?_, ?_, ?_⟩
  · intro entry member
    rcases escapes "-Wall" entry member (by decide) with
      unlisted | ⟨atEnd, _⟩
    · exact absurd unlisted (by decide +kernel)
    · exact absurd atEnd (by decide)
  · exact entered compiling [] _ _ "-w" flags rfl (by decide)
      (Or.inl (by decide +kernel))
  · have last : call.flags =
        [⟨.source, ["-w"]⟩, ⟨.source, ["a.c"]⟩, ⟨.other, ["-Wall"]⟩] ++
          ⟨.source, ["-o"]⟩ :: [] := flags
    exact entered compiling _ _ _ "-o" last rfl (by decide)
      (Or.inr ⟨rfl, rfl, onlyWithValue⟩)

/-- Options can have entries of their own. -/
theorem not_entries_without_options :
    ¬∀ (call : Call) (sources : List String) (entries : List Entry)
      (source : String) (entry : Entry),
      Flags.sources call.flags = .ok sources →
      call.entries = .ok entries →
      (source, entry) ∈ sources.zip entries →
        source.toList.head? = some '-' → source = "-" := by
  intro withoutOptions
  have dash := withoutOptions
    (launched "gcc" ["-w", "a.c", "-o"] Path.root rfl {} none)
    ["-w", "a.c", "-o"]
    [⟨Path.ofString "/-w", Path.root, none, ["gcc", "-c", "-w"]⟩,
      ⟨Path.ofString "/a.c", Path.root, none, ["gcc", "-c", "a.c"]⟩,
      ⟨Path.ofString "/-o", Path.root, none, ["gcc", "-c", "-o"]⟩]
    "-w" _ (by decide +kernel) (by decide +kernel) List.mem_cons_self rfl
  exact absurd dash (by decide)

end Call

end CompilerCalls
