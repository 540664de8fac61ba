import CompilerCalls.Proofs.Flag.Acceptance
import CompilerCalls.Proofs.Flag.Segmentation

/-!
# Reading at a cursor

A call can be read at a cursor: the ways to read a flag are tried there one
after the other, and the cursor moves behind the words of the flag.  `Scan`
holds the runs of this loop, which end with the cursor right behind the last
word.  Every call has exactly one run, and its flags are those of `parse`.

So the flags cover the words of a call without a gap.  A flag is a word, or
the spelling of a row whose value stands apart together with the next word.
-/

namespace CompilerCalls

variable {grammar : Grammar} {tokens : List String} {position : Nat}
  {flag : Flag} {flags : List Flag}

theorem Matcher.readAt_of_lt (matcher : Matcher)
    (within : position < tokens.length) :
    matcher.readAt grammar tokens position =
      .ok (matcher.read? grammar tokens[position] tokens[position + 1]?) := by
  unfold readAt
  rw [List.drop_eq_getElem_cons within]
  simp

namespace Grammar

/-- Some way in the chain reads the flag at a position, and those before it
read none there.  Nothing is tried past the end of the words. -/
def ReadsAt (grammar : Grammar) (tokens : List String) (position : Nat)
    (flag : Flag) : Prop :=
  ∃ before matcher behind, Matcher.chain = before ++ matcher :: behind ∧
    matcher.readAt grammar tokens position = .ok (some flag) ∧
    ∀ earlier ∈ before, earlier.readAt grammar tokens position = .ok none

/-- The flags which a cursor meets from a position on, until it stands right
behind the last word. -/
inductive Scan (grammar : Grammar) (tokens : List String) :
    Nat → List Flag → Prop where
  | done : Scan grammar tokens tokens.length []
  | step {position : Nat} {flag : Flag} {flags : List Flag} :
      position < tokens.length →
      grammar.ReadsAt tokens position flag →
      Scan grammar tokens (position + flag.tokens.length) flags →
      Scan grammar tokens position (flag :: flags)

theorem readsAt_iff (within : position < tokens.length) :
    grammar.ReadsAt tokens position flag ↔
      grammar.read tokens[position] tokens[position + 1]? = flag := by
  have found :
      (Matcher.chain.findSome? fun matcher =>
        matcher.read? grammar tokens[position] tokens[position + 1]?) =
          some flag ↔
        grammar.read tokens[position] tokens[position + 1]? = flag := by
    rw [Option.eq_some_iff_get_eq, exists_prop_of_true]
    rfl
  rw [← found, List.findSome?_eq_some_iff]
  simp [ReadsAt, Matcher.readAt_of_lt _ within]

/-- The rest of a call is read behind the words of its first flag. -/
theorem parse_cons (grammar : Grammar) (token : String) (rest : List String) :
    grammar.parse (token :: rest) =
      grammar.read token rest.head? ::
        grammar.parse ((token :: rest).drop
          (grammar.read token rest.head?).tokens.length) := by
  cases rest with
  | nil =>
      obtain ⟨category, lone⟩ := grammar.exists_read_none token
      simp [parse, lone]
  | cons next rest =>
      rcases grammar.tokens_read token (some next) with
        single | ⟨_, present, pair⟩
      · simp [parse, single]
      · obtain rfl := Option.some.inj present
        simp [parse, pair]

/-- The words before the cursor are of no account for the flags behind it. -/
theorem Reads.scan {rest : List String} (reads : Reads grammar rest flags)
    (before : List String) :
    grammar.Scan (before ++ rest) before.length flags := by
  -- Each flag moves its words over to the part before the cursor.
  induction reads generalizing before with
  | nil =>
      have atEnd : Scan grammar before before.length [] := .done
      simpa using atEnd
  | @alone token category tokens flags standsAlone _ induction =>
      have later := induction (before ++ [token])
      refine .step (by simp) ((readsAt_iff (by simp)).mpr ?_) ?_
      · simp [standsAlone _]
      · simpa using later
  | @pair token next category tokens flags takesNext _ induction =>
      have later := induction (before ++ [token, next])
      refine .step (by simp) ((readsAt_iff (by simp)).mpr ?_) ?_
      · simp [takesNext next]
      · simpa using later
  | @last token category fallback takesNext lone =>
      have atEnd : Scan grammar (before ++ [token])
          (before ++ [token]).length [] := .done
      refine .step (by simp) ((readsAt_iff (by simp)).mpr ?_) ?_
      · simp [lone]
      · simpa using atEnd

theorem Scan.parse_drop_eq (scan : grammar.Scan tokens position flags) :
    grammar.parse (tokens.drop position) = flags := by
  induction scan with
  | done => simp
  | @step position flag flags within readsAt _ induction =>
      have read := (readsAt_iff within).mp readsAt
      rw [List.drop_eq_getElem_cons within, parse_cons, List.head?_drop, read,
        ← List.drop_eq_getElem_cons within, List.drop_drop, induction]

/-- The cursor has one run over the words of a call, and `parse` gives its
flags. -/
theorem scan_iff : grammar.Scan tokens 0 flags ↔
    grammar.parse tokens = flags := by
  constructor
  · exact Scan.parse_drop_eq
  · rintro rfl
    simpa using (grammar.reads_parse tokens).scan []

/-- The cursor stands at a flag when it has passed the words of the flags
before it. -/
theorem Scan.readsAt_behind {before behind : List Flag}
    (scan : grammar.Scan tokens position (before ++ flag :: behind)) :
    position + (Flags.words before).length < tokens.length ∧
      grammar.ReadsAt tokens (position + (Flags.words before).length)
        flag := by
  induction before generalizing position with
  | nil =>
      cases scan with
      | step within readsAt _ => exact ⟨within, readsAt⟩
  | cons first before induction =>
      cases scan with
      | step _ _ later =>
          simpa [Nat.add_assoc] using induction later

/-- Every call is read to its end.  The cursor never fails and never leaves
the words, no word is lost or read twice, and a flag with two words comes from
a row which takes its value from the next word. -/
theorem parse_covers_words (grammar : Grammar) (tokens : List String) :
    (∀ flags, grammar.Scan tokens 0 flags ↔ grammar.parse tokens = flags) ∧
      Flags.words (grammar.parse tokens) = tokens ∧
      ∀ flag ∈ grammar.parse tokens,
        (∃ token, flag.tokens = [token]) ∨
          ∃ token value, flag.tokens = [token, value] ∧
            ∃ rule ∈ grammar.rules, rule.key = token ∧ rule.arity = 1 ∧
              rule.sticky = false ∧ rule.category = flag.category := by
  have reads := grammar.reads_parse tokens
  refine ⟨fun _ => scan_iff, reads.words_eq, ?_⟩
  intro flag member
  rcases reads.single_or_pair member with
    single | ⟨token, value, pair, takesNext⟩
  · exact Or.inl single
  · exact Or.inr ⟨token, value, pair, takesNext.exists_rule⟩

theorem parse_covers_words_with_value :
    (⟨.directorySearch, ["-I", "-c"]⟩ : Flag) ∈
        gnu.parse ["--sysroot", "-I", "-c", "-dumpbase"] ∧
      gnu.Scan ["--sysroot", "-I", "-c", "-dumpbase"] 0
        [⟨.other, ["--sysroot"]⟩, ⟨.directorySearch, ["-I", "-c"]⟩,
          ⟨.other, ["-dumpbase"]⟩] ∧
      ∃ rule ∈ gnu.rules, rule.key = "-I" ∧ rule.arity = 1 ∧
        rule.sticky = false ∧ rule.category = .directorySearch := by
  obtain ⟨scan_iff_parse, _, forms⟩ :=
    gnu.parse_covers_words ["--sysroot", "-I", "-c", "-dumpbase"]
  have member : (⟨.directorySearch, ["-I", "-c"]⟩ : Flag) ∈
      gnu.parse ["--sysroot", "-I", "-c", "-dumpbase"] := by
    decide +kernel
  refine ⟨member, (scan_iff_parse _).mpr (by decide +kernel), ?_⟩
  rcases forms _ member with ⟨_, single⟩ | ⟨token, value, pair, rule⟩
  · simp at single
  · obtain ⟨rfl, -⟩ : "-I" = token ∧ "-c" = value := by simpa using pair
    exact rule

end Grammar

end CompilerCalls
