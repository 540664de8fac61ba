import CompilerCalls.Flag.Gnu
import CompilerCalls.Proofs.Flag.Follower

/-!
# How a call falls into flags

`Reads` cuts a list of words into flags without asking which rows a grammar
has: a word stands alone, takes the word behind it, or is the last word and
lacks the one it would take.  The relation describes exactly what `parse`
computes, so facts about a whole call are inductions over its flags.

Every selection of the flags of a call is read back from its own words.  Words
behind a call are read on their own unless the last flag lacks its value.
-/

namespace CompilerCalls

namespace Flags

/-- The words of flags, one flag after the other. -/
def words (flags : List Flag) : List String := flags.flatMap Flag.tokens

@[simp] theorem words_nil : words [] = [] := rfl

@[simp] theorem words_cons (flag : Flag) (flags : List Flag) :
    words (flag :: flags) = flag.tokens ++ words flags := rfl

@[simp] theorem words_append (left right : List Flag) :
    words (left ++ right) = words left ++ words right :=
  List.flatMap_append

end Flags

namespace Grammar

variable {grammar : Grammar} {token next : String} {tokens : List String}
  {flags : List Flag} {category fallback : Category}

/-- A list of words falls into flags. -/
inductive Reads (grammar : Grammar) : List String → List Flag → Prop where
  | nil : Reads grammar [] []
  | alone {token : String} {category : Category} {tokens : List String}
      {flags : List Flag} :
      grammar.StandsAlone token category →
      Reads grammar tokens flags →
      Reads grammar (token :: tokens) (⟨category, [token]⟩ :: flags)
  | pair {token next : String} {category : Category} {tokens : List String}
      {flags : List Flag} :
      grammar.TakesNext token category →
      Reads grammar tokens flags →
      Reads grammar (token :: next :: tokens)
        (⟨category, [token, next]⟩ :: flags)
  -- The value of the last flag is missing, so its word is read otherwise.
  | last {token : String} {category fallback : Category} :
      grammar.TakesNext token category →
      grammar.read token none = ⟨fallback, [token]⟩ →
      Reads grammar [token] [⟨fallback, [token]⟩]

theorem parse_cons_of_standsAlone
    (standsAlone : grammar.StandsAlone token category)
    (tokens : List String) :
    grammar.parse (token :: tokens) =
      ⟨category, [token]⟩ :: grammar.parse tokens := by
  cases tokens with
  | nil => simp [parse, standsAlone none]
  | cons next rest => simp [parse, standsAlone (some next)]

theorem parse_cons_cons_of_takesNext
    (takesNext : grammar.TakesNext token category)
    (next : String) (tokens : List String) :
    grammar.parse (token :: next :: tokens) =
      ⟨category, [token, next]⟩ :: grammar.parse tokens := by
  simp [parse, takesNext next]

theorem Reads.parse_eq (reads : Reads grammar tokens flags) :
    grammar.parse tokens = flags := by
  induction reads with
  | nil => rfl
  | alone standsAlone _ induction =>
      rw [parse_cons_of_standsAlone standsAlone, induction]
  | pair takesNext _ induction =>
      rw [parse_cons_cons_of_takesNext takesNext, induction]
  | last _ lone => simp [parse, lone]

/-- Every list of words falls into the flags which are computed for it. -/
theorem reads_parse (grammar : Grammar) (tokens : List String) :
    Reads grammar tokens (grammar.parse tokens) := by
  induction tokens using Grammar.parse.induct grammar with
  | case1 => exact .nil
  | case2 token =>
      obtain ⟨category, standsAlone | takesNext⟩ :=
        grammar.standsAlone_or_takesNext token
      · rw [parse_cons_of_standsAlone standsAlone]
        exact .alone standsAlone .nil
      · obtain ⟨fallback, lone⟩ := grammar.exists_read_none token
        rw [parse, lone]
        exact .last takesNext lone
  | case3 token next rest behindWord behindPair =>
      obtain ⟨category, standsAlone | takesNext⟩ :=
        grammar.standsAlone_or_takesNext token
      · rw [parse_cons_of_standsAlone standsAlone]
        exact .alone standsAlone behindWord
      · rw [parse_cons_cons_of_takesNext takesNext]
        exact .pair takesNext behindPair

theorem reads_iff : Reads grammar tokens flags ↔ grammar.parse tokens = flags := by
  constructor
  · exact Reads.parse_eq
  · intro equality
    rw [← equality]
    exact grammar.reads_parse tokens

/-- No word is lost, and none is read twice. -/
theorem Reads.words_eq (reads : Reads grammar tokens flags) :
    Flags.words flags = tokens := by
  induction reads with
  | nil => rfl
  | alone _ _ induction => simp [induction]
  | pair _ _ induction => simp [induction]
  | last _ _ => rfl

/-- A flag which holds more than its own word is the spelling of a row with
the value behind it. -/
theorem Reads.single_or_pair {flag : Flag}
    (reads : Reads grammar tokens flags) (member : flag ∈ flags) :
    (∃ token, flag.tokens = [token]) ∨
      ∃ token value, flag.tokens = [token, value] ∧
        grammar.TakesNext token flag.category := by
  induction reads with
  | nil => contradiction
  | @alone token _ _ _ _ _ induction =>
      rcases List.mem_cons.mp member with rfl | later
      · exact Or.inl ⟨token, rfl⟩
      · exact induction later
  | @pair token next _ _ _ takesNext _ induction =>
      rcases List.mem_cons.mp member with rfl | later
      · exact Or.inr ⟨token, next, rfl, takesNext⟩
      · exact induction later
  | @last token _ _ _ _ =>
      obtain rfl := List.mem_singleton.mp member
      exact Or.inl ⟨token, rfl⟩

theorem Reads.takesNext_of_pair {value : String}
    (reads : Reads grammar tokens flags)
    (member : ⟨category, [token, value]⟩ ∈ flags) :
    grammar.TakesNext token category := by
  rcases reads.single_or_pair member with
    ⟨_, single⟩ | ⟨word, _, pair, takesNext⟩
  · simp at single
  · obtain ⟨rfl, -⟩ : token = word ∧ _ := by simpa using pair
    exact takesNext

/-- Each flag is read at one of the words, in view of the word behind it. -/
theorem Reads.exists_read {flag : Flag}
    (reads : Reads grammar tokens flags) (member : flag ∈ flags) :
    ∃ front word rest, tokens = front ++ word :: rest ∧
      grammar.read word rest.head? = flag := by
  induction reads with
  | nil => contradiction
  | @alone word _ rest _ standsAlone _ induction =>
      rcases List.mem_cons.mp member with rfl | later
      · exact ⟨[], word, rest, rfl, standsAlone _⟩
      · obtain ⟨front, other, behind, rfl, read⟩ := induction later
        exact ⟨word :: front, other, behind, rfl, read⟩
  | @pair word next _ rest _ takesNext _ induction =>
      rcases List.mem_cons.mp member with rfl | later
      · exact ⟨[], word, next :: rest, rfl, takesNext next⟩
      · obtain ⟨front, other, behind, rfl, read⟩ := induction later
        exact ⟨word :: next :: front, other, behind, rfl, read⟩
  | @last word _ _ _ lone =>
      obtain rfl := List.mem_singleton.mp member
      exact ⟨[], word, [], rfl, lone⟩

/-- A word which stands alone makes a flag with no other word. -/
theorem Reads.eq_of_standsAlone {flag : Flag}
    (reads : Reads grammar tokens flags) (member : flag ∈ flags)
    (first : flag.tokens.head? = some token)
    (standsAlone : grammar.StandsAlone token category) :
    flag = ⟨category, [token]⟩ := by
  obtain ⟨_, word, rest, _, rfl⟩ := reads.exists_read member
  obtain rfl : word = token := by
    rcases grammar.tokens_read word rest.head? with single | ⟨_, _, pair⟩
    · simpa [single] using first
    · simpa [pair] using first
  exact standsAlone _

/-- A flag without a second word is alone or the last one, and stays so when
flags around it are left out. -/
theorem Reads.sublist {kept : List Flag} (reads : Reads grammar tokens flags)
    (sublist : kept.Sublist flags) :
    Reads grammar (Flags.words kept) kept := by
  induction reads generalizing kept with
  | nil =>
      obtain rfl := List.sublist_nil.mp sublist
      exact .nil
  | alone standsAlone _ induction =>
      cases sublist with
      | cons _ later => exact induction later
      | cons_cons _ later => exact .alone standsAlone (induction later)
  | pair takesNext _ induction =>
      cases sublist with
      | cons _ later => exact induction later
      | cons_cons _ later => exact .pair takesNext (induction later)
  | last takesNext lone =>
      cases sublist with
      | cons _ later =>
          obtain rfl := List.sublist_nil.mp later
          exact .nil
      | cons_cons _ later =>
          obtain rfl := List.sublist_nil.mp later
          exact .last takesNext lone

theorem Reads.behind {before behind : List Flag}
    (reads : Reads grammar tokens (before ++ behind)) :
    Reads grammar (Flags.words behind) behind :=
  reads.sublist (List.sublist_append_right before behind)

/-- Flags which are followed by others are read in the same way in front of
any words. -/
theorem Reads.replace_behind {before behind : List Flag}
    {others : List String}
    (reads : Reads grammar tokens (before ++ behind))
    (followed : behind ≠ []) (readsOthers : Reads grammar others flags) :
    Reads grammar (Flags.words before ++ others) (before ++ flags) := by
  induction before generalizing tokens with
  | nil => exact readsOthers
  | cons first before induction =>
      rw [List.cons_append] at reads
      generalize later : before ++ behind = rest at reads
      cases reads with
      | alone standsAlone readsRest =>
          exact .alone standsAlone (induction (later ▸ readsRest))
      | pair takesNext readsRest =>
          exact .pair takesNext (induction (later ▸ readsRest))
      | last _ _ =>
          -- Only the last flag may lack its value, and this is not the last.
          exact (followed (List.append_eq_nil_iff.mp later).2).elim

/-- A flag can give its place to another one which is read in front of any
words. -/
theorem Reads.replace_flag {before behind : List Flag} {flag : Flag}
    (reads : Reads grammar tokens (before ++ flag :: behind)) (other : Flag)
    (inFront : ∀ {words : List String} {flags : List Flag},
      Reads grammar words flags →
      Reads grammar (other.tokens ++ words) (other :: flags)) :
    Reads grammar (Flags.words before ++ (other.tokens ++ Flags.words behind))
      (before ++ other :: behind) := by
  have throughFlag : Reads grammar tokens (before ++ [flag] ++ behind) := by
    simpa using reads
  have readsBehind := throughFlag.behind
  exact reads.replace_behind (List.cons_ne_nil _ _) (inFront readsBehind)

/-- Leaving out whole flags never changes how the other words are read. -/
theorem parse_words_of_sublist (grammar : Grammar) (tokens : List String)
    {kept : List Flag} (sublist : kept.Sublist (grammar.parse tokens)) :
    grammar.parse (Flags.words kept) = kept := by
  have reads := grammar.reads_parse tokens
  exact reads_iff.mp (reads.sublist sublist)

theorem parse_words_without_output :
    List.Sublist [⟨.other, ["--sysroot"]⟩, ⟨.other, ["-dumpbase"]⟩]
        (gnu.parse ["--sysroot", "-o", "x", "-c", "-dumpbase"]) ∧
      gnu.parse ["--sysroot", "-dumpbase"] =
        [⟨.other, ["--sysroot"]⟩, ⟨.other, ["-dumpbase"]⟩] := by
  have sublist :
      List.Sublist [⟨.other, ["--sysroot"]⟩, ⟨.other, ["-dumpbase"]⟩]
        (gnu.parse ["--sysroot", "-o", "x", "-c", "-dumpbase"]) := by
    decide +kernel
  exact ⟨sublist, parse_words_of_sublist gnu _ sublist⟩

/-- A flag lacks its value: its word takes the next one, and stands without
it. -/
def LacksValue (grammar : Grammar) (flag : Flag) : Prop :=
  ∃ token category, flag.tokens = [token] ∧ grammar.TakesNext token category

theorem not_lacksValue_of_standsAlone
    (standsAlone : grammar.StandsAlone token category) :
    ¬grammar.LacksValue ⟨category, [token]⟩ := by
  rintro ⟨other, paired, single, takesNext⟩
  obtain rfl : token = other := List.singleton_inj.mp single
  exact not_standsAlone_of_takesNext takesNext standsAlone

/-- Only the last flag of a call can lack its value, and it takes the first
word behind the call. -/
theorem Reads.waiting_of_lacksValue {flag : Flag}
    (reads : Reads grammar tokens flags) (member : flag ∈ flags)
    (lacksValue : grammar.LacksValue flag) :
    ∃ before token category, flags = before ++ [flag] ∧
      grammar.TakesNext token category ∧
      grammar.read token none = flag ∧
      ∀ (next : String) (rest : List String),
        grammar.parse (tokens ++ next :: rest) =
          before ++ ⟨category, [token, next]⟩ :: grammar.parse rest := by
  induction reads with
  | nil => contradiction
  | alone standsAlone _ induction =>
      rcases List.mem_cons.mp member with rfl | later
      · exact (not_lacksValue_of_standsAlone standsAlone lacksValue).elim
      · obtain ⟨before, last, paired, rfl, takesNext, lone, behind⟩ :=
          induction later
        refine ⟨_ :: before, last, paired, rfl, takesNext, lone, ?_⟩
        intro next rest
        rw [List.cons_append, parse_cons_of_standsAlone standsAlone, behind,
          List.cons_append]
  | pair takesNext _ induction =>
      rcases List.mem_cons.mp member with rfl | later
      · obtain ⟨_, _, single, _⟩ := lacksValue
        simp at single
      · obtain ⟨before, last, paired, rfl, lastTakesNext, lone, behind⟩ :=
          induction later
        refine ⟨_ :: before, last, paired, rfl, lastTakesNext, lone, ?_⟩
        intro next rest
        rw [List.cons_append, List.cons_append,
          parse_cons_cons_of_takesNext takesNext, behind, List.cons_append]
  | @last token category _ takesNext lone =>
      obtain rfl := List.mem_singleton.mp member
      refine ⟨[], token, category, rfl, takesNext, lone, ?_⟩
      exact parse_cons_cons_of_takesNext takesNext

/-- Words behind a call change no flag of it which has what it takes. -/
theorem Reads.mem_parse_append {flag : Flag}
    (reads : Reads grammar tokens flags) (member : flag ∈ flags)
    (complete : ¬grammar.LacksValue flag) (others : List String) :
    flag ∈ grammar.parse (tokens ++ others) := by
  induction reads with
  | nil => contradiction
  | alone standsAlone _ induction =>
      rw [List.cons_append, parse_cons_of_standsAlone standsAlone]
      rcases List.mem_cons.mp member with rfl | later
      · exact List.mem_cons_self
      · exact List.mem_cons_of_mem _ (induction later)
  | pair takesNext _ induction =>
      rw [List.cons_append, List.cons_append,
        parse_cons_cons_of_takesNext takesNext]
      rcases List.mem_cons.mp member with rfl | later
      · exact List.mem_cons_self
      · exact List.mem_cons_of_mem _ (induction later)
  | last takesNext _ =>
      obtain rfl := List.mem_singleton.mp member
      exact (complete ⟨_, _, rfl, takesNext⟩).elim

/-- The flags of a call do not come back in front of further words if one of
them lacks its value. -/
theorem Reads.parse_append_ne {flag : Flag}
    (reads : Reads grammar tokens flags) (member : flag ∈ flags)
    (lacksValue : grammar.LacksValue flag) (next : String)
    (rest : List String) (behind : List Flag) :
    grammar.parse (tokens ++ next :: rest) ≠ flags ++ behind := by
  obtain ⟨before, token, category, rfl, _, lone, waiting⟩ :=
    reads.waiting_of_lacksValue member lacksValue
  obtain ⟨fallback, alone⟩ := grammar.exists_read_none token
  intro equality
  rw [waiting, List.append_assoc, List.append_cancel_left_eq,
    List.singleton_append, List.cons.injEq, ← lone, alone] at equality
  simp at equality

/-- Words behind a call are read on their own if no flag of the call lacks its
value. -/
theorem Reads.append {others : List String} {behind : List Flag}
    (reads : Reads grammar tokens flags)
    (readsBehind : Reads grammar others behind)
    (complete : ∀ flag ∈ flags, ¬grammar.LacksValue flag) :
    Reads grammar (tokens ++ others) (flags ++ behind) := by
  induction reads with
  | nil => exact readsBehind
  | alone standsAlone _ induction =>
      exact .alone standsAlone
        (induction fun flag member =>
          complete flag (List.mem_cons_of_mem _ member))
  | pair takesNext _ induction =>
      exact .pair takesNext
        (induction fun flag member =>
          complete flag (List.mem_cons_of_mem _ member))
  | last takesNext _ =>
      exact (complete _ List.mem_cons_self ⟨_, _, rfl, takesNext⟩).elim

end Grammar

end CompilerCalls
