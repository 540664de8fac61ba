import CompilerCalls.Proofs.Text.Leftmost

/-!
# Cutting undoes joining

Texts which do not hold a separator of one character come back when they are
joined with it and the result is cut again.  The places of such a separator
cannot overlap, so every one of them is a cut.
-/

namespace CompilerCalls.Text

variable {character : Char} {segment : List Char}

theorem split_self_cons (character : Char) (rest : List Char) :
    split [character] (character :: rest) =
      [] :: split [character] rest :=
  split_append_of_separator (List.cons_ne_nil character []) rest

/-- A separator of one character cuts in the way of the standard library. -/
theorem split_singleton (character : Char) (text : List Char) :
    split [character] text = text.splitOn character := by
  induction text with
  | nil => rfl
  | cons first rest induction =>
      rw [List.splitOn_cons_eq_if_modifyHead, ← induction]
      by_cases same : character = first
      · simp [split, cut, same]
      · simp [split, cut, same, Ne.symm same]

theorem split_cons_of_ne {first : Char} {rest head : List Char}
    {later : List (List Char)} (different : character ≠ first)
    (segments : split [character] rest = head :: later) :
    split [character] (first :: rest) = (first :: head) :: later :=
  split_cons_of_not_starts
    (fun starts => different (List.cons_prefix_cons.mp starts).1) segments

/-- A text has one segment more than it has separators. -/
theorem length_split (character : Char) (text : List Char) :
    (split [character] text).length = text.count character + 1 := by
  induction text with
  | nil => rfl
  | cons first rest induction =>
      by_cases same : first = character
      · rw [same, split_self_cons, List.length_cons, induction,
          List.count_cons_self]
      · obtain ⟨head, later, segments⟩ :=
          List.exists_cons_of_ne_nil (split_ne_nil [character] rest)
        rw [split_cons_of_ne (Ne.symm same) segments,
          List.count_cons_of_ne same, ← induction, segments]
        rfl

/-- The segments hold everything but the separators. -/
theorem flatten_split (character : Char) (text : List Char) :
    (split [character] text).flatten = text.filter (· != character) := by
  induction text with
  | nil => rfl
  | cons first rest induction =>
      by_cases same : first = character
      · rw [same, split_self_cons, List.flatten_cons, induction,
          List.filter_cons_of_neg (by simp), List.nil_append]
      · obtain ⟨head, later, segments⟩ :=
          List.exists_cons_of_ne_nil (split_ne_nil [character] rest)
        rw [split_cons_of_ne (Ne.symm same) segments,
          List.filter_cons_of_pos (by simpa using same), ← induction, segments]
        rfl

theorem split_of_not_mem (absent : character ∉ segment) :
    split [character] segment = [segment] :=
  split_of_absent (mt (List.singleton_infix_iff character segment).mp absent)

/-- A separator of one character cuts whatever stands before and behind it. -/
theorem split_append_cons (character : Char) (before after : List Char) :
    split [character] (before ++ character :: after) =
      split [character] before ++ split [character] after := by
  simp only [split_singleton, List.splitOn_append_cons_self]

theorem split_append_self_cons (absent : character ∉ segment)
    (rest : List Char) :
    split [character] (segment ++ character :: rest) =
      segment :: split [character] rest := by
  rw [split_append_cons, split_of_not_mem absent, List.singleton_append]

/-- A text with a last segment is that segment, or the earlier segments stand
before it and a separator. -/
theorem splitOn_eq_concat_iff {text last : List Char}
    {segments : List (List Char)} :
    text.splitOn character = segments ++ [last] ↔
      character ∉ last ∧ (segments = [] ∧ text = last ∨
        ∃ front, text = front ++ character :: last ∧
          front.splitOn character = segments) := by
  constructor
  · intro cuts
    by_cases present : character ∈ text
    · -- The last segment stands behind the last separator.
      obtain ⟨behind, front, reversed, absent⟩ :=
        List.eq_append_cons_of_mem (List.mem_reverse.mpr present)
      have parts : text = front.reverse ++ character :: behind.reverse := by
        simpa using congrArg List.reverse reversed
      have absentBehind : character ∉ behind.reverse := by simpa using absent
      rw [parts, List.splitOn_append_cons_self,
        List.splitOn_eq_singleton absentBehind] at cuts
      obtain ⟨rfl, same⟩ := List.append_inj' cuts rfl
      obtain rfl := List.singleton_inj.mp same
      exact ⟨absentBehind, Or.inr ⟨_, parts, rfl⟩⟩
    · rw [List.splitOn_eq_singleton present, ← List.nil_append [text]] at cuts
      obtain ⟨rfl, same⟩ := List.append_inj' cuts rfl
      obtain rfl := List.singleton_inj.mp same
      exact ⟨present, Or.inl ⟨rfl, rfl⟩⟩
  · rintro ⟨absent, ⟨rfl, rfl⟩ | ⟨front, rfl, rfl⟩⟩
    · exact List.splitOn_eq_singleton absent
    · rw [List.splitOn_append_cons_self, List.splitOn_eq_singleton absent]

/-- What holds no separator stands in front of the first segment. -/
theorem split_append_of_not_mem (absent : character ∉ segment)
    (text : List Char) :
    ∃ first later, split [character] (segment ++ text) =
      (segment ++ first) :: later := by
  induction segment with
  | nil => exact ⟨_, _, rfl⟩
  | cons front segment induction =>
      obtain ⟨different, absentLater⟩ :=
        not_or.mp (mt List.mem_cons.mpr absent)
      obtain ⟨first, later, equality⟩ := induction absentLater
      exact ⟨first, later, split_cons_of_ne different equality⟩

theorem toList_join (separator : String) (names : List String) :
    (join separator names).toList =
      separator.toList.intercalate (names.map String.toList) := by
  induction names with
  | nil => rfl
  | cons name rest induction =>
      cases rest with
      | nil => simp
      | cons next later =>
          simp [String.toList_append, induction, List.append_assoc]

theorem not_mem_join {separator : String} {names : List String}
    (notBetween : character ∉ separator.toList)
    (absent : ∀ name ∈ names, character ∉ name.toList) :
    character ∉ (join separator names).toList := by
  induction names with
  | nil => simp
  | cons name rest induction =>
      rw [List.forall_mem_cons] at absent
      cases rest with
      | nil => exact absent.1
      | cons next later =>
          simpa [String.toList_append, notBetween, absent.1] using
            induction absent.2

/-- Joined segments come back, if there are any. -/
theorem segments_join {separator : String} {names : List String}
    (single : separator.toList = [character]) (nonempty : names ≠ [])
    (absent : ∀ name ∈ names, character ∉ name.toList) :
    segments separator (join separator names) = names := by
  unfold segments
  rw [single]
  induction names with
  | nil => contradiction
  | cons name rest induction =>
      have nameAbsent := absent name List.mem_cons_self
      cases rest with
      | nil => simp [split_of_not_mem nameAbsent]
      | cons next rest =>
          have later := induction (List.cons_ne_nil next rest)
            fun other member => absent other (List.mem_cons_of_mem name member)
          rw [join_cons_cons, String.toList_append, String.toList_append,
            single, List.append_assoc, List.singleton_append,
            split_append_self_cons nameAbsent, List.map_cons, later,
            String.ofList_toList]

end CompilerCalls.Text
