import CompilerCalls.Text.Split
import Mathlib.Data.List.Infix

/-!
# Cuts at the leftmost separator

The places where a separator of several characters stands may overlap, so a
text can be the join of several lists of segments.  The segments of a text are
the list which comes from a cut at the leftmost place, then at the leftmost
place in what follows, until the separator stands nowhere.

No segment holds the separator, and joined they are the text.  Of all lists
which make up the text, theirs is the first one in the order which compares the
lengths of the segments, one after the other.
-/

namespace CompilerCalls.Text

/-- The separator stands in the text between `before` and `after`, and nowhere
further to the left. -/
structure StandsFirst (separator text before after : List Char) : Prop where
  text_eq : text = before ++ separator ++ after
  leftmost : ∀ earlier later, text = earlier ++ separator ++ later →
    before.length ≤ earlier.length

/-- The segments come from cuts at the leftmost separator, each one in what
follows the cut before. -/
inductive CutsLeftmost (separator : List Char) :
    List Char → List (List Char) → Prop where
  | whole {text : List Char} :
      ¬separator <:+: text → CutsLeftmost separator text [text]
  | cut {text before after : List Char} {segments : List (List Char)} :
      StandsFirst separator text before after →
      CutsLeftmost separator after segments →
      CutsLeftmost separator text (before :: segments)

variable {separator text before after : List Char}
  {segments parts : List (List Char)}

/-! ## Where a separator stands first -/

theorem exists_standsFirst (present : separator <:+: text) :
    ∃ before after, StandsFirst separator text before after := by
  induction text with
  | nil =>
      obtain rfl := List.infix_nil.mp present
      exact ⟨[], [], rfl, fun _ _ _ => Nat.zero_le _⟩
  | cons character rest induction =>
      by_cases starts : separator <+: character :: rest
      · obtain ⟨after, equality⟩ := starts
        exact ⟨[], after, equality.symm, fun _ _ _ => Nat.zero_le _⟩
      · have later := (List.infix_cons_iff.mp present).resolve_left starts
        obtain ⟨before, after, first⟩ := induction later
        refine ⟨character :: before, after, ?_, ?_⟩
        · rw [first.text_eq]
          rfl
        · intro earlier behind place
          cases earlier with
          | nil => exact absurd ⟨behind, place.symm⟩ starts
          | cons _ earlier =>
              have shorter := first.leftmost _ _ (List.cons.inj place).2
              exact Nat.succ_le_succ shorter

namespace StandsFirst

variable (first : StandsFirst separator text before after)
include first

theorem length_before_lt (separates : separator ≠ []) :
    before.length < text.length := by
  have := List.length_pos_of_ne_nil separates
  rw [first.text_eq, List.length_append, List.length_append]
  omega

theorem length_after_lt (separates : separator ≠ []) :
    after.length < text.length := by
  have := List.length_pos_of_ne_nil separates
  rw [first.text_eq, List.length_append, List.length_append]
  omega

/-- A separator in front of the first one would stand further to the left. -/
theorem not_infix_before (separates : separator ≠ []) :
    ¬separator <:+: before := by
  rintro ⟨earlier, later, rfl⟩
  have place : text = earlier ++ separator ++ (later ++ separator ++ after) :=
    by simpa using first.text_eq
  have left := first.leftmost _ _ place
  have := List.length_pos_of_ne_nil separates
  rw [List.length_append, List.length_append] at left
  omega

end StandsFirst

/-! ## The segments of a text -/

/-- Characters which are passed over are dropped. -/
theorem cut_eq_cut_drop (separator : List Char) (pending : Nat)
    (text : List Char) :
    cut separator pending text = cut separator 0 (text.drop pending) := by
  induction text generalizing pending with
  | nil => simp [cut]
  | cons character rest induction =>
      cases pending with
      | zero => rfl
      | succ pending => rw [cut, induction, List.drop_succ_cons]

theorem split_append_of_separator (separates : separator ≠ [])
    (after : List Char) :
    split separator (separator ++ after) = [] :: split separator after := by
  obtain ⟨character, rest, rfl⟩ := List.exists_cons_of_ne_nil separates
  simp [split, cut, cut_eq_cut_drop _ rest.length]

theorem split_cons_of_not_starts {character : Char} {rest head : List Char}
    {later : List (List Char)} (absent : ¬separator <+: character :: rest)
    (segments : split separator rest = head :: later) :
    split separator (character :: rest) = (character :: head) :: later := by
  rw [← List.isPrefixOf_iff_prefix] at absent
  simp only [split, List.cons.injEq] at segments ⊢
  simp [cut, absent, segments]

theorem split_of_absent (absent : ¬separator <:+: text) :
    split separator text = [text] := by
  induction text with
  | nil => rfl
  | cons character rest induction =>
      obtain ⟨notHere, notLater⟩ :=
        not_or.mp (mt List.infix_cons_iff.mpr absent)
      exact split_cons_of_not_starts notHere (induction notLater)

theorem StandsFirst.split_eq (first : StandsFirst separator text before after)
    (separates : separator ≠ []) :
    split separator text = before :: split separator after := by
  induction before generalizing text with
  | nil =>
      rw [first.text_eq]
      exact split_append_of_separator separates after
  | cons character before induction =>
      obtain ⟨equality, leftmost⟩ := first
      subst equality
      refine split_cons_of_not_starts ?_ (induction ⟨rfl, ?_⟩)
      · rintro ⟨later, place⟩
        exact absurd (leftmost [] later place.symm) (Nat.not_succ_le_zero _)
      · intro earlier later place
        have shorter := leftmost (character :: earlier) later
          (congrArg (character :: ·) place)
        exact Nat.le_of_succ_le_succ shorter

/-- Each cut leaves a shorter text. -/
theorem cutsLeftmost_split (separates : separator ≠ []) (text : List Char) :
    CutsLeftmost separator text (split separator text) := by
  by_cases present : separator <:+: text
  · obtain ⟨before, after, first⟩ := exists_standsFirst present
    have shorter := first.length_after_lt separates
    rw [first.split_eq separates]
    exact .cut first (cutsLeftmost_split separates after)
  · rw [split_of_absent present]
    exact .whole present
termination_by text.length

theorem split_eq_iff (separates : separator ≠ []) :
    split separator text = segments ↔ CutsLeftmost separator text segments := by
  constructor
  · rintro rfl
    exact cutsLeftmost_split separates text
  · intro cuts
    induction cuts with
    | whole absent => exact split_of_absent absent
    | cut first _ induction => rw [first.split_eq separates, induction]

/-! ## What the segments are to the text -/

namespace CutsLeftmost

variable (cuts : CutsLeftmost separator text segments)
include cuts

theorem ne_nil : segments ≠ [] := by
  cases cuts <;> exact List.cons_ne_nil _ _

theorem intercalate_eq : separator.intercalate segments = text := by
  induction cuts with
  | whole => exact List.intercalate_singleton
  | cut first later induction =>
      rw [List.intercalate_cons_of_ne_nil later.ne_nil, induction,
        first.text_eq]

theorem not_infix_of_mem (separates : separator ≠ []) :
    ∀ segment ∈ segments, ¬separator <:+: segment := by
  induction cuts with
  | whole absent => simpa using absent
  | cut first _ induction =>
      exact List.forall_mem_cons.mpr
        ⟨first.not_infix_before separates, induction⟩

/-- Other parts of the text cut it further to the right, at the first place
where they differ. -/
theorem lengths_lt (separates : separator ≠ []) (nonempty : parts ≠ [])
    (joined : separator.intercalate parts = text)
    (different : parts ≠ segments) :
    segments.map List.length < parts.map List.length := by
  induction cuts generalizing parts with
  | @whole text absent =>
      match parts with
      | [part] =>
          rw [List.intercalate_singleton] at joined
          exact absurd (congrArg (fun part => [part]) joined) different
      | part :: next :: parts =>
          rw [List.intercalate_cons_cons] at joined
          exact absurd ⟨_, _, joined⟩ absent
  | @cut text before after segments first cuts induction =>
      match parts with
      | [part] =>
          rw [List.intercalate_singleton] at joined
          subst joined
          have longer := first.length_before_lt separates
          exact List.cons_lt_cons_iff.mpr (Or.inl longer)
      | part :: next :: parts =>
          rw [List.intercalate_cons_cons] at joined
          apply List.cons_lt_cons_iff.mpr
          rcases Nat.lt_or_eq_of_le (first.leftmost _ _ joined.symm) with
            longer | same
          · exact Or.inl longer
          · -- Both cut at the same place, so they differ in what follows.
            rw [first.text_eq, List.append_assoc, List.append_assoc] at joined
            obtain ⟨rfl, behind⟩ := List.append_inj joined same.symm
            have rest := induction (List.cons_ne_nil next parts)
              (List.append_cancel_left behind)
              (fun equality => different (congrArg (part :: ·) equality))
            exact Or.inr ⟨rfl, rest⟩

end CutsLeftmost

end CompilerCalls.Text
