import CompilerCalls.Proofs.Console.Pictures
import CompilerCalls.Proofs.Text.Split
import Mathlib.Data.List.TakeWhile

/-!
# Tags which are left out

Every step of a plain console from a text to what is shown of it keeps the
number of opening brackets or makes it smaller.  The bracket of a tag does not
come back.
-/

namespace CompilerCalls.Console

section Codes

theorem eq_of_codeName? {text name later : List Char}
    (named : codeName? text = some (name, later)) :
    text = name ++ ':' :: later := by
  unfold codeName? at named
  simp only at named
  split at named
  · rename_i behind
    cases named
    rw [← behind, List.takeWhile_append_dropWhile]
  · cases named

theorem brackets_splitForm (name : List Char) :
    brackets (splitForm name).2 = 0 := by
  unfold splitForm
  split
  · rfl
  · split <;> rfl

theorem brackets_shownCode_le (name : List Char) :
    brackets (shownCode name) ≤ brackets name := by
  unfold shownCode
  simp only
  split
  · rename_i picture named
    rw [brackets_append, brackets_of_emoji? named, brackets_splitForm]
    exact Nat.zero_le _
  · simp

theorem brackets_withEmojiWithin_le (steps : Nat) (text : List Char) :
    brackets (withEmojiWithin steps text) ≤ brackets text := by
  induction steps generalizing text with
  | zero => exact Nat.le_refl _
  | succ steps induction =>
      cases text with
      | nil => exact Nat.le_refl _
      | cons character rest =>
          rw [withEmojiWithin]
          split
          · rename_i name later coded
            split at coded
            · have code := brackets_shownCode_le name
              have behind := induction later
              rw [eq_of_codeName? coded]
              simp only [brackets_append, brackets_cons]
              omega
            · cases coded
          · have behind := induction rest
            simp only [brackets_cons]
            omega

end Codes

namespace Markup

theorem brackets_shownPlain_le (text : List Char) :
    brackets (shownPlain text) ≤ brackets text :=
  Nat.le_trans (List.filter_sublist.count_le '[')
    (brackets_withEmojiWithin_le _ text)

theorem brackets_withPlainBrackets (text : List Char) :
    brackets (withPlainBrackets text) = brackets text := by
  fun_induction withPlainBrackets text with
  | case1 => rfl
  | case2 rest induction => simp [induction]
  | case3 character rest _ induction => simp [induction]

/-- The text of some pieces, without the tags among them. -/
def shownText (pieces : List Piece) : List Char :=
  pieces.flatMap fun
    | .plain text => shownPlain text
    | .tag _ => []

theorem shownText_append (pieces others : List Piece) :
    shownText (pieces ++ others) = shownText pieces ++ shownText others :=
  List.flatMap_append

theorem brackets_plainPiece_le (reversed : List Char) :
    brackets (shownText (plainPiece reversed)) ≤ brackets reversed := by
  unfold plainPiece
  split
  · exact Nat.zero_le _
  · have shown := brackets_shownPlain_le (withPlainBrackets reversed.reverse)
    rw [brackets_withPlainBrackets] at shown
    simpa [shownText, brackets] using shown

/-- A tag goes, or its bracket is a part of the text. -/
theorem brackets_tagPieces_le (backslashes : Nat) {text : List Char}
    (noBracket : '[' ∉ text) :
    brackets (shownText (tagPieces backslashes text)) ≤ 1 := by
  have kept : brackets (shownText
      (if List.replicate (backslashes / 2) '\\' = [] then []
        else [.plain (List.replicate (backslashes / 2) '\\')])) = 0 := by
    split
    · rfl
    · have less := brackets_shownPlain_le (List.replicate (backslashes / 2) '\\')
      have none : brackets (List.replicate (backslashes / 2) '\\') = 0 :=
        brackets_eq_zero (by simp)
      simpa [shownText, none] using less
  unfold tagPieces
  simp only
  rw [shownText_append, brackets_append, kept]
  split
  · exact Nat.zero_le _
  · have less := brackets_shownPlain_le ('[' :: text ++ [']'])
    simpa [shownText, brackets_eq_zero noBracket] using less

theorem eq_of_tag? {whole text later : List Char}
    (found : tag? whole = some (text, later)) :
    whole = '[' :: (text ++ ']' :: later) ∧ '[' ∉ text := by
  unfold tag? at found
  split at found
  · rename_i first rest
    split at found
    · rename_i starts
      split at found
      · rename_i behind
        cases found
        constructor
        · rw [List.cons_append, ← behind, List.takeWhile_append_dropWhile]
        · intro member
          rcases List.mem_cons.mp member with rfl | inside
          · exact absurd starts (by decide)
          · have isInside := List.mem_takeWhile_imp inside
            exact absurd isInside (by decide)
      · cases found
    · cases found
  · cases found

/-- What is marked as a tag is read as one. -/
theorem tag?_of_isTagText {text : List Char} (isTag : IsTagText text)
    (later : List Char) :
    tag? ('[' :: (text ++ ']' :: later)) = some (text, later) := by
  obtain ⟨first, rest, rfl, starts, inside⟩ := isTag
  have closing : isInside ']' = false := by decide
  have taken : (rest ++ ']' :: later).takeWhile isInside = rest := by
    rw [List.takeWhile_append_of_pos inside]
    simp [closing]
  have dropped : (rest ++ ']' :: later).dropWhile isInside = ']' :: later := by
    rw [List.dropWhile_append_of_pos inside]
    simp [closing]
  simp [tag?, starts, taken, dropped]

end Markup

section Marks

variable {marks : List Mark}

/-- A front without brackets is no part of a tag. -/
theorem exists_marks_of_written {front behind : List Char} {last : Char}
    {isBehindBackslash : Bool} (noBracket : '[' ∉ front ++ [last])
    (noBackslash : last ≠ '\\') (areTags : AreTags isBehindBackslash marks)
    (written : writtenMarks marks = front ++ last :: behind) :
    ∃ later, writtenMarks later = behind ∧ AreTags false later ∧
      looseBrackets later = looseBrackets marks := by
  induction front generalizing marks isBehindBackslash with
  | nil =>
      cases marks with
      | nil => cases written
      | cons mark later =>
          rw [writtenMarks_cons] at written
          cases mark with
          | sign character =>
              cases written
              refine ⟨later, rfl, ?_, ?_⟩
              · simpa [AreTags, noBackslash] using areTags
              · have other : last ≠ '[' := fun same => by
                  simp [same] at noBracket
                simp [looseBrackets_sign, other]
          | tag text =>
              cases written
              simp at noBracket
  | cons first front induction =>
      cases marks with
      | nil => cases written
      | cons mark later =>
          rw [writtenMarks_cons] at written
          cases mark with
          | sign character =>
              obtain ⟨rfl, same⟩ := List.cons.inj written
              have other : character ≠ '[' := fun same => by
                simp [same] at noBracket
              have noBracketLater : '[' ∉ front ++ [last] := fun member =>
                noBracket (List.mem_cons_of_mem _ member)
              have areTagsLater : AreTags (character = '\\') later := areTags
              obtain ⟨rest, isRest, areTagsRest, count⟩ :=
                induction noBracketLater areTagsLater same
              exact ⟨rest, isRest, areTagsRest,
                by simp [count, looseBrackets_sign, other]⟩
          | tag text =>
              obtain ⟨rfl, _⟩ := List.cons.inj written
              simp at noBracket

end Marks

namespace Markup

/-- The brackets behind a text without tags and a number of backslashes. -/
theorem brackets_piecesBehind_le {steps : Nat} (reversed : List Char)
    (backslashes : Nat) {marks : List Mark}
    (enough : (writtenMarks marks).length < steps)
    (areTags : AreTags (0 < backslashes) marks) :
    brackets (shownText
        (piecesBehind steps reversed backslashes (writtenMarks marks))) ≤
      brackets reversed + looseBrackets marks := by
  have noBackslash (count : Nat) :
      brackets (List.replicate count '\\') = 0 := brackets_eq_zero (by simp)
  induction steps generalizing reversed backslashes marks with
  | zero => exact absurd enough (Nat.not_lt_zero _)
  | succ steps induction =>
      cases marks with
      | nil =>
          have less := brackets_plainPiece_le
            (List.replicate backslashes '\\' ++ reversed)
          rw [brackets_append, noBackslash, Nat.zero_add] at less
          exact Nat.le_trans less (Nat.le_add_right _ _)
      | cons mark rest =>
          rw [writtenMarks_cons] at enough ⊢
          cases mark with
          | tag text =>
              obtain ⟨noneBefore, isTag, later⟩ := areTags
              obtain rfl : backslashes = 0 := by simpa using noneBefore
              have shorter : (writtenMarks rest).length < steps := by
                simp only [Mark.written, List.length_append,
                  List.length_cons] at enough
                omega
              have before := brackets_plainPiece_le reversed
              have behind := induction [] 0 shorter later
              have gone : brackets (shownText (tagPieces 0 text)) = 0 := rfl
              have parts : Mark.written (.tag text) ++ writtenMarks rest =
                  '[' :: (text ++ ']' :: writtenMarks rest) := by
                simp [Mark.written]
              rw [parts, piecesBehind, if_neg (by decide),
                tag?_of_isTagText isTag, looseBrackets_tag]
              simp only [shownText_append, brackets_append, gone,
                brackets_nil] at behind ⊢
              omega
          | sign character =>
              have parts : Mark.written (.sign character) ++ writtenMarks rest =
                  character :: writtenMarks rest := rfl
              rw [parts, List.length_cons] at enough
              have shorter := Nat.lt_of_succ_lt_succ enough
              rw [parts, piecesBehind, looseBrackets_sign]
              by_cases isBackslash : character = '\\'
              · have behind := induction reversed (backslashes + 1) shorter
                  (by simpa [AreTags, isBackslash] using areTags)
                rw [if_pos isBackslash]
                omega
              rw [if_neg isBackslash]
              cases found : tag? (character :: writtenMarks rest) with
              | none =>
                  have behind := induction
                    (character :: List.replicate backslashes '\\' ++ reversed) 0
                    shorter (by simpa [AreTags, isBackslash] using areTags)
                  simp only [brackets_append, brackets_cons,
                    List.cons_append, noBackslash] at behind ⊢
                  omega
              | some found' =>
                  obtain ⟨text, later⟩ := found'
                  obtain ⟨whole, noBracket⟩ := eq_of_tag? found
                  obtain ⟨rfl, behindBracket⟩ := List.cons.inj whole
                  have areTagsRest : AreTags ('[' = '\\') rest := areTags
                  obtain ⟨marks, rfl, areTagsLater, count⟩ :=
                    exists_marks_of_written (by simp [noBracket]) (by decide)
                      areTagsRest behindBracket
                  have shorterStill : (writtenMarks marks).length < steps := by
                    rw [behindBracket, List.length_append,
                      List.length_cons] at shorter
                    omega
                  have before := brackets_plainPiece_le reversed
                  have tag := brackets_tagPieces_le backslashes noBracket
                  have behind := induction [] 0 shorterStill areTagsLater
                  simp only [shownText_append, brackets_append, brackets_nil,
                    if_true] at behind ⊢
                  omega

namespace Progress

variable {progress ended : Progress}

theorem reversed_of_close {closed : OpenTag}
    (ends : progress.close closed = .ok ended) :
    ended.reversed = progress.reversed := by
  unfold close at ends
  split at ends
  · split at ends
    · cases ends
      rfl
    · cases ends
  · cases ends
    rfl

theorem reversed_of_closeNamed {name : List Char}
    (ends : progress.closeNamed name = .ok ended) :
    ended.reversed = progress.reversed := by
  unfold closeNamed at ends
  by_cases innermost : Text.trimmed name = []
  · simp only [innermost, if_true] at ends
    split at ends
    · cases ends
    · exact reversed_of_close ends
  · simp only [innermost, if_false] at ends
    split at ends
    · cases ends
    · split at ends
      · cases ends
      · exact reversed_of_close ends

theorem shown_of_add {piece : Piece} (added : progress.add piece = .ok ended) :
    ended.reversed.reverse =
      progress.reversed.reverse ++ shownText [piece] := by
  unfold add at added
  split at added
  · cases added
    simp [write, shownText]
  · rename_i tag
    have nothing : shownText [.tag tag] = [] := rfl
    rw [nothing, List.append_nil]
    split at added
    · rw [reversed_of_closeNamed added]
    · unfold openTag at added
      split at added
      · cases added
      · cases added
        rfl

/-- What is shown is the text of the pieces. -/
theorem shown_of_addAll {pieces : List Piece}
    (added : progress.addAll pieces = .ok ended) :
    ended.reversed.reverse =
      progress.reversed.reverse ++ shownText pieces := by
  induction pieces generalizing progress with
  | nil =>
      cases added
      exact (List.append_nil _).symm
  | cons piece rest induction =>
      rw [addAll] at added
      cases first : progress.add piece with
      | error fault => simp [first] at added
      | ok next =>
          rw [first] at added
          rw [induction added, shown_of_add first, List.append_assoc,
            ← shownText_append, List.singleton_append]

end Progress

end Markup

section Lines

variable {text : List Char}

/-- The lines of a text as they are shown, joined again. -/
def spread (text : List Char) : List Char :=
  joinedLines ((Text.split ['\n'] text).map expandedLine)

theorem brackets_joinedLines (lines : List (List Char)) :
    brackets (joinedLines lines) = brackets lines.flatten := by
  fun_induction joinedLines lines with
  | case1 => rfl
  | case2 line => simp
  | case3 line next rest induction =>
      rw [brackets_append, brackets_cons, induction,
        List.flatten_cons (l := line), brackets_append]
      rfl

/-- Spaces come in place of tabs. -/
theorem brackets_expandedLine (line : List Char) :
    brackets (expandedLine line) = brackets (line.filter (· != '\t')) := by
  have parts (change : List Char → List Char)
      (same : ∀ part, brackets (change part) = brackets part)
      (parts : List (List Char)) :
      brackets (parts.dropLast.flatMap change ++ parts.getLast?.getD []) =
        brackets parts.flatten := by
    induction parts with
    | nil => rfl
    | cons part rest induction =>
        cases rest with
        | nil => simp
        | cons next later =>
            simp only [List.dropLast_cons_cons, List.flatMap_cons,
              List.append_assoc, List.getLast?_cons_cons, List.flatten_cons,
              brackets_append] at induction ⊢
            rw [same]
            omega
  rw [← Text.flatten_split]
  apply parts
  intro part
  have spaces (count : Nat) : brackets (List.replicate count ' ') = 0 :=
    brackets_eq_zero (by simp)
  simp [spaces]

theorem brackets_spread_le (text : List Char) :
    brackets (spread text) ≤ brackets text := by
  have expanded (lines : List (List Char)) :
      brackets (lines.map expandedLine).flatten ≤ brackets lines.flatten := by
    induction lines with
    | nil => exact Nat.le_refl _
    | cons line rest induction =>
        have here : brackets (expandedLine line) ≤ brackets line := by
          rw [brackets_expandedLine]
          exact List.filter_sublist.count_le '['
        simp only [List.map_cons, List.flatten_cons, brackets_append]
        omega
  rw [spread, brackets_joinedLines]
  refine Nat.le_trans (expanded _) ?_
  rw [Text.flatten_split]
  exact List.filter_sublist.count_le '['

end Lines

theorem shown_of_messageText {message shown : String}
    (shows : messageText message = .ok shown) :
    shown.toList = spread (Markup.shownText (Markup.pieces message.toList)) := by
  unfold messageText messageLines at shows
  split at shows
  · cases shows
  · rename_i progress added
    have text := Markup.Progress.shown_of_addAll added
    simp only at shows
    split at shows
    · cases shows
    · cases shows
      simp only [List.reverse_nil, List.nil_append] at text
      rw [String.toList_ofList, spread, text]

/-- The brackets which are shown belong to no tag. -/
theorem brackets_of_messageText {marks : List Mark} {shown : String}
    (areTags : AreTags false marks)
    (shows : messageText (String.ofList (writtenMarks marks)) = .ok shown) :
    brackets shown.toList ≤ looseBrackets marks := by
  have counted := Markup.brackets_piecesBehind_le [] 0
    (Nat.lt_succ_self (writtenMarks marks).length) areTags
  rw [shown_of_messageText shows, String.toList_ofList]
  refine Nat.le_trans (brackets_spread_le _) ?_
  simpa [Markup.pieces] using counted

end CompilerCalls.Console
