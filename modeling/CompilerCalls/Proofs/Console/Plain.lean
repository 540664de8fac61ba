import CompilerCalls.Console.Plain
import CompilerCalls.Proofs.Console.Brackets

/-!
# A plain console reads markup

The console which stands for any other in tests leaves out the tags of a text,
keeps a label in front, and shows plain words as they are, whatever width is
asked for.
-/

namespace CompilerCalls.Console

variable {word rest : List Char}

theorem withEmojiWithin_of_isPlain {text : List Char} (plain : IsPlain text)
    (steps : Nat) : withEmojiWithin steps text = text := by
  induction steps generalizing text with
  | zero => rfl
  | succ steps induction =>
      cases text with
      | nil => rfl
      | cons character rest =>
          have noCode : (if character = ':' then codeName? rest else none) =
              none := by
            split
            · rename_i colon
              cases rest with
              | nil => rfl
              | cons next later =>
                  obtain rfl := plain.noCode next
                    (colon ▸ List.IsPrefix.isInfix ⟨later, rfl⟩)
                  have space : Text.isSpace ' ' = true := by decide
                  simp [codeName?, space]
            · rfl
          rw [withEmojiWithin, noCode]
          exact congrArg _ (induction plain.tail)

namespace Markup

theorem shownPlain_of_isPlain (plain : IsPlain word) :
    shownPlain word = word := by
  rw [shownPlain, withEmoji, withEmojiWithin_of_isPlain plain,
    List.filter_eq_self]
  intro character member
  have above : ' ' ≤ character := (plain.printable character member).1
  have isAbove : 32 ≤ character.toNat := above
  have noControl : isControl character = false := by
    rw [← Bool.not_eq_true, isControl, List.contains_iff_mem]
    simp only [List.mem_cons, List.not_mem_nil, or_false]
    omega
  rw [noControl]
  rfl

theorem withPlainBrackets_of_not_mem (noBracket : '[' ∉ word) :
    withPlainBrackets word = word := by
  fun_induction withPlainBrackets word with
  | case1 => rfl
  | case2 rest induction => simp at noBracket
  | case3 character rest _ induction =>
      rw [induction fun member => noBracket (List.mem_cons_of_mem _ member)]

theorem tag?_cons_of_ne {first : Char} {rest : List Char}
    (noBracket : first ≠ '[') : tag? (first :: rest) = none := by
  unfold tag?
  split
  · simp_all
  · rfl

/-- Characters which start neither a tag nor a row of backslashes are taken as
they are. -/
theorem piecesBehind_append (plain : IsPlain word) (steps : Nat)
    (reversed rest : List Char) :
    piecesBehind (word.length + steps) reversed 0 (word ++ rest) =
      piecesBehind steps (word.reverse ++ reversed) 0 rest := by
  induction word generalizing reversed with
  | nil => simp
  | cons first word induction =>
      obtain ⟨noBracket, noBackslash⟩ := plain.noMarkup first List.mem_cons_self
      have noTag : tag? (first :: (word ++ rest)) = none :=
        tag?_cons_of_ne noBracket
      have later := induction plain.tail (first :: reversed)
      rw [List.length_cons, Nat.add_right_comm, List.cons_append, piecesBehind,
        if_neg noBackslash, noTag]
      simpa using later

theorem piecesBehind_tag {text : List Char} (isTag : IsTagText text)
    (steps : Nat) (reversed later : List Char) :
    piecesBehind (steps + 1) reversed 0 ('[' :: (text ++ ']' :: later)) =
      plainPiece reversed ++ .tag (Tag.ofText text) ::
        piecesBehind steps [] 0 later := by
  rw [piecesBehind, if_neg (by decide), tag?_of_isTagText isTag]
  simp [tagPieces]

/-- The tags before and behind a label. -/
def opening : Tag := Tag.ofText "red bold".toList

def closing : Tag := Tag.ofText "/red bold".toList

/-- The opening tag, with its style in normal form. -/
def boldRed : Tag := ⟨"bold red".toList, none⟩

theorem toList_labelled (word rest : String) :
    (labelled word ++ rest).toList =
      '[' :: ("red bold".toList ++ ']' ::
        (word.toList ++ '[' :: ("/red bold".toList ++ ']' :: rest.toList))) := by
  simp [labelled]

theorem pieces_labelled {word : String} (plain : IsPlain word.toList)
    (rest : String) :
    ∃ steps, rest.toList.length < steps ∧
      pieces (labelled word ++ rest).toList =
        .tag opening :: (plainPiece word.toList.reverse ++ .tag closing ::
          piecesBehind steps [] 0 rest.toList) := by
  have isOpening : IsTagText "red bold".toList :=
    .of_all (by decide) (by decide)
  have isClosing : IsTagText "/red bold".toList :=
    .of_all (by decide) (by decide)
  refine ⟨rest.toList.length + 20, by omega, ?_⟩
  have length : (labelled word ++ rest).toList.length + 1 =
      word.toList.length + (rest.toList.length + 20 + 1) + 1 := by
    simp [labelled]
    omega
  rw [pieces, length, toList_labelled, piecesBehind_tag isOpening,
    piecesBehind_append plain, piecesBehind_tag isClosing, List.append_nil]
  rfl

theorem pieces_of_isPlain (plain : IsPlain rest) {steps : Nat}
    (enough : rest.length < steps) :
    piecesBehind steps [] 0 rest = plainPiece rest.reverse := by
  obtain ⟨more, rfl⟩ := Nat.exists_eq_add_of_lt enough
  have nothing (steps : Nat) (reversed : List Char) :
      piecesBehind (steps + 1) reversed 0 [] = plainPiece reversed := rfl
  have taken := piecesBehind_append plain (more + 1) [] []
  rwa [List.append_nil, List.append_nil, nothing] at taken

theorem shownText_plainPiece (plain : IsPlain word) :
    shownText (plainPiece word.reverse) = word := by
  unfold plainPiece
  split
  · rename_i empty
    exact (List.reverse_eq_nil_iff.mp empty).symm
  · simp [shownText, withPlainBrackets_of_not_mem plain.noBracket,
      shownPlain_of_isPlain plain]

namespace Progress

/-- What has been shown once a label is complete. -/
def ofLabel (word : List Char) : Progress where
  reversed := word.reverse
  length := word.length
  spans := [⟨"bold red".toList, word⟩]

theorem addAll_append (progress : Progress) (pieces later : List Piece) :
    progress.addAll (pieces ++ later) =
      match progress.addAll pieces with
      | .error fault => .error fault
      | .ok progress => progress.addAll later := by
  induction pieces generalizing progress with
  | nil => rfl
  | cons piece rest induction =>
      rw [List.cons_append, addAll, addAll]
      cases progress.add piece with
      | error fault => rfl
      | ok next => exact induction next

theorem addAll_plainPiece (progress : Progress) (plain : IsPlain word) :
    progress.addAll (plainPiece word.reverse) = .ok (progress.write word) := by
  unfold plainPiece
  split
  · rename_i empty
    obtain rfl := List.reverse_eq_nil_iff.mp empty
    rfl
  · simp [addAll, add, withPlainBrackets_of_not_mem plain.noBracket,
      shownPlain_of_isPlain plain]

theorem close_label (word : List Char) :
    (write { opened := [⟨boldRed, 0⟩] } word).close ⟨boldRed, 0⟩ =
      .ok (ofLabel word) := by
  have noAction : boldRed.isAction = false := by decide
  have whole : (word.reverse.take word.length).reverse = word := by
    rw [List.take_of_length_le (Nat.le_of_eq List.length_reverse),
      List.reverse_reverse]
  simp only [close, noAction, write, spanOf, List.erase_cons_head,
    List.append_nil, Nat.zero_add, Nat.sub_zero, whole]
  rfl

/-- The closing tag finds the opening one by the normal form of its style. -/
theorem addAll_labelled (plain : IsPlain word) (later : List Piece) :
    Progress.addAll {} (.tag opening ::
        (plainPiece word.reverse ++ .tag closing :: later)) =
      (ofLabel word).addAll later := by
  have style : styleName "red bold".toList = .ok "bold red".toList := by
    decide +kernel
  let opened : Progress := { opened := [⟨boldRed, 0⟩] }
  have opens : Progress.add {} (.tag opening) = .ok opened := by
    have name : opening.name = "red bold".toList := rfl
    change Progress.openTag {} opening = _
    rw [openTag, name, style]
    rfl
  have closes : (opened.write word).add (.tag closing) = .ok (ofLabel word) := by
    have trimmed : Text.trimmed "red bold".toList = "red bold".toList := by decide
    change (opened.write word).closeNamed "red bold".toList = _
    rw [closeNamed, trimmed, if_neg (by decide), style]
    have found : (opened.write word).opened.find? (fun openTag =>
        openTag.tag.name = "bold red".toList) = some ⟨boldRed, 0⟩ :=
      List.find?_cons_of_pos (decide_eq_true rfl)
    simp only [found]
    exact close_label word
  rw [addAll, opens]
  simp only
  rw [addAll_append, addAll_plainPiece _ plain]
  simp only
  rw [addAll, closes]

end Progress

end Markup

section Lines

theorem spread_of_not_mem {text : List Char} (noLine : '\n' ∉ text)
    (noTab : '\t' ∉ text) : spread text = text := by
  simp [spread, Text.split_of_not_mem noLine, expandedLine,
    Text.split_of_not_mem noTab, joinedLines]

theorem prefix_spread {front : List Char} (noLine : '\n' ∉ front)
    (noTab : '\t' ∉ front) (behind : List Char) :
    front <+: spread (front ++ behind) := by
  have inLine (line : List Char) : front <+: expandedLine (front ++ line) := by
    obtain ⟨first, later, parts⟩ := Text.split_append_of_not_mem noTab line
    unfold expandedLine
    rw [parts]
    cases later with
    | nil => simp
    | cons next rest => simp
  obtain ⟨first, later, parts⟩ := Text.split_append_of_not_mem noLine behind
  rw [spread, parts, List.map_cons]
  refine (inLine first).trans ?_
  cases later with
  | nil => exact List.prefix_rfl
  | cons next rest => exact List.prefix_append _ _

end Lines

variable {word rest : String}

theorem messageText_labelled (plain : IsPlain word.toList)
    (plainRest : IsPlain rest.toList) :
    messageText (labelled word ++ rest) = .ok (word ++ rest) := by
  obtain ⟨steps, enough, pieces⟩ := Markup.pieces_labelled plain rest
  rw [Markup.pieces_of_isPlain plainRest enough] at pieces
  have added := Markup.Progress.addAll_labelled plain
    (Markup.plainPiece rest.toList.reverse)
  rw [Markup.Progress.addAll_plainPiece _ plainRest, ← pieces] at added
  have text : ((Markup.Progress.ofLabel word.toList).write
      rest.toList).reversed.reverse = word.toList ++ rest.toList := by
    simp [Markup.Progress.write, Markup.Progress.ofLabel]
  have readable : hasUnreadableNumber "bold red".toList = false := by
    decide +kernel
  have spans : ((Markup.Progress.ofLabel word.toList).write
      rest.toList).allSpans = [⟨"bold red".toList, word.toList⟩] := rfl
  have absent {character : Char} (below : ¬ ' ' ≤ character) :
      character ∉ word.toList ++ rest.toList := by
    rw [List.mem_append, not_or]
    exact ⟨plain.not_mem below, plainRest.not_mem below⟩
  have shown : spread (word.toList ++ rest.toList) =
      word.toList ++ rest.toList :=
    spread_of_not_mem (absent (by decide)) (absent (by decide))
  rw [messageText, messageLines, added]
  simp only [text, spans, hasUnreadableSpan, List.any_cons, List.any_nil,
    readable, Bool.and_false, Bool.or_false, Bool.false_eq_true, if_false,
    Except.map]
  rw [← spread, shown, ← String.toList_append, String.ofList_toList]

theorem prefix_of_messageText {shown : String} (plain : IsPlain word.toList)
    (shows : messageText (labelled word ++ rest) = .ok shown) :
    word.toList <+: shown.toList := by
  obtain ⟨steps, _, pieces⟩ := Markup.pieces_labelled plain rest
  have text : Markup.shownText (Markup.pieces (labelled word ++ rest).toList) =
      word.toList ++
        Markup.shownText (Markup.piecesBehind steps [] 0 rest.toList) := by
    rw [pieces, ← List.singleton_append, Markup.shownText_append,
      Markup.shownText_append, Markup.shownText_plainPiece plain]
    rfl
  rw [shown_of_messageText shows, text]
  exact prefix_spread (plain.not_mem (by decide)) (plain.not_mem (by decide)) _

/-- A plain console reads markup, and no width is too narrow for it. -/
theorem plain_readsMarkup (width : Nat) : Console.plain.ReadsMarkup width where
  tags marks shown areTags printed := by
    cases shows : messageText (String.ofList (writtenMarks marks)) with
    | error fault => simp [Console.plain, shows] at printed
    | ok text =>
        have fewer := brackets_of_messageText areTags shows
        simp only [Console.plain, shows, Except.ok.injEq] at printed
        simpa [← printed] using fewer
  front word rest shown plain _ _ printed := by
    cases shows : messageText (labelled word ++ rest) with
    | error fault => simp [Console.plain, shows] at printed
    | ok text =>
        simp only [Console.plain, shows, Except.ok.injEq] at printed
        rw [← printed, String.toList_append]
        exact (prefix_of_messageText plain shows).trans (List.prefix_append _ _)
  plain word rest plain plainRest _ := by
    rw [Console.plain, messageText_labelled plain plainRest]

end CompilerCalls.Console
