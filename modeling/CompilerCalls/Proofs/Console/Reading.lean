import CompilerCalls.Console.Print

/-!
# How consoles read their markup

What a console shows depends on its stream.  Of one without colours and of a
width this much is said here: tags are left out and no bracket is put in, a
styled word in front of a line stays in front, and plain words which fit in a
line are shown as they are.
-/

namespace CompilerCalls.Console

/-- A part of a marked text: a character, or a tag by what stands in its
brackets. -/
inductive Mark where
  | sign (character : Char)
  | tag (text : List Char)
  deriving DecidableEq

namespace Mark

def written : Mark → List Char
  | .sign character => [character]
  | .tag text => '[' :: text ++ [']']

/-- A text in which no tag is marked. -/
def ofText (text : String) : List Mark := text.toList.map .sign

end Mark

/-- This can stand in the brackets of a tag. -/
def IsTagText (text : List Char) : Prop :=
  ∃ first rest, text = first :: rest ∧ Markup.startsTag first = true ∧
    ∀ character ∈ rest, Markup.isInside character = true

theorem IsTagText.of_all {first : Char} {rest : List Char}
    (starts : Markup.startsTag first = true)
    (inside : rest.all Markup.isInside = true) : IsTagText (first :: rest) :=
  ⟨first, rest, rfl, starts, List.all_eq_true.mp inside⟩

/-- What is marked as tags can be read so: a backslash before a bracket would
keep it. -/
def AreTags (isBehindBackslash : Bool) : List Mark → Prop
  | [] => True
  | .sign character :: rest => AreTags (character = '\\') rest
  | .tag text :: rest =>
      isBehindBackslash = false ∧ IsTagText text ∧ AreTags false rest

def writtenMarks (marks : List Mark) : List Char := marks.flatMap Mark.written

@[simp] theorem writtenMarks_cons (mark : Mark) (marks : List Mark) :
    writtenMarks (mark :: marks) = mark.written ++ writtenMarks marks :=
  List.flatMap_cons

@[simp] theorem writtenMarks_append (marks others : List Mark) :
    writtenMarks (marks ++ others) = writtenMarks marks ++ writtenMarks others :=
  List.flatMap_append

@[simp] theorem writtenMarks_ofText (text : String) :
    writtenMarks (Mark.ofText text) = text.toList := by
  simp [writtenMarks, Mark.ofText, List.flatMap_map, Mark.written]

def brackets (text : List Char) : Nat := text.count '['

@[simp] theorem brackets_nil : brackets [] = 0 := rfl

@[simp] theorem brackets_cons (character : Char) (text : List Char) :
    brackets (character :: text) =
      brackets text + if character = '[' then 1 else 0 := by
  simp [brackets, List.count_cons]

@[simp] theorem brackets_append (front behind : List Char) :
    brackets (front ++ behind) = brackets front + brackets behind :=
  List.count_append

theorem brackets_eq_zero {text : List Char} (absent : '[' ∉ text) :
    brackets text = 0 :=
  List.count_eq_zero.mpr absent

/-- The opening brackets of a marked text which belong to no tag. -/
def looseBrackets (marks : List Mark) : Nat := marks.count (.sign '[')

@[simp] theorem looseBrackets_sign (character : Char) (marks : List Mark) :
    looseBrackets (.sign character :: marks) =
      looseBrackets marks + if character = '[' then 1 else 0 := by
  simp [looseBrackets, List.count_cons]

@[simp] theorem looseBrackets_tag (text : List Char) (marks : List Mark) :
    looseBrackets (.tag text :: marks) = looseBrackets marks := by
  simp [looseBrackets]

@[simp] theorem looseBrackets_append (marks others : List Mark) :
    looseBrackets (marks ++ others) =
      looseBrackets marks + looseBrackets others :=
  List.count_append

@[simp] theorem looseBrackets_ofText (text : String) :
    looseBrackets (Mark.ofText text) = brackets text.toList := by
  unfold Mark.ofText
  induction text.toList with
  | nil => rfl
  | cons character rest induction => simp [induction]

/-- Behind a text, its last character counts. -/
theorem areTags_ofText_append (text : String) (isBehindBackslash : Bool)
    (marks : List Mark) :
    AreTags isBehindBackslash (Mark.ofText text ++ marks) ↔
      AreTags (text.toList.getLast?.elim isBehindBackslash (· = '\\')) marks := by
  unfold Mark.ofText
  induction text.toList generalizing isBehindBackslash with
  | nil => rfl
  | cons character rest induction =>
      rw [List.map_cons, List.cons_append, AreTags, induction,
        List.getLast?_cons]
      cases rest.getLast? <;> rfl

/-- Nothing in a text has a meaning: its characters are printable ones of
ASCII, no bracket opens, no backslash stands in it, and a colon is followed by
a space or by nothing. -/
structure IsPlain (text : List Char) : Prop where
  printable : ∀ character ∈ text, ' ' ≤ character ∧ character ≤ '~'
  noMarkup : ∀ character ∈ text, character ≠ '[' ∧ character ≠ '\\'
  noCode : ∀ character, [':', character] <:+: text → character = ' '

namespace IsPlain

variable {character : Char} {text front behind : List Char}

theorem tail (plain : IsPlain (character :: text)) : IsPlain text where
  printable other member := plain.printable other (List.mem_cons_of_mem _ member)
  noMarkup other member := plain.noMarkup other (List.mem_cons_of_mem _ member)
  noCode other code := plain.noCode other (List.infix_cons code)

theorem not_mem (plain : IsPlain text) (below : ¬ ' ' ≤ character) :
    character ∉ text :=
  fun member => below (plain.printable character member).1

theorem noBracket (plain : IsPlain text) : '[' ∉ text :=
  fun member => (plain.noMarkup '[' member).1 rfl

/-- A colon at the end starts no code. -/
theorem of_all
    (signs : (text.all fun character => ' ' ≤ character && character ≤ '~' &&
      character != '[' && character != '\\') = true)
    (noColon : ':' ∉ text.dropLast) : IsPlain text := by
  have sign := List.all_eq_true.mp signs
  simp only [Bool.and_eq_true, decide_eq_true_eq, bne_iff_ne] at sign
  constructor
  case printable => exact fun character member => (sign character member).1.1
  case noMarkup =>
    intro character member
    exact ⟨(sign character member).1.2, (sign character member).2⟩
  case noCode =>
    intro character code
    obtain ⟨before, after, rfl⟩ := code
    simp at noColon

theorem nil : IsPlain [] := .of_all rfl nofun

/-- Plain texts stay so with a space between them. -/
theorem append_space (plain : IsPlain front) (plainBehind : IsPlain behind) :
    IsPlain (front ++ ' ' :: behind) := by
  constructor
  case printable =>
    intro character member
    rcases List.mem_append.mp member with before | later
    · exact plain.printable character before
    · rcases List.mem_cons.mp later with rfl | later
      · decide
      · exact plainBehind.printable character later
  case noMarkup =>
    intro character member
    rcases List.mem_append.mp member with before | later
    · exact plain.noMarkup character before
    · rcases List.mem_cons.mp later with rfl | later
      · decide
      · exact plainBehind.noMarkup character later
  case noCode =>
    intro character code
    induction front with
    | nil =>
        rcases List.infix_cons_iff.mp code with starts | later
        · exact absurd (List.cons_prefix_cons.mp starts).1 (by decide)
        · exact plainBehind.noCode character later
    | cons first rest induction =>
        rcases List.infix_cons_iff.mp code with starts | later
        · obtain ⟨rfl, second⟩ := List.cons_prefix_cons.mp starts
          cases rest with
          | nil => exact (List.cons_prefix_cons.mp second).1
          | cons next rest =>
              obtain rfl := (List.cons_prefix_cons.mp second).1
              exact plain.noCode character ⟨[], rest, rfl⟩
        · exact induction plain.tail later

end IsPlain

/-- A word in the style of labels. -/
def labelled (word : String) : String := "[red bold]" ++ word ++ "[/red bold]"

/-- The console, which has no colours and this width, reads markup. -/
structure ReadsMarkup (console : Console) (width : Nat) : Prop where
  tags : ∀ marks shown, AreTags false marks →
    console (.line (String.ofList (writtenMarks marks))) = .ok shown →
    brackets shown.toList ≤ looseBrackets marks
  front : ∀ word rest shown, IsPlain word.toList → ' ' ∉ word.toList →
    word.length ≤ width →
    console (.line (labelled word ++ rest)) = .ok shown →
    word.toList <+: shown.toList
  plain : ∀ word rest, IsPlain word.toList → IsPlain rest.toList →
    word.length + rest.length ≤ width →
    console (.line (labelled word ++ rest)) = .ok (word ++ rest ++ "\n")

/-- A tag behind a space is not shown, so what is shown is another text. -/
theorem ReadsMarkup.not_shows_tag {console : Console} {width : Nat}
    (reads : console.ReadsMarkup width) {word front tag after : String}
    (plain : IsPlain word.toList) (isTag : IsTagText tag.toList) :
    console (.line (labelled word ++ (front ++ " [" ++ tag ++ "]" ++ after))) ≠
      .ok (word ++ (front ++ " [" ++ tag ++ "]" ++ after) ++ "\n") := by
  intro shows
  -- Only the brackets of the label and of the tag are marked as tags, so the
  -- bound on what is shown is one less than what would have to be shown.
  let marks : List Mark :=
    .tag "red bold".toList :: (Mark.ofText word ++
      .tag "/red bold".toList :: (Mark.ofText front ++
        .sign ' ' :: .tag tag.toList :: Mark.ofText after))
  have written : String.ofList (writtenMarks marks) =
      labelled word ++ (front ++ " [" ++ tag ++ "]" ++ after) := by
    apply String.ext
    simp [marks, labelled, Mark.written]
  have noBackslash :
      word.toList.getLast?.elim false (· = '\\') = false := by
    cases last : word.toList.getLast? with
    | none => rfl
    | some character =>
        exact decide_eq_false
          (plain.noMarkup character (List.mem_of_getLast? last)).2
  have areTags : AreTags false marks := by
    have isOpening : IsTagText "red bold".toList :=
      .of_all (by decide) (by decide)
    have isClosing : IsTagText "/red bold".toList :=
      .of_all (by decide) (by decide)
    have behind : AreTags false (Mark.ofText after) := by
      simpa using (areTags_ofText_append after false []).mpr trivial
    have later := (areTags_ofText_append front false
      (.sign ' ' :: .tag tag.toList :: Mark.ofText after)).mpr
        ⟨by decide, isTag, behind⟩
    exact ⟨rfl, isOpening,
      (areTags_ofText_append ..).mpr ⟨noBackslash, isClosing, later⟩⟩
  have loose : looseBrackets marks = brackets word.toList +
      (brackets front.toList + brackets after.toList) := by
    simp [marks]
  have shown :
      brackets (word ++ (front ++ " [" ++ tag ++ "]" ++ after) ++ "\n").toList =
        brackets word.toList + (brackets front.toList + 1 +
          brackets tag.toList + brackets after.toList) := by
    have pieces : brackets " [".toList = 1 ∧ brackets "]".toList = 0 ∧
        brackets "\n".toList = 0 := by decide
    simp only [String.toList_append, brackets_append, pieces, Nat.add_zero]
  have fewer := reads.tags marks _ areTags (written ▸ shows)
  rw [loose, shown] at fewer
  omega

end CompilerCalls.Console
