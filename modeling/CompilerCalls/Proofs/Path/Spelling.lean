import CompilerCalls.Proofs.Path.NormalForm

/-!
# Spellings of a path

A path can be written in many ways: with slashes repeated, with dots between
them, or with a slash at its end.  All of them are read as the same path.  Only
in front does the number of slashes matter, where two are neither one nor
three.
-/

namespace CompilerCalls

/-- There is more in a text than slashes. -/
def HoldsMore (text : List Char) : Prop := ∃ character ∈ text, character ≠ '/'

theorem Anchor.ofText_append_of_holdsMore {text : List Char}
    (more : HoldsMore text) (rest : List Char) :
    ofText (text ++ rest) = ofText text := by
  obtain ⟨character, member, different⟩ := more
  match text with
  | [] => simp at member
  | [first] =>
      have noSlash : first ≠ '/' := by simp_all
      simp [ofText, noSlash]
  | [first, second] =>
      by_cases slash : first = '/'
      · have noSlash : second ≠ '/' := by simp_all
        simp [ofText, slash, noSlash]
      · simp [ofText, slash]
  | first :: second :: third :: later =>
      by_cases slash : first = '/'
      · by_cases slashes : second = '/'
        · by_cases three : third = '/'
          · simp [ofText, slash, slashes, three]
          · simp [ofText, slash, slashes, three]
        · simp [ofText, slash, slashes]
      · simp [ofText, slash]

namespace Path

/-- A spelling of a path, and another one which leaves out signs that say
nothing. -/
inductive Respells : String → String → Prop
  /-- A slash is repeated between two names or at the end. -/
  | slash (before after : String) (inside : HoldsMore before.toList) :
      Respells (before ++ "//" ++ after) (before ++ "/" ++ after)
  /-- A dot stands between two names or at the end. -/
  | dot (before after : String) (inside : HoldsMore before.toList) :
      Respells (before ++ "/./" ++ after) (before ++ "/" ++ after)
  | lastSlash (written : String) (inside : HoldsMore written.toList) :
      Respells (written ++ "/") written
  /-- A dot stands in front of a relative path. -/
  | firstDot (after : String) (relative : after.toList.head? ≠ some '/') :
      Respells ("./" ++ after) after
  /-- A dot stands at the root. -/
  | rootDot (after : String) (behind : after.toList.head? ≠ some '/') :
      Respells ("/./" ++ after) ("/" ++ after)
  /-- Three slashes in front stand for one. -/
  | threeSlashes (after : String) (behind : after.toList.head? ≠ some '/') :
      Respells ("///" ++ after) ("/" ++ after)
  /-- More than three slashes in front are as good as three. -/
  | moreSlashes (after : String) : Respells ("////" ++ after) ("///" ++ after)

theorem namesOf_append_slash_append (before after : String) :
    namesOf (before ++ "/" ++ after) = namesOf before ++ namesOf after := by
  have slash : "/".toList = ['/'] := rfl
  simp [namesOf, Text.segments, slash, String.toList_append,
    Text.split_append_cons]

theorem namesOf_dot_slash_append (text : String) :
    namesOf ("./" ++ text) = namesOf text := by
  have cut : "./" ++ text = "." ++ "/" ++ text := rfl
  have nothing : namesOf "." = [] := rfl
  rw [cut, namesOf_append_slash_append, nothing, List.nil_append]

/-- Between slashes, only names count. -/
theorem Respells.namesOf_eq {written other : String}
    (respells : Respells written other) : namesOf written = namesOf other := by
  cases respells with
  | slash before after =>
      have cut : before ++ "//" ++ after = before ++ "/" ++ ("/" ++ after) := by
        simp [← String.toList_inj]
      rw [cut, namesOf_append_slash_append, namesOf_slash_append,
        namesOf_append_slash_append]
  | dot before after =>
      have cut :
          before ++ "/./" ++ after = before ++ "/" ++ ("./" ++ after) := by
        simp [← String.toList_inj]
      rw [cut, namesOf_append_slash_append, namesOf_dot_slash_append,
        namesOf_append_slash_append]
  | lastSlash =>
      have cut : other ++ "/" = other ++ "/" ++ "" := String.append_empty.symm
      have nothing : namesOf "" = [] := rfl
      rw [cut, namesOf_append_slash_append, nothing, List.append_nil]
  | firstDot => exact namesOf_dot_slash_append other
  | rootDot after =>
      have cut : "/./" ++ after = "/" ++ ("./" ++ after) := by
        simp [← String.toList_inj]
      rw [cut, namesOf_slash_append, namesOf_dot_slash_append,
        namesOf_slash_append]
  | threeSlashes after =>
      have cut : "///" ++ after = "/" ++ ("/" ++ ("/" ++ after)) := by
        simp [← String.toList_inj]
      simp only [cut, namesOf_slash_append]
  | moreSlashes after =>
      have cut : "////" ++ after = "/" ++ ("///" ++ after) := by
        simp [← String.toList_inj]
      rw [cut, namesOf_slash_append]

/-- A respelled path starts at the same place. -/
theorem Respells.ofText_eq {written other : String}
    (respells : Respells written other) :
    Anchor.ofText written.toList = Anchor.ofText other.toList := by
  cases respells with
  | slash before after inside =>
      simp only [String.toList_append, List.append_assoc,
        Anchor.ofText_append_of_holdsMore inside]
  | dot before after inside =>
      simp only [String.toList_append, List.append_assoc,
        Anchor.ofText_append_of_holdsMore inside]
  | lastSlash _ inside =>
      rw [String.toList_append, Anchor.ofText_append_of_holdsMore inside]
  | firstDot _ relative =>
      rw [Anchor.ofText_of_head relative, String.toList_append]
      rfl
  | rootDot after behind =>
      have root : Anchor.ofText (Anchor.root.text.toList ++ after.toList) =
          .root := Anchor.ofText_append behind
      rw [String.toList_append, String.toList_append]
      exact root.symm
  | threeSlashes after behind =>
      have root : Anchor.ofText (Anchor.root.text.toList ++ after.toList) =
          .root := Anchor.ofText_append behind
      rw [String.toList_append, String.toList_append]
      exact root.symm
  | moreSlashes after =>
      rw [String.toList_append, String.toList_append]
      rfl

/-- A respelled path is the same path. -/
theorem Respells.ofString_eq {written other : String}
    (respells : Respells written other) :
    ofString written = ofString other := by
  simp only [ofString, mk.injEq]
  exact ⟨respells.ofText_eq, respells.namesOf_eq⟩

end Path

end CompilerCalls
