import CompilerCalls.Path.Basic
import CompilerCalls.Proofs.Text.Split

/-!
# Written paths

A path which is written and read again is the same path, for names hold no
slash and are neither empty nor a dot.
-/

namespace CompilerCalls

namespace Anchor

theorem ofText_of_head {text : List Char} (noSlash : text.head? ≠ some '/') :
    ofText text = .relative := by
  unfold ofText
  split <;> simp at noSlash ⊢

theorem ofText_append {anchor : Anchor} {text : List Char}
    (noSlash : text.head? ≠ some '/') :
    ofText (anchor.text.toList ++ text) = anchor := by
  cases anchor with
  | relative => simpa [Anchor.text] using ofText_of_head noSlash
  | root =>
      cases text with
      | nil => rfl
      | cons first rest =>
          have different : first ≠ '/' := by simpa using noSlash
          simp [Anchor.text, ofText, different]
  | doubleRoot =>
      cases text with
      | nil => rfl
      | cons first rest =>
          have different : first ≠ '/' := by simpa using noSlash
          simp [Anchor.text, ofText, different]

end Anchor

namespace Path

theorem eq_of_names {path other : Path} (anchor : path.anchor = other.anchor)
    (names : path.names = other.names) : path = other := by
  cases path
  cases other
  simp_all

theorem namesOf_slash_append (text : String) :
    namesOf ("/" ++ text) = namesOf text := by
  have slash : "/".toList = ['/'] := rfl
  simp [namesOf, Text.segments, slash, String.toList_append,
    Text.split_self_cons]

theorem namesOf_anchor_append (anchor : Anchor) (text : String) :
    namesOf (anchor.text ++ text) = namesOf text := by
  cases anchor with
  | relative => simp [Anchor.text]
  | root => exact namesOf_slash_append text
  | doubleRoot =>
      have slashes : "//" ++ text = "/" ++ ("/" ++ text) := by
        rw [← String.append_assoc]; rfl
      rw [Anchor.text, slashes, namesOf_slash_append, namesOf_slash_append]

theorem namesOf_join {names : List String}
    (areNames : ∀ name ∈ names, IsName name) :
    namesOf (Text.join "/" names) = names := by
  cases names with
  | nil => rfl
  | cons name rest =>
      have cut : Text.segments "/" (Text.join "/" (name :: rest)) =
          name :: rest :=
        Text.segments_join rfl (List.cons_ne_nil name rest)
          fun other member => (areNames other member).2.2
      rw [namesOf, cut, List.filter_eq_self]
      intro other member
      simpa using ⟨(areNames other member).1, (areNames other member).2.1⟩

theorem head?_join {names : List String}
    (areNames : ∀ name ∈ names, IsName name) :
    (Text.join "/" names).toList.head? ≠ some '/' := by
  cases names with
  | nil => simp
  | cons name rest =>
      obtain ⟨notEmpty, _, noSlash⟩ := areNames name List.mem_cons_self
      obtain ⟨first, later, characters⟩ := List.exists_cons_of_ne_nil
        (mt String.toList_eq_nil_iff.mp notEmpty)
      have different : first ≠ '/' := by
        rintro rfl
        exact noSlash (by simp [characters])
      cases rest with
      | nil => simpa [characters] using different
      | cons next rest =>
          simpa [String.toList_append, characters] using different

theorem slash_not_mem_name (path : Path) : '/' ∉ path.name.toList := by
  unfold name
  cases last : path.names.getLast? with
  | none => simp
  | some name => exact (path.areNames name (List.mem_of_getLast? last)).2.2

theorem name_ofString {text : String} (isName : IsName text) :
    (ofString text).name = text := by
  have single : namesOf text = [text] :=
    @namesOf_join [text] (by simpa using isName)
  simp [name, ofString, single]

/-- Reading a written path gives the path back. -/
theorem ofString_toString (path : Path) : ofString path.toString = path := by
  obtain ⟨anchor, names, areNames⟩ := path
  unfold toString
  split
  · rename_i dot
    obtain ⟨rfl, rfl⟩ := dot
    rfl
  · simp only [ofString, mk.injEq, String.toList_append]
    exact ⟨Anchor.ofText_append (head?_join areNames),
      (namesOf_anchor_append anchor _).trans (namesOf_join areNames)⟩

end Path

end CompilerCalls
