/-!
# Texts cut at a separator

A text is cut at the leftmost place where the separator stands, then again in
what follows that separator.  A text in which the separator does not stand is
its own only segment, so there is always a first segment.
-/

namespace CompilerCalls.Text

/-- The first segment and the later ones.  The number counts the characters of
a separator found earlier which have still to be passed over. -/
def cut (separator : List Char) : Nat → List Char → List Char × List (List Char)
  | _, [] => ([], [])
  | pending + 1, _ :: rest => cut separator pending rest
  | 0, character :: rest =>
      if separator.isPrefixOf (character :: rest) then
        let following := cut separator (separator.length - 1) rest
        ([], following.1 :: following.2)
      else
        let following := cut separator 0 rest
        (character :: following.1, following.2)

def split (separator text : List Char) : List (List Char) :=
  let segments := cut separator 0 text
  segments.1 :: segments.2

def segments (separator text : String) : List String :=
  (split separator.toList text.toList).map String.ofList

/-- Strings written one after the other with a separator between them. -/
def join (separator : String) : List String → String
  | [] => ""
  | [segment] => segment
  | segment :: next :: rest =>
      segment ++ separator ++ join separator (next :: rest)

@[simp] theorem join_nil (separator : String) : join separator [] = "" := rfl

@[simp] theorem join_singleton (separator segment : String) :
    join separator [segment] = segment := rfl

@[simp] theorem join_cons_cons (separator segment next : String)
    (rest : List String) :
    join separator (segment :: next :: rest) =
      segment ++ separator ++ join separator (next :: rest) := rfl

theorem split_ne_nil (separator text : List Char) :
    split separator text ≠ [] := by
  simp [split]

private theorem not_mem_cut_singleton (separator : Char) (text : List Char) :
    separator ∉ (cut [separator] 0 text).1 ∧
      ∀ segment ∈ (cut [separator] 0 text).2, separator ∉ segment := by
  induction text with
  | nil => simp [cut]
  | cons character rest induction =>
      by_cases equality : separator = character
      · simp [cut, equality] at induction ⊢
        exact induction
      · simp [cut, equality] at induction ⊢
        exact induction

/-- No segment holds a separator of a single character. -/
theorem not_mem_of_mem_split_singleton {separator : Char}
    {text segment : List Char} (member : segment ∈ split [separator] text) :
    separator ∉ segment := by
  have absent := not_mem_cut_singleton separator text
  rcases List.mem_cons.mp member with rfl | later
  · exact absent.1
  · exact absent.2 segment later

end CompilerCalls.Text
