import CompilerCalls.Environment.PathList
import CompilerCalls.Proofs.Text.Leftmost
import CompilerCalls.Proofs.Text.Split

/-!
# Lists of paths are joined again

The segments of a value, joined, are the value, and no other list which makes
up the value has its cuts as far to the left.  In the other direction a list
comes back from its join if the separator is a single character that stands in
none of its segments.  Only the list of one empty segment does not, since the
empty value has no segments.
-/

namespace CompilerCalls

namespace PathList

/-- What the segments of a value which is not empty are to it. -/
structure LeftmostSegments (separator value : String)
    (segments : List String) : Prop where
  joined : Text.join separator segments = value
  apart : ∀ segment ∈ segments, ¬separator.toList <:+: segment.toList
  /-- Of all lists which make up the value, this one alone comes from cuts at
  the leftmost separator. -/
  leftmost_iff : ∀ parts, Text.join separator parts = value →
    (Text.CutsLeftmost separator.toList value.toList
        (parts.map String.toList) ↔
      parts = segments)
  /-- Where another list begins to differ, its segment is longer. -/
  lengths_lt : ∀ parts, Text.join separator parts = value →
    parts ≠ segments →
    segments.map String.length < parts.map String.length

variable {separator value : String} {parts : List String}

theorem toList_ne_nil (separates : separator ≠ "") : separator.toList ≠ [] :=
  mt String.toList_eq_nil_iff.mp separates

theorem map_toList_segments (separator text : String) :
    (Text.segments separator text).map String.toList =
      Text.split separator.toList text.toList := by
  simp [Text.segments, Function.comp_def]

theorem map_toList_eq_split_iff :
    parts.map String.toList = Text.split separator.toList value.toList ↔
      parts = Text.segments separator value := by
  rw [← map_toList_segments]
  exact List.map_inj_right fun _ _ => String.toList_inj.mp

theorem join_eq_iff :
    Text.join separator parts = value ↔
      separator.toList.intercalate (parts.map String.toList) =
        value.toList := by
  rw [← String.toList_inj, Text.toList_join]

theorem join_eq_empty_iff (separates : separator ≠ "") :
    Text.join separator parts = "" ↔ parts = [] ∨ parts = [""] := by
  match parts with
  | [] => simp
  | [part] => simp
  | part :: next :: rest => simp [String.append_eq_empty_iff, separates]

theorem cutsLeftmost_segments (separates : separator ≠ "") (value : String) :
    Text.CutsLeftmost separator.toList value.toList
      ((Text.segments separator value).map String.toList) := by
  rw [map_toList_segments]
  exact Text.cutsLeftmost_split (toList_ne_nil separates) value.toList

theorem not_infix_of_mem_segments (separates : separator ≠ "")
    (value : String) :
    ∀ segment ∈ Text.segments separator value,
      ¬separator.toList <:+: segment.toList := by
  intro segment member
  exact (cutsLeftmost_segments separates value).not_infix_of_mem
    (toList_ne_nil separates) _ (List.mem_map_of_mem member)

theorem leftmostSegments_segments (separates : separator ≠ "")
    (nonempty : value ≠ "") :
    LeftmostSegments separator value (Text.segments separator value) := by
  have separatesText := toList_ne_nil separates
  have cuts := cutsLeftmost_segments separates value
  constructor
  · exact join_eq_iff.mpr cuts.intercalate_eq
  · exact not_infix_of_mem_segments separates value
  · intro parts _
    rw [← Text.split_eq_iff separatesText, eq_comm, map_toList_eq_split_iff]
  · intro parts joined different
    have partsNonempty : parts ≠ [] := by
      rintro rfl
      exact nonempty joined.symm
    have earlier := cuts.lengths_lt separatesText
      (mt List.map_eq_nil_iff.mp partsNonempty) (join_eq_iff.mp joined)
      (fun same => different <| map_toList_eq_split_iff.mp <|
        same.trans (map_toList_segments separator value))
    simpa only [List.map_map, Function.comp_def, String.length_toList] using
      earlier

theorem split_of_ne (separates : separator ≠ "") (nonempty : value ≠ "") :
    split value separator = .ok (Text.segments separator value) := by
  simp [split, segments, separates, nonempty]

@[simp] theorem split_empty (separator : String) :
    split "" separator = .ok [] := by
  simp [split, segments]

/-- What comes back when it is joined with a separator of one character. -/
theorem split_join_eq_iff (single : separator.length = 1) :
    split (Text.join separator parts) separator = .ok parts ↔
      parts ≠ [""] ∧ ∀ part ∈ parts, ¬separator.toList <:+: part.toList := by
  obtain ⟨character, isCharacter⟩ :=
    List.length_eq_one_iff.mp (String.length_toList.trans single)
  have separates : separator ≠ "" := by
    rintro rfl
    contradiction
  by_cases nothing : Text.join separator parts = ""
  · rw [nothing, split_empty, Except.ok.injEq]
    rcases (join_eq_empty_iff separates).mp nothing with rfl | rfl <;> simp
  · obtain ⟨nonempty, notBlank⟩ :=
      not_or.mp (mt (join_eq_empty_iff separates).mpr nothing)
    rw [split_of_ne separates nothing, Except.ok.injEq]
    constructor
    · intro same
      refine ⟨notBlank, ?_⟩
      rw [← same]
      exact not_infix_of_mem_segments separates _
    · rintro ⟨_, apart⟩
      apply Text.segments_join isCharacter nonempty
      intro part member
      rw [← List.singleton_infix_iff, ← isCharacter]
      exact apart part member

/-- The segments of a value are those which come from cuts at the leftmost
separator, and cutting with a separator of one character undoes joining. -/
theorem split_inverts_join (separates : separator ≠ "") :
    (∀ value, ∃ segments, split value separator = .ok segments ∧
      (segments = [] ↔ value = "") ∧
      (value ≠ "" → LeftmostSegments separator value segments)) ∧
    (separator.length = 1 → ∀ parts,
      (split (Text.join separator parts) separator = .ok parts ↔
        parts ≠ [""] ∧
          ∀ part ∈ parts, ¬separator.toList <:+: part.toList)) := by
  constructor
  · intro value
    by_cases nonempty : value = ""
    · exact ⟨[], nonempty ▸ split_empty separator, by simp [nonempty],
        absurd nonempty⟩
    · have present : Text.segments separator value ≠ [] := by
        simp [Text.segments, Text.split]
      exact ⟨_, split_of_ne separates nonempty, by simp [present, nonempty],
        leftmostSegments_segments separates⟩
  · intro single parts
    exact split_join_eq_iff single

/-- Two places of a separator overlap, and the left one is the cut.  A segment
of a list may be empty, also the first and the last one. -/
theorem split_inverts_join_overlapping :
    (split "baaab" "aa" = .ok ["b", "ab"] ∧
      LeftmostSegments "aa" "baaab" ["b", "ab"] ∧
      Text.join "aa" ["ba", "b"] = "baaab" ∧
      ["b", "ab"].map String.length < ["ba", "b"].map String.length) ∧
    split (Text.join ":" ["", "/a", ""]) ":" = .ok ["", "/a", ""] := by
  have cut : split "baaab" "aa" = .ok ["b", "ab"] := by decide +kernel
  have joined : Text.join "aa" ["ba", "b"] = "baaab" := by decide +kernel
  obtain ⟨segments, answered, _, leftmost⟩ :=
    (split_inverts_join (show "aa" ≠ "" by decide)).1 "baaab"
  obtain rfl := Except.ok.inj (cut.symm.trans answered)
  have made := leftmost (by decide)
  refine ⟨⟨cut, made, joined, ?_⟩, ?_⟩
  · exact made.lengths_lt _ joined (by decide)
  · exact ((split_inverts_join (show ":" ≠ "" by decide)).2 rfl _).mpr
      (by decide +kernel)

end PathList

end CompilerCalls
