import CompilerCalls.Console.Message
import CompilerCalls.Proofs.Console.Reading

/-!
# Brackets and pictures

Codes stand for pictures, and there is no bracket in any picture.
-/

namespace CompilerCalls.Console

def IsPictured (line : String) : Prop :=
  line.toList.all (· != '[') = true

theorem isPictured_cons {text : List Char} {line : String}
    {lines : List String} (spelled : String.ofList text = line)
    (pictured : text.all (· != '[') = true)
    (rest : ∀ other ∈ lines, IsPictured other) :
    ∀ other ∈ line :: lines, IsPictured other := by
  rw [List.forall_mem_cons]
  refine ⟨?_, rest⟩
  rw [IsPictured, ← spelled, String.toList_ofList]
  exact pictured

-- Each line is spelled out by unification, and its characters are looked at.
set_option maxRecDepth 40000 in
theorem isPictured_of_mem_emojiLines :
    ∀ line ∈ emojiLines, IsPictured line := by
  unfold emojiLines
  repeat
    apply isPictured_cons
    · apply Eq.refl
    · decide +kernel
  exact fun _ member => absurd member List.not_mem_nil

theorem mem_of_mem_consWord {word front : List Char}
    {others : List (List Char)} (member : word ∈ Text.consWord front others) :
    word = front ∨ word ∈ others := by
  unfold Text.consWord at member
  split at member
  · exact .inr member
  · exact List.mem_cons.mp member

/-- Words are cut from the characters of a text. -/
theorem mem_of_mem_cutWords {text : List Char} :
    (∀ character ∈ (Text.cutWords text).1, character ∈ text) ∧
      ∀ word ∈ (Text.cutWords text).2, ∀ character ∈ word,
        character ∈ text := by
  induction text with
  | nil => simp [Text.cutWords]
  | cons first rest induction =>
      obtain ⟨front, later⟩ := induction
      have inRest : ∀ word ∈
          Text.consWord (Text.cutWords rest).1 (Text.cutWords rest).2,
          ∀ character ∈ word, character ∈ first :: rest := by
        intro word member character within
        rcases mem_of_mem_consWord member with rfl | member
        · exact List.mem_cons_of_mem first (front character within)
        · exact List.mem_cons_of_mem first (later word member character within)
      rw [Text.cutWords]
      split
      · exact ⟨by simp, inRest⟩
      · refine ⟨?_, fun word member character within =>
          List.mem_cons_of_mem first (later word member character within)⟩
        intro character within
        rcases List.mem_cons.mp within with rfl | within
        · exact List.mem_cons_self
        · exact List.mem_cons_of_mem first (front character within)

theorem mem_of_mem_words {text word : List Char} {character : Char}
    (member : word ∈ Text.words text) (within : character ∈ word) :
    character ∈ text := by
  rcases mem_of_mem_consWord member with rfl | member
  · exact mem_of_mem_cutWords.1 character within
  · exact mem_of_mem_cutWords.2 word member character within

theorem mem_of_mem_wordPairs {words : List String} {name picture : String}
    (member : (name, picture) ∈ wordPairs words) : picture ∈ words := by
  fun_induction wordPairs words with
  | case1 first second rest induction =>
      rcases List.mem_cons.mp member with same | later
      · cases same
        simp
      · simp [induction later]
  | case2 => simp at member

theorem exists_line_of_emoji? {name : List Char} {picture : String}
    (named : emoji? name = some picture) :
    ∃ line ∈ emojiLines, ∃ word ∈ Text.words line.toList,
      picture = String.ofList word := by
  obtain ⟨front, behind, table, _⟩ := List.lookup_eq_some_iff.mp named
  have listed : (String.ofList (Text.lowercase name), picture) ∈ emojiTable := by
    rw [table]
    simp
  obtain ⟨line, member, paired⟩ := List.mem_flatMap.mp listed
  obtain ⟨word, isWord, rfl⟩ := List.mem_map.mp (mem_of_mem_wordPairs paired)
  exact ⟨line, member, word, isWord, rfl⟩

/-- No bracket is in a picture. -/
theorem brackets_of_emoji? {name : List Char} {picture : String}
    (named : emoji? name = some picture) : brackets picture.toList = 0 := by
  obtain ⟨line, member, word, isWord, rfl⟩ := exists_line_of_emoji? named
  rw [String.toList_ofList]
  refine brackets_eq_zero fun within => ?_
  have pictured : line.toList.all (· != '[') = true :=
    isPictured_of_mem_emojiLines line member
  have different := List.all_eq_true.mp pictured '['
    (mem_of_mem_words isWord within)
  exact absurd different (by decide)

end CompilerCalls.Console
