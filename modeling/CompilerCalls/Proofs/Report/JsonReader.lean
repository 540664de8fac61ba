import CompilerCalls.Proofs.Text.Utf16
import CompilerCalls.Report.Json

/-!
# Reading JSON documents

Documents of texts, arrays, and objects are read from any of their spellings:
blanks may stand between the parts, and characters may be escaped.  A document
comes back from the text in which it is written, so documents with the same
text are the same, and that text is in ASCII.
-/

namespace CompilerCalls.Json

def IsAscii (characters : List Char) : Prop :=
  ∀ character ∈ characters, character.toNat < 0x80

instance (characters : List Char) : Decidable (IsAscii characters) :=
  List.decidableBAll _ characters

@[simp] theorem isAscii_nil : IsAscii [] := List.forall_mem_nil _

@[simp] theorem isAscii_cons {first : Char} {rest : List Char} :
    IsAscii (first :: rest) ↔ first.toNat < 0x80 ∧ IsAscii rest :=
  List.forall_mem_cons

@[simp] theorem isAscii_append {left right : List Char} :
    IsAscii (left ++ right) ↔ IsAscii left ∧ IsAscii right :=
  List.forall_mem_append

/-- A character which may stand between the parts of a document. -/
def isBlank (character : Char) : Bool :=
  character = ' ' || character = '\n' || character = '\r' || character = '\t'

def afterBlanks (text : List Char) : List Char := text.dropWhile isBlank

/-- The code unit which a character behind a backslash stands for. -/
def markedUnit? (mark : Char) : Option Nat :=
  [('"', 0x22), ('\\', 0x5c), ('/', 0x2f), ('b', 0x08), ('f', 0x0c),
    ('n', 0x0a), ('r', 0x0d), ('t', 0x09)].lookup mark

def prependUnit (unit : Nat) (read : List Nat × List Char) :
    List Nat × List Char :=
  (unit :: read.1, read.2)

/-- The code units of a text behind its opening quote, and what follows the
closing one.  Control characters have to be escaped. -/
def readUnits : List Char → Option (List Nat × List Char)
  | [] => none
  | character :: rest =>
      if character = '"' then some ([], rest)
      else if character = '\\' then
        match rest with
        | [] => none
        | mark :: rest =>
            if mark = 'u' then
              match rest with
              | first :: second :: third :: fourth :: rest =>
                  match Toml.hexNumber? 0 [first, second, third, fourth] with
                  | none => none
                  | some unit => (readUnits rest).map (prependUnit unit)
              | _ => none
            else
              match markedUnit? mark with
              | none => none
              | some unit => (readUnits rest).map (prependUnit unit)
      else if character.toNat < 0x20 then none
      else (readUnits rest).map (prependUnit character.toNat)

/-- A text behind its opening quote. -/
def readText (text : List Char) : Option (String × List Char) :=
  match readUnits text with
  | none => none
  | some (units, rest) =>
      (Text.ofUtf16? units).map fun characters =>
        (String.ofList characters, rest)

mutual

/-- A document at the front of a text.  The number bounds how often the
functions here call each other. -/
def readValue : Nat → List Char → Option (Json × List Char)
  | 0, _ => none
  | fuel + 1, characters =>
      match afterBlanks characters with
      | '"' :: rest => (readText rest).map fun read => (.text read.1, read.2)
      | '[' :: rest =>
          match afterBlanks rest with
          | ']' :: rest => some (.array [], rest)
          | rest =>
              (readItems fuel rest).map fun read => (.array read.1, read.2)
      | '\x7b' :: rest =>
          match afterBlanks rest with
          | '\x7d' :: rest => some (.object [], rest)
          | rest =>
              (readFields fuel rest).map fun read => (.object read.1, read.2)
      | _ => none

/-- One or more items, up to the end of their array. -/
def readItems : Nat → List Char → Option (List Json × List Char)
  | 0, _ => none
  | fuel + 1, characters =>
      match readValue fuel characters with
      | none => none
      | some (item, rest) =>
          match afterBlanks rest with
          | ']' :: rest => some ([item], rest)
          | ',' :: rest =>
              (readItems fuel rest).map fun read => (item :: read.1, read.2)
          | _ => none

/-- One or more fields, up to the end of their object. -/
def readFields : Nat → List Char → Option (List (String × Json) × List Char)
  | 0, _ => none
  | fuel + 1, characters =>
      match afterBlanks characters with
      | '"' :: rest =>
          match readText rest with
          | none => none
          | some (name, rest) =>
              match afterBlanks rest with
              | ':' :: rest =>
                  match readValue fuel rest with
                  | none => none
                  | some (value, rest) =>
                      match afterBlanks rest with
                      | '\x7d' :: rest => some ([(name, value)], rest)
                      | ',' :: rest =>
                          (readFields fuel rest).map fun read =>
                            ((name, value) :: read.1, read.2)
                      | _ => none
              | _ => none
      | _ => none

end

/-- The document which a text spells, if there is nothing else in it. -/
def read? (text : String) : Option Json :=
  match readValue (2 * text.length + 1) text.toList with
  | none => none
  | some (document, rest) =>
      if afterBlanks rest = [] then some document else none

theorem readUnits_quote (rest : List Char) :
    readUnits ('"' :: rest) = some ([], rest) := by
  rw [readUnits.eq_def]
  rfl

theorem readUnits_plain {character : Char} (noQuote : character ≠ '"')
    (noBackslash : character ≠ '\\') (noControl : 0x20 ≤ character.toNat)
    (rest : List Char) :
    readUnits (character :: rest) =
      (readUnits rest).map (prependUnit character.toNat) := by
  rw [readUnits.eq_def]
  simp [noQuote, noBackslash, Nat.not_lt.mpr noControl]

theorem readUnits_marked {mark : Char} {unit : Nat}
    (marked : markedUnit? mark = some unit) (rest : List Char) :
    readUnits ('\\' :: mark :: rest) =
      (readUnits rest).map (prependUnit unit) := by
  have noDigits : mark ≠ 'u' := by
    rintro rfl
    contradiction
  rw [readUnits.eq_def]
  simp [noDigits, marked]

theorem readUnits_escapedUnit {unit : Nat} (small : unit < 0x10000)
    (rest : List Char) :
    readUnits (escapedUnit unit ++ rest) =
      (readUnits rest).map (prependUnit unit) := by
  have number := Text.hexNumber?_hexDigits 4 unit
  have inRange : unit < 16 ^ 4 := small
  rw [Nat.mod_eq_of_lt inRange] at number
  simp only [Text.hexDigits, List.nil_append, List.cons_append] at number
  rw [escapedUnit, readUnits.eq_def]
  simp [Text.hexDigits, number]

/-- The code units of a character are read back from the way in which it is
written. -/
theorem readUnits_escapedChar (character : Char) (rest : List Char) :
    readUnits (escapedChar character ++ rest) =
      (readUnits rest).map fun read =>
        (Text.utf16 character ++ read.1, read.2) := by
  have valid : character.toNat.isValidChar := character.valid
  unfold Nat.isValidChar at valid
  unfold escapedChar
  -- The seven characters with an escape of their own come first.
  iterate 7
    split
    · subst character
      exact readUnits_marked rfl rest
  split
  · rename_i noQuote noBackslash _ _ _ _ _ printable
    have onePlane : character.toNat ≤ 0xffff := by omega
    rw [List.singleton_append,
      readUnits_plain noQuote noBackslash printable.1, Text.utf16,
      if_pos onePlane]
    rfl
  split
  · rename_i onePlane
    rw [readUnits_escapedUnit (by omega), Text.utf16, if_pos onePlane]
    rfl
  · rename_i beyond
    rw [List.append_assoc, readUnits_escapedUnit (by omega),
      readUnits_escapedUnit (by omega), Option.map_map, Text.utf16,
      if_neg beyond]
    rfl

theorem readUnits_flatMap_escapedChar (content rest : List Char) :
    readUnits (content.flatMap escapedChar ++ '"' :: rest) =
      some (content.flatMap Text.utf16, rest) := by
  induction content with
  | nil => exact readUnits_quote rest
  | cons character content induction =>
      rw [List.flatMap_cons, List.append_assoc, readUnits_escapedChar,
        induction, Option.map_some, List.flatMap_cons]

theorem readText_writtenText (content : String) (rest : List Char) :
    readText (content.toList.flatMap escapedChar ++ '"' :: rest) =
      some (content, rest) := by
  rw [readText, readUnits_flatMap_escapedChar]
  simp [Text.ofUtf16?_flatMap_utf16]

theorem afterBlanks_cons (first : Char) (noBlank : isBlank first = false)
    (rest : List Char) : afterBlanks (first :: rest) = first :: rest :=
  List.dropWhile_cons_of_neg (by simp [noBlank])

theorem afterBlanks_lineBreak_append (depth : Nat) (characters : List Char) :
    afterBlanks (lineBreak depth ++ characters) = afterBlanks characters := by
  have blanks : ∀ character ∈ lineBreak depth, isBlank character = true := by
    intro character member
    rcases List.mem_cons.mp member with rfl | member
    · rfl
    · rw [List.eq_of_mem_replicate member]
      rfl
  exact List.dropWhile_append_of_pos blanks

theorem readValue_lineBreak_append (fuel depth : Nat)
    (characters : List Char) :
    readValue fuel (lineBreak depth ++ characters) =
      readValue fuel characters := by
  cases fuel with
  | zero => rfl
  | succ fuel => simp only [readValue, afterBlanks_lineBreak_append]

theorem readValue_blank_cons (fuel : Nat) (characters : List Char) :
    readValue fuel (' ' :: characters) = readValue fuel characters := by
  cases fuel with
  | zero => rfl
  | succ fuel => simp only [readValue]; rfl

theorem readFields_lineBreak_append (fuel depth : Nat)
    (characters : List Char) :
    readFields fuel (lineBreak depth ++ characters) =
      readFields fuel characters := by
  cases fuel with
  | zero => rfl
  | succ fuel => simp only [readFields, afterBlanks_lineBreak_append]

/-- A written document starts with neither a blank nor the end of an array. -/
theorem writtenAt_eq_cons (depth : Nat) (document : Json) :
    ∃ first rest, writtenAt depth document = first :: rest ∧
      isBlank first = false ∧ first ≠ ']' := by
  cases document with
  | text content => exact ⟨'"', _, rfl, rfl, by decide⟩
  | array items =>
      cases items with
      | nil => exact ⟨'[', _, rfl, rfl, by decide⟩
      | cons item rest => exact ⟨'[', _, rfl, rfl, by decide⟩
  | object fields =>
      cases fields with
      | nil => exact ⟨'\x7b', _, rfl, rfl, by decide⟩
      | cons field rest =>
          obtain ⟨name, value⟩ := field
          exact ⟨'\x7b', _, rfl, rfl, by decide⟩

theorem readText_behind_quote (content : String) (rest : List Char) :
    writtenText content ++ rest =
      '"' :: (content.toList.flatMap escapedChar ++ '"' :: rest) := by
  simp [writtenText]

theorem exists_succ_of_lt {bound fuel : Nat} (enough : bound < fuel) :
    ∃ smaller, fuel = smaller + 1 :=
  Nat.exists_eq_succ_of_ne_zero (Nat.ne_zero_of_lt enough)

-- Each document is read in front of any text.  The items and fields behind a
-- first one are read behind whatever was read as that one.
mutual

theorem readValue_writtenAt (document : Json) (depth fuel : Nat)
    (rest : List Char)
    (enough : 2 * (writtenAt depth document).length < fuel) :
    readValue fuel (writtenAt depth document ++ rest) =
      some (document, rest) := by
  obtain ⟨fuel, rfl⟩ := exists_succ_of_lt enough
  cases document with
  | text content =>
      simp only [writtenAt, readText_behind_quote, readValue,
        afterBlanks_cons '"' rfl, readText_writtenText,
        Option.map_some]
  | array items =>
      cases items with
      | nil => rfl
      | cons item items =>
          simp only [writtenAt, List.length_append, List.length_cons]
            at enough
          obtain ⟨first, later, starts, noBlank, notEnd⟩ :=
            writtenAt_eq_cons (depth + 1) item
          obtain ⟨fuel, rfl⟩ := exists_succ_of_lt (show 0 < fuel by omega)
          have itemRead := readValue_writtenAt item (depth + 1) fuel
            (writtenItems (depth + 1) items ++
              (lineBreak depth ++ ']' :: rest)) (by omega)
          have itemsRead := readItems_behind items (depth + 1) depth fuel item
            _ rest (by omega) itemRead
          simp only [writtenAt, List.cons_append, List.append_assoc,
            List.nil_append, readValue, afterBlanks_cons '[' rfl,
            afterBlanks_lineBreak_append]
          rw [starts, List.cons_append] at itemsRead ⊢
          rw [afterBlanks_cons _ noBlank]
          split
          · rename_i ends
            exact absurd (List.cons.inj ends).1 notEnd
          · rw [itemsRead, Option.map_some]
  | object fields =>
      cases fields with
      | nil => rfl
      | cons field fields =>
          obtain ⟨name, value⟩ := field
          simp only [writtenAt, List.length_append, List.length_cons]
            at enough
          obtain ⟨fuel, rfl⟩ := exists_succ_of_lt (show 0 < fuel by omega)
          have valueRead := readValue_writtenAt value (depth + 1) fuel
            (writtenFields (depth + 1) fields ++
              (lineBreak depth ++ '\x7d' :: rest)) (by omega)
          have fieldsRead := readFields_behind fields (depth + 1) depth fuel
            name value _ rest (by omega) valueRead
          rw [readText_behind_quote] at fieldsRead
          simp only [writtenAt, List.cons_append, List.append_assoc,
            List.nil_append, readValue, afterBlanks_cons '\x7b' rfl,
            afterBlanks_lineBreak_append, readText_behind_quote,
            afterBlanks_cons '"' rfl]
          split
          · rename_i ends
            exact absurd (List.cons.inj ends).1 (by decide)
          · rw [fieldsRead, Option.map_some]

theorem readItems_behind (items : List Json) (depth outer fuel : Nat)
    (item : Json) (characters rest : List Char)
    (enough : 2 * (writtenItems depth items).length < fuel)
    (read : readValue fuel characters =
      some (item,
        writtenItems depth items ++ (lineBreak outer ++ ']' :: rest))) :
    readItems (fuel + 1) characters = some (item :: items, rest) := by
  cases items with
  | nil =>
      simp only [readItems, read, writtenItems, List.nil_append,
        afterBlanks_lineBreak_append, afterBlanks_cons ']' rfl]
  | cons next items =>
      simp only [writtenItems, List.length_append, List.length_cons] at enough
      obtain ⟨fuel, rfl⟩ := exists_succ_of_lt enough
      have nextRead := readValue_writtenAt next depth fuel
        (writtenItems depth items ++ (lineBreak outer ++ ']' :: rest))
        (by omega)
      rw [← readValue_lineBreak_append fuel depth] at nextRead
      have later := readItems_behind items depth outer fuel next _ rest
        (by omega) nextRead
      rw [readItems, read]
      simp only [writtenItems, List.cons_append, List.append_assoc,
        afterBlanks_cons ',' rfl, later, Option.map_some]

theorem readFields_behind (fields : List (String × Json))
    (depth outer fuel : Nat) (name : String) (value : Json)
    (characters rest : List Char)
    (enough : 2 * (writtenFields depth fields).length < fuel)
    (read : readValue fuel characters =
      some (value,
        writtenFields depth fields ++ (lineBreak outer ++ '\x7d' :: rest))) :
    readFields (fuel + 1) (writtenText name ++ ':' :: ' ' :: characters) =
      some ((name, value) :: fields, rest) := by
  have valueRead := (readValue_blank_cons fuel characters).trans read
  cases fields with
  | nil =>
      simp only [readFields, readText_behind_quote,
        afterBlanks_cons '"' rfl, readText_writtenText,
        afterBlanks_cons ':' rfl, valueRead, writtenFields,
        List.nil_append, afterBlanks_lineBreak_append,
        afterBlanks_cons '\x7d' rfl]
  | cons field fields =>
      obtain ⟨nextName, next⟩ := field
      simp only [writtenFields, List.length_append, List.length_cons]
        at enough
      obtain ⟨fuel, rfl⟩ := exists_succ_of_lt enough
      have nextRead := readValue_writtenAt next depth fuel
        (writtenFields depth fields ++ (lineBreak outer ++ '\x7d' :: rest))
        (by omega)
      have later := readFields_behind fields depth outer fuel nextName next _
        rest (by omega) nextRead
      rw [← readFields_lineBreak_append _ depth] at later
      rw [readFields, readText_behind_quote]
      simp only [afterBlanks_cons '"' rfl, readText_writtenText,
        afterBlanks_cons ':' rfl, valueRead, writtenFields,
        List.cons_append, List.append_assoc, List.nil_append,
        afterBlanks_cons ',' rfl, later, Option.map_some]

end

/-- A document comes back from its text, also with an end of the line behind
it. -/
theorem read?_written_append (document : Json) {behind : String}
    (blank : afterBlanks behind.toList = []) :
    read? (document.written ++ behind) = some document := by
  have characters : (document.written ++ behind).toList =
      writtenAt 0 document ++ behind.toList := by
    rw [String.toList_append, written, String.toList_ofList]
  have length : (document.written ++ behind).length =
      (writtenAt 0 document).length + behind.toList.length := by
    rw [← String.length_toList, characters, List.length_append]
  rw [read?, characters, length,
    readValue_writtenAt document 0 _ _ (by omega)]
  simp [blank]

theorem isAscii_hexDigits (width value : Nat) :
    IsAscii (Text.hexDigits width value) := by
  induction width generalizing value with
  | zero => simp [Text.hexDigits, IsAscii]
  | succ width induction =>
      have digit : ∀ number < 16, (Text.hexDigit number).toNat < 0x80 := by
        decide
      rw [Text.hexDigits, isAscii_append, isAscii_cons]
      exact ⟨induction _, digit _ (Nat.mod_lt _ (by decide)), isAscii_nil⟩

theorem isAscii_escapedUnit (unit : Nat) : IsAscii (escapedUnit unit) := by
  rw [escapedUnit, isAscii_cons, isAscii_cons]
  exact ⟨by decide, by decide, isAscii_hexDigits 4 unit⟩

theorem isAscii_escapedChar (character : Char) :
    IsAscii (escapedChar character) := by
  unfold escapedChar
  iterate 7
    split
    · decide
  split
  · rename_i printable
    exact isAscii_cons.mpr ⟨by omega, isAscii_nil⟩
  split
  · exact isAscii_escapedUnit _
  · exact isAscii_append.mpr ⟨isAscii_escapedUnit _, isAscii_escapedUnit _⟩

theorem isAscii_writtenText (content : String) :
    IsAscii (writtenText content) := by
  rw [writtenText, isAscii_append, isAscii_cons, isAscii_cons]
  refine ⟨⟨by decide, ?_⟩, by decide, isAscii_nil⟩
  intro character member
  obtain ⟨written, _, member⟩ := List.mem_flatMap.mp member
  exact isAscii_escapedChar written character member

theorem isAscii_lineBreak (depth : Nat) : IsAscii (lineBreak depth) := by
  intro character member
  rcases List.mem_cons.mp member with rfl | member
  · decide
  · rw [List.eq_of_mem_replicate member]
    decide

mutual

theorem isAscii_writtenAt (document : Json) (depth : Nat) :
    IsAscii (writtenAt depth document) := by
  cases document with
  | text content => exact isAscii_writtenText content
  | array items =>
      cases items with
      | nil => simp [writtenAt]
      | cons item items =>
          simp [writtenAt, isAscii_lineBreak,
            isAscii_writtenAt item (depth + 1),
            isAscii_writtenItems items (depth + 1)]
  | object fields =>
      cases fields with
      | nil => simp [writtenAt]
      | cons field fields =>
          obtain ⟨name, value⟩ := field
          simp [writtenAt, isAscii_lineBreak, isAscii_writtenText,
            isAscii_writtenAt value (depth + 1),
            isAscii_writtenFields fields (depth + 1)]

theorem isAscii_writtenItems (items : List Json) (depth : Nat) :
    IsAscii (writtenItems depth items) := by
  cases items with
  | nil => simp [writtenItems]
  | cons item items =>
      simp [writtenItems, isAscii_lineBreak, isAscii_writtenAt item depth,
        isAscii_writtenItems items depth]

theorem isAscii_writtenFields (fields : List (String × Json))
    (depth : Nat) : IsAscii (writtenFields depth fields) := by
  cases fields with
  | nil => simp [writtenFields]
  | cons field fields =>
      obtain ⟨name, value⟩ := field
      simp [writtenFields, isAscii_lineBreak, isAscii_writtenText,
        isAscii_writtenAt value depth, isAscii_writtenFields fields depth]

end

/-- Different documents are written differently. -/
theorem written_injective {left right : Json}
    (same : left.written = right.written) : left = right := by
  have leftRead : read? (left.written ++ "") = some left :=
    read?_written_append left rfl
  have rightRead : read? (right.written ++ "") = some right :=
    read?_written_append right rfl
  rw [same, rightRead] at leftRead
  exact (Option.some.inj leftRead).symm

end CompilerCalls.Json
