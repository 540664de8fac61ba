import CompilerCalls.DriverName
import CompilerCalls.Proofs.Path.NormalForm
import Mathlib.Computability.Language

/-!
# The language of driver names

The names of drivers are given in three ways: by a search from the end of the
name, by the components between its dashes, and by a regular pattern.  All
three accept the same names.  They meet in `Shaped`: a name which is not bare
ends in a stem that starts a field, or in such a stem and a version behind it.
-/

namespace CompilerCalls

namespace DriverName

open scoped Computability

variable {text word front before earlier version : List Char} {name : String}

/-- One of the words in which the name of a driver ends, apart from a
version. -/
def IsStem (word : List Char) : Prop :=
  word ∈ ["gcc", "mcc", "g++", "m++", "fortran", "gfortran"].map String.toList

def IsNumber (text : List Char) : Prop :=
  text ≠ [] ∧ ∀ digit ∈ text, Text.isDecimalDigit digit = true

/-- One to three numbers with single dots between them. -/
def IsVersion (text : List Char) : Prop :=
  ∃ numbers : List (List Char), numbers ≠ [] ∧ numbers.length ≤ 3 ∧
    (∀ number ∈ numbers, IsNumber number) ∧ text = ['.'].intercalate numbers

/-- A field starts where nothing is written before it, or a dash at last. -/
inductive StartsField : List Char → Prop where
  | nothing : StartsField []
  | dash (before : List Char) : StartsField (before ++ ['-'])

inductive EndsInStem : List Char → Prop where
  | stem {front word : List Char} :
      StartsField front → IsStem word →
      EndsInStem (front ++ word)

/-- A name ends in a stem which starts a field, or in such a stem and a version
behind it. -/
inductive Shaped : List Char → Prop where
  | stem {text : List Char} :
      EndsInStem text →
      Shaped text
  | version {front version : List Char} :
      EndsInStem front → IsVersion version →
      Shaped (front ++ '-' :: version)

theorem isStem_iff : IsStem word ↔ ∃ stem ∈ stems, word = stem.toList := by
  have reordered :
      ["gcc", "mcc", "g++", "m++", "fortran", "gfortran"].Perm stems := by
    decide
  rw [IsStem, (reordered.map String.toList).mem_iff, List.mem_map]
  simp only [@eq_comm _ word]

theorem not_mem_stem (isStem : IsStem word) : '-' ∉ word := by
  have dashless : ∀ stem ∈ stems, '-' ∉ stem.toList := by decide
  obtain ⟨stem, listed, rfl⟩ := isStem_iff.mp isStem
  exact dashless stem listed

theorem IsNumber.not_mem {mark : Char} (isNumber : IsNumber text)
    (notDigit : Text.isDecimalDigit mark = false) : mark ∉ text := by
  intro member
  rw [isNumber.2 mark member] at notDigit
  contradiction

theorem isVersion_iff : isVersion text = true ↔ IsVersion text := by
  have counted : isVersion text = true ↔
      (text.splitOn '.').length ≤ 3 ∧
        ∀ number ∈ text.splitOn '.', IsNumber number := by
    simp [isVersion, IsNumber, Text.split_singleton]
  rw [counted]
  constructor
  · intro accepted
    exact ⟨text.splitOn '.', List.splitOn_ne_nil _ _, accepted.1, accepted.2,
      (List.intercalate_splitOn '.').symm⟩
  · intro isVersion
    obtain ⟨numbers, nonempty, atMostThree, areNumbers, rfl⟩ := isVersion
    have dotless : ∀ number ∈ numbers, '.' ∉ number := by
      intro number member
      exact (areNumbers number member).not_mem (by decide)
    rw [List.splitOn_intercalate '.' dotless nonempty]
    exact ⟨atMostThree, areNumbers⟩

theorem not_mem_version (isVersion : IsVersion version) : '-' ∉ version := by
  obtain ⟨numbers, _, _, areNumbers, rfl⟩ := isVersion
  have dashless : ∀ number ∈ numbers, '-' ∉ number := by
    intro number member
    exact (areNumbers number member).not_mem (by decide)
  clear * - dashless
  induction numbers with
  | nil => simp
  | cons number rest induction =>
      obtain ⟨absent, absentLater⟩ := List.forall_mem_cons.mp dashless
      by_cases last : rest = []
      · simpa [last] using absent
      · rw [List.intercalate_cons_of_ne_nil last]
        simp [absent, induction absentLater]

theorem StartsField.behind_dash (starts : StartsField front) :
    StartsField (before ++ '-' :: front) := by
  cases starts with
  | nothing => exact .dash before
  | dash earlier =>
      have written : before ++ '-' :: (earlier ++ ['-']) =
          (before ++ '-' :: earlier) ++ ['-'] := by simp
      rw [written]
      exact .dash _

theorem EndsInStem.behind_dash (ends : EndsInStem text) :
    EndsInStem (before ++ '-' :: text) := by
  cases ends with
  | @stem front word starts isStem =>
      have written : before ++ '-' :: (front ++ word) =
          (before ++ '-' :: front) ++ word := by simp
      rw [written]
      exact .stem starts.behind_dash isStem

/-- Fields in front of a name do not change how it ends. -/
theorem Shaped.behind_dash (shaped : Shaped text) :
    Shaped (before ++ '-' :: text) := by
  cases shaped with
  | stem ends => exact .stem ends.behind_dash
  | @version front version ends isVersion =>
      have written : before ++ '-' :: (front ++ '-' :: version) =
          (before ++ '-' :: front) ++ '-' :: version := by simp
      rw [written]
      exact .version ends.behind_dash isVersion

/-! ## The search from the end -/

theorem isFieldBoundary_reverse :
    isFieldBoundary front.reverse = true ↔ StartsField front := by
  rcases List.eq_nil_or_concat front with rfl | ⟨before, last, rfl⟩
  · exact ⟨fun _ => .nothing, fun _ => rfl⟩
  · have boundary : isFieldBoundary (before ++ [last]).reverse = true ↔
        last = '-' := by
      simp [isFieldBoundary]
    rw [List.concat_eq_append, boundary]
    constructor
    · intro isDash
      rw [isDash]
      exact .dash before
    · intro starts
      generalize written : before ++ [last] = whole at starts
      cases starts with
      | nothing => simp at written
      | dash other =>
          obtain ⟨_, same⟩ := List.append_inj' written rfl
          exact List.singleton_inj.mp same

theorem endsInStem_reverse :
    endsInStem text.reverse = true ↔ EndsInStem text := by
  have behind_stem (front : List Char) (stem : String) :
      (front ++ stem.toList).reverse.drop stem.length = front.reverse := by
    rw [List.reverse_append]
    apply List.drop_left'
    simp [String.length_toList]
  simp only [endsInStem, List.any_eq_true, Bool.and_eq_true,
    List.isPrefixOf_iff_prefix, List.reverse_prefix]
  constructor
  · intro found
    obtain ⟨stem, listed, ⟨front, rfl⟩, boundary⟩ := found
    rw [behind_stem] at boundary
    apply EndsInStem.stem
    · exact isFieldBoundary_reverse.mp boundary
    · exact isStem_iff.mpr ⟨stem, listed, rfl⟩
  · intro ends
    cases ends with
    | @stem front word starts isStem =>
        obtain ⟨stem, listed, rfl⟩ := isStem_iff.mp isStem
        refine ⟨stem, listed, List.suffix_append _ _, ?_⟩
        rw [behind_stem]
        exact isFieldBoundary_reverse.mpr starts

theorem beforeVersion?_reverse_eq_some_iff :
    beforeVersion? text.reverse = some earlier ↔
      ∃ version, text = earlier.reverse ++ '-' :: version ∧
        IsVersion version := by
  constructor
  · intro found
    unfold beforeVersion? at found
    split at found
    · contradiction
    · rename_i dash behind dropped
      split at found
      · rename_i accepted
        obtain rfl := Option.some.inj found
        have notEmpty : text.reverse.dropWhile (· != '-') ≠ [] := by
          simp [dropped]
        have isDash : dash = '-' := by
          simpa [dropped] using List.head_dropWhile_not (· != '-') notEmpty
        have parts := List.takeWhile_append_dropWhile (p := (· != '-'))
          (l := text.reverse)
        rw [dropped, isDash] at parts
        refine ⟨_, ?_, isVersion_iff.mp accepted⟩
        simpa using congrArg List.reverse parts.symm
      · contradiction
  · intro written
    obtain ⟨version, rfl, isVersion⟩ := written
    have dashless : ∀ character ∈ version.reverse,
        (character != '-') = true := by
      intro character member
      have different := ne_of_mem_of_not_mem (List.mem_reverse.mp member)
        (not_mem_version isVersion)
      simpa using different
    have parts : (earlier.reverse ++ '-' :: version).reverse =
        version.reverse ++ '-' :: earlier := by simp
    rw [parts, beforeVersion?, List.dropWhile_append_of_pos dashless,
      List.takeWhile_append_of_pos dashless]
    simp [isVersion_iff.mpr isVersion]

/-- The search from the end finds the bare names and the shaped ones. -/
theorem accepts_iff :
    accepts name = true ↔ name ∈ bareNames ∨ Shaped name.toList := by
  have shaped_iff : Shaped name.toList ↔
      endsInStem name.toList.reverse = true ∨
        (beforeVersion? name.toList.reverse).any endsInStem = true := by
    simp only [endsInStem_reverse, Option.any_eq_true,
      beforeVersion?_reverse_eq_some_iff]
    constructor
    · intro shaped
      generalize name.toList = text at shaped
      cases shaped with
      | stem ends => exact Or.inl ends
      | @version front version ends isVersion =>
          right
          refine ⟨front.reverse, ⟨version, by simp, isVersion⟩, ?_⟩
          exact endsInStem_reverse.mpr ends
    · intro found
      rcases found with ends | ⟨earlier, ⟨version, parts, isVersion⟩, ends⟩
      · exact .stem ends
      · rw [parts]
        rw [← List.reverse_reverse earlier, endsInStem_reverse] at ends
        exact .version ends isVersion
  rw [shaped_iff, accepts, Bool.or_eq_true, Bool.or_eq_true,
    List.contains_iff_mem, or_assoc]

/-! ## The components between dashes -/

/-- The last component of a name is a stem, or it is a version and the one
before it is a stem. -/
inductive OfDriver : List (List Char) → Prop where
  | stem {before : List (List Char)} {stem : List Char} :
      IsStem stem →
      OfDriver (before ++ [stem])
  | version {before : List (List Char)} {stem version : List Char} :
      IsStem stem → IsVersion version →
      OfDriver (before ++ [stem, version])

theorem endsInStem_iff_splitOn :
    EndsInStem text ↔
      ∃ before stem, text.splitOn '-' = before ++ [stem] ∧ IsStem stem := by
  constructor
  · intro ends
    cases ends with
    | @stem front word starts isStem =>
        have dashless := not_mem_stem isStem
        cases starts with
        | nothing =>
            exact ⟨[], word, List.splitOn_eq_singleton dashless, isStem⟩
        | dash before =>
            have cuts := Text.splitOn_eq_concat_iff.mpr
              ⟨dashless, Or.inr ⟨before, rfl, rfl⟩⟩
            refine ⟨before.splitOn '-', word, ?_, isStem⟩
            simpa using cuts
  · intro cut
    obtain ⟨segments, stem, cuts, isStem⟩ := cut
    obtain ⟨_, ⟨_, rfl⟩ | ⟨before, rfl, _⟩⟩ :=
      Text.splitOn_eq_concat_iff.mp cuts
    · exact .stem .nothing isStem
    · rw [← List.singleton_append, ← List.append_assoc]
      exact .stem (.dash before) isStem

theorem ofDriver_splitOn_iff : OfDriver (text.splitOn '-') ↔ Shaped text := by
  constructor
  · intro ofDriver
    generalize cuts : text.splitOn '-' = components at ofDriver
    cases ofDriver with
    | stem isStem =>
        exact .stem (endsInStem_iff_splitOn.mpr ⟨_, _, cuts, isStem⟩)
    | @version before stem version isStem isVersion =>
        have lastApart :
            text.splitOn '-' = (before ++ [stem]) ++ [version] := by
          rw [cuts]
          simp
        obtain ⟨_, ⟨noFields, _⟩ | ⟨front, rfl, frontCuts⟩⟩ :=
          Text.splitOn_eq_concat_iff.mp lastApart
        · simp at noFields
        · apply Shaped.version
          · exact endsInStem_iff_splitOn.mpr ⟨before, stem, frontCuts, isStem⟩
          · exact isVersion
  · intro shaped
    cases shaped with
    | stem ends =>
        obtain ⟨before, stem, cuts, isStem⟩ := endsInStem_iff_splitOn.mp ends
        rw [cuts]
        exact .stem isStem
    | @version front version ends isVersion =>
        obtain ⟨before, stem, cuts, isStem⟩ := endsInStem_iff_splitOn.mp ends
        have lastApart := Text.splitOn_eq_concat_iff.mpr
          ⟨not_mem_version isVersion, Or.inr ⟨front, rfl, cuts⟩⟩
        rw [lastApart, List.append_assoc]
        exact .version isStem isVersion

/-! ## The regular pattern -/

/-- One character of a class. -/
def oneOf (isAllowed : Char → Bool) : Language Char :=
  {text | ∃ character, isAllowed character = true ∧ text = [character]}

def exactly (text : String) : Language Char := {text.toList}

/-- Any number of fields, each of them with the dash behind it. -/
def fields : Language Char := ((oneOf (· != '-'))∗ * exactly "-")∗

def number : Language Char :=
  oneOf Text.isDecimalDigit * (oneOf Text.isDecimalDigit)∗

def versionTail : Language Char :=
  let dotted := exactly "." * number
  exactly "-" * (number * (1 + dotted + dotted ^ 2))

/-- The names which end in some word, with a version behind it or without. -/
def endingIn (word : Language Char) : Language Char :=
  fields * word * (1 + versionTail)

/-- The names of drivers, bare ones first. -/
def pattern : Language Char :=
  (exactly "cc" + exactly "c++" + exactly "cxx" + exactly "CC") +
    endingIn ((exactly "m" + exactly "g") * exactly "cc") +
    endingIn ((exactly "m" + exactly "g") * exactly "++") +
    endingIn ((1 + exactly "g") * exactly "fortran")

theorem mem_exactly : text ∈ exactly name ↔ text = name.toList := Iff.rfl

theorem mem_kstar_oneOf {isAllowed : Char → Bool} :
    text ∈ (oneOf isAllowed)∗ ↔
      ∀ character ∈ text, isAllowed character = true := by
  constructor
  · intro matched
    obtain ⟨parts, rfl, areSingle⟩ := matched
    intro character member
    obtain ⟨part, partMember, inPart⟩ := List.mem_flatten.mp member
    obtain ⟨single, allowed, rfl⟩ := areSingle part partMember
    rwa [List.mem_singleton.mp inPart]
  · intro allowed
    refine ⟨text.map fun character => [character], ?_, ?_⟩
    · rw [← List.flatMap_def, List.flatMap_singleton']
    · intro part member
      obtain ⟨character, characterMember, rfl⟩ := List.mem_map.mp member
      exact ⟨character, allowed character characterMember, rfl⟩

theorem flatten_map_append_singleton {mark : Char}
    {segments : List (List Char)} (nonempty : segments ≠ []) :
    (segments.map (· ++ [mark])).flatten =
      [mark].intercalate segments ++ [mark] := by
  induction segments with
  | nil => contradiction
  | cons segment rest induction =>
      by_cases last : rest = []
      · simp [last]
      · rw [List.intercalate_cons_of_ne_nil last, List.map_cons,
          List.flatten_cons, induction last]
        simp

theorem mem_fields_iff : text ∈ fields ↔ StartsField text := by
  constructor
  · intro matched
    obtain ⟨parts, rfl, areFields⟩ := matched
    rcases List.eq_nil_or_concat parts with rfl | ⟨earlier, last, rfl⟩
    · exact .nothing
    · obtain ⟨field, _, dash, isDash, rfl⟩ := areFields last (by simp)
      obtain rfl := mem_exactly.mp isDash
      have written : (earlier ++ [field ++ "-".toList]).flatten =
          (earlier.flatten ++ field) ++ ['-'] := by simp
      rw [List.concat_eq_append, written]
      exact .dash _
  · intro starts
    cases starts with
    | nothing => exact Language.nil_mem_kstar _
    | dash before =>
        refine ⟨(before.splitOn '-').map (· ++ ['-']), ?_, ?_⟩
        · rw [flatten_map_append_singleton (List.splitOn_ne_nil _ _),
            List.intercalate_splitOn]
        · intro part member
          obtain ⟨field, fieldMember, rfl⟩ := List.mem_map.mp member
          rw [← Text.split_singleton] at fieldMember
          have dashless := Text.not_mem_of_mem_split_singleton fieldMember
          apply Language.append_mem_mul
          · apply mem_kstar_oneOf.mpr
            intro character characterMember
            simpa using ne_of_mem_of_not_mem characterMember dashless
          · exact mem_exactly.mpr rfl

theorem mem_number_iff : text ∈ number ↔ IsNumber text := by
  constructor
  · intro matched
    obtain ⟨_, ⟨first, isDigit, rfl⟩, rest, areDigits, rfl⟩ := matched
    constructor
    · simp
    · simpa [isDigit] using mem_kstar_oneOf.mp areDigits
  · intro isNumber
    obtain ⟨first, rest, rfl⟩ := List.exists_cons_of_ne_nil isNumber.1
    obtain ⟨isDigit, areDigits⟩ := List.forall_mem_cons.mp isNumber.2
    exact ⟨[first], ⟨first, isDigit, rfl⟩, rest,
      mem_kstar_oneOf.mpr areDigits, rfl⟩

theorem mem_dotted_iff :
    text ∈ exactly "." * number ↔ ∃ later ∈ number, text = '.' :: later := by
  rw [Language.mem_mul]
  constructor
  · intro matched
    obtain ⟨dot, isDot, later, isNumber, rfl⟩ := matched
    obtain rfl := mem_exactly.mp isDot
    exact ⟨later, isNumber, rfl⟩
  · intro written
    obtain ⟨later, isNumber, rfl⟩ := written
    exact ⟨['.'], rfl, later, isNumber, rfl⟩

/-- Up to two numbers stand behind the first one, each of them with its dot. -/
theorem mem_numbers_iff :
    text ∈ number * (1 + exactly "." * number + (exactly "." * number) ^ 2) ↔
      IsVersion text := by
  rw [Language.mem_mul]
  simp only [IsVersion, ← mem_number_iff, Language.mem_add, Language.mem_one,
    pow_two]
  constructor
  · intro matched
    obtain ⟨first, isFirst, more, (rfl | single) | pair, rfl⟩ := matched
    · exact ⟨[first], by simp, by simp, by simpa using isFirst, by simp⟩
    · obtain ⟨second, isSecond, rfl⟩ := mem_dotted_iff.mp single
      exact ⟨[first, second], by simp, by simp,
        by simpa using ⟨isFirst, isSecond⟩, by simp⟩
    · obtain ⟨_, former, _, latter, rfl⟩ := Language.mem_mul.mp pair
      obtain ⟨second, isSecond, rfl⟩ := mem_dotted_iff.mp former
      obtain ⟨third, isThird, rfl⟩ := mem_dotted_iff.mp latter
      exact ⟨[first, second, third], by simp, by simp,
        by simpa using ⟨isFirst, isSecond, isThird⟩, by simp⟩
  · intro isVersion
    obtain ⟨numbers, nonempty, atMostThree, areNumbers, rfl⟩ := isVersion
    match numbers with
    | [first] =>
        exact ⟨first, by simpa using areNumbers, [], by simp, by simp⟩
    | [first, second] =>
        obtain ⟨isFirst, isSecond⟩ : first ∈ number ∧ second ∈ number := by
          simpa using areNumbers
        have single := mem_dotted_iff.mpr ⟨second, isSecond, rfl⟩
        exact ⟨first, isFirst, '.' :: second, Or.inl (Or.inr single),
          by simp⟩
    | [first, second, third] =>
        obtain ⟨isFirst, isSecond, isThird⟩ :
            first ∈ number ∧ second ∈ number ∧ third ∈ number := by
          simpa using areNumbers
        have pair := Language.append_mem_mul
          (mem_dotted_iff.mpr ⟨second, isSecond, rfl⟩)
          (mem_dotted_iff.mpr ⟨third, isThird, rfl⟩)
        exact ⟨first, isFirst, _, Or.inr pair, by simp⟩

theorem mem_versionTail_iff :
    text ∈ versionTail ↔
      ∃ version, text = '-' :: version ∧ IsVersion version := by
  rw [versionTail, Language.mem_mul]
  constructor
  · intro matched
    obtain ⟨dash, isDash, version, areNumbers, rfl⟩ := matched
    obtain rfl := mem_exactly.mp isDash
    exact ⟨version, rfl, mem_numbers_iff.mp areNumbers⟩
  · intro written
    obtain ⟨version, rfl, isVersion⟩ := written
    exact ⟨['-'], rfl, version, mem_numbers_iff.mpr isVersion, rfl⟩

theorem exactly_mul (front behind : String) :
    exactly front * exactly behind = exactly (front ++ behind) := by
  ext text
  simp only [Language.mem_mul, mem_exactly, String.toList_append]
  constructor
  · intro matched
    obtain ⟨_, rfl, _, rfl, rfl⟩ := matched
    rfl
  · intro written
    exact ⟨_, rfl, _, rfl, written.symm⟩

theorem endingIn_add (word other : Language Char) :
    endingIn (word + other) = endingIn word + endingIn other := by
  simp only [endingIn, mul_add fields, add_mul]

/-- The stems in which the three last alternatives of the pattern end. -/
def stemPattern : Language Char :=
  (exactly "m" + exactly "g") * exactly "cc" +
    (exactly "m" + exactly "g") * exactly "++" +
    (1 + exactly "g") * exactly "fortran"

theorem mem_stemPattern_iff : word ∈ stemPattern ↔ IsStem word := by
  have spelled : stemPattern =
      (exactly "mcc" + exactly "gcc") + (exactly "m++" + exactly "g++") +
        (exactly "fortran" + exactly "gfortran") := by
    simp only [stemPattern, add_mul, one_mul, exactly_mul]
    rfl
  simp only [spelled, Language.mem_add, mem_exactly, IsStem, List.map_cons,
    List.map_nil, List.mem_cons, List.not_mem_nil, or_false]
  -- Both sides list the same six words.
  simp only [or_assoc, or_comm, or_left_comm]

theorem mem_fields_mul_stemPattern_iff :
    text ∈ fields * stemPattern ↔ EndsInStem text := by
  simp only [Language.mem_mul, mem_fields_iff, mem_stemPattern_iff]
  constructor
  · intro matched
    obtain ⟨front, starts, stem, isStem, rfl⟩ := matched
    exact .stem starts isStem
  · intro ends
    cases ends with
    | stem starts isStem => exact ⟨_, starts, _, isStem, rfl⟩

theorem mem_endingIn_iff : text ∈ endingIn stemPattern ↔ Shaped text := by
  rw [endingIn, mul_add, mul_one, Language.mem_add, Language.mem_mul]
  constructor
  · intro matched
    rcases matched with ends | ⟨front, ends, tail, isTail, rfl⟩
    · exact .stem (mem_fields_mul_stemPattern_iff.mp ends)
    · obtain ⟨version, rfl, isVersion⟩ := mem_versionTail_iff.mp isTail
      exact .version (mem_fields_mul_stemPattern_iff.mp ends) isVersion
  · intro shaped
    cases shaped with
    | stem ends =>
        left
        exact mem_fields_mul_stemPattern_iff.mpr ends
    | version ends isVersion =>
        right
        have isTail := mem_versionTail_iff.mpr ⟨_, rfl, isVersion⟩
        exact ⟨_, mem_fields_mul_stemPattern_iff.mpr ends, _, isTail, rfl⟩

/-- The search from the end accepts what the regular pattern matches. -/
theorem accepts_iff_mem_pattern :
    accepts name = true ↔ name.toList ∈ pattern := by
  have endings : pattern =
      (exactly "cc" + exactly "c++" + exactly "cxx" + exactly "CC") +
        endingIn stemPattern := by
    simp only [pattern, stemPattern, endingIn_add, add_assoc]
  have bare : name.toList ∈
      exactly "cc" + exactly "c++" + exactly "cxx" + exactly "CC" ↔
        name ∈ bareNames := by
    simp only [Language.mem_add, mem_exactly, String.toList_inj, bareNames,
      List.mem_cons, List.not_mem_nil, or_false, or_assoc]
  rw [accepts_iff, endings, Language.mem_add, bare, mem_endingIn_iff]

/-- Fields which end in a dash make a name of their own in front of any
name. -/
theorem isName_behind_dash {path : Path} (noSlash : '/' ∉ name.toList)
    (dashLast : name.toList.getLast? = some '-') :
    IsName (name ++ path.name) := by
  have holdsDash : '-' ∈ (name ++ path.name).toList := by
    rw [String.toList_append]
    exact List.mem_append_left _ (List.mem_of_getLast? dashLast)
  refine ⟨?_, ?_, ?_⟩
  · intro empty
    simp [empty] at holdsDash
  · intro dot
    simp [dot] at holdsDash
  · simpa [String.toList_append] using
      not_or.mpr ⟨noSlash, path.slash_not_mem_name⟩

end DriverName

/-- The last name of a path decides whether the path names a driver.  It is a
bare name, or it ends in the components of a driver; these are the names which
the regular pattern matches.  Any fields may be written in front of one that is
not bare, if they end in a dash. -/
theorem Path.namesDriver_iff_components (path : Path) :
    (path.namesDriver = true ↔
      path.name ∈ ["cc", "c++", "cxx", "CC"] ∨
        DriverName.OfDriver (path.name.toList.splitOn '-')) ∧
    (∀ other : Path, other.name = path.name →
      other.namesDriver = path.namesDriver) ∧
    (path.namesDriver = true → path.name ∉ ["cc", "c++", "cxx", "CC"] →
      ∀ front : String, '/' ∉ front.toList → front.toList.getLast? = some '-' →
        (Path.ofString (front ++ path.name)).name = front ++ path.name ∧
          (Path.ofString (front ++ path.name)).namesDriver = true) ∧
    (path.namesDriver = true ↔ path.name.toList ∈ DriverName.pattern) := by
  have recognized {name : String} : DriverName.accepts name = true ↔
      name ∈ DriverName.bareNames ∨ DriverName.Shaped name.toList :=
    DriverName.accepts_iff
  unfold namesDriver
  refine ⟨?_, ?_, ?_, DriverName.accepts_iff_mem_pattern⟩
  · rw [DriverName.ofDriver_splitOn_iff]
    exact recognized
  · intro other same
    rw [same]
  · intro accepted notBare front noSlash dashLast
    have shaped := (recognized.mp accepted).resolve_left notBare
    obtain ⟨before, parts⟩ := List.getLast?_eq_some_iff.mp dashLast
    have written : (front ++ path.name).toList =
        before ++ '-' :: path.name.toList := by
      simp [String.toList_append, parts]
    rw [name_ofString (DriverName.isName_behind_dash noSlash dashLast)]
    refine ⟨rfl, recognized.mpr (Or.inr ?_)⟩
    rw [written]
    exact shaped.behind_dash

theorem Path.namesDriver_iff_components_versioned :
    let path := Path.ofString "/usr/bin/x86_64-linux-gnu-g++-11.2.0"
    DriverName.OfDriver (path.name.toList.splitOn '-') ∧
      (Path.ofString ("-ccache--" ++ path.name)).namesDriver = true := by
  intro path
  obtain ⟨components, _, before, _⟩ := path.namesDriver_iff_components
  have accepted : path.namesDriver = true := by decide +kernel
  have notBare : path.name ∉ ["cc", "c++", "cxx", "CC"] := by decide +kernel
  constructor
  · exact (components.mp accepted).resolve_left notBare
  · exact (before accepted notBare "-ccache--" (by decide) (by decide)).2

end CompilerCalls
