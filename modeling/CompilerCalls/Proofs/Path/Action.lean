import CompilerCalls.CommandLine.Run
import CompilerCalls.Proofs.Path.Spelling

/-!
# Paths act on directories

A path which is looked up in a directory gives a place, in which another path
can be looked up.  That is the same as looking up both of them, joined, in the
first directory.  What is absolute stays where it is, so a path which has been
looked up once can be written, read, and looked up anywhere.
-/

namespace CompilerCalls

namespace Path

variable {path directory : Path}

theorem join_of_relative (directory : Path) (relative : path.anchor = .relative) :
    (directory.join path).anchor = directory.anchor ∧
      (directory.join path).names = directory.names ++ path.names := by
  simp [join, relative]

theorem isAbsolute_join_eq (directory path : Path) :
    (directory.join path).isAbsolute =
      (directory.isAbsolute || path.isAbsolute) := by
  cases absolute : path.isAbsolute with
  | true => rw [join_of_isAbsolute directory absolute, absolute, Bool.or_true]
  | false =>
      have relative : path.anchor = .relative := by
        simpa [isAbsolute] using absolute
      have anchor := (join_of_relative directory relative).1
      rw [Bool.or_false, isAbsolute, anchor, isAbsolute]

/-- Joining does not depend on where it is begun. -/
theorem join_assoc (first second third : Path) :
    (first.join second).join third = first.join (second.join third) := by
  cases thirdAbsolute : third.isAbsolute with
  | true => simp only [join_of_isAbsolute _ thirdAbsolute]
  | false =>
      have thirdRelative : third.anchor = .relative := by
        simpa [isAbsolute] using thirdAbsolute
      have behind := join_of_relative second thirdRelative
      cases secondAbsolute : second.isAbsolute with
      | true =>
          -- An absolute path in the middle hides what is in front of it.
          have absolute : (second.join third).isAbsolute = true :=
            isAbsolute_join third secondAbsolute
          rw [join_of_isAbsolute first secondAbsolute,
            join_of_isAbsolute first absolute]
      | false =>
          have secondRelative : second.anchor = .relative := by
            simpa [isAbsolute] using secondAbsolute
          have front := join_of_relative first secondRelative
          have left := join_of_relative (first.join second) thirdRelative
          have right := join_of_relative first (behind.1.trans secondRelative)
          apply eq_of_names
          · rw [left.1, front.1, right.1]
          · rw [left.2, front.2, right.2, behind.2, List.append_assoc]

/-- Looking up a path in the place of another one is looking up both of them,
joined. -/
theorem absoluteIn_absoluteIn (path other directory : Path) :
    path.absoluteIn (other.absoluteIn directory) =
      (other.join path).absoluteIn directory := by
  rw [absoluteIn_eq_join, absoluteIn_eq_join, absoluteIn_eq_join, join_assoc]

theorem absoluteIn_of_isAbsolute (absolute : path.isAbsolute = true) :
    path.absoluteIn directory = path := by
  rw [absoluteIn, if_pos absolute]

/-- A slash between two written paths joins them, if the first one is more
than a root and the second one is relative. -/
theorem ofString_append_slash_append {before after : String}
    (more : HoldsMore before.toList)
    (relative : (ofString after).anchor = .relative) :
    ofString (before ++ "/" ++ after) =
      (ofString before).join (ofString after) := by
  have joined := join_of_relative (ofString before) relative
  apply eq_of_names
  · rw [joined.1]
    simp only [ofString, String.toList_append, List.append_assoc]
    exact Anchor.ofText_append_of_holdsMore more _
  · rw [joined.2]
    exact namesOf_append_slash_append before after

/-- What is said about two written paths and a directory. -/
structure ActsOn (first second : String) (directory : Path) : Prop where
  /-- A slash between a path and a relative one joins them. -/
  spelled : HoldsMore first.toList → (ofString second).anchor = .relative →
    ofString (first ++ "/" ++ second) = (ofString first).join (ofString second)
  /-- To look up one path in the place of the other is to look up both. -/
  joined : (ofString second).absoluteIn ((ofString first).absoluteIn directory) =
    ((ofString first).join (ofString second)).absoluteIn directory
  /-- Only a relative path in a relative directory has no place of its own. -/
  absolute : ((ofString second).absoluteIn directory).isAbsolute =
    (directory.isAbsolute || (ofString second).isAbsolute)
  /-- A place is written, read again, and looked up anywhere. -/
  settled : directory.isAbsolute = true → ∀ other,
    (ofString ((ofString second).absoluteIn directory).toString).absoluteIn
      other = (ofString second).absoluteIn directory
  /-- A path which is written and read again leads to the same place. -/
  reread : (ofString (ofString second).toString).absoluteIn directory =
    (ofString second).absoluteIn directory
  /-- A path in a settings file leads where a source leads. -/
  listed : Settings.listedPath directory second =
    (ofString second).absoluteIn directory
  /-- A source of a call in a given directory is looked up in the current one,
  behind the given path. -/
  source : ∀ (surroundings : Surroundings) (word : String) (rest : List String)
    (flags : List Flag) (entry : Entry), surroundings.current = directory →
    (Run.callIn surroundings word rest (some (ofString first))).entryFor flags
      second = .ok entry →
    entry.file = ((ofString first).join (ofString second)).absoluteIn directory

theorem file_of_entryFor {call : Call} {flags : List Flag} {source : String}
    {entry : Entry} (answered : call.entryFor flags source = .ok entry) :
    entry.file = (ofString source).absoluteIn call.directory := by
  unfold Call.entryFor at answered
  cases named : Flags.output? flags with
  | error fault => simp [named, bind, Except.bind] at answered
  | ok output? =>
      cases rebuilt : Flags.wordsFor source flags with
      | error fault => simp [named, rebuilt, bind, Except.bind] at answered
      | ok words =>
          simp only [named, rebuilt, bind, Except.bind, pure, Except.pure,
            Except.ok.injEq] at answered
          rw [← answered]

/-- Written paths act on directories. -/
theorem written_paths_act (first second : String) (directory : Path) :
    ActsOn first second directory := by
  constructor
  · exact ofString_append_slash_append
  · exact absoluteIn_absoluteIn _ _ directory
  · rw [absoluteIn_eq_join]
    exact isAbsolute_join_eq directory _
  · intro absolute other
    rw [ofString_toString]
    apply absoluteIn_of_isAbsolute
    exact isAbsolute_absoluteIn _ absolute
  · rw [ofString_toString]
  · rw [Settings.listedPath, absoluteIn_eq_join]
  · intro surroundings word rest flags entry current answered
    rw [file_of_entryFor answered, ← current]
    exact absoluteIn_absoluteIn _ _ surroundings.current

end Path

end CompilerCalls
