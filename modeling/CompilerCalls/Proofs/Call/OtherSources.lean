import CompilerCalls.Proofs.Call.SingleSource

/-!
# Other sources have no say

Leaving the other sources out of a call changes nothing for a source which
stays.  The remaining words are read as before, no source stops a call, makes
it link, or says where the output goes, and the call for one source leaves the
others out in any case.
-/

namespace CompilerCalls

private theorem map_snd_filter_zip_map {α β : Type} (items : List α)
    (answer : α → β) (keep : α → Bool) :
    ((items.zip (items.map answer)).filter (keep ·.1)).map Prod.snd =
      (items.filter keep).map answer := by
  rw [← List.map_prod_left_eq_zip, List.filter_map, List.map_map]
  rfl

namespace Flag

/-- The flag does not name a source, or it names the given one. -/
def namesNoOther (source : String) (flag : Flag) : Bool :=
  flag.namedSource?.all (· == source)

variable {flag : Flag} {source : String}

theorem namesNoOther_of_category (notSource : flag.category ≠ .source) :
    flag.namesNoOther source = true := by
  simp [namesNoOther, namedSource?, notSource]

theorem category_ne_source_of_stops (stops : flag.stops = true) :
    flag.category ≠ .source := by
  intro isSource
  simp [Flag.stops, isSource] at stops

theorem namesNoOther_of_keptFor (kept : flag.keptFor source = true) :
    flag.namesNoOther source = true := by
  simp only [keptFor, Bool.and_eq_true] at kept
  exact kept.2

end Flag

namespace Flags

/-- The flags without those which name another source. -/
def withoutOthers (source : String) (flags : List Flag) : List Flag :=
  flags.filter (Flag.namesNoOther source)

variable {source : String} {flags : List Flag} {property : Flag → Bool}

theorem find?_withoutOthers
    (elsewhere : ∀ flag, property flag = true → flag.category ≠ .source) :
    (withoutOthers source flags).find? property = flags.find? property := by
  unfold withoutOthers
  rw [List.find?_filter]
  congr 1
  funext flag
  cases holds : property flag with
  | false => simp
  | true => simp [Flag.namesNoOther_of_category (elsewhere flag holds)]

theorem any_withoutOthers
    (elsewhere : ∀ flag, property flag = true → flag.category ≠ .source) :
    (withoutOthers source flags).any property = flags.any property := by
  rw [← List.isSome_find?, ← List.isSome_find?, find?_withoutOthers elsewhere]

theorem namedSources_withoutOthers (source : String) (flags : List Flag) :
    namedSources (withoutOthers source flags) =
      (namedSources flags).filter (· == source) := by
  unfold namedSources withoutOthers
  rw [List.filterMap_filter, List.filter_filterMap]
  congr 1
  funext flag
  cases named : flag.namedSource? with
  | none => simp [Flag.namesNoOther, named]
  | some other =>
      by_cases same : other = source <;>
        simp [Flag.namesNoOther, named, same, Option.filter]

/-- A call which names the source has flags left, and a source never stops
it. -/
theorem compiles_withoutOthers (named : source ∈ namedSources flags) :
    compiles (withoutOthers source flags) = compiles flags := by
  have nonempty : ∀ flags : List Flag, source ∈ namedSources flags →
      flags.isEmpty = false := by
    rintro (_ | ⟨flag, rest⟩) member
    · contradiction
    · rfl
  have stillNamed : source ∈ namedSources (withoutOthers source flags) := by
    rw [namedSources_withoutOthers]
    exact List.mem_filter.mpr ⟨named, beq_self_eq_true source⟩
  unfold compiles
  rw [nonempty _ stillNamed, nonempty _ named, ← List.not_any_eq_all_not,
    ← List.not_any_eq_all_not,
    any_withoutOthers fun _ => Flag.category_ne_source_of_stops]

theorem outputWord?_withoutOthers (source : String) (flags : List Flag) :
    outputWord? (withoutOthers source flags) = outputWord? flags := by
  unfold outputWord?
  rw [find?_withoutOthers]
  intro flag isOutput isSource
  simp [isSource] at isOutput

theorem rebuilt_withoutOthers (source : String) (flags : List Flag) :
    rebuilt source (withoutOthers source flags) = rebuilt source flags := by
  have guarded : guardFlags (withoutOthers source flags) =
      guardFlags flags := by
    unfold guardFlags
    rw [any_withoutOthers]
    intro flag isNoLinking isSource
    simp [isSource] at isNoLinking
  have kept : (withoutOthers source flags).filter (Flag.keptFor source) =
      flags.filter (Flag.keptFor source) := by
    unfold withoutOthers
    rw [List.filter_filter]
    congr 1
    funext flag
    cases kept : flag.keptFor source with
    | false => rfl
    | true => simp [Flag.namesNoOther_of_keptFor kept]
  rw [rebuilt, rebuilt, guarded, kept]

end Flags

namespace Call

/-- The call with the words of all other sources left out.  The name of the
program, the directory, and the environment stay. -/
def withoutOthers (call : Call) (source : String) : Call :=
  { call with
    words := call.words.head call.words_ne_nil ::
      Flags.words (Flags.withoutOthers source call.flags)
    words_ne_nil := List.cons_ne_nil _ _ }

theorem flags_withoutOthers (call : Call) (source : String) :
    (call.withoutOthers source).flags =
      Flags.withoutOthers source call.flags :=
  (call.reads_flags.sublist List.filter_sublist).parse_eq

theorem entry_withoutOthers (call : Call) (source : String) :
    (call.withoutOthers source).entry
        (Flags.withoutOthers source call.flags) source =
      call.entry call.flags source := by
  simp only [entry, Flags.outputWord?_withoutOthers,
    Flags.rebuilt_withoutOthers]
  rfl

theorem entries_withoutOthers_eq (call : Call) (source : String) :
    (call.withoutOthers source).entries =
      .ok (if Flags.compiles call.flags then
        ((Flags.namedSources call.flags).filter (· == source)).map
          (call.entry call.flags) else []) := by
  have sameEntries :
      ((Flags.namedSources call.flags).filter (· == source)).map
          ((call.withoutOthers source).entry
            (Flags.withoutOthers source call.flags)) =
        ((Flags.namedSources call.flags).filter (· == source)).map
          (call.entry call.flags) := by
    apply List.map_congr_left
    intro other member
    obtain rfl : other = source := by
      simpa using (List.mem_filter.mp member).2
    exact call.entry_withoutOthers other
  rw [entries_eq, flags_withoutOthers, Flags.namedSources_withoutOthers,
    sameEntries]
  by_cases named : source ∈ Flags.namedSources call.flags
  · rw [Flags.compiles_withoutOthers named]
  · -- Without the source there may be no flags left, but no entry either.
    have unnamed :
        (Flags.namedSources call.flags).filter (· == source) = [] := by
      rw [List.filter_eq_nil_iff]
      intro other member same
      exact named (beq_iff_eq.mp same ▸ member)
    simp [unnamed]

/-- The entries for a source are those of the call which names no other one.
They stand in the answer to the whole call at the places of the source. -/
theorem entries_withoutOthers (call : Call) :
    ∃ sources entries, Flags.sources call.flags = .ok sources ∧
      call.entries = .ok entries ∧
      (entries = [] ∨ entries.length = sources.length) ∧
      ∀ source, (call.withoutOthers source).entries =
        .ok (((sources.zip entries).filter (·.1 == source)).map Prod.snd) := by
  refine ⟨Flags.namedSources call.flags, _,
    Flags.sources_eq call.haveWords_flags, call.entries_eq, ?_, ?_⟩
  · cases Flags.compiles call.flags with
    | false => exact Or.inl rfl
    | true => exact Or.inr (by simp)
  · intro source
    rw [entries_withoutOthers_eq]
    cases Flags.compiles call.flags with
    | false => simp
    | true =>
        rw [if_pos rfl, if_pos rfl, map_snd_filter_zip_map _ _ (· == source)]

end Call

end CompilerCalls
