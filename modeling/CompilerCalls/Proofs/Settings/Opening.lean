import CompilerCalls.Settings.Basic

/-!
# The settings file which counts

Settings come from one file: the given one, or else the nearest one which is
found.  How loading them ends depends on what stands where its path leads.
-/

namespace CompilerCalls

namespace Settings

/-- The path of the settings file which counts, from what is given. -/
inductive Consults (tree : FileTree) (current : Path) :
    Option Path → Path → Prop
  | given (path : Path) : Consults tree current (some path) path
  | found (path : Path)
      (nearest : find? tree current current = .ok (some path)) :
      Consults tree current none path

/-- A file with these octets, which may be read, is where a path leads. -/
def Opens (tree : FileTree) (current path : Path) (content : List UInt8) :
    Prop :=
  ∃ place, tree.reach current path = .ok place ∧
    tree.mayRead place.names = true ∧
    tree.node? place.names = some (.file content)

/-- It cannot be said whether something is where a path leads: a name on the
way, or all of it, is too long, or a directory may not be searched. -/
inductive IsUnclear (tree : FileTree) (current path : Path) :
    SearchFault → Prop
  | tooLong (failed : tree.reach current path = .error .tooLong) :
      IsUnclear tree current path (.tooLong path)
  | denied (failed : tree.reach current path = .error .denied) :
      IsUnclear tree current path (.denied path)

variable {tree : FileTree} {current path : Path} {config? : Option Path}
  {content : List UInt8} {fault : SearchFault}

theorem isUnclear_iff :
    IsUnclear tree current path fault ↔
      ∃ lookupFault, tree.reach current path = .error lookupFault ∧
        SearchFault.ofLookup? path lookupFault = some fault := by
  constructor
  · intro unclear
    cases unclear with
    | tooLong failed => exact ⟨_, failed, rfl⟩
    | denied failed => exact ⟨_, failed, rfl⟩
  · rintro ⟨lookupFault, failed, same⟩
    cases lookupFault with
    | tooLong => cases same; exact .tooLong failed
    | denied => cases same; exact .denied failed
    | _ => cases same

theorem load_of_consults (consults : Consults tree current config? path) :
    load tree current config? = loadFrom tree current path := by
  cases consults with
  | given => rfl
  | found _ nearest => simp only [load, nearest]

/-- Some path counts, unless no file is found or the search fails. -/
theorem load_cases (tree : FileTree) (current : Path) (config? : Option Path) :
    (∃ path, Consults tree current config? path) ∨
      (config? = none ∧ load tree current config? = .ok {}) ∨
      ∃ fault, config? = none ∧ find? tree current current = .error fault ∧
        load tree current config? = .error (.search fault) := by
  cases config? with
  | some path => exact .inl ⟨path, .given path⟩
  | none =>
      cases search : find? tree current current with
      | error fault => exact .inr (.inr ⟨fault, rfl, rfl, by simp [load, search]⟩)
      | ok path? =>
          cases path? with
          | none => exact .inr (.inl ⟨rfl, by simp [load, search]⟩)
          | some path => exact .inl ⟨path, .found path search⟩

theorem textItems?_eq_some_iff {items : List Toml.Value}
    {texts : List String} :
    textItems? items = some texts ↔ items = texts.map .text := by
  induction items generalizing texts with
  | nil => cases texts <;> simp [textItems?]
  | cons item rest induction =>
      cases texts with
      | nil => cases item <;> simp [textItems?]
      | cons text later =>
          cases item with
          | text content =>
              simpa [textItems?, induction] using and_comm
          | _ => simp [textItems?]

/-- What a file holds is read before its links are resolved. -/
theorem loadFrom_of_opens (opens : Opens tree current path content) :
    loadFrom tree current path =
      match tableOf path content, tree.resolve current path with
      | .error fault, _ => .error fault
      | .ok _, .error fault => .error (.search (.unresolved fault))
      | .ok table, .ok file => ofTable path file.parent table := by
  obtain ⟨place, reached, readable, held⟩ := opens
  simp only [loadFrom, reached, readable, held, Bool.not_true,
    Bool.false_eq_true, if_false]
  cases tableOf path content <;> cases tree.resolve current path <;> rfl

end Settings

end CompilerCalls
