import CompilerCalls.FileTree.Lookup

/-!
# Where components lead

`Leads` says where components lead from a place, and how many links are
followed on the way, without a limit to that number.  A component is looked up
in a directory which may be searched.  What stands at the end of the target of
a link is a place of its own, from which the way goes on.
Looking up a path agrees with this relation.  The place which is reached is
settled: no link stands on the way to it from the root.
-/

namespace CompilerCalls

namespace FileTree

variable {tree : FileTree} {place components final : List String}
  {links : Nat}

/-- The place where the target of a link starts. -/
def linkNames (place : List String) (target : String) : List String :=
  if Anchor.ofText target.toList = .relative then place else []

theorem names_linkStart (place : Path) (target : String) :
    (linkStart place target).names = linkNames place.names target := by
  unfold linkStart linkNames
  split <;> rfl

theorem anchor_linkStart {place : Path} (target : String)
    (atRoot : place.anchor = .root) :
    (linkStart place target).anchor = .root := by
  unfold linkStart
  split
  · exact atRoot
  · rfl

theorem ne_step_of_not_isName {component : String}
    (noName : ¬IsName component) : component ≠ ".." := by
  rintro rfl
  exact noName (by decide)

/-- A component can be asked for in the directory at a place.  An empty one asks
for nothing in it. -/
structure Allows (tree : FileTree) (place : List String) (component : String) :
    Prop where
  stands : tree.isDirectory place = true
  searched : component ≠ "" → tree.maySearch place = true

/-- Components lead from one place to another, behind so many links. -/
inductive Leads (tree : FileTree) :
    List String → List String → List String → Nat → Prop where
  | stop {place : List String} : Leads tree place [] place 0
  | up {place rest final : List String} {links : Nat} :
      tree.Allows place ".." →
      Leads tree place.dropLast rest final links →
      Leads tree place (".." :: rest) final links
  | stay {component : String} {place rest final : List String}
      {links : Nat} :
      tree.Allows place component →
      ¬IsName component →
      Leads tree place rest final links →
      Leads tree place (component :: rest) final links
  | down {component : String} {node : Node} {place rest final : List String}
      {links : Nat} :
      tree.Allows place component →
      component ≠ ".." → IsName component →
      tree.node? (place ++ [component]) = some node →
      (∀ target, node ≠ .link target) →
      Leads tree (place ++ [component]) rest final links →
      Leads tree place (component :: rest) final links
  | follow {component target : String}
      {place rest middle final : List String} {inner outer : Nat} :
      tree.Allows place component →
      component ≠ ".." → IsName component →
      tree.node? (place ++ [component]) = some (.link target) →
      Leads tree (linkNames place target) (linkComponents target) middle
        inner →
      Leads tree middle rest final outer →
      Leads tree place (component :: rest) final (inner + 1 + outer)

namespace Leads

/-- A way over joined components passes through a place between them. -/
theorem of_append {front behind : List String}
    (leads : tree.Leads place (front ++ behind) final links) :
    ∃ middle inner outer, tree.Leads place front middle inner ∧
      tree.Leads middle behind final outer ∧ links = inner + outer := by
  induction front generalizing place links with
  | nil => exact ⟨place, 0, links, .stop, leads, (Nat.zero_add links).symm⟩
  | cons component front induction =>
      rw [List.cons_append] at leads
      cases leads with
      | up allows later =>
          obtain ⟨middle, inner, outer, first, second, rfl⟩ := induction later
          exact ⟨middle, inner, outer, .up allows first, second, rfl⟩
      | stay allows noName later =>
          obtain ⟨middle, inner, outer, first, second, rfl⟩ := induction later
          exact ⟨middle, inner, outer, .stay allows noName first, second, rfl⟩
      | down allows noStep isName there noLink later =>
          obtain ⟨middle, inner, outer, first, second, rfl⟩ := induction later
          exact ⟨middle, inner, outer,
            .down allows noStep isName there noLink first, second, rfl⟩
      | @follow _ _ _ _ _ _ inside _ allows noStep isName there within later =>
          obtain ⟨middle, inner, outer, first, second, rfl⟩ := induction later
          exact ⟨middle, inside + 1 + inner, outer,
            .follow allows noStep isName there within first, second,
            by omega⟩

theorem deterministic {other : List String} {count : Nat}
    (leads : tree.Leads place components final links)
    (leadsOther : tree.Leads place components other count) :
    final = other ∧ links = count := by
  induction leads generalizing other count with
  | stop =>
      cases leadsOther
      exact ⟨rfl, rfl⟩
  | up _ _ induction =>
      cases leadsOther with
      | up _ later => exact induction later
      | stay _ noName => exact absurd rfl (ne_step_of_not_isName noName)
      | down _ noStep => contradiction
      | follow _ noStep => contradiction
  | stay _ noName _ induction =>
      cases leadsOther with
      | up => exact absurd rfl (ne_step_of_not_isName noName)
      | stay _ _ later => exact induction later
      | down => contradiction
      | follow => contradiction
  | down _ noStep isName there noLink _ induction =>
      cases leadsOther with
      | up => contradiction
      | stay => contradiction
      | down _ _ _ _ _ later => exact induction later
      | follow _ _ _ link =>
          exact absurd (Option.some.inj (there.symm.trans link)) (noLink _)
  | follow _ noStep isName there _ _ induction inductionBehind =>
      cases leadsOther with
      | up => contradiction
      | stay => contradiction
      | down _ _ _ node noLink =>
          exact absurd (Option.some.inj (node.symm.trans there)) (noLink _)
      | follow _ _ _ link within later =>
          cases there.symm.trans link
          obtain ⟨rfl, rfl⟩ := induction within
          obtain ⟨rfl, rfl⟩ := inductionBehind later
          exact ⟨rfl, rfl⟩

end Leads

/-- Names lead to a place without a link on the way, if they lead anywhere. -/
structure Settled (tree : FileTree) (place : List String) : Prop where
  noStep : ".." ∉ place
  noLink : ∀ front name target, front ++ [name] <+: place →
    tree.node? (front ++ [name]) ≠ some (.link target)
  noNul : ∀ name ∈ place, '\x00' ∉ name.toList

/-- No name of a listed place holds a null character. -/
def NamesWithoutNul (tree : FileTree) : Prop :=
  ∀ listed ∈ tree.nodes, ∀ name ∈ listed.1, '\x00' ∉ name.toList

/-- What stands at a place is listed there or behind it. -/
theorem noNul_of_node? {node : Node} (noNul : tree.NamesWithoutNul)
    (there : tree.node? place = some node) :
    ∀ name ∈ place, '\x00' ∉ name.toList := by
  unfold node? at there
  split at there
  · rename_i found looked
    obtain ⟨earlier, later, listed, _⟩ := List.lookup_eq_some_iff.mp looked
    exact noNul (place, found) (by rw [listed]; simp)
  · split at there
    · rename_i further
      rcases Bool.or_eq_true_iff.mp further with empty | onTheWay
      · simp [List.isEmpty_iff.mp empty]
      · obtain ⟨listed, member, isFront⟩ := List.any_eq_true.mp onTheWay
        exact fun name inPlace => noNul listed member name
          ((List.isPrefixOf_iff_prefix.mp isFront).subset inPlace)
    · cases there

namespace Settled

theorem nil : tree.Settled [] where
  noStep := List.not_mem_nil
  noLink front name target isFront := by simp at isFront
  noNul := by simp

theorem dropLast (settled : tree.Settled place) :
    tree.Settled place.dropLast where
  noStep member := settled.noStep (List.dropLast_subset _ member)
  noLink front name target isFront :=
    settled.noLink front name target
      (isFront.trans (List.dropLast_prefix place))
  noNul name member := settled.noNul name (List.dropLast_subset _ member)

theorem linkNames (settled : tree.Settled place) (target : String) :
    tree.Settled (FileTree.linkNames place target) := by
  unfold FileTree.linkNames
  split
  · exact settled
  · exact nil

theorem push {component : String} {node : Node}
    (settled : tree.Settled place) (noNul : tree.NamesWithoutNul)
    (different : component ≠ "..")
    (there : tree.node? (place ++ [component]) = some node)
    (noLink : ∀ target, node ≠ .link target) :
    tree.Settled (place ++ [component]) where
  noStep member := by
    rcases List.mem_append.mp member with earlier | last
    · exact settled.noStep earlier
    · exact different (List.mem_singleton.mp last).symm
  noLink front name target isFront := by
    rcases List.prefix_concat_iff.mp isFront with whole | shorter
    · rw [whole, there]
      exact fun same => noLink target (Option.some.inj same)
    · exact settled.noLink front name target shorter
  noNul := noNul_of_node? noNul there

end Settled

theorem Leads.settled (leads : tree.Leads place components final links)
    (noNul : tree.NamesWithoutNul) (start : tree.Settled place) :
    tree.Settled final := by
  induction leads with
  | stop => exact start
  | up _ _ induction => exact induction start.dropLast
  | stay _ _ _ induction => exact induction start
  | down _ noStep _ there noLink _ induction =>
      exact induction (start.push noNul noStep there noLink)
  | @follow _ target _ _ _ _ _ _ _ _ _ _ _ _ induction inductionBehind =>
      exact inductionBehind (induction (start.linkNames target))

/-- A name can be looked up in the directory at a place. -/
structure CanLookUp (tree : FileTree) (start : Path) (name : String) :
    Prop where
  stands : tree.isDirectory start.names = true
  searched : tree.maySearch start.names = true
  isName : IsName name
  noStep : name ≠ ".."

section Walk

theorem allows_of_checks {component : String}
    (stands : ¬(!tree.isDirectory place) = true)
    (searched : ¬(component ≠ "" && !tree.maySearch place) = true) :
    tree.Allows place component where
  stands := by simpa using stands
  searched := by simpa using searched

variable {follow : Path → List String → Except LookupFault Path}
  {start reached : Path} {fault : LookupFault} {name : String}
  {rest : List String}

theorem walk_child {node : Node} (looks : tree.CanLookUp start name)
    (short : name.utf8ByteSize ≤ nameLimit)
    (there : tree.node? (start.names ++ [name]) = some node)
    (noLink : ∀ target, node ≠ .link target) :
    tree.walk follow start (name :: rest) =
      tree.walk follow (start.child name looks.isName) rest := by
  obtain ⟨stands, searched, isName, noStep⟩ := looks
  cases node with
  | link target => exact absurd rfl (noLink target)
  | _ =>
      simp [walk, stands, searched, isName, noStep, Nat.not_lt.mpr short, there]

theorem walk_link {target : String} (looks : tree.CanLookUp start name)
    (short : name.utf8ByteSize ≤ nameLimit)
    (link : tree.node? (start.names ++ [name]) = some (.link target)) :
    tree.walk follow start (name :: rest) =
      follow (linkStart start target) (linkComponents target ++ rest) := by
  obtain ⟨stands, searched, isName, noStep⟩ := looks
  simp [walk, stands, searched, isName, noStep, Nat.not_lt.mpr short, link]

theorem walk_tooLong (looks : tree.CanLookUp start name)
    (long : nameLimit < name.utf8ByteSize) :
    tree.walk follow start (name :: rest) = .error .tooLong := by
  obtain ⟨stands, searched, isName, noStep⟩ := looks
  simp [walk, stands, searched, isName, noStep, long]

/-- A walk leads where its links do. -/
theorem leads_of_walk {bound : Nat}
    (behind : ∀ start components reached,
      follow start components = .ok reached → start.anchor = .root →
      reached.anchor = .root ∧ ∃ links < bound,
        tree.Leads start.names components reached.names links)
    (walked : tree.walk follow start components = .ok reached)
    (atRoot : start.anchor = .root) :
    reached.anchor = .root ∧ ∃ links ≤ bound,
      tree.Leads start.names components reached.names links := by
  induction components generalizing start with
  | nil =>
      cases walked
      exact ⟨atRoot, 0, Nat.zero_le bound, .stop⟩
  | cons component rest induction =>
      unfold walk at walked
      split at walked
      · cases walked
      rename_i stands
      split at walked
      · cases walked
      rename_i searched
      have allows := allows_of_checks stands searched
      split at walked
      · rename_i step
        obtain ⟨anchor, links, within, leads⟩ := induction walked atRoot
        subst step
        exact ⟨anchor, links, within, .up allows leads⟩
      split at walked
      · split at walked
        · cases walked
        · split at walked
          · cases walked
          · rename_i noStep isName _ _ target there
            obtain ⟨anchor, links, within, leads⟩ :=
              behind _ _ _ walked (anchor_linkStart target atRoot)
            rw [names_linkStart] at leads
            obtain ⟨middle, inner, outer, first, second, rfl⟩ :=
              leads.of_append
            exact ⟨anchor, _, by omega,
              .follow allows noStep isName there first second⟩
          · rename_i noStep isName _ _ node noLink there
            obtain ⟨anchor, links, within, leads⟩ := induction walked atRoot
            exact ⟨anchor, links, within,
              .down allows noStep isName there noLink leads⟩
      · rename_i noName
        obtain ⟨anchor, links, within, leads⟩ := induction walked atRoot
        exact ⟨anchor, links, within, .stay allows noName leads⟩

theorem leads_of_reachWithin {bound : Nat}
    (walked : tree.reachWithin bound start components = .ok reached)
    (atRoot : start.anchor = .root) :
    reached.anchor = .root ∧ ∃ links ≤ bound,
      tree.Leads start.names components reached.names links := by
  induction bound generalizing start components reached with
  | zero => exact leads_of_walk (by simp) walked atRoot
  | succ bound induction =>
      refine leads_of_walk (fun _ _ _ followed fromRoot => ?_) walked atRoot
      obtain ⟨anchor, links, within, leads⟩ := induction followed fromRoot
      exact ⟨anchor, links, Nat.lt_succ_of_le within, leads⟩

/-- An empty component asks for nothing but a directory. -/
theorem walk_empty (stands : tree.isDirectory start.names = true) :
    tree.walk follow start ("" :: rest) = tree.walk follow start rest := by
  have noName : ¬IsName "" := by decide
  simp [walk, stands, noName]

theorem missing_or_walk_of_empty {front : List String}
    (empty : ∀ component ∈ front, component = "")
    (failed : tree.walk follow start (front ++ rest) = .error fault) :
    fault = .missing ∨ tree.walk follow start rest = .error fault := by
  induction front with
  | nil => exact .inr failed
  | cons component front induction =>
      obtain ⟨rfl, emptyLater⟩ := List.forall_mem_cons.mp empty
      rw [List.cons_append] at failed
      cases stands : tree.isDirectory start.names with
      | false =>
          simp only [walk, stands] at failed
          exact .inl (Except.error.inj failed).symm
      | true =>
          rw [walk_empty stands] at failed
          exact induction emptyLater failed

/-- On the way to a settled place no link is followed. -/
theorem ne_links_of_walk
    (settled : tree.Settled (start.names ++ components))
    (areNames : ∀ name ∈ components, IsName name)
    (failed : tree.walk follow start components = .error fault) :
    fault ≠ .tooManyLinks ∧ fault ≠ .nulInName := by
  induction components generalizing start with
  | nil => cases failed
  | cons component rest induction =>
      have joined : start.names ++ component :: rest =
          start.names ++ [component] ++ rest := by simp
      unfold walk at failed
      split at failed
      · cases failed
        decide
      split at failed
      · cases failed
        decide
      split at failed
      · rename_i step
        exact absurd (by simp [step]) settled.noStep
      split at failed
      · split at failed
        · cases failed
          decide
        · split at failed
          · cases failed
            decide
          · rename_i there
            exact absurd there
              (settled.noLink _ _ _ ⟨rest, joined.symm⟩)
          · refine induction ?_ (fun name member =>
              areNames name (List.mem_cons_of_mem component member)) failed
            exact joined ▸ settled
      · exact absurd (areNames component List.mem_cons_self) ‹_›

end Walk

end FileTree

end CompilerCalls
