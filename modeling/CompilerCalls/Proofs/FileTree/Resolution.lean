import CompilerCalls.FileTree.Resolution
import CompilerCalls.Proofs.FileTree.Lookup
import CompilerCalls.Proofs.Path.NormalForm

/-!
# Resolution of what can be looked up

Resolving a path follows links on its own account: it remembers where they
lead, takes a link whose target is being resolved for a ring, and goes on
where nothing stands.  For a path which can be looked up none of that matters.
The target of a link needs fewer links than the link itself, so no link is met
again while its target is being resolved, and the path is resolved to the
place which is looked up.
-/

namespace CompilerCalls

namespace FileTree

theorem admits_append (tree : FileTree) (place front : List String)
    (behind : List String) :
    tree.admits place (front ++ behind) =
      (tree.admits place front &&
        tree.admits (front.foldl Path.step place) behind) := by
  induction front generalizing place with
  | nil => simp [admits]
  | cons name front induction =>
      rw [List.cons_append, admits, admits, induction, Bool.and_assoc]
      rfl

end FileTree

namespace Path

theorem foldl_step_of_not_mem {names : List String} (start : List String)
    (noStep : ".." ∉ names) : names.foldl step start = start ++ names := by
  induction names generalizing start with
  | nil => simp
  | cons name rest induction =>
      obtain ⟨different, absentLater⟩ := not_or.mp (mt List.mem_cons.mpr noStep)
      simp [step, Ne.symm different, induction _ absentLater]

/-- A path leads to a place through directories which may be searched, if it
holds no links.  Only a relative path may hold steps back. -/
structure Means (path : Path) (tree : FileTree) (current : Path)
    (place : List String) : Prop where
  ends : path.names.foldl step (path.startIn current) = place
  admitted : tree.admits (path.startIn current) path.names = true
  anchored : path.anchor = .relative ∨ path.anchor = .root ∧ ".." ∉ path.names

namespace Means

variable {tree : FileTree} {current path : Path} {place : List String}

/-- One more name is looked up in the place which is meant. -/
theorem admitted_child (means : path.Means tree current place) {name : String}
    (isName : IsName name) (searched : tree.maySearch place = true) :
    tree.admits ((path.child name isName).startIn current)
      (path.child name isName).names = true := by
  have same : (path.child name isName).startIn current =
      path.startIn current := rfl
  rw [same, child, FileTree.admits_append, means.admitted, means.ends]
  simp [FileTree.admits, searched]

theorem child {name : String} (means : path.Means tree current place)
    (isName : IsName name) (noStep : name ≠ "..")
    (searched : tree.maySearch place = true) :
    (path.child name isName).Means tree current (place ++ [name]) where
  ends := by
    have same : (path.child name isName).startIn current =
        path.startIn current := rfl
    rw [same, Path.child, List.foldl_append, means.ends]
    simp [step, noStep]
  admitted := means.admitted_child isName searched
  anchored := means.anchored.imp_right <| And.imp_right fun absent => by
    simp [Path.child, absent, Ne.symm noStep]

/-- What is above a path stands above the place which it means. -/
theorem above (means : path.Means tree current place)
    (searched : tree.maySearch place = true) :
    path.above.Means tree current place.dropLast := by
  unfold Path.above
  split
  · rename_i relative
    refine ⟨?_, means.admitted_child (by decide) searched, .inl relative.1⟩
    have same : (path.child ".." (by decide)).startIn current =
        path.startIn current := rfl
    rw [same, Path.child, List.foldl_append, means.ends]
    rfl
  · rename_i stepsUp
    have same : path.parent.startIn current = path.startIn current := rfl
    obtain ⟨ends, admitted, anchored⟩ := means
    have anchoredAbove := anchored.imp_right <| And.imp_right
      fun (absent : ".." ∉ path.names) member =>
        absent (List.dropLast_subset _ member)
    rcases List.eq_nil_or_concat path.names with noNames | ⟨front, last, parts⟩
    · have atRoot : path.anchor = .root :=
        (anchored.resolve_left fun relative =>
          stepsUp ⟨relative, .inl noNames⟩).1
      refine ⟨?_, ?_, anchoredAbove⟩
      · rw [← ends]
        simp [Path.parent, noNames, startIn, isAbsolute, atRoot]
      · simp [Path.parent, noNames, FileTree.admits]
    · rw [List.concat_eq_append] at parts
      have noStep : last ≠ ".." := by
        rintro rfl
        rcases anchored with relative | ⟨_, absent⟩
        · exact stepsUp ⟨relative, .inr (by simp [Path.name, parts])⟩
        · exact absent (by simp [parts])
      have namesAbove : path.parent.names = front := by
        simp [Path.parent, parts]
      rw [parts, FileTree.admits_append] at admitted
      rw [parts, List.foldl_append] at ends
      refine ⟨?_, ?_, anchoredAbove⟩
      · rw [same, namesAbove, ← ends]
        simp [step, noStep]
      · rw [same, namesAbove]
        exact (Bool.and_eq_true_iff.mp admitted).1

/-- In an absolute directory only one path from the root is meant. -/
theorem collapsed_eq {other : Path}
    (means : path.Means tree current other.names)
    (currentAtRoot : current.anchor = .root) (noStep : ".." ∉ current.names)
    (atRoot : other.anchor = .root) :
    (path.absoluteIn current).collapsed = other := by
  have start : current.names.foldl step [] = current.names := by
    rw [foldl_step_of_not_mem [] noStep, List.nil_append]
  have ends := means.ends
  rcases means.anchored with relative | ⟨root, _⟩
  · refine eq_of_names ?_ ?_
    · simp [collapsed, absoluteIn, isAbsolute, join, relative, currentAtRoot,
        atRoot]
    · simpa [collapsed, absoluteIn, isAbsolute, join, relative, start,
        startIn] using ends
  · refine eq_of_names ?_ ?_
    · simp [collapsed, absoluteIn, isAbsolute, root, atRoot]
    · simpa [collapsed, absoluteIn, isAbsolute, root, startIn] using ends

theorem linkStart (means : path.Means tree current place) (target : String) :
    (FileTree.linkStart path target).Means tree current
      (FileTree.linkNames place target) := by
  unfold FileTree.linkStart FileTree.linkNames
  split
  · exact means
  · exact ⟨rfl, rfl, .inr ⟨rfl, List.not_mem_nil⟩⟩

end Means

end Path

namespace FileTree

variable {tree : FileTree} {current path : Path}
  {place middle components final : List String} {links bound : Nat}

/-- The target of the link at a place leads somewhere, behind so many
links. -/
def LinkLeads (tree : FileTree) (place middle : List String) (links : Nat) :
    Prop :=
  ∃ front name target, place = front ++ [name] ∧
    tree.node? place = some (.link target) ∧
    tree.Leads (linkNames front target) (linkComponents target) middle links

theorem LinkLeads.deterministic {other : List String} {count : Nat}
    (leads : tree.LinkLeads place middle links)
    (leadsOther : tree.LinkLeads place other count) :
    middle = other ∧ links = count := by
  obtain ⟨front, name, target, rfl, link, within⟩ := leads
  obtain ⟨_, _, _, same, otherLink, otherWithin⟩ := leadsOther
  obtain ⟨rfl, _⟩ := List.append_inj' same rfl
  cases link.symm.trans otherLink
  exact within.deterministic otherWithin

/-- What is remembered of links is right, and those whose targets are being
resolved need more links than are left to follow. -/
structure Remembers (tree : FileTree) (current : Path) (met : Met)
    (bound : Nat) : Prop where
  known : ∀ path reached, met.lookup path = some (some reached) →
    ∀ place middle links, path.Means tree current place →
      tree.LinkLeads place middle links → reached.Means tree current middle
  pending : ∀ path, met.lookup path = some none →
    ∀ place middle links, path.Means tree current place →
      tree.LinkLeads place middle links → bound ≤ links

theorem lookup_push (met : Met) (path other : Path) (reached? : Option Path) :
    List.lookup other ((path, reached?) :: met) =
      if other = path then some reached? else met.lookup other := by
  by_cases same : other = path
  · simp [same]
  · simp [List.lookup_cons, beq_eq_false_iff_ne.mpr same, same]

variable {met later : Met} {reached : Path}

/-- Every link in the middle of being resolved was so before. -/
def PendsLess (later earlier : Met) : Prop :=
  ∀ path, later.lookup path = some none → earlier.lookup path = some none

theorem PendsLess.trans {earlier : Met} (less : PendsLess later met)
    (lessEarlier : PendsLess met earlier) : PendsLess later earlier :=
  fun path looked => lessEarlier path (less path looked)

/-- A link whose target has been resolved is no longer in the middle of
that. -/
theorem PendsLess.push_known (less : PendsLess later ((path, none) :: met))
    (reached : Path) : PendsLess ((path, some reached) :: later) met := by
  intro other looked
  rw [lookup_push] at looked
  split at looked
  · cases looked
  · have earlier := less other looked
    rwa [lookup_push, if_neg ‹_›] at earlier

namespace Remembers

theorem nothing : Remembers tree current [] bound where
  known _ _ looked := by simp at looked
  pending _ looked := by simp at looked

/-- Fewer links are left to follow. -/
theorem fewer {less : Nat} (remembers : Remembers tree current met bound)
    (within : less ≤ bound) : Remembers tree current met less where
  known := remembers.known
  pending path looked place middle links means leads :=
    Nat.le_trans within
      (remembers.pending path looked place middle links means leads)

/-- The target of a link is being resolved, which needs this number of
links. -/
theorem push_pending (remembers : Remembers tree current met bound)
    (within : links ≤ bound) (means : path.Means tree current place)
    (leads : tree.LinkLeads place middle links) :
    Remembers tree current ((path, none) :: met) links where
  known other reached looked := by
    rw [lookup_push] at looked
    split at looked
    · cases looked
    · exact remembers.known other reached looked
  pending other looked otherPlace otherMiddle count otherMeans otherLeads := by
    rw [lookup_push] at looked
    split at looked
    · subst other
      obtain rfl := means.ends.symm.trans otherMeans.ends
      exact Nat.le_of_eq (leads.deterministic otherLeads).2
    · exact Nat.le_trans within
        (remembers.pending other looked _ _ _ otherMeans otherLeads)

/-- The target of a link has been resolved. -/
theorem push_known (remembers : Remembers tree current met bound)
    (laterKnown : Remembers tree current later 0)
    (less : PendsLess later ((path, none) :: met))
    (means : path.Means tree current place)
    (leads : tree.LinkLeads place middle links)
    (reaches : reached.Means tree current middle) :
    Remembers tree current ((path, some reached) :: later) bound where
  known other otherReached looked := by
    rw [lookup_push] at looked
    split at looked
    · subst other
      cases looked
      intro otherPlace otherMiddle count otherMeans otherLeads
      obtain rfl := means.ends.symm.trans otherMeans.ends
      obtain ⟨rfl, rfl⟩ := leads.deterministic otherLeads
      exact reaches
    · exact laterKnown.known other otherReached looked
  pending other looked :=
    remembers.pending other (less.push_known reached other looked)

end Remembers

theorem nodeAt?_of_means (means : path.Means tree current place) :
    tree.nodeAt? current path = tree.node? place := by
  simp only [nodeAt?, means.admitted, means.ends, if_true]

/-- Components are resolved to the place where they lead, and no link is left
in the middle of being resolved. -/
theorem exists_trailBy_of_leads (noNul : tree.NamesWithoutNul)
    (leads : tree.Leads place components final links) {depth : Nat}
    (within : links ≤ depth) {start : Path}
    (means : start.Means tree current place)
    (remembers : Remembers tree current met links) :
    ∃ reached later,
      tree.trailBy current (tree.targetTrail current depth) met start
        components = .ok (.complete reached, later) ∧
      reached.Means tree current final ∧ Remembers tree current later 0 ∧
      PendsLess later met := by
  induction leads generalizing depth met start with
  | stop =>
      exact ⟨start, met, rfl, means, remembers, fun _ looked => looked⟩
  | up allows _ induction =>
      have searched := allows.searched (by decide)
      unfold trailBy
      rw [if_pos rfl]
      exact induction within (means.above searched) remembers
  | stay _ noName _ induction =>
      unfold trailBy
      rw [if_neg (ne_step_of_not_isName noName), dif_neg noName]
      exact induction within means remembers
  | @down component node place rest final links allows noStep isName there
      noLink _ induction =>
      have next := means.child isName noStep (allows.searched isName.1)
      have noNulHere : component.toList.contains '\x00' = false := by
        simpa using noNul_of_node? noNul there component (by simp)
      unfold trailBy
      simp only [if_neg noStep, dif_pos isName, noNulHere,
        nodeAt?_of_means next, there]
      cases node with
      | link target => exact absurd rfl (noLink target)
      | _ => exact induction within next remembers
  | @follow component target place rest middle final inner outer allows noStep
      isName there inside _ induction inductionBehind =>
      have next := means.child isName noStep (allows.searched isName.1)
      have noNulHere : component.toList.contains '\x00' = false := by
        simpa using noNul_of_node? noNul there component (by simp)
      have leadsLink : tree.LinkLeads (place ++ [component]) middle inner :=
        ⟨place, component, target, rfl, there, inside⟩
      unfold trailBy
      simp only [if_neg noStep, dif_pos isName, noNulHere,
        nodeAt?_of_means next, there, Bool.false_eq_true, if_false]
      cases looked : met.lookup (start.child component isName) with
      | some reached? =>
          cases reached? with
          | some known =>
              exact inductionBehind (by omega)
                (remembers.known _ _ looked _ _ _ next leadsLink)
                (remembers.fewer (by omega))
          | none =>
              -- A link in the middle of being resolved needs more links.
              have enough := remembers.pending _ looked _ _ _ next leadsLink
              omega
      | none =>
          obtain ⟨depth, rfl⟩ : ∃ less, depth = less + 1 :=
            Nat.exists_eq_add_one.mpr (by omega)
          obtain ⟨known, between, trail, reaches, knownBetween, less⟩ :=
            induction (show inner ≤ depth by omega) (means.linkStart target)
              (remembers.push_pending (by omega) next leadsLink)
          have remembersKnown := remembers.push_known knownBetween less next
            leadsLink reaches
          obtain ⟨reached, later, trailBehind, reachesFinal, knownLater,
            lessLater⟩ := inductionBehind
              (show outer ≤ depth + 1 by omega) reaches
              (remembersKnown.fewer (show outer ≤ inner + 1 + outer by omega))
          refine ⟨reached, later, ?_, reachesFinal, knownLater,
            lessLater.trans (less.push_known known)⟩
          rw [targetTrail, trail]
          exact trailBehind

/-- A path from the root on which there are no links. -/
structure IsPlace (tree : FileTree) (path : Path) : Prop where
  atRoot : path.anchor = .root
  settled : tree.Settled path.names

theorem isPlace_root : tree.IsPlace Path.root := ⟨rfl, .nil⟩

theorem linkComponents_of_isName {name : String} (isName : IsName name) :
    linkComponents name = [name] := by
  have slash : "/".toList = ['/'] := rfl
  rw [linkComponents, Text.segments, slash, Text.split_of_not_mem isName.2.2,
    List.map_singleton, String.ofList_toList]

theorem linkStart_of_isName {name : String} (isName : IsName name)
    (place : Path) : linkStart place name = place := by
  have noSlash : name.toList.head? ≠ some '/' := fun first =>
    isName.2.2 (List.mem_of_mem_head? first)
  rw [linkStart, if_pos (Anchor.ofText_of_head noSlash)]

/-- The components of a path lead to the place which is looked up. -/
theorem leads_of_reach (stands : tree.IsPlace current) {place : Path}
    (reached : tree.reach current path = .ok place) :
    place.anchor = .root ∧ ∃ links ≤ linkLimit,
      tree.Leads (linkNames current.names path.toString)
        (linkComponents path.toString) place.names links := by
  unfold reach at reached
  simp only at reached
  split at reached
  · cases reached
  split at reached
  · cases reached
  rw [← names_linkStart]
  exact leads_of_reachWithin reached (anchor_linkStart _ stands.atRoot)

theorem here_means (tree : FileTree) (current : Path) :
    Path.here.Means tree current current.names where
  ends := rfl
  admitted := rfl
  anchored := .inl rfl

/-- In front of the names of a place nothing is looked up. -/
theorem linkComponents_of_root {place : Path} (atRoot : place.anchor = .root) :
    ∃ front, linkComponents place.toString = front ++ place.names ∧
      ∀ component ∈ front, component = "" := by
  obtain ⟨anchor, names, areNames⟩ := place
  cases atRoot
  have slash : "/".toList = ['/'] := rfl
  have components : linkComponents (Path.toString ⟨.root, names, areNames⟩) =
      "" :: linkComponents (Text.join "/" names) := by
    simp [Path.toString, Anchor.text, linkComponents, Text.segments, slash,
      Text.split_self_cons]
  rw [components]
  cases names with
  | nil => exact ⟨["", ""], rfl, by simp⟩
  | cons name rest =>
      refine ⟨[""], congrArg _ ?_, by simp⟩
      exact Text.segments_join rfl (List.cons_ne_nil name rest)
        fun other member => (areNames other member).2.2

/-- Looking up a settled place again may fail, but not for its links. -/
theorem ne_links_of_reach {place : Path} {fault : LookupFault}
    (stands : tree.IsPlace place)
    (failed : tree.reach current place = .error fault) :
    fault ≠ .tooManyLinks ∧ fault ≠ .nulInName := by
  obtain ⟨atRoot, settled⟩ := stands
  have noNul : place.toString.toList.contains '\x00' = false := by
    simpa [Path.toString, atRoot, Anchor.text] using
      Text.not_mem_join (by decide) settled.noNul
  have start : linkStart current place.toString = Path.root := by
    have anchor : Anchor.ofText place.toString.toList = place.anchor :=
      congrArg Path.anchor place.ofString_toString
    rw [linkStart, anchor, if_neg (by simp [atRoot])]
  obtain ⟨front, components, empty⟩ := linkComponents_of_root atRoot
  unfold reach at failed
  simp only [noNul, start, components, Bool.false_eq_true, if_false] at failed
  split at failed
  · cases failed
    decide
  · rcases missing_or_walk_of_empty empty failed with rfl | walked
    · decide
    · exact ne_links_of_walk settled place.areNames walked

/-- A path is resolved to the place which is looked up. -/
theorem resolve_of_reach (noNul : tree.NamesWithoutNul)
    (stands : tree.IsPlace current) {place : Path}
    (reached : tree.reach current path = .ok place) :
    tree.resolve current path = .ok place := by
  obtain ⟨currentAtRoot, settledHere⟩ := stands
  obtain ⟨atRoot, links, within, leads⟩ :=
    leads_of_reach ⟨currentAtRoot, settledHere⟩ reached
  -- Links may lead to links far more often than links are followed.
  have enough : links ≤ 979 := Nat.le_trans within (by decide)
  have start := (here_means tree current).linkStart path.toString
  obtain ⟨known, later, trailed, means, _⟩ :=
    exists_trailBy_of_leads noNul leads enough start .nothing
  have resolved : (known.absoluteIn current).collapsed = place :=
    means.collapsed_eq currentAtRoot settledHere.noStep atRoot
  have trail : tree.trail current path = .ok place := by
    rw [trail, depthLimit, targetTrail, trailed, ← resolved]
  have settled : tree.Settled place.names :=
    leads.settled noNul (settledHere.linkNames _)
  rw [resolve, trail]
  cases again : tree.reach current place with
  | ok other => simp only [again]
  | error fault =>
      obtain ⟨noRing, noNulThere⟩ := ne_links_of_reach ⟨atRoot, settled⟩ again
      cases fault with
      | tooManyLinks => exact absurd rfl noRing
      | nulInName => exact absurd rfl noNulThere
      | _ => simp only [again]

end FileTree

end CompilerCalls
