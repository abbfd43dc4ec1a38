import Mathlib.Data.List.Nodup
import SolInterface.Proofs.Discovery

/-!
Where a search starts. What a search finds under a root is given by what stands below it, read
relative to it, unless the path of the root itself has a name that is left out: then it finds
nothing. So one subtree under two roots is searched alike when both paths have such a name or both
have none.
-/
namespace SolInterface
open Text WorkspaceM

/-! The order of lists of names. -/

section
variable {α : Type} [DecidableEq α] {lt : α → α → Bool}

theorem lexBefore_append_left (r s t : List α) :
    lexBefore lt (r ++ s) (r ++ t) = lexBefore lt s t := by
  induction r with
  | nil => rfl
  | cons a r ih => rw [List.cons_append, List.cons_append, lexBefore, if_pos rfl, ih]

end

theorem Text.before_asymm {s t : Text} (h : before s t = true) : before t s = false := by
  by_contra hts
  have hss := before_trans h (Bool.not_eq_false _ ▸ hts)
  rw [before, lexBefore_self] at hss
  cases hss

namespace Batch

theorem lexBefore_names_trans {s t u : List Text} (hst : lexBefore Text.before s t = true)
    (htu : lexBefore Text.before t u = true) : lexBefore Text.before s u = true :=
  @lexBefore_trans _ _ Text.before (fun _ _ => Text.before_asymm) (fun _ _ _ => Text.before_trans)
    s t u hst htu

def upTo (s t : List Text) : Bool := !lexBefore Text.before t s

theorem upTo_antisymm {s t : List Text} (hst : upTo s t = true) (hts : upTo t s = true) :
    s = t := by
  by_contra hne
  rw [upTo, Bool.not_eq_true'] at hst hts
  have hlt := lexBefore_total (fun _ _ => Text.before_total) hne hts
  rw [hst] at hlt
  cases hlt

theorem upTo_total (s t : List Text) : (upTo s t || upTo t s) = true := by
  rw [upTo, upTo, ← Bool.not_and, Bool.not_eq_true', Bool.and_eq_false_iff]
  by_contra hboth
  obtain ⟨hts, hst⟩ := not_or.1 hboth
  have hss := lexBefore_names_trans (Bool.not_eq_false _ ▸ hst) (Bool.not_eq_false _ ▸ hts)
  rw [lexBefore_self] at hss
  cases hss

theorem upTo_trans {s t u : List Text} (hst : upTo s t = true) (htu : upTo t u = true) :
    upTo s u = true := by
  by_cases heq : s = t
  · rwa [heq]
  rw [upTo, Bool.not_eq_true'] at hst htu ⊢
  -- `s` stands before `t`, so a `u` before `s` would stand before `t`
  have hlt : lexBefore Text.before s t = true :=
    lexBefore_total (fun _ _ => Text.before_total) (Ne.symm heq) hst
  by_contra hus
  have hut := lexBefore_names_trans (Bool.not_eq_false _ ▸ hus) hlt
  rw [htu] at hut
  cases hut

def sortNames (found : List (List Text)) : List (List Text) := found.mergeSort upTo

theorem sortNames_of_perm {found found' : List (List Text)} (h : found.Perm found') :
    sortNames found = sortNames found' := by
  have hsorted : ∀ l, (sortNames l).Pairwise fun s t => upTo s t = true :=
    List.pairwise_mergeSort (fun _ _ _ => upTo_trans) upTo_total
  have hperm : (sortNames found).Perm (sortNames found') :=
    (List.mergeSort_perm _ _).trans (h.trans (List.mergeSort_perm _ _).symm)
  exact hperm.eq_of_pairwise (fun s t _ _ => upTo_antisymm) (hsorted found) (hsorted found')

end Batch

/-! Subtrees. -/

namespace FileTree

/-- Each location is listed once, and no name is that of the directory above. -/
structure IsProper (t : FileTree) : Prop where
  distinct : (t.entries.map (·.1)).Nodup
  noUp : ∀ e ∈ t.entries, "..".toList ∉ e.1

/-- What stands at a location, whenever it changed last: a file with its content, or a directory. -/
def kind? (t : FileTree) (loc : Location) : Option (Option (List UInt8)) :=
  (t.get? loc).map fun
    | .file content _ => some content
    | .directory _ => none

theorem kind?_eq_directory {t : FileTree} {loc : Location} :
    t.kind? loc = some none ↔ ∃ mtime, t.get? loc = some (.directory mtime) := by
  unfold kind?
  cases t.get? loc with
  | none => simp
  | some node => cases node <;> simp

theorem kind?_eq_file {t : FileTree} {loc : Location} {content : List UInt8} :
    t.kind? loc = some (some content) ↔ ∃ mtime, t.get? loc = some (.file content mtime) := by
  unfold kind?
  cases t.get? loc with
  | none => simp
  | some node => cases node <;> simp

theorem isSome_kind? {t : FileTree} {loc : Location} :
    (t.kind? loc).isSome = (t.get? loc).isSome := Option.isSome_map

theorem isSome_get? {t : FileTree} {loc : Location} :
    (t.get? loc).isSome = true ↔ loc ∈ t.entries.map (·.1) := by
  constructor
  · intro h
    obtain ⟨node, hnode⟩ := Option.isSome_iff_exists.1 h
    exact List.mem_map.2 ⟨_, mem_entries_of_get? hnode, rfl⟩
  · intro h
    obtain ⟨e, he, rfl⟩ := List.mem_map.1 h
    by_contra hnone
    have hall := List.lookup_eq_none_iff.1 (Option.not_isSome_iff_eq_none.1 hnone) e he
    simp at hall

theorem mem_below_iff {t : FileTree} {loc : Location} {names : List Text} :
    names ∈ t.below loc ↔ names ≠ [] ∧ (t.kind? (loc ++ names)).isSome = true := by
  rw [isSome_kind?, isSome_get?, below, List.mem_filterMap, List.mem_map]
  constructor
  · rintro ⟨e, he, hnames⟩
    split at hnames
    · next hunder =>
      cases hnames
      refine ⟨List.ne_nil_of_length_pos (by rw [List.length_drop]; omega), e, he, ?_⟩
      nth_rewrite 1 [← hunder.1]
      exact (List.take_append_drop _ _).symm
    · cases hnames
  · rintro ⟨hne, e, he, hloc⟩
    refine ⟨e, he, ?_⟩
    have hpos := List.length_pos_of_ne_nil hne
    rw [hloc, if_pos ⟨List.take_left, by rw [List.length_append]; omega⟩, List.drop_left]

theorem IsProper.nodup_below {t : FileTree} (h : t.IsProper) (loc : Location) :
    (t.below loc).Nodup := by
  have hlocs : t.below loc = (t.entries.map (·.1)).filterMap fun l =>
      if l.take loc.length = loc ∧ loc.length < l.length then some (l.drop loc.length) else none := by
    rw [below, List.filterMap_map]
    rfl
  rw [hlocs]
  refine h.distinct.filterMap fun l l' names hl hl' => ?_
  simp only [Option.mem_def, Option.ite_none_right_eq_some, Option.some.injEq] at hl hl'
  rw [← List.take_append_drop loc.length l, ← List.take_append_drop loc.length l', hl.2, hl'.2,
    hl.1.1, hl'.1.1]

theorem IsProper.notMem_of_mem_below {t : FileTree} (h : t.IsProper) {loc : Location}
    {names : List Text} (hnames : names ∈ t.below loc) : "..".toList ∉ names := by
  have hin := (mem_below_iff.1 hnames).2
  rw [isSome_kind?, isSome_get?] at hin
  obtain ⟨e, he, hloc⟩ := List.mem_map.1 hin
  exact fun hup => h.noUp e he (hloc ▸ List.mem_append_right _ hup)

def SameBelow (t : FileTree) (loc : Location) (t' : FileTree) (loc' : Location) : Prop :=
  ∀ names, t.kind? (loc ++ names) = t'.kind? (loc' ++ names)

section
variable {t t' : FileTree} {loc loc' : Location}

/-- Only the names that lead somewhere have to be looked at. -/
theorem sameBelow_iff : t.SameBelow loc t' loc' ↔
    ∀ names ∈ [] :: (t.below loc ++ t'.below loc'),
      t.kind? (loc ++ names) = t'.kind? (loc' ++ names) := by
  refine ⟨fun h names _ => h names, fun h names => ?_⟩
  by_cases hmem : names ∈ [] :: (t.below loc ++ t'.below loc')
  · exact h names hmem
  · simp only [List.mem_cons, List.mem_append, mem_below_iff, not_or, not_and,
      Option.not_isSome_iff_eq_none] at hmem
    rw [hmem.2.1 hmem.1, hmem.2.2 hmem.1]

instance : Decidable (t.SameBelow loc t' loc') := decidable_of_iff _ sameBelow_iff.symm

theorem SameBelow.mem_below (h : t.SameBelow loc t' loc') (names : List Text) :
    names ∈ t.below loc ↔ names ∈ t'.below loc' := by
  rw [mem_below_iff, mem_below_iff, h names]

theorem SameBelow.below_perm (h : t.SameBelow loc t' loc') (ht : t.IsProper) (ht' : t'.IsProper) :
    (t.below loc).Perm (t'.below loc') :=
  (List.perm_ext_iff_of_nodup (ht.nodup_below loc) (ht'.nodup_below loc')).2 h.mem_below

/-- Names lead as far below the one location as below the other. -/
theorem SameBelow.walk_iff (h : t.SameBelow loc t' loc') {names : List Text}
    (hup : "..".toList ∉ names) (done : List Text) :
    t.walk (loc ++ done) names = .ok (loc ++ done ++ names) ↔
      t'.walk (loc' ++ done) names = .ok (loc' ++ done ++ names) := by
  induction names generalizing done with
  | nil => simp [walk]
  | cons name names ih =>
    obtain ⟨hname, hnames⟩ := not_or.1 (mt List.mem_cons.2 hup)
    have hnext : ∀ here : Location, next here name = here ++ [name] :=
      fun here => if_neg (Ne.symm hname)
    have hih := ih hnames (done ++ [name])
    simp only [List.append_assoc, List.singleton_append] at hih
    rw [walk_cons_eq_ok, walk_cons_eq_ok, ← kind?_eq_directory, ← kind?_eq_directory, hnext, hnext,
      ← isSome_kind?, ← isSome_kind?]
    simp only [List.append_assoc, hih, h _]

end

def contentBelow (t : FileTree) (loc : Location) (names : List Text) : Option (List UInt8) :=
  match t.walk loc names with
  | .ok place => (t.kind? place).join
  | .error _ => none

theorem contentBelow_eq_some {t : FileTree} {loc : Location} {names : List Text}
    {content : List UInt8} (hup : "..".toList ∉ names) :
    t.contentBelow loc names = some content ↔
      t.walk loc names = .ok (loc ++ names) ∧ t.kind? (loc ++ names) = some (some content) := by
  unfold contentBelow
  cases hwalk : t.walk loc names with
  | error cause => simp
  | ok place =>
    obtain rfl : place = loc ++ names := (walk_eq_ok hwalk).trans (foldl_next hup)
    simp [Option.join_eq_some_iff]

theorem SameBelow.contentBelow_eq {t t' : FileTree} {loc loc' : Location}
    (h : t.SameBelow loc t' loc') {names : List Text} (hup : "..".toList ∉ names) :
    t.contentBelow loc names = t'.contentBelow loc' names := by
  refine Option.ext fun content => ?_
  have hwalk := h.walk_iff hup []
  simp only [List.append_nil] at hwalk
  rw [contentBelow_eq_some hup, contentBelow_eq_some hup, hwalk, h names]

/-- A file under a root is read where the names below the root lead. -/
theorem read_join {t : FileTree} {cwd root : Path} {loc : Location} {names : List Text}
    {content : List UInt8} (hroot : t.locate cwd root = .ok loc) (hup : "..".toList ∉ names)
    (hreach : (root.join ⟨.relative, names⟩).barrier? = none) :
    t.read cwd (root.join ⟨.relative, names⟩) = .ok content ↔
      t.contentBelow loc names = some content := by
  obtain ⟨-, hwalk⟩ := locate_eq_ok.1 hroot
  have hplace : place cwd (root.join ⟨.relative, names⟩) = loc ++ names := by
    refine (List.foldl_append ..).trans ?_
    rw [← foldl_next hup]
    exact congrArg (List.foldl next · names) (walk_eq_ok hwalk).symm
  have hlocate : t.locate cwd (root.join ⟨.relative, names⟩) = .ok (loc ++ names) ↔
      t.walk loc names = .ok (loc ++ names) := by
    rw [locate_eq_ok, and_iff_right hreach]
    change t.walk (start cwd root) (root.names ++ names) = _ ↔ _
    rw [walk_append, hwalk]
    rfl
  rw [read_eq_ok, contentBelow_eq_some hup, kind?_eq_file]
  simp only [stat_eq_ok, hplace, hlocate, exists_and_left]

end FileTree

/-! Searches. -/

theorem Path.parts_join (root : Path) (names : List Text) :
    (root.join ⟨.relative, names⟩).parts = root.parts ++ names := by
  obtain ⟨anchor, above⟩ := root
  cases anchor <;> rfl

namespace Batch

def isSkipped (skipDirs names : List Text) : Bool := skipDirs.any names.contains

theorem isSkipped_append (skipDirs names more : List Text) :
    isSkipped skipDirs (names ++ more) = (isSkipped skipDirs names || isSkipped skipDirs more) := by
  rw [isSkipped, isSkipped, isSkipped, Bool.eq_iff_iff]
  simp only [Bool.or_eq_true, List.any_eq_true, List.contains_iff_mem, List.mem_append,
    and_or_left, exists_or]

/-- The names of the sources below a location that hold one of the markers, in increasing order,
those left out that have a name among `skipDirs`. -/
def markedBelow (files : FileTree) (loc : Location) (markers skipDirs : List Text) :
    List (List Text) :=
  (sortNames ((files.below loc).filter fun names => names.getLast?.any isSourceName)).filter
    fun names => !isSkipped skipDirs names && (files.contentBelow loc names).any fun content =>
      markers.any fun m => occursIn m (normalizeNewlines (Utf8.decodeLossy content))

theorem markedBelow_of_sameBelow {t t' : FileTree} {loc loc' : Location}
    (h : t.SameBelow loc t' loc') (ht : t.IsProper) (ht' : t'.IsProper)
    (markers skipDirs : List Text) :
    markedBelow t loc markers skipDirs = markedBelow t' loc' markers skipDirs := by
  rw [markedBelow, markedBelow, sortNames_of_perm ((h.below_perm ht ht').filter _)]
  refine List.filter_congr fun names hnames => ?_
  have hbelow := List.mem_of_mem_filter (List.mem_mergeSort.1 hnames)
  rw [h.contentBelow_eq (ht'.notMem_of_mem_below hbelow)]

theorem sourcePaths_eq {files : FileTree} {cwd root : Path} {loc : Location}
    (hroot : files.locate cwd root = .ok loc) :
    sourcePaths files cwd root =
      (sortNames ((files.below loc).filter fun names => names.getLast?.any isSourceName)).map
        fun names => root.join ⟨.relative, names⟩ := by
  simp only [sourcePaths, hroot, sortPaths, sortNames]
  refine (List.map_mergeSort fun names _ names' _ => ?_).symm
  rw [upTo, Path.parts_join, Path.parts_join, lexBefore_append_left]

/-- The directory from which a search starts stands at the location, and the paths under it can be
looked up. -/
structure StartsAt (w : Workspace) (root : Path) (loc : Location) : Prop where
  isProper : w.files.IsProper
  isDirectory : w.files.isDirectory w.cwd root = .ok true
  located : w.files.locate w.cwd root = .ok loc
  reaches : ∀ names ∈ w.files.below loc, (root.join ⟨.relative, names⟩).barrier? = none

theorem StartsAt.lossyText_join {w : Workspace} {root : Path} {loc : Location}
    (h : StartsAt w root loc) {names : List Text} (hnames : names ∈ w.files.below loc) :
    (lossyText w.files w.cwd (root.join ⟨.relative, names⟩)).toOption =
      (w.files.contentBelow loc names).map fun content =>
        normalizeNewlines (Utf8.decodeLossy content) := by
  have hread := fun content => @FileTree.read_join _ _ _ _ _ content h.located
    (h.isProper.notMem_of_mem_below hnames) (h.reaches names hnames)
  rw [lossyText]
  cases hfile : w.files.read w.cwd (root.join ⟨.relative, names⟩) with
  | ok content =>
    rw [(hread content).1 hfile]
    rfl
  | error e =>
    have hnone : w.files.contentBelow loc names = none := by
      refine Option.eq_none_iff_forall_ne_some.2 fun content hcontent => ?_
      rw [(hread content).2 hcontent] at hfile
      cases hfile
    rw [hnone]
    rfl

/-- What a search finds, read relative to where it starts. -/
theorem StartsAt.marked_eq {w : Workspace} {root : Path} {loc : Location} (h : StartsAt w root loc)
    (markers skipDirs : List Text) :
    marked w.files w.cwd root markers skipDirs =
      if isSkipped skipDirs root.parts then []
      else (markedBelow w.files loc markers skipDirs).map
        fun names => root.join ⟨.relative, names⟩ := by
  rw [marked, sourcePaths_eq h.located, List.filter_map]
  -- a path is left out for a name of the root, or else for what stands below the root
  refine (congrArg _ (@List.filter_congr _ _ (fun names => !isSkipped skipDirs root.parts &&
    (!isSkipped skipDirs names && (w.files.contentBelow loc names).any fun content =>
      markers.any fun m => occursIn m (normalizeNewlines (Utf8.decodeLossy content)))) _
    fun names hnames => ?_)).trans ?_
  · have htext := h.lossyText_join (List.mem_of_mem_filter (List.mem_mergeSort.1 hnames))
    rw [Function.comp_apply, Path.parts_join, ← isSkipped, isSkipped_append, Bool.not_or,
      Bool.and_assoc]
    cases hlossy : lossyText w.files w.cwd (root.join ⟨.relative, names⟩) with
    | ok text =>
      rw [hlossy] at htext
      obtain ⟨content, hcontent, rfl⟩ := Option.map_eq_some_iff.1 htext.symm
      rw [hcontent]
      rfl
    | error e =>
      rw [hlossy] at htext
      rw [Option.map_eq_none_iff.1 htext.symm]
      rfl
  · cases isSkipped skipDirs root.parts with
    | true => simp only [Bool.not_true, Bool.false_and, List.filter_false, List.map_nil, if_true]
    | false => rfl

theorem StartsAt.outcome_find {w : Workspace} {root : Path} {loc : Location}
    (h : StartsAt w root loc) {choice : Option DialectChoice} {ds : List Dialect}
    (hds : (choice.getD (.named [])).candidates .standard = .ok ds) (skipDirs : List Text) :
    outcome (find root skipDirs choice) w =
      (.ok (if isSkipped skipDirs root.parts then []
        else (markedBelow w.files loc (ds.map (·.buildMarker)) skipDirs).map
          fun names => root.join ⟨.relative, names⟩), w) := by
  rw [Batch.outcome_find hds h.isDirectory, h.marked_eq]

/-- One subtree under two roots. Each search finds what the subtree has, in the one order, unless
the path of its own root has a name that is left out. So the two find the same relative paths
exactly when there is nothing to be found or the two paths agree on having such a name. -/
theorem find_sameBelow {w w' : Workspace} {root root' : Path} {loc loc' : Location}
    (h : StartsAt w root loc) (h' : StartsAt w' root' loc')
    (hsame : w.files.SameBelow loc w'.files loc') {choice : Option DialectChoice}
    {ds : List Dialect} (hds : (choice.getD (.named [])).candidates .standard = .ok ds)
    (skipDirs : List Text) :
    ∃ found, found = markedBelow w.files loc (ds.map (·.buildMarker)) skipDirs ∧
      outcome (find root skipDirs choice) w =
        (.ok (if isSkipped skipDirs root.parts then []
          else found.map fun names => root.join ⟨.relative, names⟩), w) ∧
      outcome (find root' skipDirs choice) w' =
        (.ok (if isSkipped skipDirs root'.parts then []
          else found.map fun names => root'.join ⟨.relative, names⟩), w') ∧
      ((∃ shared : List (List Text),
          outcome (find root skipDirs choice) w =
            (.ok (shared.map fun names => root.join ⟨.relative, names⟩), w) ∧
          outcome (find root' skipDirs choice) w' =
            (.ok (shared.map fun names => root'.join ⟨.relative, names⟩), w')) ↔
        found = [] ∨ isSkipped skipDirs root.parts = isSkipped skipDirs root'.parts) := by
  have hfind := h.outcome_find hds skipDirs
  have hfind' := h'.outcome_find hds skipDirs
  rw [← markedBelow_of_sameBelow hsame h.isProper h'.isProper] at hfind'
  refine ⟨_, rfl, hfind, hfind', ?_⟩
  rw [hfind, hfind']
  generalize markedBelow w.files loc (ds.map (·.buildMarker)) skipDirs = found
  simp only [Prod.mk.injEq, Except.ok.injEq, and_true]
  constructor
  · rintro ⟨shared, hshared, hshared'⟩
    -- where one path has a name that is left out, what is shared is nothing
    cases hskip : isSkipped skipDirs root.parts <;> cases hskip' : isSkipped skipDirs root'.parts
    · exact Or.inr rfl
    · rw [hskip', if_pos rfl] at hshared'
      rw [List.map_eq_nil_iff.1 hshared'.symm, hskip, if_neg Bool.false_ne_true] at hshared
      exact Or.inl (List.map_eq_nil_iff.1 hshared)
    · rw [hskip, if_pos rfl] at hshared
      rw [List.map_eq_nil_iff.1 hshared.symm, hskip', if_neg Bool.false_ne_true] at hshared'
      exact Or.inl (List.map_eq_nil_iff.1 hshared')
    · exact Or.inr rfl
  · rintro (rfl | hskip)
    · exact ⟨[], by simp, by simp⟩
    · rw [hskip]
      cases isSkipped skipDirs root'.parts with
      | true => exact ⟨[], rfl, rfl⟩
      | false => exact ⟨found, rfl, rfl⟩

def placedTwice : Workspace where
  files := ⟨[([], .directory 0),
    (["src".toList], .directory 0),
    (["src".toList, "A.sol".toList], .file (Utf8.encode spacedSource) 0),
    (["src".toList, "old".toList], .directory 0),
    (["src".toList, "old".toList, "B.sol".toList], .file (Utf8.encode spacedSource) 0),
    (["lib".toList], .directory 0),
    (["lib".toList, "src".toList], .directory 1),
    (["lib".toList, "src".toList, "old".toList], .directory 2),
    (["lib".toList, "src".toList, "old".toList, "B.sol".toList],
      .file (Utf8.encode spacedSource) 3),
    (["lib".toList, "src".toList, "A.sol".toList], .file (Utf8.encode spacedSource) 4)]⟩
  cwd := ⟨.root, []⟩
  now := 5

def placedNames : List (List Text) := [["A.sol".toList], ["old".toList, "B.sol".toList]]

theorem startsAt_placedTwice {root : Location}
    (h : root ∈ [["src".toList], ["lib".toList, "src".toList]]) :
    StartsAt placedTwice ⟨.relative, root⟩ root := by
  have hroots : ∀ root ∈ [["src".toList], ["lib".toList, "src".toList]],
      placedTwice.files.isDirectory placedTwice.cwd ⟨.relative, root⟩ = .ok true ∧
      placedTwice.files.locate placedTwice.cwd ⟨.relative, root⟩ = .ok root ∧
      ∀ names ∈ placedTwice.files.below root,
        ((⟨.relative, root⟩ : Path).join ⟨.relative, names⟩).barrier? = none := by decide
  obtain ⟨hdirectory, hlocate, hbarrier⟩ := hroots root h
  exact ⟨⟨by decide, by decide⟩, hdirectory, hlocate, hbarrier⟩

theorem sameBelow_placedTwice :
    placedTwice.files.SameBelow ["src"] placedTwice.files ["lib", "src"] := by decide

theorem markedBelow_placedTwice (skipDirs : List Text) :
    markedBelow placedTwice.files ["src"] (Registry.standard.dialects.map (·.buildMarker))
      skipDirs = placedNames.filter fun names => !isSkipped skipDirs names := by
  have hbelow : ((placedTwice.files.below ["src"]).filter fun names =>
      names.getLast?.any isSourceName) = placedNames := by decide
  have hmarked : ∀ names ∈ placedNames,
      ((placedTwice.files.contentBelow ["src"] names).any fun content =>
        (Registry.standard.dialects.map (·.buildMarker)).any fun m =>
          occursIn m (normalizeNewlines (Utf8.decodeLossy content))) = true := by decide
  have hsorted : sortNames placedNames = placedNames := List.mergeSort_of_pairwise (by decide)
  rw [markedBelow, hbelow, hsorted]
  refine List.filter_congr fun names hnames => ?_
  rw [hmarked names hnames, Bool.and_true]

/-- A directory below both roots is left out of both. -/
theorem find_sameBelow_old :
    outcome (find ⟨.relative, ["src"]⟩ ["old"] none) placedTwice =
      (.ok [⟨.relative, ["src", "A.sol"]⟩], placedTwice) ∧
    outcome (find ⟨.relative, ["lib", "src"]⟩ ["old"] none) placedTwice =
      (.ok [⟨.relative, ["lib", "src", "A.sol"]⟩], placedTwice) := by
  obtain ⟨found, rfl, hfind, hfind', -⟩ := @find_sameBelow placedTwice placedTwice _ _ _ _
    (startsAt_placedTwice (by decide)) (startsAt_placedTwice (by decide)) sameBelow_placedTwice
    none Registry.standard.dialects rfl ["old"]
  rw [markedBelow_placedTwice] at hfind hfind'
  exact ⟨hfind, hfind'⟩

/-- The second root stands in a directory whose name is left out. -/
theorem root_left_out :
    placedTwice.files.SameBelow ["src"] placedTwice.files ["lib", "src"] ∧
    outcome (find ⟨.relative, ["src"]⟩ ["lib"] none) placedTwice =
      (.ok [⟨.relative, ["src", "A.sol"]⟩, ⟨.relative, ["src", "old", "B.sol"]⟩], placedTwice) ∧
    outcome (find ⟨.relative, ["lib", "src"]⟩ ["lib"] none) placedTwice = (.ok [], placedTwice) := by
  have hstart := @startsAt_placedTwice ["src"] (by decide)
  have hstart' := @startsAt_placedTwice ["lib", "src"] (by decide)
  have hfind := @StartsAt.outcome_find _ _ _ hstart none Registry.standard.dialects rfl ["lib"]
  have hfind' := @StartsAt.outcome_find _ _ _ hstart' none Registry.standard.dialects rfl ["lib"]
  rw [markedBelow_placedTwice] at hfind
  exact ⟨sameBelow_placedTwice, hfind, hfind'⟩

end Batch
end SolInterface
