import Mathlib.Tactic.Common
import SolInterface.FileTree

/-!
Following paths in a file tree, and what a tree keeps when directories are made and files written.
The place of a path is where its names lead without asking what is there; a path that is followed
with success leads to its place, and goes on doing so while the tree grows.
-/
namespace SolInterface.FileTree

/-! Nodes after a change. -/

theorem get?_put (t : FileTree) (loc : Location) (node : Node) (other : Location) :
    (t.put loc node).get? other = if other = loc then some node else t.get? other := by
  obtain ⟨entries⟩ := t
  unfold put get?
  dsimp only
  by_cases h : other = loc
  · subst h
    rw [if_pos rfl]
    induction entries with
    | nil => simp [enter]
    | cons e entries ih =>
      by_cases he : e.1 = other
      · simp [enter, he]
      · have hne : (other == e.1) = false := beq_false_of_ne (Ne.symm he)
        rw [enter, if_neg he, List.lookup_cons, hne]
        exact ih
  · have hne : (other == loc) = false := beq_false_of_ne h
    rw [if_neg h]
    induction entries with
    | nil => rw [enter, List.lookup_cons, hne]
    | cons e entries ih =>
      by_cases he : e.1 = loc
      · rw [enter, if_pos he, List.lookup_cons, List.lookup_cons, he, hne]
      · rw [enter, if_neg he, List.lookup_cons, List.lookup_cons, ih]

theorem mem_entries_of_get? {t : FileTree} {loc : Location} {node : Node}
    (h : t.get? loc = some node) : (loc, node) ∈ t.entries := by
  obtain ⟨before, after, hentries, -⟩ := List.lookup_eq_some_iff.1 h
  rw [hentries]
  simp

/-! Places. -/

def next (here : Location) (name : Text) : Location :=
  if name = "..".toList then here.dropLast else here ++ [name]

/-- Where the names of a path lead. -/
def place (cwd p : Path) : Location := p.names.foldl next (start cwd p)

theorem foldl_next {here : Location} {names : List Text} (hup : "..".toList ∉ names) :
    names.foldl next here = here ++ names := by
  induction names generalizing here with
  | nil => exact (List.append_nil here).symm
  | cons name names ih =>
    obtain ⟨hname, hnames⟩ := not_or.1 (mt List.mem_cons.2 hup)
    rw [List.foldl_cons, ih hnames, next, if_neg (Ne.symm hname), List.append_assoc,
      List.singleton_append]

theorem walk_cons (t : FileTree) (here : Location) (name : Text) (more : List Text) :
    t.walk here (name :: more) =
      match t.get? here with
      | some (.directory _) =>
        if Path.isLongName name then .error .nameTooLong
        else if (t.get? (next here name)).isSome then t.walk (next here name) more
        else .error .notFound
      | some (.file _ _) => .error .notDirectory
      | none => .error .notFound := rfl

theorem walk_cons_eq_ok {t : FileTree} {here loc : Location} {name : Text} {more : List Text} :
    t.walk here (name :: more) = .ok loc ↔
      (∃ mtime, t.get? here = some (.directory mtime)) ∧ Path.isLongName name = false ∧
        (t.get? (next here name)).isSome ∧ t.walk (next here name) more = .ok loc := by
  rw [walk_cons]
  cases hget : t.get? here with
  | none => simp
  | some node =>
    cases node with
    | file content mtime => simp
    | directory mtime =>
      cases Path.isLongName name <;> cases (t.get? (next here name)).isSome <;> simp

theorem walk_append (t : FileTree) (here : Location) (names more : List Text) :
    t.walk here (names ++ more) = (t.walk here names).bind fun loc => t.walk loc more := by
  induction names generalizing here with
  | nil => rfl
  | cons name names ih =>
    rw [List.cons_append, walk_cons, walk_cons, ih]
    split
    · split_ifs <;> rfl
    · rfl
    · rfl

theorem walk_eq_ok {t : FileTree} {here loc : Location} {names : List Text}
    (h : t.walk here names = .ok loc) : loc = names.foldl next here := by
  induction names generalizing here with
  | nil =>
    cases h
    rfl
  | cons name names ih =>
    obtain ⟨-, -, -, hrest⟩ := walk_cons_eq_ok.1 h
    exact ih hrest

theorem locate_eq_ok {t : FileTree} {cwd p : Path} {loc : Location} :
    t.locate cwd p = .ok loc ↔ p.barrier? = none ∧ t.walk (start cwd p) p.names = .ok loc := by
  unfold locate follow
  cases p.barrier? with
  | some cause => simp
  | none => cases t.walk (start cwd p) p.names <;> simp

/-- What stands at a path stands at its place. -/
theorem stat_eq_ok {t : FileTree} {cwd p : Path} {node : Node} :
    t.stat cwd p = .ok node ↔
      t.locate cwd p = .ok (place cwd p) ∧ t.get? (place cwd p) = some node := by
  unfold stat
  cases hlocate : t.locate cwd p with
  | error e => simp
  | ok loc =>
    obtain rfl : loc = place cwd p := walk_eq_ok (locate_eq_ok.1 hlocate).2
    cases hget : t.get? (place cwd p) <;> simp [hget]

theorem read_eq_ok {t : FileTree} {cwd p : Path} {content : List UInt8} :
    t.read cwd p = .ok content ↔ ∃ mtime, t.stat cwd p = .ok (.file content mtime) := by
  unfold read
  cases t.stat cwd p with
  | error e => simp
  | ok node => cases node <;> simp

theorem get?_of_read {t : FileTree} {cwd p : Path} {content : List UInt8}
    (h : t.read cwd p = .ok content) :
    ∃ mtime, t.get? (place cwd p) = some (.file content mtime) := by
  obtain ⟨mtime, hstat⟩ := read_eq_ok.1 h
  exact ⟨mtime, (stat_eq_ok.1 hstat).2⟩

theorem pathExists_eq_true {t : FileTree} {cwd p : Path} :
    t.pathExists cwd p = .ok true ↔ ∃ node, t.stat cwd p = .ok node := by
  unfold pathExists stat?
  cases t.stat cwd p with
  | error e => cases he : e.cause.isAbsence <;> simp [he, Except.map]
  | ok node => simp [Except.map]

theorem isFile_eq_true {t : FileTree} {cwd p : Path} :
    t.isFile cwd p = .ok true ↔ ∃ content, t.read cwd p = .ok content := by
  unfold isFile stat? read
  cases t.stat cwd p with
  | error e => cases he : e.cause.isAbsence <;> simp [he, Except.map]
  | ok node => cases node <;> simp [Except.map]

theorem isDirectory_eq_true {t : FileTree} {cwd p : Path} :
    t.isDirectory cwd p = .ok true ↔ ∃ mtime, t.stat cwd p = .ok (.directory mtime) := by
  unfold isDirectory stat?
  cases t.stat cwd p with
  | error e => cases he : e.cause.isAbsence <;> simp [he, Except.map]
  | ok node => cases node <;> simp [Except.map]

/-! Growth. -/

def file? (t : FileTree) (loc : Location) : Option (List UInt8 × Time) :=
  match t.get? loc with
  | some (.file content mtime) => some (content, mtime)
  | _ => none

/-- `t'` comes from `t` by making directories at places of the class `way`, where nothing stood, and
by writing files for which `writes` holds, all of them at the time `now`. -/
def Grows (now : Time) (way : Location → Prop) (writes : Location → List UInt8 → Prop)
    (t t' : FileTree) : Prop :=
  ∀ loc, t'.get? loc = t.get? loc ∨
    (way loc ∧ t.get? loc = none ∧ t'.get? loc = some (.directory now)) ∨
    ∃ content, writes loc content ∧ (∀ mtime, t.get? loc ≠ some (.directory mtime)) ∧
      t'.get? loc = some (.file content now)

namespace Grows

variable {now : Time} {way way' : Location → Prop} {writes writes' : Location → List UInt8 → Prop}
  {t t' t'' : FileTree} {cwd p : Path}

theorem refl (now : Time) (way : Location → Prop) (writes : Location → List UInt8 → Prop)
    (t : FileTree) : Grows now way writes t t :=
  fun _ => Or.inl rfl

theorem mono (h : Grows now way writes t t') (hway : ∀ loc, way loc → way' loc)
    (hwrites : ∀ loc content, writes loc content → writes' loc content) :
    Grows now way' writes' t t' := by
  intro loc
  rcases h loc with hsame | ⟨hloc, hnew⟩ | ⟨content, hcontent, hnew⟩
  · exact Or.inl hsame
  · exact Or.inr (Or.inl ⟨hway loc hloc, hnew⟩)
  · exact Or.inr (Or.inr ⟨content, hwrites loc content hcontent, hnew⟩)

theorem trans (h : Grows now way writes t t') (h' : Grows now way writes t' t'') :
    Grows now way writes t t'' := by
  intro loc
  rcases h' loc with hsame | ⟨hloc, hnone, hnew⟩ | ⟨content, hcontent, hfile, hnew⟩
  · rw [hsame]
    exact h loc
  · rcases h loc with hsame' | ⟨-, -, hdir⟩ | ⟨_, -, -, hput⟩
    · exact Or.inr (Or.inl ⟨hloc, hsame' ▸ hnone, hnew⟩)
    · rw [hdir] at hnone
      cases hnone
    · rw [hput] at hnone
      cases hnone
  · refine Or.inr (Or.inr ⟨content, hcontent, fun mtime hdir => ?_, hnew⟩)
    rcases h loc with hsame' | ⟨-, hnone, -⟩ | ⟨_, -, hfile', -⟩
    · exact hfile mtime (hsame'.trans hdir)
    · rw [hnone] at hdir
      cases hdir
    · exact hfile' mtime hdir

/-- A directory stays as it is. -/
theorem directory (h : Grows now way writes t t') {loc : Location} {mtime : Time}
    (hloc : t.get? loc = some (.directory mtime)) : t'.get? loc = some (.directory mtime) := by
  rcases h loc with hsame | ⟨-, hnone, -⟩ | ⟨_, -, hfile, -⟩
  · exact hsame.trans hloc
  · rw [hnone] at hloc
    cases hloc
  · exact absurd hloc (hfile mtime)

theorem isSome (h : Grows now way writes t t') {loc : Location} (hloc : (t.get? loc).isSome) :
    (t'.get? loc).isSome := by
  rcases h loc with hsame | ⟨-, -, hnew⟩ | ⟨_, -, -, hnew⟩
  · rwa [hsame]
  · rw [hnew]
    rfl
  · rw [hnew]
    rfl

/-- Where nothing is written, a file stays, and none appears. -/
theorem file_iff (h : Grows now way writes t t') {loc : Location}
    (hloc : ∀ content, ¬ writes loc content) {content : List UInt8} {mtime : Time} :
    t'.get? loc = some (.file content mtime) ↔ t.get? loc = some (.file content mtime) := by
  rcases h loc with hsame | ⟨-, hnone, hnew⟩ | ⟨_, hwrites, -⟩
  · rw [hsame]
  · rw [hnone, hnew]
    simp
  · exact absurd hwrites (hloc _)

/-- A file is kept, or it has been written. -/
theorem file? (h : Grows now way writes t t') (loc : Location) :
    t'.file? loc = t.file? loc ∨
      ∃ content, writes loc content ∧ t'.file? loc = some (content, now) := by
  unfold FileTree.file?
  rcases h loc with hsame | ⟨-, hnone, hnew⟩ | ⟨content, hwrites, -, hnew⟩
  · exact Or.inl (by rw [hsame])
  · exact Or.inl (by rw [hnone, hnew])
  · exact Or.inr ⟨content, hwrites, by rw [hnew]⟩

theorem walk (h : Grows now way writes t t') {here loc : Location} {names : List Text}
    (hwalk : t.walk here names = .ok loc) : t'.walk here names = .ok loc := by
  induction names generalizing here with
  | nil => exact hwalk
  | cons name names ih =>
    obtain ⟨⟨mtime, hdir⟩, hshort, hnext, hrest⟩ := walk_cons_eq_ok.1 hwalk
    exact walk_cons_eq_ok.2 ⟨⟨mtime, h.directory hdir⟩, hshort, h.isSome hnext, ih hrest⟩

theorem locate (h : Grows now way writes t t') {loc : Location}
    (hlocate : t.locate cwd p = .ok loc) : t'.locate cwd p = .ok loc := by
  obtain ⟨hbarrier, hwalk⟩ := locate_eq_ok.1 hlocate
  exact locate_eq_ok.2 ⟨hbarrier, h.walk hwalk⟩

/-- A file is read as before at a place where nothing is written. -/
theorem read (h : Grows now way writes t t') (hplace : ∀ content, ¬ writes (place cwd p) content)
    {content : List UInt8} (hread : t.read cwd p = .ok content) : t'.read cwd p = .ok content := by
  obtain ⟨mtime, hstat⟩ := read_eq_ok.1 hread
  obtain ⟨hlocate, hget⟩ := stat_eq_ok.1 hstat
  exact read_eq_ok.2 ⟨mtime, stat_eq_ok.2 ⟨h.locate hlocate, (h.file_iff hplace).2 hget⟩⟩

/-- A file that may only be written with the content it has is read as before. -/
theorem read_of_forall (h : Grows now way writes t t') {content : List UInt8}
    (hplace : ∀ content', writes (place cwd p) content' → content' = content)
    (hread : t.read cwd p = .ok content) : t'.read cwd p = .ok content := by
  obtain ⟨mtime, hstat⟩ := read_eq_ok.1 hread
  obtain ⟨hlocate, hget⟩ := stat_eq_ok.1 hstat
  rcases h (place cwd p) with hsame | ⟨-, hnone, -⟩ | ⟨content', hwrites, -, hnew⟩
  · exact read_eq_ok.2 ⟨mtime, stat_eq_ok.2 ⟨h.locate hlocate, hsame.trans hget⟩⟩
  · rw [hnone] at hget
    cases hget
  · obtain rfl := hplace content' hwrites
    exact read_eq_ok.2 ⟨now, stat_eq_ok.2 ⟨h.locate hlocate, hnew⟩⟩

end Grows

/-! Making directories and writing files. -/

def EndsInName (p : Path) : Prop := ∃ init name, p.names = init ++ [name] ∧ name ≠ "..".toList

/-- The last name of a path stands in a directory, and is one that can be put there. -/
theorem slot_eq_some {t : FileTree} {cwd p : Path} {parent : Location} {name : Text} :
    t.slot cwd p = .ok (some (parent, name)) ↔
      p.barrier? = none ∧ p.names = p.names.dropLast ++ [name] ∧
        t.walk (start cwd p) p.names.dropLast = .ok parent ∧
        (∃ mtime, t.get? parent = some (.directory mtime)) ∧ name ≠ "..".toList ∧
        Path.isLongName name = false := by
  constructor
  · intro h
    unfold slot at h
    split at h
    · cases h
    · next last hlast =>
      have hnames : p.names = p.names.dropLast ++ [last] := by
        obtain ⟨init, hinit⟩ := List.getLast?_eq_some_iff.1 hlast
        rw [hinit, List.dropLast_concat]
      split at h
      · cases h
      · next place hfollow =>
        split at h
        · next mtime hdir =>
          split_ifs at h with hup hlong
          · cases h
          · cases h
            unfold follow at hfollow
            split at hfollow
            · cases hfollow
            · next hbarrier =>
              split at hfollow
              · next hwalk =>
                cases hfollow
                exact ⟨hbarrier, hnames, hwalk, ⟨mtime, hdir⟩, hup, by simpa using hlong⟩
              · cases hfollow
        · cases h
        · cases h
  · rintro ⟨hbarrier, hnames, hwalk, ⟨mtime, hdir⟩, hup, hshort⟩
    have hlast : p.names.getLast? = some name := by
      rw [hnames, List.getLast?_concat]
    simp only [slot, follow, hlast, hbarrier, hwalk, hdir, if_neg hup, hshort]
    rfl

theorem place_of_slot {t : FileTree} {cwd p : Path} {parent : Location} {name : Text}
    (h : t.slot cwd p = .ok (some (parent, name))) : parent ++ [name] = place cwd p := by
  obtain ⟨-, hnames, hwalk, -, hup, -⟩ := slot_eq_some.1 h
  rw [place, hnames, List.foldl_append, ← walk_eq_ok hwalk, List.foldl_cons, List.foldl_nil, next,
    if_neg hup]

theorem grows_put {t : FileTree} {loc : Location} {content : List UInt8} {now : Time}
    {way : Location → Prop} {writes : Location → List UInt8 → Prop}
    (hwrites : writes loc content) (hfile : ∀ mtime, t.get? loc ≠ some (.directory mtime)) :
    Grows now way writes t (t.put loc (.file content now)) := by
  intro other
  rw [get?_put]
  split
  · next h =>
    subst h
    exact Or.inr (Or.inr ⟨content, hwrites, hfile, rfl⟩)
  · exact Or.inl rfl

/-- A file is written at the place of its path, unless a directory is there. -/
theorem write_eq_ok {t t' : FileTree} {cwd p : Path} {content : List UInt8} {now : Time} :
    t.write cwd p content now = .ok t' ↔
      (∃ found, t.slot cwd p = .ok (some found)) ∧
        (∀ mtime, t.get? (place cwd p) ≠ some (.directory mtime)) ∧
        t' = t.put (place cwd p) (.file content now) := by
  unfold write
  cases hslot : t.slot cwd p with
  | error e => simp
  | ok found? =>
    cases found? with
    | none => simp
    | some found =>
      have hplace : found.1 ++ [found.2] = place cwd p := place_of_slot hslot
      dsimp only
      rw [hplace]
      cases hget : t.get? (place cwd p) with
      | none => simp [eq_comm]
      | some node => cases node <;> simp [eq_comm]

/-- A file that was written can be read. -/
theorem read_of_write {t t' : FileTree} {cwd p : Path} {content : List UInt8} {now : Time}
    (h : t.write cwd p content now = .ok t') : t'.read cwd p = .ok content := by
  obtain ⟨⟨⟨parent, name⟩, hslot⟩, hfile, rfl⟩ := write_eq_ok.1 h
  obtain ⟨hbarrier, hnames, hwalk, ⟨mtime, hdir⟩, hup, hshort⟩ := slot_eq_some.1 hslot
  have hgrows : Grows now (fun _ => False) (fun _ _ => True) t
      (t.put (place cwd p) (.file content now)) := grows_put trivial hfile
  have hget : (t.put (place cwd p) (.file content now)).get? (place cwd p) =
      some (.file content now) := by
    rw [get?_put, if_pos rfl]
  have hnext : next parent name = place cwd p := by
    rw [next, if_neg hup, place_of_slot hslot]
  refine read_eq_ok.2 ⟨now, stat_eq_ok.2 ⟨locate_eq_ok.2 ⟨hbarrier, ?_⟩, hget⟩⟩
  rw [hnames, walk_append, hgrows.walk hwalk]
  refine walk_cons_eq_ok.2 ⟨⟨mtime, hgrows.directory hdir⟩, hshort, ?_, ?_⟩
  · rw [hnext, hget]
    rfl
  · rw [hnext]
    rfl

/-- The places that a path passes, its own excepted. -/
def OnWay (cwd p : Path) (loc : Location) : Prop :=
  ∃ n < p.names.length, loc = place cwd ⟨p.anchor, p.names.take n⟩

instance (cwd p : Path) (loc : Location) : Decidable (OnWay cwd p loc) :=
  inferInstanceAs (Decidable (∃ n < _, _))

theorem makeDirectory_eq_ok {t t' : FileTree} {cwd p : Path} {now : Time}
    (h : t.makeDirectory cwd p now = .ok t') :
    t.get? (place cwd p) = none ∧ t' = t.put (place cwd p) (.directory now) := by
  unfold makeDirectory at h
  split at h
  · cases h
  · cases h
  · next parent name hslot =>
    rw [place_of_slot hslot] at h
    split at h
    · cases h
    · next hnone =>
      cases h
      exact ⟨hnone, rfl⟩

theorem grows_makeDirectory {t t' : FileTree} {cwd p : Path} {now : Time} {way : Location → Prop}
    {writes : Location → List UInt8 → Prop} (h : t.makeDirectory cwd p now = .ok t')
    (hway : way (place cwd p)) : Grows now way writes t t' := by
  obtain ⟨hnone, rfl⟩ := makeDirectory_eq_ok h
  intro loc
  rw [get?_put]
  split
  · next hloc =>
    subst hloc
    exact Or.inr (Or.inl ⟨hway, hnone, rfl⟩)
  · exact Or.inl rfl

theorem grows_ensureDirectory {t t' : FileTree} {cwd p : Path} {now : Time} {way : Location → Prop}
    {writes : Location → List UInt8 → Prop} (h : t.ensureDirectory cwd p now = .ok t')
    (hway : way (place cwd p)) : Grows now way writes t t' := by
  unfold ensureDirectory at h
  split at h
  · next hmade =>
    cases h
    exact grows_makeDirectory hmade hway
  · split at h
    · cases h
    · next e _ _ =>
      cases hexcuse : t.excuse cwd e with
      | error e' =>
        rw [hexcuse] at h
        cases h
      | ok _ =>
        rw [hexcuse] at h
        cases h
        exact Grows.refl now way writes t

/-- Directories are made on the way only, also where one of them cannot be made. -/
theorem grows_makePath (cwd : Path) (anchor : Anchor) (now : Time) (names : List Text)
    (t : FileTree) (writes : Location → List UInt8 → Prop) :
    Grows now (fun loc => ∃ n ≤ names.length, loc = place cwd ⟨anchor, names.reverse.take n⟩) writes
      t (makePath cwd anchor now names t).2 := by
  have hself : ∀ names : List Text, ∃ n ≤ names.length, place cwd ⟨anchor, names.reverse⟩ =
      place cwd ⟨anchor, names.reverse.take n⟩ := fun names =>
    ⟨names.length, Nat.le_refl _, by rw [List.take_of_length_le (by simp)]⟩
  induction names with
  | nil =>
    rw [makePath]
    split
    · next hmade => exact grows_makeDirectory hmade (hself _)
    · split
      · exact Grows.refl _ _ _ t
      · exact Grows.refl _ _ _ t
  | cons name above ih =>
    rw [makePath]
    split
    · next hmade => exact grows_makeDirectory hmade (hself _)
    · split
      · have hway : ∀ loc, (∃ n ≤ above.length, loc = place cwd ⟨anchor, above.reverse.take n⟩) →
            ∃ n ≤ (name :: above).length,
              loc = place cwd ⟨anchor, (name :: above).reverse.take n⟩ := by
          rintro loc ⟨n, hn, rfl⟩
          refine ⟨n, Nat.le_succ_of_le hn, ?_⟩
          rw [List.reverse_cons, List.take_append_of_le_length (by simpa using hn)]
        have habove := ih.mono hway fun _ _ h => h
        dsimp only
        split
        · next hmade =>
          rw [hmade] at habove
          exact habove
        · next hmade =>
          rw [hmade] at habove
          split
          · next hensure => exact habove.trans (grows_ensureDirectory hensure (hself _))
          · exact habove
      · exact Grows.refl _ _ _ t

/-- Making the directory of a path makes directories on the way of the path. -/
theorem grows_makeDirectories (t : FileTree) (cwd p : Path) (now : Time)
    (writes : Location → List UInt8 → Prop) :
    Grows now (OnWay cwd p) writes t (t.makeDirectories cwd p.parent now).2 := by
  by_cases hne : p.names = []
  · have hsame : (t.makeDirectories cwd p.parent now).2 = t := by
      simp [makeDirectories, Path.parent, hne, makePath, makeDirectory, slot]
    rw [hsame]
    exact Grows.refl _ _ _ t
  · refine (grows_makePath cwd p.anchor now p.names.dropLast.reverse t writes).mono ?_
      fun _ _ h => h
    rintro loc ⟨n, hn, rfl⟩
    have hpos := List.length_pos_iff.2 hne
    rw [List.length_reverse, List.length_dropLast] at hn
    refine ⟨n, by omega, ?_⟩
    rw [List.reverse_reverse, List.dropLast_eq_take, List.take_take, Nat.min_eq_left hn]

theorem endsInName_of_slot {t : FileTree} {cwd p : Path} {found : Location × Text}
    (h : t.slot cwd p = .ok (some found)) : EndsInName p := by
  obtain ⟨-, hnames, -, -, hup, -⟩ := slot_eq_some.1 h
  exact ⟨_, _, hnames, hup⟩

/-- Where something stands at the end of a path, something else can be put. -/
theorem slot_of_stat {t : FileTree} {cwd p : Path} {node : Node} (h : t.stat cwd p = .ok node)
    (hname : EndsInName p) : ∃ found, t.slot cwd p = .ok (some found) := by
  obtain ⟨hlocate, -⟩ := stat_eq_ok.1 h
  obtain ⟨hbarrier, hwalk⟩ := locate_eq_ok.1 hlocate
  obtain ⟨init, name, hnames, hup⟩ := hname
  rw [hnames, walk_append] at hwalk
  cases hparent : t.walk (start cwd p) init with
  | error cause =>
    rw [hparent] at hwalk
    cases hwalk
  | ok parent =>
    rw [hparent] at hwalk
    obtain ⟨hdir, hshort, -⟩ := walk_cons_eq_ok.1 hwalk
    exact ⟨(parent, name), slot_eq_some.2 ⟨hbarrier, by rw [hnames, List.dropLast_concat],
      by rw [hnames, List.dropLast_concat, hparent], hdir, hup, hshort⟩⟩

/-- A directory that is there is not made again. -/
theorem makeDirectory_of_stat {t : FileTree} {cwd p : Path} {node : Node}
    (h : t.stat cwd p = .ok node) (now : Time) :
    t.makeDirectory cwd p now = .error ⟨.alreadyExists, p⟩ := by
  obtain ⟨hlocate, hget⟩ := stat_eq_ok.1 h
  unfold makeDirectory
  by_cases hname : EndsInName p
  · obtain ⟨found, hslot⟩ := slot_of_stat h hname
    have hplace : found.1 ++ [found.2] = place cwd p := place_of_slot hslot
    simp [hslot, hplace, hget]
  · -- A path without names, or one that goes up last, leaves no name for a new directory.
    have hslot : t.slot cwd p = .ok none := by
      cases hlast : p.names.getLast? with
      | none => simp [slot, hlast]
      | some name =>
        obtain ⟨init, hinit⟩ := List.getLast?_eq_some_iff.1 hlast
        obtain rfl : name = "..".toList := by
          by_contra hup
          exact hname ⟨init, name, hinit, hup⟩
        obtain ⟨hbarrier, hwalk⟩ := locate_eq_ok.1 hlocate
        rw [hinit, walk_append] at hwalk
        cases hparent : t.walk (start cwd p) init with
        | error cause =>
          rw [hparent] at hwalk
          cases hwalk
        | ok parent =>
          rw [hparent] at hwalk
          obtain ⟨⟨mtime, hdir⟩, -⟩ := walk_cons_eq_ok.1 hwalk
          simp [slot, follow, hinit, hbarrier, hparent, hdir]
    simp [hslot]

theorem makeDirectories_of_isDirectory {t : FileTree} {cwd p : Path}
    (h : t.isDirectory cwd p = .ok true) (now : Time) :
    t.makeDirectories cwd p now = (.ok (), t) := by
  obtain ⟨mtime, hstat⟩ := isDirectory_eq_true.1 h
  have hpath : (⟨p.anchor, p.names.reverse.reverse⟩ : Path) = p := by rw [List.reverse_reverse]
  rw [makeDirectories, makePath]
  simp only [hpath, makeDirectory_of_stat hstat]
  simp [excuse, FileError.Cause.isRefusal, h]

end SolInterface.FileTree

namespace SolInterface

theorem Path.flaw?_parent {p : Path} (h : p.flaw? = none) : p.parent.flaw? = none := by
  unfold flaw? at h ⊢
  split_ifs at h with hhalf hnull
  have hsub : ∀ name ∈ p.parent.names, name ∈ p.names := fun name hname =>
    List.dropLast_subset _ hname
  rw [if_neg, if_neg]
  · intro hany
    obtain ⟨name, hname, hin⟩ := List.any_eq_true.1 hany
    exact hnull (List.any_eq_true.2 ⟨name, hsub name hname, hin⟩)
  · intro hany
    obtain ⟨name, hname, hin⟩ := List.any_eq_true.1 hany
    exact hhalf (List.any_eq_true.2 ⟨name, hsub name hname, hin⟩)

theorem Text.joinWith_dropLast_isPrefix (sep : Text) (parts : List Text) :
    joinWith sep parts.dropLast <+: joinWith sep parts := by
  unfold joinWith
  induction parts with
  | nil => exact List.prefix_refl _
  | cons a parts ih =>
    cases parts with
    | nil => simp
    | cons b parts =>
      rw [List.dropLast_cons_cons]
      cases parts with
      | nil => simp
      | cons c parts =>
        rw [List.dropLast_cons_cons] at ih ⊢
        rw [List.intercalate_cons_cons, List.intercalate_cons_cons]
        exact (List.prefix_append_right_inj _).2 ih

/-- A parent has a spelling that is no longer, one of a single dot excepted. -/
theorem Path.text_parent (p : Path) : p.parent.text = ".".toList ∨ p.parent.text <+: p.text := by
  obtain ⟨anchor, names⟩ := p
  have hjoin : anchor.text ++ Text.joinWith "/" names.dropLast <+:
      anchor.text ++ Text.joinWith "/" names :=
    (List.prefix_append_right_inj _).2 (Text.joinWith_dropLast_isPrefix _ names)
  cases anchor with
  | relative =>
    cases names with
    | nil => exact Or.inl rfl
    | cons a names =>
      cases names with
      | nil => exact Or.inl rfl
      | cons b names => exact Or.inr hjoin
  | root => exact Or.inr hjoin
  | doubleRoot => exact Or.inr hjoin

theorem Path.barrier?_parent {p : Path} (h : p.barrier? = none) : p.parent.barrier? = none := by
  unfold barrier? at h ⊢
  cases hflaw : p.flaw? with
  | some cause => simp [hflaw] at h
  | none =>
    simp only [hflaw, ite_eq_right_iff, reduceCtorEq, imp_false] at h
    simp only [flaw?_parent hflaw, ite_eq_right_iff, reduceCtorEq, imp_false]
    rcases p.text_parent with hdot | hprefix
    · rw [hdot]
      decide
    · obtain ⟨more, hmore⟩ := hprefix
      rw [← hmore, Utf8.encode, List.flatMap_append, List.length_append] at h
      intro hlong
      exact h (Nat.lt_of_lt_of_le hlong (Nat.le_add_right _ _))

/-- The directory in which a file can be put need not be made. -/
theorem FileTree.makeDirectories_of_slot {t : FileTree} {cwd p : Path} {found : Location × Text}
    (h : t.slot cwd p = .ok (some found)) (now : Time) :
    t.makeDirectories cwd p.parent now = (.ok (), t) := by
  obtain ⟨hbarrier, -, hwalk, ⟨mtime, hdir⟩, -⟩ := slot_eq_some.1 h
  have hlocate : t.locate cwd p.parent = .ok found.1 :=
    locate_eq_ok.2 ⟨Path.barrier?_parent hbarrier, hwalk⟩
  refine makeDirectories_of_isDirectory (isDirectory_eq_true.2 ⟨mtime, ?_⟩) now
  rw [stat, hlocate]
  simp only [hdir]

end SolInterface
