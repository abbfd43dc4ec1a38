import SolInterface.Proofs.FileTree
import SolInterface.Proofs.Workspace

/-!
What the steps of a build do to the files. Nothing but the writing of an output changes them; an
output is written at its place, with directories on the way to it, or it was found to be newer than
all it is made from.
-/
namespace SolInterface
open WorkspaceM

variable {α β : Type}

/-! Actions that leave the files alone. -/

def Workspace.SameFiles (w w' : Workspace) : Prop :=
  w'.files = w.files ∧ w'.cwd = w.cwd ∧ w'.now = w.now

theorem Workspace.SameFiles.trans {w w' w'' : Workspace} (h : w.SameFiles w')
    (h' : w'.SameFiles w'') : w.SameFiles w'' :=
  ⟨h'.1.trans h.1, h'.2.1.trans h.2.1, h'.2.2.trans h.2.2⟩

/-- Whatever it answers, the action leaves the files as they were. -/
def WorkspaceM.Quiet (action : WorkspaceM α) : Prop :=
  ∀ w : Workspace, w.SameFiles (outcome action w).2

namespace WorkspaceM

theorem Quiet.sameFiles {action : WorkspaceM α} (h : Quiet action) {w w' : Workspace}
    {answer : Except Failure α} (hw : outcome action w = (answer, w')) : w.SameFiles w' := by
  have hsame := h w
  rwa [hw] at hsame

theorem isSteady_sameFiles : Workspace.IsSteady Workspace.SameFiles :=
  ⟨fun _ => ⟨rfl, rfl, rfl⟩, .trans⟩

theorem quiet_pure (a : α) : Quiet (pure a : WorkspaceM α) := keeps_pure isSteady_sameFiles a

theorem quiet_log (events : List Event) : Quiet (log events) := fun _ => ⟨rfl, rfl, rfl⟩

theorem quiet_query (f : FileTree → Path → Except FileError α) : Quiet (query f) :=
  keeps_query isSteady_sameFiles f

theorem quiet_ofExcept (answer : Except Failure α) : Quiet (ofExcept answer : WorkspaceM α) :=
  keeps_ofExcept isSteady_sameFiles answer

theorem Quiet.bind {action : WorkspaceM α} {next : α → WorkspaceM β} (h : Quiet action)
    (hnext : ∀ a, Quiet (next a)) : Quiet (action >>= next) :=
  keeps_bind isSteady_sameFiles h hnext

theorem outcome_query_eq_ok {f : FileTree → Path → Except FileError α} {w w' : Workspace} {a : α}
    (h : outcome (query f) w = (.ok a, w')) : f w.files w.cwd = .ok a ∧ w = w' := by
  rw [outcome_query] at h
  cases hf : f w.files w.cwd with
  | error e =>
    rw [hf] at h
    cases h
  | ok b =>
    rw [hf] at h
    cases h
    exact ⟨rfl, rfl⟩

theorem outcome_query_ok {f : FileTree → Path → Except FileError α} {w : Workspace} {a : α}
    (h : f w.files w.cwd = .ok a) : outcome (query f) w = (.ok a, w) := by
  rw [outcome_query, h]
  rfl

end WorkspaceM

namespace Build

theorem quiet_load (p : Path) (o : SourceUnit.Options) : Quiet (load p o) :=
  keeps_load isSteady_sameFiles (fun events _ => quiet_log events) p o

theorem quiet_render (u : SourceUnit) : Quiet (render u) :=
  keeps_render isSteady_sameFiles (fun events _ => quiet_log events) u

theorem quiet_loadModule (owner : SourceUnit) (name : Text) (p : Path) :
    Quiet (loadModule owner name p) :=
  keeps_loadModule isSteady_sameFiles (fun events _ => quiet_log events) owner name p

theorem quiet_newest (latest : Time) (paths : List Path) : Quiet (newest latest paths) :=
  keeps_newest isSteady_sameFiles latest paths

theorem quiet_isUpToDate (force : Bool) (source output : Path) (dependsOn : List Path) :
    Quiet (isUpToDate force source output dependsOn) :=
  keeps_isUpToDate isSteady_sameFiles force source output dependsOn

theorem quiet_locateModule (owner : Path) (packagesDir name : Text) :
    Quiet (locateModule owner packagesDir name) :=
  keeps_locateModule isSteady_sameFiles owner packagesDir name

end Build

/-! What is read. -/

def SourceUnit.ofBytes? (p : Path) (bytes : List UInt8) (o : Options) : Option SourceUnit :=
  match Utf8.decode bytes with
  | .ok text => (ofText p (Text.normalizeNewlines text) o).toOption
  | .error _ => none

theorem SourceUnit.ofBytes?_of_decode {bytes : List UInt8} {text : Text}
    (h : Utf8.decode bytes = .ok text) (p : Path) (o : Options) :
    ofBytes? p bytes o = (ofText p (Text.normalizeNewlines text) o).toOption := by
  rw [ofBytes?, h]

namespace Build

theorem load_eq_ok {p : Path} {o : SourceUnit.Options} {w w' : Workspace} {u : SourceUnit}
    (h : outcome (load p o) w = (.ok u, w')) :
    ∃ bytes, w.files.read w.cwd p = .ok bytes ∧ SourceUnit.ofBytes? p bytes o = some u := by
  rcases outcome_bind_cases h with ⟨_, -, hfailure⟩ | ⟨content, v, hread, hrest⟩
  · cases hfailure
  rcases outcome_bind_cases hread with ⟨_, -, hfailure⟩ | ⟨bytes, _, hquery, htext⟩
  · cases hfailure
  obtain ⟨hbytes, -⟩ := outcome_query_eq_ok hquery
  refine ⟨bytes, hbytes, ?_⟩
  rw [outcome_bind_ok (outcome_log _ _), outcome_ofExcept] at hrest
  split at htext
  · next text hdecode =>
    cases htext
    rw [SourceUnit.ofBytes?_of_decode hdecode, (Prod.mk.inj hrest).1]
    rfl
  · cases htext

theorem load_of_read {p : Path} {o : SourceUnit.Options} {w : Workspace} {u : SourceUnit}
    {bytes : List UInt8} (hread : w.files.read w.cwd p = .ok bytes)
    (hunit : SourceUnit.ofBytes? p bytes o = some u) :
    ∃ w', outcome (load p o) w = (.ok u, w') := by
  unfold SourceUnit.ofBytes? at hunit
  split at hunit
  · next text hdecode =>
    rw [outcome_load (outcome_readSource hread hdecode)]
    cases htext : SourceUnit.ofText p (Text.normalizeNewlines text) o with
    | error failure =>
      rw [htext] at hunit
      cases hunit
    | ok v =>
      rw [htext] at hunit
      cases hunit
      exact ⟨_, rfl⟩
  · cases hunit

theorem loadModule_eq_ok {owner : SourceUnit} {name : Text} {p : Path} {w w' : Workspace}
    {u : SourceUnit} :
    outcome (loadModule owner name p) w = (.ok u, w') ↔
      outcome (load p (moduleOptions owner)) w = (.ok u, w') := by
  rw [loadModule, outcome_tryCatch]
  cases outcome (load p (moduleOptions owner)) w with
  | mk answer v =>
    cases answer with
    | ok a => exact Iff.rfl
    | error failure => cases failure <;> simp

theorem locateModule_eq_ok {owner found : Path} {packagesDir name : Text} {w w' : Workspace}
    (h : outcome (locateModule owner packagesDir name) w = (.ok found, w')) :
    modulePath w.cwd owner packagesDir name = .ok found ∧
      ∃ bytes, w.files.read w.cwd found = .ok bytes := by
  rcases outcome_bind_cases h with ⟨_, -, hfailure⟩ | ⟨p, _, hquery, hrest⟩
  · cases hfailure
  obtain ⟨hpath, rfl⟩ := outcome_query_eq_ok hquery
  -- Whether something is there is asked first for packages, and the file is asked for in any case.
  have hfile : outcome (query (fun files cwd => files.isFile cwd p) >>= fun isFile =>
      (if isFile then pure p else throw (.moduleNotFound name p) : WorkspaceM Path)) w =
        (.ok found, w') → modulePath w.cwd owner packagesDir name = .ok found ∧
          ∃ bytes, w.files.read w.cwd found = .ok bytes := by
    intro hfile
    rcases outcome_bind_cases hfile with ⟨_, -, hfailure⟩ | ⟨isFile, _, hquery, hend⟩
    · cases hfailure
    obtain ⟨hisFile, rfl⟩ := outcome_query_eq_ok hquery
    cases isFile with
    | false => cases hend
    | true =>
      cases hend
      exact ⟨hpath, FileTree.isFile_eq_true.1 hisFile⟩
  split at hrest
  · rcases outcome_bind_cases hrest with ⟨_, -, hfailure⟩ | ⟨isThere, _, hquery, hend⟩
    · cases hfailure
    obtain ⟨-, rfl⟩ := outcome_query_eq_ok hquery
    cases isThere with
    | false => cases hend
    | true => exact hfile hend
  · exact hfile hrest

theorem locateModule_of_read {owner found : Path} {packagesDir name : Text} {w : Workspace}
    {bytes : List UInt8} (hpath : modulePath w.cwd owner packagesDir name = .ok found)
    (hread : w.files.read w.cwd found = .ok bytes) :
    outcome (locateModule owner packagesDir name) w = (.ok found, w) := by
  obtain ⟨mtime, hstat⟩ := FileTree.read_eq_ok.1 hread
  have hthere : outcome (query fun files cwd => files.pathExists cwd found) w = (.ok true, w) :=
    outcome_query_ok (FileTree.pathExists_eq_true.2 ⟨_, hstat⟩)
  have hfile : outcome (query fun files cwd => files.isFile cwd found) w = (.ok true, w) :=
    outcome_query_ok (FileTree.isFile_eq_true.2 ⟨_, hread⟩)
  have hquery : outcome (query fun _ cwd => modulePath cwd owner packagesDir name) w =
      (.ok found, w) := outcome_query_ok hpath
  rw [locateModule, outcome_bind_ok hquery]
  split
  · rw [outcome_bind_ok hthere]
    exact outcome_bind_ok hfile _
  · exact outcome_bind_ok hfile _

/-! What is written. -/

def OlderThan (files : FileTree) (cwd : Path) (t : Time) (paths : List Path) : Prop :=
  ∀ p ∈ paths, ∃ node, files.stat cwd p = .ok node ∧ node.mtime < t

theorem newest_eq_ok {latest t : Time} {paths : List Path} {w w' : Workspace}
    (h : outcome (newest latest paths) w = (.ok t, w')) :
    latest ≤ t ∧ ∀ p ∈ paths, ∃ node, w.files.stat w.cwd p = .ok node ∧ node.mtime ≤ t := by
  induction paths generalizing latest with
  | nil =>
    cases h
    exact ⟨Int.le_refl _, by simp⟩
  | cons p paths ih =>
    rcases outcome_bind_cases h with ⟨_, -, hfailure⟩ | ⟨node, _, hquery, hrest⟩
    · cases hfailure
    obtain ⟨hstat, rfl⟩ := outcome_query_eq_ok hquery
    obtain ⟨hle, hpaths⟩ := ih hrest
    refine ⟨Int.le_trans (Int.le_max_left _ _) hle, fun q hq => ?_⟩
    rcases List.mem_cons.1 hq with rfl | hq
    · exact ⟨node, hstat, Int.le_trans (Int.le_max_right _ _) hle⟩
    · exact hpaths q hq

theorem isUpToDate_eq_true {force : Bool} {source output : Path} {dependsOn : List Path}
    {w w' : Workspace} (h : outcome (isUpToDate force source output dependsOn) w = (.ok true, w')) :
    ∃ written, w.files.stat w.cwd output = .ok written ∧
      OlderThan w.files w.cwd written.mtime (source :: dependsOn) := by
  unfold isUpToDate at h
  split at h
  · cases h
  rcases outcome_bind_cases h with ⟨_, -, hfailure⟩ | ⟨isThere, _, hquery, hthere⟩
  · cases hfailure
  obtain ⟨-, rfl⟩ := outcome_query_eq_ok hquery
  split at hthere
  · cases hthere
  rcases outcome_bind_cases hthere with ⟨_, -, hfailure⟩ | ⟨node, _, hquery, hsource⟩
  · cases hfailure
  obtain ⟨hnode, rfl⟩ := outcome_query_eq_ok hquery
  rcases outcome_bind_cases hsource with ⟨_, -, hfailure⟩ | ⟨latest, v, hnewest, hlatest⟩
  · cases hfailure
  obtain ⟨hfiles, hcwd, -⟩ := (quiet_newest _ _).sameFiles hnewest
  obtain ⟨hle, hpaths⟩ := newest_eq_ok hnewest
  rcases outcome_bind_cases hlatest with ⟨_, -, hfailure⟩ | ⟨written, _, hquery, hend⟩
  · cases hfailure
  obtain ⟨hwritten, -⟩ := outcome_query_eq_ok hquery
  rw [hfiles, hcwd] at hwritten
  have hlt : latest < written.mtime := by simpa using (Prod.mk.inj hend).1
  refine ⟨written, hwritten, fun p hp => ?_⟩
  rcases List.mem_cons.1 hp with rfl | hp
  · exact ⟨node, hnode, Int.lt_of_le_of_lt hle hlt⟩
  · obtain ⟨other, hother, hotherle⟩ := hpaths p hp
    exact ⟨other, hother, Int.lt_of_le_of_lt hotherle hlt⟩

end Build

def SourceUnit.rendered? (u : SourceUnit) : Option (List UInt8) :=
  match u.interface with
  | .ok (_, text) => some (Utf8.encode text)
  | .error _ => none

/-- What the unit writes: its interface, or an empty file where the header cannot be encoded. -/
def SourceUnit.written? (u : SourceUnit) : Option (List UInt8) :=
  u.rendered?.map fun content => if u.header.isWhole then content else []

theorem SourceUnit.written?_of_isWhole {u : SourceUnit} (h : u.header.isWhole = true) :
    u.written? = u.rendered? := by
  simp [written?, h]

/-- The files grew at the time of the workspace; its directory and clock are the same. -/
def Workspace.Grown (way : Location → Prop) (writes : Location → List UInt8 → Prop)
    (w w' : Workspace) : Prop :=
  w'.cwd = w.cwd ∧ w'.now = w.now ∧ FileTree.Grows w.now way writes w.files w'.files

namespace Workspace

variable {way way' : Location → Prop} {writes writes' : Location → List UInt8 → Prop}
  {w w' w'' : Workspace}

theorem SameFiles.grown (h : w.SameFiles w') : w.Grown way writes w' := by
  obtain ⟨hfiles, hcwd, hnow⟩ := h
  exact ⟨hcwd, hnow, hfiles ▸ FileTree.Grows.refl _ _ _ _⟩

theorem Grown.trans (h : w.Grown way writes w') (h' : w'.Grown way writes w'') :
    w.Grown way writes w'' := by
  obtain ⟨hcwd, hnow, hgrows⟩ := h
  obtain ⟨hcwd', hnow', hgrows'⟩ := h'
  exact ⟨hcwd'.trans hcwd, hnow'.trans hnow, hgrows.trans (hnow ▸ hgrows')⟩

theorem Grown.mono (h : w.Grown way writes w') (hway : ∀ loc, way loc → way' loc)
    (hwrites : ∀ loc content, writes loc content → writes' loc content) :
    w.Grown way' writes' w' :=
  ⟨h.1, h.2.1, h.2.2.mono hway hwrites⟩

end Workspace

theorem WorkspaceM.outcome_writeText (p : Path) (text : Text) (encodable : Bool) (w : Workspace) :
    outcome (writeText p text encodable) w =
      match w.files.makeDirectories w.cwd p.parent w.now with
      | (.error e, files) => (.error (.file e), { w with files })
      | (.ok (), files) =>
        match files.write w.cwd p (if encodable then Utf8.encode text else []) w.now with
        | .error e => (.error (.file e), { w with files })
        | .ok files => (if encodable then .ok () else .error (.unwritable p), { w with files }) := by
  rw [writeText, outcome_bind_ok (outcome_get w)]
  cases w.files.makeDirectories w.cwd p.parent w.now with
  | mk made files =>
    dsimp only
    rw [outcome_bind_ok (outcome_set _ w)]
    cases made with
    | error e => rfl
    | ok _ =>
      dsimp only
      cases files.write w.cwd p (if encodable then Utf8.encode text else []) w.now with
      | error e => rfl
      | ok files' => cases encodable <;> rfl

/-- Writing a text makes directories on the way and puts the file in its place. -/
theorem WorkspaceM.writeText_grown {p : Path} {text : Text} {encodable : Bool} {w w' : Workspace}
    {answer : Except Failure Unit} (h : outcome (writeText p text encodable) w = (answer, w')) :
    w.Grown (FileTree.OnWay w.cwd p) (fun loc content => loc = FileTree.place w.cwd p ∧
        FileTree.EndsInName p ∧ content = if encodable then Utf8.encode text else []) w' ∧
      (answer = .ok () →
        w'.files.read w.cwd p = .ok (if encodable then Utf8.encode text else [])) := by
  rw [outcome_writeText] at h
  have hmade := FileTree.grows_makeDirectories w.files w.cwd p w.now (fun loc content =>
    loc = FileTree.place w.cwd p ∧ FileTree.EndsInName p ∧
      content = if encodable then Utf8.encode text else [])
  split at h
  · next hdirectories =>
    cases h
    rw [hdirectories] at hmade
    exact ⟨⟨rfl, rfl, hmade⟩, fun h => by cases h⟩
  · next files hdirectories =>
    rw [hdirectories] at hmade
    split at h
    · cases h
      exact ⟨⟨rfl, rfl, hmade⟩, fun h => by cases h⟩
    · next files' hwrite =>
      cases h
      obtain ⟨⟨found, hslot⟩, hfile, hput⟩ := FileTree.write_eq_ok.1 hwrite
      refine ⟨⟨rfl, rfl, hmade.trans ?_⟩, fun _ => FileTree.read_of_write hwrite⟩
      rw [hput]
      exact FileTree.grows_put ⟨rfl, FileTree.endsInName_of_slot hslot, rfl⟩ hfile

namespace Build

theorem outcome_render_ok {u : SourceUnit} {s : Source} {text : Text}
    (h : u.interface = .ok (s, text)) (w : Workspace) :
    ∃ w', outcome (render u) w = (.ok text, w') := by
  rw [render, outcome_bind_ok (by rw [outcome_ofExcept, h])]
  exact ⟨_, rfl⟩

theorem render_eq_ok {u : SourceUnit} {text : Text} {w w' : Workspace}
    (h : outcome (render u) w = (.ok text, w')) : ∃ s, u.interface = .ok (s, text) := by
  rcases outcome_bind_cases h with ⟨_, -, hfailure⟩ | ⟨⟨s, found⟩, _, hinterface, hrest⟩
  · cases hfailure
  rw [outcome_ofExcept] at hinterface
  rw [outcome_bind_ok (outcome_log _ _)] at hrest
  cases hrest
  exact ⟨s, (Prod.mk.inj hinterface).1⟩

/-- An output that was asked for either is newer than all it is made from or has been written. -/
theorem writeOutput_grown {force : Bool} {source output : Path} {dependsOn : List Path}
    {u : SourceUnit} {w w' : Workspace} {answer : Except Failure Status}
    (h : outcome (writeOutput force source output dependsOn (render u) u.header.isWhole) w =
      (answer, w')) :
    w.Grown (FileTree.OnWay w.cwd output) (fun loc content => loc = FileTree.place w.cwd output ∧
        FileTree.EndsInName output ∧ u.written? = some content) w' ∧
      ∀ status, answer = .ok status →
        (w.SameFiles w' ∧ ∃ written, w.files.stat w.cwd output = .ok written ∧
          OlderThan w.files w.cwd written.mtime (source :: dependsOn)) ∨
        ∃ content, u.written? = some content ∧ w'.files.read w.cwd output = .ok content := by
  rcases outcome_bind_cases h with ⟨failure, hfresh, rfl⟩ | ⟨isFresh, v, hfresh, hrest⟩
  · exact ⟨((quiet_isUpToDate _ _ _ _).sameFiles hfresh).grown, fun _ h => by cases h⟩
  have hsame := (quiet_isUpToDate _ _ _ _).sameFiles hfresh
  split at hrest
  · rename_i htrue
    obtain rfl : isFresh = true := htrue
    rw [outcome_bind_ok (outcome_log _ v)] at hrest
    cases hrest
    exact ⟨hsame.grown, fun _ _ => Or.inl ⟨hsame, isUpToDate_eq_true hfresh⟩⟩
  rcases outcome_bind_cases hrest with ⟨failure, hrender, rfl⟩ | ⟨text, v', hrender, hwrite⟩
  · exact ⟨(hsame.trans ((quiet_render u).sameFiles hrender)).grown, fun _ h => by cases h⟩
  have hsame' := hsame.trans ((quiet_render u).sameFiles hrender)
  obtain ⟨s, hinterface⟩ := render_eq_ok hrender
  have hrendered : u.written? = some (if u.header.isWhole then Utf8.encode text else []) := by
    rw [SourceUnit.written?, SourceUnit.rendered?, hinterface]
    rfl
  have hcwd := hsame'.2.1
  have hwritten : ∀ {answer : Except Failure Unit} {x : Workspace},
      outcome (writeText output text u.header.isWhole) v' = (answer, x) →
        w.Grown (FileTree.OnWay w.cwd output) (fun loc content =>
          loc = FileTree.place w.cwd output ∧ FileTree.EndsInName output ∧
            u.written? = some content) x := by
    intro answer x htext
    refine hsame'.grown.trans ((writeText_grown htext).1.mono ?_ ?_)
    · rw [hcwd]
      exact fun _ h => h
    · rw [hcwd]
      rintro loc content ⟨rfl, hname, rfl⟩
      exact ⟨rfl, hname, hrendered⟩
  rcases outcome_bind_cases hwrite with ⟨failure, htext, rfl⟩ | ⟨_, x, htext, hend⟩
  · exact ⟨hwritten htext, fun _ h => by cases h⟩
  rw [outcome_bind_ok (outcome_log _ x)] at hend
  cases hend
  refine ⟨(hwritten htext).trans (quiet_log _ x).grown, fun _ _ => Or.inr ⟨_, hrendered, ?_⟩⟩
  have hread := (writeText_grown htext).2 rfl
  rwa [hcwd] at hread

/-- A forced output is written where it is already. -/
theorem writeOutput_forced {source output : Path} {dependsOn : List Path} {u : SourceUnit}
    {w : Workspace} {rendered content : List UInt8} (hrendered : u.written? = some rendered)
    (hwhole : u.header.isWhole = true) (hname : FileTree.EndsInName output)
    (hread : w.files.read w.cwd output = .ok content) :
    ∃ w', outcome (writeOutput true source output dependsOn (render u) u.header.isWhole) w =
      (.ok .generated, w') := by
  obtain ⟨s, text, hinterface⟩ : ∃ s text, u.interface = .ok (s, text) := by
    rw [SourceUnit.written?_of_isWhole hwhole, SourceUnit.rendered?] at hrendered
    split at hrendered
    · next s text h => exact ⟨s, text, h⟩
    · cases hrendered
  obtain ⟨v, hrender⟩ := outcome_render_ok hinterface w
  obtain ⟨hfiles, hcwd, hnow⟩ := (quiet_render u).sameFiles hrender
  obtain ⟨_, hstat⟩ := FileTree.read_eq_ok.1 hread
  obtain ⟨found, hslot⟩ := FileTree.slot_of_stat hstat hname
  have hfile : ∀ mtime, w.files.get? (FileTree.place w.cwd output) ≠ some (.directory mtime) := by
    intro mtime hdir
    rw [(FileTree.stat_eq_ok.1 hstat).2] at hdir
    cases hdir
  have hwrite : w.files.write w.cwd output (Utf8.encode text) w.now =
      .ok (w.files.put (FileTree.place w.cwd output) (.file (Utf8.encode text) w.now)) :=
    FileTree.write_eq_ok.2 ⟨⟨found, hslot⟩, hfile, rfl⟩
  have htext : ∃ v', outcome (writeText output text u.header.isWhole) v = (.ok (), v') := by
    rw [outcome_writeText, hfiles, hcwd, hnow, FileTree.makeDirectories_of_slot hslot, hwhole]
    simp only [if_true, hwrite]
    exact ⟨_, rfl⟩
  obtain ⟨v', htext⟩ := htext
  have hfresh : outcome (isUpToDate true source output dependsOn) w = (.ok false, w) := rfl
  rw [writeOutput, outcome_bind_ok hfresh, if_neg (by simp), outcome_bind_ok hrender,
    outcome_bind_ok htext]
  exact ⟨_, rfl⟩

theorem buildModule_cases {owner : SourceUnit} {task : ModuleTask} {w w' : Workspace}
    {answer : Except Failure ModuleResult} (h : outcome (buildModule owner task) w = (answer, w')) :
    (w.SameFiles w' ∧ ∃ failure, answer = .error failure) ∨
      ∃ source bytes unit output v v' written,
        modulePath w.cwd owner.path owner.config.packagesDir task.source = .ok source ∧
        w.files.read w.cwd source = .ok bytes ∧
        SourceUnit.ofBytes? source bytes (moduleOptions owner) = some unit ∧
        Path.outputFor w.cwd owner.path task.output = .ok output ∧
        w.SameFiles v ∧
        outcome (writeOutput owner.force source output [owner.path]
          (render (unit.forTask task)) (unit.forTask task).header.isWhole) v = (written, v') ∧
        v'.SameFiles w' ∧
        answer = written.map fun status => ⟨task.source, output.text, some status, none⟩ := by
  rcases outcome_bind_cases h with ⟨failure, hlocate, rfl⟩ | ⟨source, v₁, hlocate, h⟩
  · exact Or.inl ⟨(quiet_locateModule _ _ _).sameFiles hlocate, failure, rfl⟩
  have hsame := (quiet_locateModule _ _ _).sameFiles hlocate
  obtain ⟨hpath, bytes, hread⟩ := locateModule_eq_ok hlocate
  rcases outcome_bind_cases h with ⟨failure, hload, rfl⟩ | ⟨unit, v₂, hload, h⟩
  · exact Or.inl ⟨hsame.trans ((quiet_loadModule _ _ _).sameFiles hload), failure, rfl⟩
  have hsame' := hsame.trans ((quiet_loadModule _ _ _).sameFiles hload)
  obtain ⟨bytes', hread', hunit⟩ := load_eq_ok (loadModule_eq_ok.1 hload)
  rw [hsame.1, hsame.2.1] at hread'
  rcases outcome_bind_cases h with ⟨failure, hquery, rfl⟩ | ⟨output, v₃, hquery, h⟩
  · exact Or.inl ⟨hsame'.trans ((quiet_query _).sameFiles hquery), failure, rfl⟩
  obtain ⟨houtput, rfl⟩ := outcome_query_eq_ok hquery
  rw [hsame'.2.1] at houtput
  rcases outcome_bind_cases h with ⟨failure, hwrite, rfl⟩ | ⟨status, v₄, hwrite, h⟩
  · exact Or.inr ⟨source, bytes', unit, output, v₂, w', .error failure, hpath, hread', hunit,
      houtput, hsame', hwrite, ⟨rfl, rfl, rfl⟩, rfl⟩
  rw [outcome_bind_ok (outcome_log _ _)] at h
  cases h
  exact Or.inr ⟨source, bytes', unit, output, v₂, v₄, .ok status, hpath, hread', hunit,
    houtput, hsame', hwrite, ⟨rfl, rfl, rfl⟩, rfl⟩

end Build
end SolInterface
