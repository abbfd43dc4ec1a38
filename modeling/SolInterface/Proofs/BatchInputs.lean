import SolInterface.Proofs.BatchIsolation

/-!
What a batch does to the files it reads. It writes at the outputs that its sources declare and
nowhere else, so that a source stays as it is unless one of them declares an output that leads to
it; nothing keeps a source from declaring such an output.
-/
namespace SolInterface
open WorkspaceM FileTree

def SourceUnit.outputs (u : SourceUnit) (cwd : Path) : List Path :=
  (u.outputPath cwd).toOption.toList ++
    u.recipe.modules.filterMap fun task => (Path.outputFor cwd u.path task.output).toOption

namespace Batch
open Build

variable {console : Console} {o : SourceUnit.Options} {p : Path} {paths : List Path} {s : Summary}
  {w w' : Workspace} {loc : Location}

/-- The places of the outputs that a source declares, as it stands in the workspace. -/
def declaredPlaces (o : SourceUnit.Options) (w : Workspace) (p : Path) : List Location :=
  match w.files.file? (place w.cwd p) with
  | none => []
  | some (bytes, _) =>
    match SourceUnit.ofBytes? p bytes o with
    | none => []
    | some u => (u.outputs w.cwd).map (place w.cwd)

theorem declaredPlaces_congr {v : Workspace} (hcwd : v.cwd = w.cwd)
    (h : v.files.file? (place w.cwd p) = w.files.file? (place w.cwd p)) :
    declaredPlaces o v p = declaredPlaces o w p := by
  unfold declaredPlaces
  rw [hcwd, h]

theorem declaredPlaces_of_load {u : SourceUnit} (h : outcome (load p o) w = (.ok u, w')) :
    declaredPlaces o w p = (u.outputs w.cwd).map (place w.cwd) := by
  obtain ⟨bytes, hread, hunit⟩ := load_eq_ok h
  obtain ⟨mtime, hget⟩ := get?_of_read hread
  simp only [declaredPlaces, FileTree.file?, hget, hunit]

/-! One source. -/

theorem buildFile_frame {answer : Except Failure BuildResult}
    (h : outcome (buildFile p o) w = (answer, w')) :
    w.Grown (fun _ => True) (fun loc _ => loc ∈ declaredPlaces o w p) w' := by
  rcases outcome_bind_cases h with ⟨failure, hload, -⟩ | ⟨u, v, hload, hunit⟩
  · exact ((quiet_load p o).sameFiles hload).grown
  have hsame := (quiet_load p o).sameFiles hload
  refine hsame.grown.trans
    ((buildUnit_frame hunit).1.mono (fun _ h => h) fun loc content hloc => ?_)
  rw [declaredPlaces_of_load hload, List.mem_map]
  rcases hloc with hwrites | ⟨⟨output, houtput, rfl, -⟩, -⟩
  · obtain ⟨task, htask, q, hq, rfl⟩ := hwrites.exists_task
    rw [hsame.2.1] at hq ⊢
    refine ⟨q, List.mem_append_right _ (List.mem_filterMap.2 ⟨task, htask, ?_⟩), rfl⟩
    rw [hq]
    rfl
  · rw [hsame.2.1] at houtput ⊢
    refine ⟨output, List.mem_append_left _ ?_, rfl⟩
    rw [houtput]
    exact List.mem_singleton_self output

/-! One source after the other. -/

/-- A source declares an output at this place when the run comes to it. -/
def DeclaredAlong (console : Console) (o : SourceUnit.Options) (paths : List Path) (w : Workspace)
    (loc : Location) : Prop :=
  ∃ before p after s v, paths = before ++ p :: after ∧
    outcome (buildFiles console o before {}) w = (.ok s, v) ∧ loc ∈ declaredPlaces o v p

theorem DeclaredAlong.cons {v : Workspace} {t : Summary} (h : DeclaredAlong console o paths v loc)
    (hturn : outcome (turn console o p {}) w = (.ok t, v)) :
    DeclaredAlong console o (p :: paths) w loc := by
  obtain ⟨before, q, after, s, x, rfl, hbefore, hloc⟩ := h
  refine ⟨p :: before, q, after, t.append s, x, rfl, ?_, hloc⟩
  rw [buildFiles_cons, outcome_bind_ok hturn, outcome_buildFiles_start, hbefore]
  rfl

theorem DeclaredAlong.of_sameFiles {v : Workspace} (h : DeclaredAlong console o paths w loc)
    (hsame : w.SameFiles v) : DeclaredAlong console o paths v loc := by
  obtain ⟨before, p, after, s, x, hpaths, hbefore, hloc⟩ := h
  obtain ⟨y, hy, hsame'⟩ := (indifferent_buildFiles console o before {}).outcome hsame hbefore
  refine ⟨before, p, after, s, y, hpaths, hy, ?_⟩
  rwa [declaredPlaces_congr hsame'.2.1 (by rw [hsame'.1])]

theorem buildFiles_frame (console : Console) (o : SourceUnit.Options) (paths : List Path)
    (s : Summary) (w : Workspace) :
    w.Grown (fun _ => True) (fun loc _ => DeclaredAlong console o paths w loc)
      (outcome (buildFiles console o paths s) w).2 := by
  induction paths generalizing s w with
  | nil => exact (Workspace.SameFiles.refl w).grown
  | cons p paths ih =>
    obtain ⟨built, v, v', hbuilt, hsame, hends⟩ := turn_cases console o p w
    have hfirst : w.Grown (fun _ => True)
        (fun loc _ => DeclaredAlong console o (p :: paths) w loc) v' :=
      ((buildFile_frame hbuilt).mono (fun _ h => h) fun loc _ hloc =>
        ⟨[], p, paths, {}, w, rfl, rfl, hloc⟩).trans hsame.grown
    have hrest : ∀ {t t' : Summary}, outcome (turn console o p {}) w = (.ok t, v') →
        outcome (turn console o p s) w = (.ok t', v') →
        w.Grown (fun _ => True) (fun loc _ => DeclaredAlong console o (p :: paths) w loc)
          (outcome (buildFiles console o (p :: paths) s) w).2 := by
      intro t t' hstart hturn
      rw [buildFiles_cons, outcome_bind_ok hturn]
      exact hfirst.trans ((ih t' v').mono (fun _ h => h) fun loc _ hloc => hloc.cons hstart)
    rcases hends with ⟨r, -, hturn⟩ | ⟨failure, -, hturn⟩ | ⟨last, hturn⟩
    · exact hrest (hturn {}) (hturn s)
    · exact hrest (hturn {}) (hturn s)
    · rw [buildFiles_cons, outcome_bind_error (hturn s)]
      exact hfirst

/-- Where no output leads to a source, the sources declare along the run what they declared before
it. -/
theorem DeclaredAlong.exists_declared
    (hfree : ∀ p ∈ paths, ∀ loc ∈ declaredPlaces o w p, ∀ q ∈ paths, loc ≠ place w.cwd q)
    (h : DeclaredAlong console o paths w loc) : ∃ p ∈ paths, loc ∈ declaredPlaces o w p := by
  -- By induction on how far the run has come.
  suffices hrun : ∀ n before after, before.length = n → paths = before ++ after →
      DeclaredAlong console o before w loc → ∃ p ∈ before, loc ∈ declaredPlaces o w p from
    hrun _ paths [] rfl (List.append_nil paths).symm h
  clear h
  intro n
  induction n using Nat.strong_induction_on generalizing loc with
  | _ n ih =>
    rintro run after rfl rfl ⟨before, p, rest, s, v, rfl, hbefore, hloc⟩
    have hframe := buildFiles_frame console o before {} w
    rw [hbefore] at hframe
    obtain ⟨hcwd, -, hgrows⟩ := hframe
    have hp : p ∈ before ++ p :: rest ++ after := by simp
    refine ⟨p, by simp, ?_⟩
    rwa [← declaredPlaces_congr hcwd]
    rcases hgrows.file? (place w.cwd p) with hsame | ⟨_, halong, -⟩
    · exact hsame
    · obtain ⟨q, hq, hdeclared⟩ := ih before.length (by simp) before (p :: rest ++ after) rfl
        (by simp) halong
      exact absurd rfl (hfree q (by simp [hq]) _ hdeclared p hp)

/-! A whole batch. -/

/-- What printing and the logging of other events keep, the search for the files keeps. -/
theorem keeps_paths {R : Workspace → Workspace → Prop} (hR : Workspace.IsSteady R)
    (hlog : ∀ events, (∀ event ∈ events, event.isWritten = false) → Keeps R (log events))
    (hprint : ∀ lines, Keeps R (print lines)) (console : Console) (r : Request) :
    Keeps R (r.paths console) := by
  have hcandidates : ∀ choice, Keeps R (candidates choice) := by
    intro choice
    unfold candidates
    split
    · exact keeps_pure hR _
    · exact keeps_throw hR _
  have hfind : ∀ root skipDirs choice, Keeps R (find root skipDirs choice) := by
    intro root skipDirs choice
    refine keeps_bind hR (hcandidates choice) fun dialects =>
      keeps_bind hR (keeps_query hR _) fun isThere => ?_
    split
    · exact fun w => hR.refl w
    · exact keeps_bind hR (hlog _ (by simp [Event.isWritten])) fun _ => keeps_pure hR _
  unfold Request.paths
  split
  · exact keeps_bind hR (keeps_printShown hR hprint _) fun _ => hfind _ _ _
  · exact keeps_pure hR _

theorem quiet_paths (console : Console) (r : Request) : Quiet (r.paths console) :=
  keeps_paths isSteady_sameFiles (fun events _ => quiet_log events) quiet_print console r

/-- A batch changes files only where a source declares an output when the run comes to it. -/
theorem build_frame {r : Request} {answer : Except Failure Summary}
    (h : outcome (build console r) w = (answer, w')) :
    w.SameFiles w' ∨ ∃ paths, (outcome (r.paths console) w).1 = .ok paths ∧
      w.Grown (fun _ => True) (fun loc _ => DeclaredAlong console r.options paths w loc) w' := by
  rcases outcome_bind_cases h with ⟨failure, hpaths, -⟩ | ⟨paths, v, hpaths, h⟩
  · exact Or.inl ((quiet_paths console r).sameFiles hpaths)
  have hsame := (quiet_paths console r).sameFiles hpaths
  have hcount := outcome_countInterfaces paths r.options.dialect v
  rcases outcome_bind_cases h with ⟨failure, hcounted, -⟩ | ⟨total, x, hcounted, h⟩
  · rw [hcount] at hcounted
    obtain ⟨-, rfl⟩ := Prod.mk.inj hcounted
    exact Or.inl hsame
  rw [hcount] at hcounted
  obtain ⟨-, rfl⟩ := Prod.mk.inj hcounted
  split at h
  · refine Or.inl (hsame.trans (Quiet.sameFiles ?_ h))
    exact (quiet_printShown _).bind fun _ => (quiet_printShown _).bind fun _ => quiet_pure _
  · next last _ =>
    rcases outcome_bind_cases h with ⟨failure, hprint, -⟩ | ⟨_, y, hprint, h⟩
    · exact Or.inl (hsame.trans ((quiet_printShown _).sameFiles hprint))
    have hy := hsame.trans ((quiet_printShown _).sameFiles hprint)
    refine Or.inr ⟨paths, by rw [hpaths], ?_⟩
    have hframe : w.Grown (fun _ => True) (fun loc _ => DeclaredAlong console r.options paths w loc)
        (outcome (buildFiles console r.options paths { total }) y).2 :=
      hy.grown.trans ((buildFiles_frame console r.options paths { total } y).mono (fun _ h => h)
        fun loc _ hloc => hloc.of_sameFiles hy.symm)
    rcases outcome_bind_cases h with ⟨failure, hrun, -⟩ | ⟨s, z, hrun, hend⟩
    · rwa [hrun] at hframe
    · rw [hrun] at hframe
      exact hframe.trans ((quiet_conclude console last s).sameFiles hend).grown

/-- A file changes only where a source of the batch declares an output that leads to it, as the
source stands when the run comes to it. If no declared output leads to a source of the batch, it is
enough to look at the sources before the run: they stay as they are, and so does every module or
other file that none of their outputs leads to. -/
theorem build_keeps_inputs {r : Request} {answer : Except Failure Summary}
    (h : outcome (build console r) w = (answer, w')) :
    (∀ loc, w'.files.file? loc = w.files.file? loc ∨
        ∃ paths, (outcome (r.paths console) w).1 = .ok paths ∧
          DeclaredAlong console r.options paths w loc) ∧
      ∀ paths, (outcome (r.paths console) w).1 = .ok paths →
        (∀ p ∈ paths, ∀ loc ∈ declaredPlaces r.options w p, ∀ q ∈ paths, loc ≠ place w.cwd q) →
        ∀ q bytes, w.files.read w.cwd q = .ok bytes →
          (q ∈ paths ∨ ∀ p ∈ paths, place w.cwd q ∉ declaredPlaces r.options w p) →
          w'.files.read w.cwd q = .ok bytes ∧
            w'.files.file? (place w.cwd q) = w.files.file? (place w.cwd q) := by
  rcases build_frame h with hsame | ⟨paths, hpaths, -, -, hgrows⟩
  · rw [hsame.1]
    exact ⟨fun _ => Or.inl rfl, fun _ _ _ _ _ hread _ => ⟨hread, rfl⟩⟩
  refine ⟨fun loc => ?_, fun paths' hpaths' hfree q bytes hread hq => ?_⟩
  · rcases hgrows.file? loc with hkept | ⟨_, halong, -⟩
    · exact Or.inl hkept
    · exact Or.inr ⟨paths, hpaths, halong⟩
  · obtain rfl : paths' = paths := Except.ok.inj (hpaths'.symm.trans hpaths)
    have hplace : ¬DeclaredAlong console r.options paths' w (place w.cwd q) := by
      intro halong
      obtain ⟨p, hp, hdeclared⟩ := halong.exists_declared hfree
      rcases hq with hq | hq
      · exact hfree p hp _ hdeclared q hq rfl
      · exact hq p hp hdeclared
    refine ⟨hgrows.read (fun _ => hplace) hread, ?_⟩
    rcases hgrows.file? (place w.cwd q) with hkept | ⟨_, halong, -⟩
    · exact hkept
    · exact absurd halong hplace

def owningText : Text :=
  Text.cat ["/// @custom:interface build ./IA.sol\n",
    "/// @custom:interface module \"./M.sol\" to \"./IM.sol\"\n", "contract A \x7b\n\x7d\n"]

def ownedText : Text := "contract M \x7b\n\x7d\n"

def ownedModule : Workspace where
  files := ⟨[([], .directory 0), (["p".toList], .directory 0),
    (["p".toList, "A.sol".toList], .file (Utf8.encode owningText) 0),
    (["p".toList, "M.sol".toList], .file (Utf8.encode ownedText) 0)]⟩
  cwd := ⟨.root, ["p".toList]⟩
  now := 1

def moduleSource : Path := ⟨.relative, ["M.sol".toList]⟩

def firstRequest : Request := { files := [firstSource] }

def bothWritten : BuildResult :=
  ⟨firstSource, ⟨.root, ["p".toList, "IA.sol".toList]⟩, .generated,
    [⟨"./M.sol", "/p/IM.sol", some .generated, none⟩]⟩

/-- The workspace after the build of the source and its module, which does not make another
source. -/
def ownedBuilt : { v : Workspace //
    outcome (buildFile firstSource firstRequest.options) ownedModule = (.ok bothWritten, v) ∧
    v.files.read v.cwd missingSource = .error ⟨.notFound, missingSource⟩ } :=
  ⟨_, outcome_of_answer (by decide +kernel), by decide +kernel⟩

theorem ownedModule_declares :
    declaredPlaces firstRequest.options ownedModule firstSource =
      [["p".toList, "IA.sol".toList], ["p".toList, "IM.sol".toList]] := by
  decide

theorem source_and_module_kept :
    (outcome (build Markup.console firstRequest) ownedModule).2.files.read ownedModule.cwd
        firstSource = .ok (Utf8.encode owningText) ∧
      (outcome (build Markup.console firstRequest) ownedModule).2.files.read ownedModule.cwd
        moduleSource = .ok (Utf8.encode ownedText) := by
  have hpaths : (outcome (firstRequest.paths Markup.console) ownedModule).1 =
      .ok [firstSource] := rfl
  have hsource : ownedModule.files.read ownedModule.cwd firstSource =
      .ok (Utf8.encode owningText) := rfl
  have hmodule : ownedModule.files.read ownedModule.cwd moduleSource =
      .ok (Utf8.encode ownedText) := rfl
  have hkept := (build_keeps_inputs
    (outcome_eta (build Markup.console firstRequest) ownedModule)).2 [firstSource] hpaths
  simp only [List.mem_singleton, forall_eq, ownedModule_declares] at hkept
  have hall := hkept (by decide)
  exact ⟨(hall _ _ hsource (Or.inl rfl)).1, (hall _ _ hmodule (Or.inr (by decide))).1⟩

def selfBuilding : Workspace where
  files := ⟨[([], .directory 0), (["p".toList], .directory 0),
    (["p".toList, "A.sol".toList], .file (Utf8.encode
      "/// @custom:interface build ./A.sol\ncontract A \x7b\n\x7d\n") 0)]⟩
  cwd := ⟨.root, ["p".toList]⟩
  now := 1

/-- The batch overwrites the source with its interface. -/
theorem self_building_source_overwritten :
    selfBuilding.files.read selfBuilding.cwd firstSource = .ok (Utf8.encode
        "/// @custom:interface build ./A.sol\ncontract A \x7b\n\x7d\n") ∧
      (outcome (build Markup.console { plainRequest with files := [firstSource] })
        selfBuilding).2.files.read selfBuilding.cwd firstSource = .ok (Utf8.encode (Text.cat
          ["// SPDX-License-Identifier: MIT\npragma solidity ^0.8.20;\n\n",
            "interface IA \x7b\n\n\x7d\n"])) := by
  obtain ⟨hcount, hbuilt⟩ : announcedIn plainRequest.options.dialect selfBuilding [firstSource] =
        .ok 1 ∧
      (outcome (buildFiles Markup.console plainRequest.options [firstSource] {})
        selfBuilding).2.files.read selfBuilding.cwd firstSource = .ok (Utf8.encode (Text.cat
          ["// SPDX-License-Identifier: MIT\npragma solidity ^0.8.20;\n\n",
            "interface IA \x7b\n\n\x7d\n"])) := by
    decide +kernel
  rw [build_files plainRequest (by simp) hcount (shows_heading Markup.isLawful_console _ _)]
  exact ⟨rfl, hbuilt⟩

end Batch
end SolInterface
