import SolInterface.Build

/-!
The counts of a batch of builds, and the lines that report them.
-/
namespace SolInterface
open Console (Style)

structure Summary where
  generated : Nat := 0
  skipped : Nat := 0
  failed : Nat := 0
  /-- The number of interfaces announced. -/
  total : Int := 0
  results : List BuildResult := []
  errors : List Text := []
  deriving DecidableEq, Repr

namespace Summary

def processed (s : Summary) : Nat := s.generated + s.skipped + s.failed

def isOk (s : Summary) : Bool := s.failed == 0

/-- One more interface; `none` is one that failed. -/
def count (s : Summary) : Option Status → Summary
  | some .generated => { s with generated := s.generated + 1 }
  | some .skipped => { s with skipped := s.skipped + 1 }
  | none => { s with failed := s.failed + 1 }

/-- One more module, with its error. -/
def recordModule (s : Summary) (m : ModuleResult) : Summary :=
  let s := s.count m.status
  match m.error with
  | some (c :: error) => { s with errors := s.errors ++ [Text.cat [m.source, ": ", c :: error]] }
  | _ => s

/-- One more source that was built, with its modules. -/
def record (s : Summary) (r : BuildResult) : Summary :=
  let s := { s with results := s.results ++ [r] }
  r.modules.foldl recordModule (s.count (some r.status))

/-- One more source that could not be built. -/
def recordFailure (s : Summary) (path : Path) (failure : Failure) : Summary :=
  { s with
    failed := s.failed + 1
    errors := s.errors ++ [Text.cat [path.text, ": ", failure.message]] }

/-- The report, with markup: after an empty line the counts that are worth one, and the total. -/
def report (s : Summary) : List Text :=
  [Text.cat ["\n", Style.green.tagged "✓", " Successfully built ", Text.ofNat s.generated,
    " interface(s)"]] ++
  (if s.skipped = 0 then []
    else [Style.yellow.tagged
      (Text.cat ["Skipped ", Text.ofNat s.skipped, " up-to-date interface(s)"])]) ++
  (if s.failed = 0 then []
    else Text.cat [Style.red.tagged "✗", " Failed to build ", Text.ofNat s.failed,
        " interface(s)"] ::
      s.errors.map fun error => "  ".toList ++ error) ++
  [Style.bold.tagged (Text.cat ["Total: ", Text.ofNat s.processed, " of ", Text.ofInt s.total,
    " interface(s) processed"])]

end Summary
end SolInterface
