import SolInterface.Text.CellRanges
import SolInterface.Text.Word

/-!
Cells of a terminal: how many a text takes, tabs as spaces, and texts cut to a number of cells.
-/
namespace SolInterface.Text

def cellsOf (c : Char) : Nat :=
  if 32 ≤ c.toNat && c.toNat < 127 then 1
  else if inRanges emptyCellRanges c.toNat then 0
  else if inRanges doubleCellRanges c.toNat then 2
  else 1

def cellLength (t : Text) : Nat := t.foldl (fun n c => n + cellsOf c) 0

/-- The distance between tab stops. -/
def tabSize : Nat := 8

/-- A line from a column on, with each tab as one space and those up to the next stop. -/
def expandTabsFrom (column : Nat) : Text → Text
  | [] => []
  | c :: r =>
    if c == '\t' then
      let after := column + 1
      let more := (tabSize - after % tabSize) % tabSize
      List.replicate (1 + more) ' ' ++ expandTabsFrom (after + more) r
    else c :: expandTabsFrom (column + cellsOf c) r

def expandTabs (line : Text) : Text := expandTabsFrom 0 line

/-- The start of a text that takes so many cells, looked for by halving; a space stands for half of
a character. -/
def startOfCells (t : Text) (cells : Nat) : Nat → Nat → Nat → Text
  | 0, _, _ => t
  | fuel + 1, low, high =>
    let middle := (low + high) / 2
    let start := t.take (middle + 1)
    let length := cellLength start
    if length == cells + 1 && start.getLast?.any (cellsOf · == 2) then start.dropLast ++ [' ']
    else if length == cells then start
    else if cells < length then startOfCells t cells fuel low middle
    else startOfCells t cells fuel middle high

/-- The text in exactly so many cells. -/
def fitted (t : Text) (cells : Nat) : Text :=
  let length := cellLength t
  if cells == 0 then []
  else if length ≤ cells then t ++ List.replicate (cells - length) ' '
  else startOfCells t cells (t.length + 1) 0 t.length

/-- The text without the blanks at its end that stand beyond a number of characters. -/
def cropBlanks (size : Nat) (t : Text) : Text :=
  let blanks := (t.reverse.takeWhile isBlank).length
  t.take (t.length - min blanks (t.length - size))

/-- The text, cut with an ellipsis if it takes more than so many cells. -/
def elided (t : Text) (cells : Nat) : Text :=
  if cells < cellLength t then fitted t (cells - 1) ++ ['…'] else t

end SolInterface.Text
