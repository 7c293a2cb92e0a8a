import Playout.Site
import Playout.Text.Columns

/-!
# A wide terminal

One console among others: a terminal on which every line fits. It leaves out the controls that it
would act on, and shows tabs as spaces up to the next tab stop.
-/

namespace Playout.Command

/-- A control that a terminal would act on: the bell, moves of the cursor. -/
def isTerminalControl (c : Char) : Bool :=
  let n := c.toNat
  n == 7 || n == 8 || n == 11 || n == 12 || n == 13

/-- The characters of a text that are shown. -/
def visible (s : List Char) : List Char :=
  s.filter (!isTerminalControl ·)

/-- The distance between two tab stops. -/
def tabWidth : Nat := 8

/-- A text with spaces up to the next tab stop in place of its tabs, from a column on. -/
def expandTabs (column : Nat) : List Char → List Char
  | [] => []
  | c :: r =>
    if c = '\n' then c :: expandTabs 0 r
    else if c = '\t' then
      let width := tabWidth - column % tabWidth
      List.replicate width ' ' ++ expandTabs (column + width) r
    else c :: expandTabs (column + Text.columns c) r

/-- A text as a wide terminal shows it. -/
def displayed (s : String) : String :=
  String.ofList (expandTabs 0 (visible s.toList))

/-- A terminal on which every line fits. -/
def wideTerminal : Console :=
  ⟨fun _ => true, displayed⟩

end Playout.Command
