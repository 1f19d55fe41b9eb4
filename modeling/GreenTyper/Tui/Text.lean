/-
  GreenTyper.Tui.Text — what the terminal UI does to a text before it is shown
  (`presentation.rs`).

  How a text falls into graphemes and how wide one is on the screen is left to the Unicode
  libraries: `Unicode` is an argument wherever they are asked.
-/

import GreenTyper.Lib.Result
import GreenTyper.Lib.Text

namespace GreenTyper.Tui

open Lib

/-- `UnicodeSegmentation::graphemes` and `UnicodeWidthStr::width`. -/
structure Unicode where
  graphemes : String → List String
  width : String → Nat

/-- One column for each character, as for printable ASCII. -/
def Unicode.ascii : Unicode := ⟨fun text => text.toList.map String.singleton, String.length⟩

def sanitizeControls (text : String) : String := String.ofList (text.toList.map fun character => if isControl character then '?' else character)

def displayWidth (unicode : Unicode) (text : String) : Nat := unicode.width (sanitizeControls text)

/-! ## Viewports and rows -/

inductive ViewportError where
  | zeroWidth
  | zeroHeight
  deriving DecidableEq

structure Viewport where
  width : UInt16
  height : UInt16
  width_pos : width ≠ 0
  height_pos : height ≠ 0
  deriving DecidableEq

def Viewport.new (width height : UInt16) : Except ViewportError Viewport :=
  if hwidth : width ≠ 0 then
    if hheight : height ≠ 0 then .ok ⟨width, height, hwidth, hheight⟩ else .error .zeroHeight
  else .error .zeroWidth

/-- The columns. -/
def Viewport.columns (viewport : Viewport) : Nat := viewport.width.toNat

theorem Viewport.new_ok {width height : UInt16} {viewport : Viewport} :
    Viewport.new width height = .ok viewport ↔ viewport.width = width ∧ viewport.height = height := by
  unfold Viewport.new
  constructor
  · intro h
    split at h
    · split at h
      · cases h
        exact ⟨rfl, rfl⟩
      · cases h
    · cases h
  · intro ⟨hwidth, hheight⟩
    subst hwidth hheight
    rw [dif_pos viewport.width_pos, dif_pos viewport.height_pos]

structure LayoutRowView where
  text : String
  selected : Bool
  deriving DecidableEq

/-- `saturating_add_signed` of a `usize`. -/
def saturatingAddSigned (n : Nat) (offset : Int) : Nat := min ((n : Int) + offset).toNat (2 ^ 64 - 1)

end GreenTyper.Tui
