/-! # Layout

Text that spans several lines is laid out on a draft: the text so far and the current nesting
level. A new line is indented by two spaces per level. The items of a block stand on lines of
their own, one level below the block; without items nothing stands between the delimiters.
-/

namespace BicepTemplates

/-- Levels are machine words. Counting them and the spaces they stand for wraps around. -/
abbrev Level := UInt64

structure Draft where
  text : String
  level : Level

namespace Draft

def atLevel (level : Level) : Draft := ⟨"", level⟩

def write (s : String) (d : Draft) : Draft :=
  { d with text := d.text ++ s }

def newline (d : Draft) : Draft :=
  d.write (String.ofList ('\n' :: List.replicate (2 * d.level).toNat ' '))

def deeper (d : Draft) : Draft := { d with level := d.level + 1 }

def shallower (d : Draft) : Draft := { d with level := d.level - 1 }

end Draft

/-- Something that can be laid out: it continues a draft. -/
abbrev Layout := Draft → Draft

structure Delimiters where
  opening : String
  closing : String

namespace Delimiters

def object : Delimiters := ⟨"\x7b", "\x7d"⟩

def array : Delimiters := ⟨"[", "]"⟩

end Delimiters

namespace Layout

/-- Each item on a line of its own. -/
def lines (items : List Layout) : Layout := fun d =>
  items.foldl (fun d item => item d.newline) d

def block (delimiters : Delimiters) (items : List Layout) : Layout := fun d =>
  if items.isEmpty then (d.write delimiters.opening).write delimiters.closing
  else
    ((lines items (d.write delimiters.opening).deeper).shallower.newline).write delimiters.closing

/-- The text of a layout whose first line sits at the given level. -/
def renderAt (layout : Layout) (level : Level) : String :=
  (layout (Draft.atLevel level)).text

end Layout

end BicepTemplates
