/-
This file defines the styled pieces of text that an engine makes of a line.
-/

namespace Listings

/-- Any of the three styles may hold together. -/
structure FontStyle where
  italic : Bool := false
  bold : Bool := false
  underline : Bool := false
deriving DecidableEq, Repr, Inhabited

namespace FontStyle

def plain : FontStyle := {}

def union (a b : FontStyle) : FontStyle :=
  ⟨a.italic || b.italic, a.bold || b.bold, a.underline || b.underline⟩

/-- Every style of `b` holds in `a`. -/
def contains (a b : FontStyle) : Bool :=
  (!b.italic || a.italic) && (!b.bold || a.bold) && (!b.underline || a.underline)

def isEmpty (style : FontStyle) : Bool :=
  !style.italic && !style.bold && !style.underline

end FontStyle

/-- A part of a fragment with the scopes it stands in, outermost first. -/
structure SubToken where
  content : String
  scopes : List String
deriving DecidableEq, Repr, Inhabited

/-- The name is empty where there is no scope. -/
def SubToken.deepestScope (part : SubToken) : String :=
  part.scopes.getLastD ""

/-- The smallest unit of styled text. -/
structure Fragment where
  content : String
  /-- The color of the palette holds where there is none. -/
  color : Option String := none
  style : FontStyle := {}
  parts : List SubToken := []
deriving DecidableEq, Repr, Inhabited

/-- The deepest scope of every part, joined by commas. -/
def Fragment.scopeText? (fragment : Fragment) : Option String :=
  if fragment.parts.isEmpty then none
  else some (",".intercalate (fragment.parts.map SubToken.deepestScope))

abbrev Line := List Fragment

/-- The text of a line is that of its fragments. -/
def Line.text (line : Line) : List Char :=
  line.flatMap fun fragment => fragment.content.toList

/-- What the frame of a block takes from a theme. -/
structure Palette where
  name : String
  foreground : String
  background : String
deriving DecidableEq, Repr, Inhabited

/-- The lines of one text as one theme styles them. -/
structure TokenBlock where
  palette : Palette
  lines : List Line
deriving DecidableEq, Repr, Inhabited

end Listings
