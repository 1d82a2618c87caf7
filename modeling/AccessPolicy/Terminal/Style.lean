/-
Styled text for a terminal, and the control sequences that show it in colour.
-/

namespace AccessPolicy.Terminal

/-- What a piece of text is, which decides how it looks. -/
inductive Style where
  | plain
  | success
  | error
  | muted
  | header
  | code
deriving DecidableEq

/-- The parameters of the control sequence that switches a style on. -/
def Style.parameters : Style → Option String
  | plain => none
  | success => some "32;1"
  | error => some "31;1"
  | muted => some "2"
  | header => some "1"
  | code => some "34"

/-- A piece of text in a style. -/
structure Span where
  style : Style
  text : String
deriving DecidableEq

/-- Text in one or more styles. -/
abbrev Line := List Span

/-- Text without a style. -/
def plain (s : String) : Line := [⟨.plain, s⟩]

/-- The text of a span, between control sequences if colours are wanted. -/
def Span.render (colours : Bool) (s : Span) : String :=
  match s.style.parameters with
  | some p => if colours then "\x1b[" ++ p ++ "m" ++ s.text ++ "\x1b[0m" else s.text
  | none => s.text

/-- The text of a line. -/
def render (colours : Bool) (l : Line) : String := String.join (l.map (Span.render colours))

/-! ## Kinds of lines -/

/-- Something that went well. -/
def success (s : String) : Line := [⟨.success, "✓"⟩, ⟨.plain, " " ++ s⟩]

/-- Something that failed. -/
def failure (s : String) : Line := [⟨.error, "✗"⟩, ⟨.plain, " " ++ s⟩]

/-- A suggestion. -/
def hint (s : String) : Line := [⟨.muted, "→"⟩, ⟨.plain, " "⟩, ⟨.muted, s⟩]

/-- A value under a label. -/
def labelled (label value : String) : Line :=
  [⟨.plain, "  "⟩, ⟨.muted, label⟩, ⟨.plain, ": " ++ value⟩]

/-- An example of a command. -/
def sampleCommand (s : String) : Line := [⟨.plain, "  "⟩, ⟨.code, s⟩]

/-- An empty line. -/
def spacer : Line := []

end AccessPolicy.Terminal
