import MessageCatalog.Log.Record
import MessageCatalog.Path

/-!
# Headers of generated files

What a generated file says about itself: that it is generated, from which source and when. In the
style that is safe for source control the time is left out and only the name of the source is given.
-/

namespace MessageCatalog

/-- What a generated file says about where it came from. -/
structure Header where
  source : Path
  /-- The style that is safe for source control. -/
  stable : Bool
  timestamp : Text
deriving DecidableEq, Repr

namespace Header

/-- The source as comments name it: with forward slashes, and in the stable style without its
directories. -/
def sourceText (h : Header) : Text :=
  let path := h.source.text.replaceChar '\\' '/'
  if h.stable then
    match path.cutLast '/' with
    | some (before, name) => if before = [] then path else "...".toList ++ '/' :: name
    | none => path
  else path

/-- The lines at the top of a generated class. -/
def banner (h : Header) : List Text :=
  if h.stable then ["// This class is generated. Do NOT modify it manually."]
  else ["// This class is generated. Do NOT modify it, or", "// add it to source control."]

/-- The time of generation, unless the style leaves it out. -/
def generatedOn (h : Header) : Option Text :=
  if h.stable then none else some h.timestamp

/-- The line that names the time, if there is one to name. -/
def timeLines (mark : Text) (h : Header) : List Text :=
  match h.generatedOn with
  | none => []
  | some [] => []
  | some time => [mark ++ "on " ++ time ++ "."]

/-- The banner and the blank line behind it. -/
def bannerLines (h : Header) : List Text :=
  h.banner ++ [[]]

/-- The comment that introduces a generated class, and the blank line behind it. -/
def introductionLines (h : Header) : List Text :=
  let origin : List Text :=
    ["/**", " * This class was generated", " * by " ++ toolName, " * from " ++ h.sourceText]
  let contents : List Text :=
    [" * It contains a list of messages, and methods to",
      " * retrieve and format those messages.", " */", []]
  origin ++ h.timeLines " * " ++ contents

end Header

end MessageCatalog
