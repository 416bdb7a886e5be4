import QueryGate.Json.Printer
import QueryGate.Yaml.Printer

/-!
How results reach the reader: as text, in colors if wanted, or as a document in one of two
notations.
-/

namespace QueryGate

inductive Output.Format
  | text
  | json
  | yaml
  deriving DecidableEq, Repr

structure Output where
  format : Output.Format
  colored : Bool
  deriving DecidableEq, Repr

inductive Output.Paint
  | bold
  | red
  | green
  | yellow
  deriving DecidableEq, Repr

/-- The number that turns a paint on. -/
def Output.Paint.code : Output.Paint → String
  | .bold => "1"
  | .red => "31"
  | .green => "32"
  | .yellow => "33"

namespace Output

/-- A text in some paints, and back to none after it. -/
def paint (o : Output) (paints : List Paint) (text : String) : String :=
  if o.colored then
    "\x1b[" ++ String.intercalate ";" (paints.map Paint.code) ++ "m" ++ text ++ "\x1b[0m"
  else text

def line (text : String) : String := text ++ "\n"

def heading (o : Output) (title : String) : String :=
  line (o.paint [.bold] ("=== " ++ title ++ " ==="))

/-- A result in the wanted notation; colors are for text alone. -/
def render (o : Output) (document : Json) (text : String) : String :=
  match o.format with
  | .text => text
  | .json => document.pretty
  | .yaml => Yaml.print document

end Output

end QueryGate
