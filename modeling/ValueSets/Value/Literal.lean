import ValueSets.Value.Equality
import ValueSets.Decimal.Shortest
import ValueSets.Text.Quoted

/-!
# Printed forms of values

`Value.literalM` prints a value so that a reader can tell what it is: texts are quoted, types and
enumerated values stand in angle brackets. A box, a configuration or a set of this library has no
printed form of its own here; the caller says how they are printed, and may do so with effects. The
caller also says how whole numbers are printed, since there is a limit to their digits. A sequence
or table that stands inside itself is printed as dots there. `Value.plainText` is the form for
running text, in which texts stand without quotation marks.
-/

set_option autoImplicit false

namespace ValueSets

/-- The printed form of a truth value. -/
def boolLiteral (b : Bool) : String := if b then "True" else "False"

/-- The printed form of a colour. -/
def Color.literal (c : Color) : String :=
  "<Color." ++ c.name ++ ": " ++ toString c.number ++ ">"

/-- The printed form of a level. -/
def Level.literal (l : Level) : String :=
  "<Level." ++ l.name ++ ": " ++ toString l.number ++ ">"

/-- The settings of a configuration as named values, separated by `separator`. -/
def Config.fields (separator : String) (c : Config) : String :=
  let element := match c.elementType with
    | none => "None"
    | some t => t.literal
  "element_type=" ++ element ++ separator ++ "sorted_listing=" ++ boolLiteral c.sortedListing

/-- The printed form of a configuration. -/
def Config.literal (c : Config) : String := "SetConfig(" ++ c.fields ", " ++ ")"

namespace Value

/-- Items between brackets, separated by commas. -/
def bracketed (opening closing : String) (items : List String) : String :=
  opening ++ ", ".intercalate items ++ closing

/-- The printed form of a tuple: a single item is followed by a comma. -/
def tupleLiteral : List String → String
  | [item] => "(" ++ item ++ ",)"
  | items => bracketed "(" ")" items

/-- The printed form of a value set that can change. An empty one would look like an empty table. -/
def setLiteral : List String → String
  | [] => "set()"
  | items => bracketed "\x7b" "\x7d" items

/-- The printed form of a value set that cannot change. -/
def frozenSetLiteral : List String → String
  | [] => "frozenset()"
  | items => bracketed "frozenset(\x7b" "\x7d)" items

/-- The printed form of a sequence or table inside itself. -/
def dots (t : Ty) : String :=
  match t with
  | .tuple => "(...)"
  | .table => "\x7b...\x7d"
  | _ => "[...]"

section

variable {m : Type → Type} [Monad m] (printWhole : Int → m String)
  (printHeld : List Value → Value → m String)

mutual

/-- The printed form of a value that stands inside those of `around`. Whole numbers are printed by
`printWhole`, and boxes, configurations and sets of this library by `printHeld`. -/
def literalM (around : List Value) : Value → m String
  | .null => pure "None"
  | .bool b => pure (boolLiteral b)
  | .int n _ => printWhole n
  | .float x _ => pure (Decimal.render x)
  | .fraction q _ => do
    let numerator ← printWhole q.num
    let denominator ← printWhole q.den
    pure ("Fraction(" ++ numerator ++ ", " ++ denominator ++ ")")
  | .text s _ => pure (Text.quote s)
  | .symbol s _ => pure (Text.quote s)
  | .bytes bs _ => pure (Text.quoteBytes bs)
  | .tuple items identity =>
    if around.any (isSameObject (.tuple items identity)) then pure (dots .tuple)
    else tupleLiteral <$> literalsM (.tuple items identity :: around) items
  | .list items => bracketed "[" "]" <$> literalsM around items
  | .table entries => bracketed "\x7b" "\x7d" <$> entryLiteralsM around entries
  | .set items _ => setLiteral <$> literalsM around items
  | .frozenSet items _ _ => frozenSetLiteral <$> literalsM around items
  | .color c => pure c.literal
  | .level l => pure l.literal
  | .type t => pure t.literal
  | .config c => printHeld around (.config c)
  | .box b => printHeld around (.box b)
  | .handle h => printHeld around (.handle h)
termination_by structural x => x

/-- The printed forms of several values. -/
def literalsM (around : List Value) : List Value → m (List String)
  | [] => pure []
  | v :: vs => do
    let item ← literalM around v
    let items ← literalsM around vs
    pure (item :: items)
termination_by structural x => x

/-- The printed forms of the entries of a table. -/
def entryLiteralsM (around : List Value) : List (Value × Value) → m (List String)
  | [] => pure []
  | (k, v) :: es => do
    let key ← literalM around k
    let value ← literalM around v
    let items ← entryLiteralsM around es
    pure ((key ++ ": " ++ value) :: items)
termination_by structural x => x

end

end

/-- The printed form of a configuration, and the name of the type of any other value. -/
def heldLiteral : Value → String
  | .config c => c.literal
  | v => v.typeName

/-- The printed form of a value in which the name of its type stands for a box or a set of this
library, and in which whole numbers may be of any length. -/
def literal (v : Value) : String :=
  Id.run (v.literalM (fun n => pure (toString n)) (fun _ held => pure held.heldLiteral) [])

/-- A value in running text. -/
def plainText : Value → String
  | .text s _ => s
  | .symbol s _ => s
  | .level l => toString l.number
  | .color c => "Color." ++ c.name
  | .fraction q _ => if q.den == 1 then toString q.num else toString q.num ++ "/" ++ toString q.den
  | .config c => c.fields " "
  | v => v.literal

end Value

end ValueSets
