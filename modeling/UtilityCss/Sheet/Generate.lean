import UtilityCss.Sheet.ClassName
import UtilityCss.Sheet.Style
import UtilityCss.Sheet.Value

/-!
# From records to a style sheet

Each record becomes an `Item`, with its value validated and its class name built; this is where a
value is refused.  `Sheet.body` then sets comments, rules and layers in order, each at the depth of
the layers that are open, and closes what was left open.  Rules under a media condition are held
back: they come last, in one block for each condition, in the order in which the conditions were
first seen (`Sheet.groups`), and it is only there that a condition is refused.
-/

namespace UtilityCss

/-- A record that can be written. -/
inductive Item
  | comment (text : Text)
  | layer (name : Text) (edge : Edge)
  | rule (block : Rule)
  /-- A rule under a media condition. -/
  | held (condition : Text) (block : Rule)
deriving DecidableEq, Repr

namespace Item

/-- The end of a selector: a pseudo-class has a colon before it. -/
def pseudo (declaration : Declaration) : Text :=
  match ClassName.present declaration.pseudoClass with
  | none => []
  | some name => if name.head? = some ':' then name else ':' :: name

/-- The rule of a declaration. -/
def ruleOf (format : ClassNameFormat) (declaration : Declaration) : Except RenderFault Rule :=
  (Value.validate declaration.property declaration.joined).map fun value =>
    { selector := ClassName.ofDeclaration format declaration ++ pseudo declaration
      property := declaration.property
      value }

/-- The item of a record. -/
def ofRecord (format : ClassNameFormat) : Record → Except RenderFault Item
  | .comment text => .ok (.comment text)
  | .layer name edge => .ok (.layer name edge)
  | .rule declaration =>
    (ruleOf format declaration).map fun block =>
      match ClassName.present declaration.media with
      | none => .rule block
      | some condition => .held condition block

/-- The name of the layer that an item begins or ends. -/
def layer? : Item → Option Text
  | .layer name _ => some name
  | _ => none

/-- The rule that is held back, with its condition. -/
def held? : Item → Option (Text × Rule)
  | .held condition block => some (condition, block)
  | _ => none

end Item

namespace Sheet

/-- The ends of the layers that are open at a depth. -/
def closers : Nat → List Entry
  | 0 => []
  | depth + 1 => .closeLayer depth :: closers depth

/-- The entries of the items in order, at the given depth, with the ends of the layers that stay
open.  The end of a layer that was never begun is written at the outermost level. -/
def body (layers : Bool) (depth : Nat) : List Item → List Entry
  | [] => closers depth
  | .comment text :: items => .comment depth text :: body layers depth items
  | .layer name .start :: items =>
    if layers then .openLayer depth name :: body layers (depth + 1) items
    else body layers depth items
  | .layer _ .stop :: items =>
    if layers then .closeLayer (depth - 1) :: body layers (depth - 1) items
    else body layers depth items
  | .rule block :: items => .rule depth block :: body layers depth items
  | .held _ _ :: items => body layers depth items

/-- The statement of the order of the layers, if there are any. -/
def order (layers : Bool) (items : List Item) : List Entry :=
  let names := (items.filterMap Item.layer?).eraseDups
  if layers ∧ names ≠ [] then [.layerOrder names] else []

/-- Puts a rule behind those of its condition; a condition that is new comes last. -/
def hold (condition : Text) (block : Rule) : List (Text × List Rule) → List (Text × List Rule)
  | [] => [(condition, [block])]
  | (other, blocks) :: groups =>
    if other = condition then (other, blocks ++ [block]) :: groups
    else (other, blocks) :: hold condition block groups

/-- The rules that are held back, for each condition in the order in which they were first seen. -/
def groups (items : List Item) : List (Text × List Rule) :=
  (items.filterMap Item.held?).foldl (fun groups held => hold held.1 held.2 groups) []

/-- The block of a condition. -/
def mediaEntry (mobileFirst : Bool) (group : Text × List Rule) : Except RenderFault Entry :=
  let condition := Media.oriented mobileFirst group.1
  if Media.isValid condition then .ok (.media condition group.2)
  else .error (.invalidMedia condition)

/-- The items of records. -/
def items (style : Style) (records : List Record) : Except RenderFault (List Item) :=
  records.mapM (Item.ofRecord style.format)

/-- The entries of the style sheet for records. -/
def entries (style : Style) (records : List Record) : Except RenderFault (List Entry) := do
  let items ← items style records
  let media ← (groups items).mapM (mediaEntry style.mobileFirst)
  .ok (order style.layers items ++ body style.layers 0 items ++ media)

/-- The style sheet for records. -/
def generate (style : Style) (records : List Record) : Except RenderFault Text :=
  (entries style records).map (Entry.renderAll style.mode)

end Sheet

end UtilityCss
