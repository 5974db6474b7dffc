import MethodMacros.Pattern.Basic

/-!
# Choices

Alternatives that begin alike share their beginning, and alternatives that are single characters
then become one class.  Neither changes what a pattern matches in the basic plane, since only parts
that match in one way are shared.  Beyond it a class treats case in its own manner, so a choice
between single characters has to be read as the class that it is.
-/

namespace MethodMacros.Pattern

/-- A part that takes the same characters wherever it stands, whatever was captured inside it. -/
def Node.isPlain : Node → Bool
  | .char _ _ | .anchor _ | .again _ _ _ => true
  | _ => false

/-- The alternatives without their first part, if that is plain and the same for all. -/
def withoutFirst (node : Node) (others : List (List Node)) : Option (List (List Node)) :=
  others.mapM fun
    | [] => none
    | other :: rest => if node.isPlain && other = node then some rest else none

/-- Splits off the beginning that the first alternative shares with all others. -/
def shareBeginning : List Node → List (List Node) → List Node × List (List Node)
  | [], others => ([], [] :: others)
  | node :: rest, others =>
      match withoutFirst node others with
      | some shorter =>
          let (shared, remaining) := shareBeginning rest shorter
          (node :: shared, remaining)
      | none => ([], (node :: rest) :: others)

/-- The members of a class that an alternative consists of. -/
def classOf? (alternative : List Node) : Option (Modes × List ClassItem) :=
  match alternative with
  | [.char modes (.point code)] => some (modes, [.point code])
  | [.char modes (.oneOf false items)] => some (modes, items)
  | _ => none

/-- The one class that alternatives make, if each of them is a class. -/
def joinClasses (alternatives : List (List Node)) : Option Node := do
  let classes ← alternatives.mapM classOf?
  let (modes, _) ← classes.head?
  if classes.all (·.1 = modes) then
    some (.char modes (.oneOf false (classes.flatMap (·.2))))
  else none

/-- Alternatives as nested choices. -/
def Node.choice : List (List Node) → Node
  | [] => .empty
  | [alternative] => .ofList alternative
  | alternative :: rest => .alt (.ofList alternative) (Node.choice rest)

/-- The parts that a list of alternatives stands for. -/
def joinAlternatives : List (List Node) → List Node
  | [] => []
  | [alternative] => alternative
  | first :: others =>
      let (shared, remaining) := shareBeginning first others
      shared ++ [(joinClasses remaining).getD (Node.choice remaining)]

end MethodMacros.Pattern
