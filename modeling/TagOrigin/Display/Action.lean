import TagOrigin.Display.Argument.Expression

/-!
Actions. A tag whose name begins with `@` names an action; behind its equals sign stand a handler and
its arguments, or arguments alone. Arguments are literal values: numbers, quoted texts, a few
constants, tuples in round brackets, sets and maps in braces. They are only checked here, since
nothing is done with them.
-/
namespace TagOrigin.Display.Action

open Argument (Fault)

/-- Characters of the name of a handler. -/
def isHandlerChar (c : Char) : Bool :=
  c.isAlphanum || c == '_' || c == '.' || (0x80 ≤ c.toNat && !Argument.isSymbol c)

/-- The arguments in what stands behind the equals sign of an action. Behind the name of a handler they
stand in brackets, and a handler alone has none. -/
def arguments (t : Text) : Text :=
  let behind := t.dropWhile isHandlerChar
  match behind with
  | [] => "()".toList
  | '(' :: inside => if inside.getLast? = some ')' && !inside.contains '\n' then behind else t
  | _ => t

/-- Checks what stands behind the equals sign of an action; the fault comes with the arguments. -/
def check (given : Text) : Except (Text × Fault) Unit :=
  if given = [] then .ok ()
  else
    let arguments := arguments (Text.strip given)
    match Argument.checkLiteral arguments with
    | .ok () => .ok ()
    | .error fault => .error (arguments, fault)

end TagOrigin.Display.Action
