import TagOrigin.Import.Statement
import TagOrigin.Register

/-!
Bindings: which local name comes from which import statement. Single imports bind first, grouped
imports second; a name bound again keeps its place and takes the later statement.
-/
namespace TagOrigin.Import

/-- Separates a name from its alias, with exactly one space on either side. -/
def aliasSeparator : Text := " as ".toList

/-- The local name of one specifier: the alias if there is one, else the name itself. Of several
separators the first two delimit the alias. -/
def localName (specifier : Text) : Text :=
  let item := Text.strip specifier
  match Text.breakOn aliasSeparator item with
  | none => item
  | some (_, rest) =>
    match Text.breakOn aliasSeparator rest with
    | none => Text.strip rest
    | some (inner, _) => Text.strip inner

/-- The local names of a list of specifiers. Empty items are dropped. -/
def localNames (specifiers : Text) : List Text :=
  ((specifiers.splitOn ',').map localName).filter (· ≠ [])

/-- The local names that a statement binds. -/
def Statement.names (s : Statement) : List Text :=
  match s.shape with
  | .single => [s.subject]
  | .grouped => localNames s.subject

/-- Local names with the text of the statement behind them. -/
abbrev Bindings := Register Text

/-- Binds every name of a statement to the statement's text. -/
def Bindings.add (bindings : Bindings) (s : Statement) : Bindings :=
  Register.putAll (s.names.map fun name => (name, s.text)) bindings

/-- The bindings of a text. -/
def bindings (t : Text) : Bindings :=
  (statements .single t ++ statements .grouped t).foldl Bindings.add []

end TagOrigin.Import
