import TagOrigin.Display.Argument.Token

/-!
Expressions in the arguments of an action. What is kept of an expression is its kind and why it is no
literal value, if it is none. A reading that does not fit the tokens gives nothing, and the next one is
tried; a fault ends them all. `checkLiteral` says whether a text is a literal value.
-/
namespace TagOrigin.Display.Argument

/-- The kinds of expressions. -/
inductive Kind where
  | name
  | constant (word : Text)
  | number (isSigned isImaginary : Bool)
  | text
  | template
  | ellipsis
  | tuple
  | map
  | set
  | call
  | attribute
  | operation
  | comparison
  /-- Made with `and`, `or` or `not`. -/
  | logical
  | conditional
  | named
  deriving DecidableEq, Repr

namespace Kind

/-- How a fault names the kind of an expression. -/
def title : Kind → Text
  | .name => "name".toList
  | .constant word => word
  | .number isSigned _ => (if isSigned then "expression" else "literal").toList
  | .text => "literal".toList
  | .template => "f-string expression".toList
  | .ellipsis => "ellipsis".toList
  | .tuple => "tuple".toList
  | .map => "dict literal".toList
  | .set => "set display".toList
  | .call => "function call".toList
  | .attribute => "attribute".toList
  | .operation | .logical => "expression".toList
  | .comparison => "comparison".toList
  | .conditional => "conditional expression".toList
  | .named => "named expression".toList

/-- Whether an equals sign right behind such an expression is told apart from other faults. -/
def isTarget : Kind → Bool
  | .constant _ | .tuple | .comparison | .logical | .conditional | .named => false
  | _ => true

end Kind

/-- What is kept of an expression. -/
structure Reading where
  kind : Kind
  /-- Why it is no literal value. -/
  fault : Option Fault
  /-- The part that keeps it out of sets and out of the keys of maps. -/
  unhashable : Option Text
  deriving DecidableEq, Repr

namespace Reading

def literal (kind : Kind) : Reading := ⟨kind, none, none⟩

def foreign (kind : Kind) : Reading := ⟨kind, some .notLiteral, none⟩

/-- Why a value cannot be an element of a set. -/
def elementFault (r : Reading) : Option Fault :=
  r.fault <|> r.unhashable.map .unhashable

def ofTuple (elements : List Reading) : Reading :=
  ⟨.tuple, elements.findSome? (·.fault), elements.findSome? (·.unhashable)⟩

def ofSet (elements : List Reading) : Reading :=
  ⟨.set, elements.findSome? elementFault, some "set".toList⟩

def ofMap (pairs : List (Reading × Reading)) : Reading :=
  ⟨.map, pairs.findSome? fun (key, value) => key.fault <|> value.fault <|> key.elementFault,
    some "dict".toList⟩

def ofTexts (texts : List Token) : Reading :=
  if texts.contains (.text true) then .foreign .template else .literal .text

/-- A plus or minus sign before a number leaves a literal value. -/
def signed (sign : Text) (r : Reading) : Reading :=
  match r.kind with
  | .number false isImaginary =>
    if sign = ['~'] then .foreign .operation else .literal (.number true isImaginary)
  | _ => .foreign .operation

/-- A real number and an imaginary one, added or subtracted, are a literal value. -/
def joined (sign : Text) (left right : Reading) : Reading :=
  if (["<", ">", "<=", ">=", "==", "!="].map String.toList).contains sign then .foreign .comparison
  else
    match left.kind, right.kind with
    | .number _ false, .number false true =>
      if sign = ['+'] || sign = ['-'] then .literal .operation else .foreign .operation
    | _, _ => .foreign .operation

end Reading

def constantWords : List Text :=
  ["None", "True", "False"].map String.toList

/-- Words that are never names. -/
def reservedWords : List Text :=
  ["None", "True", "False", "and", "or", "in", "is", "if", "else", "not", "as", "assert", "async",
    "break", "class", "continue", "def", "del", "elif", "except", "finally", "from", "global",
    "import", "nonlocal", "pass", "raise", "return", "try", "while", "with", "for", "lambda", "await",
    "yield"].map String.toList

def isName (w : Text) : Bool := !reservedWords.contains w

def binarySigns : List Text :=
  ["+", "-", "*", "/", "//", "%", "**", "@", "<<", ">>", "&", "|", "^", "<", ">", "<=", ">=", "==",
    "!="].map String.toList

/-- Words that can begin a command, so that a value may stand right behind them elsewhere. -/
def softWords : List Text :=
  ["_", "case", "match"].map String.toList

/-- Words whose command form has no brackets any more. -/
def commandWords : List Text :=
  ["print", "exec"].map String.toList

def isCommandWord : Token → Bool
  | .word w => commandWords.contains w
  | _ => false

/-- What may be at fault, or not fit. A reading gives what it has read with the tokens behind it. -/
abbrev Attempt := OptionT (Except Fault)

def refuse {α : Type} (fault : Fault) : Attempt α :=
  OptionT.lift (.error fault)

/-- Looks at the next token, so that the end of an unfinished text is a fault. -/
def settle : List Token → Attempt Unit
  | .stop fault :: _ => refuse fault
  | _ => pure ()

/-- A fault that only a second, alert reading tells from a reading that does not fit. -/
def complain {α : Type} (alert : Bool) (fault : Fault) : Attempt α :=
  if alert then refuse fault else failure

/-- Whether a token can only begin a value. -/
def startsValue : Token → Bool
  | .number _ | .text _ | .bytes _ => true
  | .word w => isName w || constantWords.contains w || w = "not".toList
  | .opening c => c ≠ '('
  | .sign s => s = ['~'] || s = "...".toList
  | _ => false

/-- Whether an expression that begins with these tokens may miss a comma behind it: a name before a quoted
text may be a mark of it. -/
def mayMissComma : List Token → Bool
  | .word w :: .text _ :: _ | .word w :: .bytes _ :: _ => !isName w
  | .word w :: _ => !softWords.contains w
  | _ => true

def isTextToken : Token → Bool
  | .text _ | .bytes _ => true
  | _ => false

/-- Reads quoted texts that stand side by side. -/
def quotedTexts (ts : List Token) : Attempt (Reading × List Token) := do
  let texts := ts.takeWhile isTextToken
  let rest := ts.dropWhile isTextToken
  settle rest
  let isBytes := fun | Token.bytes _ => true | _ => false
  if texts.contains (.bytes false) then refuse .bytesBeyondAscii
  else if texts.any isBytes && !texts.all isBytes then refuse .mixedTexts
  else pure (.ofTexts texts, rest)

mutual

/-- Reads an expression; `inside` says whether it stands in brackets. -/
def expression (alert inside : Bool) (fuel : Nat) (ts : List Token) :
    Attempt (Reading × List Token) :=
  match fuel with
  | 0 => failure
  | fuel + 1 => do
    let (first, rest) ← disjunction alert fuel ts
    if alert then
      neighbour inside fuel ts rest <|> pure ()
    match rest with
    | .word w :: more =>
      if w = "if".toList then condition alert inside fuel more <|> pure (first, rest)
      else pure (first, rest)
    | _ => pure (first, rest)

/-- Looks for a second value right behind a first one, which stands between `ts` and `rest`. In brackets
it has lost the comma before it; behind a command word it has lost its brackets. -/
def neighbour (inside : Bool) (fuel : Nat) (ts rest : List Token) : Attempt Unit :=
  match fuel with
  | 0 => failure
  | fuel + 1 => do
    let isCommand := (ts.head?.any isCommandWord) && ts.length = rest.length + 1
    if mayMissComma ts && (rest.head?.any startsValue) then
      (do let _ ← expression false inside fuel rest
          if inside && !isCommand then refuse .missingComma) <|> pure ()
    match ts with
    | .word w :: behind =>
      if isName w && !(behind.head? = some (.opening '(')) then do
        let _ ← expression true inside fuel behind
        if commandWords.contains w then refuse (.missingBrackets w)
    | _ => pure ()

/-- Reads what follows the `if` of a conditional expression. -/
def condition (alert inside : Bool) (fuel : Nat) (ts : List Token) :
    Attempt (Reading × List Token) :=
  match fuel with
  | 0 => failure
  | fuel + 1 => do
    let (_, rest) ← disjunction alert fuel ts
    match rest with
    | .word w :: more =>
      if w = "else".toList then
        let (_, rest) ← expression alert inside fuel more
        pure (.foreign .conditional, rest)
      else complain alert .missingElse
    | .sign s :: _ => if s = [':'] then failure else complain alert .missingElse
    | _ => complain alert .missingElse

/-- Reads values that operators join. -/
def disjunction (alert : Bool) (fuel : Nat) (ts : List Token) : Attempt (Reading × List Token) :=
  match fuel with
  | 0 => failure
  | fuel + 1 =>
    match ts with
    | .word w :: more =>
      if w = "not".toList then do
        let (_, rest) ← disjunction alert fuel more
        pure (.foreign .logical, rest)
      else do
        let (first, rest) ← factor alert fuel ts
        chain alert fuel first rest
    | _ => do
      let (first, rest) ← factor alert fuel ts
      chain alert fuel first rest

/-- Reads the operators behind a value, with the value behind each. -/
def chain (alert : Bool) (fuel : Nat) (left : Reading) (ts : List Token) :
    Attempt (Reading × List Token) :=
  match fuel with
  | 0 => failure
  | fuel + 1 => do
    settle ts
    let compared (more : List Token) : Attempt (Reading × List Token) := do
      let (_, rest) ← factor alert fuel more
      chain alert fuel (.foreign .comparison) rest
    match ts with
    | .sign s :: more =>
      if binarySigns.contains s then
        (do let (right, rest) ← factor alert fuel more
            chain alert fuel (left.joined s right) rest) <|> pure (left, ts)
      else pure (left, ts)
    | .word w :: more =>
      if w = "and".toList || w = "or".toList then
        (do let (_, rest) ← disjunction alert fuel more
            pure (.foreign .logical, rest)) <|> pure (left, ts)
      else if w = "in".toList then compared more <|> pure (left, ts)
      else if w = "is".toList then do
        settle more
        (if more.head? = some (.word "not".toList) then compared (more.drop 1) else compared more) <|>
          pure (left, ts)
      else if w = "not".toList then do
        settle more
        (if more.head? = some (.word "in".toList) then compared (more.drop 1) else failure) <|>
          pure (left, ts)
      else pure (left, ts)
    | _ => pure (left, ts)

/-- Reads a value with the signs before it and the brackets and members behind it. -/
def factor (alert : Bool) (fuel : Nat) (ts : List Token) : Attempt (Reading × List Token) :=
  match fuel with
  | 0 => failure
  | fuel + 1 => do
    settle ts
    match ts with
    | .sign s :: more =>
      if s = ['+'] || s = ['-'] || s = ['~'] then
        let (value, rest) ← factor alert fuel more
        pure (value.signed s, rest)
      else if s = "...".toList then attached alert fuel (.literal .ellipsis) more
      else failure
    | .number isImaginary :: rest => attached alert fuel (.literal (.number false isImaginary)) rest
    | .text _ :: _ | .bytes _ :: _ => do
      let (value, rest) ← quotedTexts ts
      attached alert fuel value rest
    | .word w :: rest =>
      if constantWords.contains w then attached alert fuel (.literal (.constant w)) rest
      else if !isName w then failure
      else
        match rest with
        | .opening '(' :: .closing _ :: behind =>
          if w = "set".toList then attached alert fuel ⟨.call, none, some w⟩ behind
          else attached alert fuel (.foreign .call) behind
        | _ => attached alert fuel (.foreign .name) rest
    | .opening c :: rest =>
      if c = '(' then do
        let (value, rest) ← group alert fuel rest
        attached alert fuel value rest
      else if c = '\x7b' then do
        let (value, rest) ← braces alert fuel rest
        attached alert fuel value rest
      else failure
    | _ => failure

/-- Reads the brackets of calls and the members right behind a value. -/
def attached (alert : Bool) (fuel : Nat) (value : Reading) (ts : List Token) :
    Attempt (Reading × List Token) :=
  match fuel with
  | 0 => failure
  | fuel + 1 => do
    settle ts
    match ts with
    | .opening '(' :: more =>
      (do let (_, rest) ← callArguments alert fuel more
          attached alert fuel (.foreign .call) rest) <|> pure (value, ts)
    | .sign ['.'] :: more => do
      settle more
      match more with
      | .word w :: rest =>
        if isName w then attached alert fuel (.foreign .attribute) rest else pure (value, ts)
      | _ => pure (value, ts)
    | _ => pure (value, ts)

/-- Reads the arguments of a call and its closing bracket. -/
def callArguments (alert : Bool) (fuel : Nat) (ts : List Token) : Attempt (Unit × List Token) :=
  match fuel with
  | 0 => failure
  | fuel + 1 => do
    settle ts
    let further (rest : List Token) : Attempt (Unit × List Token) :=
      match rest with
      | .closing _ :: rest => pure ((), rest)
      | .sign [','] :: rest => callArguments alert fuel rest
      | _ => failure
    match ts with
    | .closing _ :: rest => pure ((), rest)
    | .sign ['*'] :: more => do
      let (_, rest) ← star alert fuel more
      further rest
    | .sign ['*', '*'] :: more => do
      let (_, rest) ← expression alert true fuel more
      further rest
    | .word w :: .sign ['='] :: more | .word w :: .sign [':', '='] :: more =>
      if isName w then do
        let (_, rest) ← expression alert true fuel more
        further rest
      else failure
    | _ => do
      let (_, rest) ← expression alert true fuel ts
      if rest.head? = some (.sign ['=']) then complain alert .assignmentInCall else further rest

/-- Reads what follows an opening round bracket. -/
def group (alert : Bool) (fuel : Nat) (ts : List Token) : Attempt (Reading × List Token) :=
  match fuel with
  | 0 => failure
  | fuel + 1 => do
    settle ts
    let further (first : Reading) (rest : List Token) : Attempt (Reading × List Token) :=
      match rest with
      | .closing _ :: rest => pure (first, rest)
      | .sign [','] :: rest => do
        let (others, rest) ← elements alert fuel rest
        pure (.ofTuple (first :: others), rest)
      | _ => failure
    match ts with
    | .closing _ :: rest => pure (.ofTuple [], rest)
    | .sign ['*'] :: more => do
      let (value, rest) ← star alert fuel more
      if rest.head? = some (.closing ')') then complain alert (.starredGroup false)
      else further value rest
    | .sign ['*', '*'] :: more => do
      let (_, rest) ← expression alert true fuel more
      if rest.head? = some (.closing ')') then complain alert (.starredGroup true) else failure
    | _ => do
      let (first, rest) ← expression alert true fuel ts
      let (first, rest) ← assigned alert fuel ts first rest
      further first rest

/-- Reads what follows the star at the front of a bracket. -/
def star (alert : Bool) (fuel : Nat) (ts : List Token) : Attempt (Reading × List Token) :=
  match fuel with
  | 0 => failure
  | fuel + 1 => do
    let (_, rest) ← expression alert true fuel ts <|> refuse .emptyStar
    pure (.foreign .operation, rest)

/-- Reads the elements behind a comma and the closing bracket. -/
def elements (alert : Bool) (fuel : Nat) (ts : List Token) : Attempt (List Reading × List Token) :=
  match fuel with
  | 0 => failure
  | fuel + 1 => do
    settle ts
    let further (value : Reading) (rest : List Token) : Attempt (List Reading × List Token) :=
      match rest with
      | .closing _ :: rest => pure ([value], rest)
      | .sign [','] :: rest => do
        let (others, rest) ← elements alert fuel rest
        pure (value :: others, rest)
      | _ => failure
    match ts with
    | .closing _ :: rest => pure ([], rest)
    | .sign ['*'] :: more => do
      let (_, rest) ← disjunction alert fuel more
      further (.foreign .operation) rest
    | _ => do
      let (value, rest) ← expression alert true fuel ts
      let (value, rest) ← assigned alert fuel ts value rest
      further value rest

/-- Reads an assignment behind an element that begins at `start`. Only one with `:=` to a name is in
order. -/
def assigned (alert : Bool) (fuel : Nat) (start : List Token) (target : Reading) (ts : List Token) :
    Attempt (Reading × List Token) :=
  match fuel with
  | 0 => failure
  | fuel + 1 => do
    let isBare := target.kind = .name && start.length = ts.length + 1
    match ts with
    | .sign [':', '='] :: more => do
      let (_, rest) ← expression alert true fuel more
      if isBare then pure (.foreign .named, rest)
      else complain alert (.namedAssignmentTo target.kind.title)
    | .sign ['='] :: more =>
      if !target.kind.isTarget then failure
      else do
        let (value, rest) ← factor alert fuel more
        let (_, rest) ← chain alert fuel value rest
        match rest with
        | .sign ['='] :: _ | .sign [':', '='] :: _ => failure
        | _ =>
          complain alert (if isBare then .assignment else .assignmentTo target.kind.title)
    | _ => pure (target, ts)

/-- Reads what follows an opening brace: a map or a set. -/
def braces (alert : Bool) (fuel : Nat) (ts : List Token) : Attempt (Reading × List Token) :=
  match fuel with
  | 0 => failure
  | fuel + 1 => do
    settle ts
    let further (first : Reading) (rest : List Token) : Attempt (Reading × List Token) :=
      match rest with
      | .closing _ :: rest => pure (.ofSet [first], rest)
      | .sign [','] :: rest => do
        let (others, rest) ← elements alert fuel rest
        pure (.ofSet (first :: others), rest)
      | _ => failure
    match ts with
    | .closing _ :: rest => pure (.ofMap [], rest)
    | .sign ['*'] :: more => do
      let (value, rest) ← star alert fuel more
      further value rest
    | .sign ['*', '*'] :: _ => do
      let (others, rest) ← pairs alert fuel ts
      pure (.ofMap others, rest)
    | _ => do
      let (first, rest) ← expression alert true fuel ts
      match rest with
      | .sign [':'] :: more => do
        let (others, rest) ← valueAndPairs alert fuel first more
        pure (.ofMap others, rest)
      | _ => do
        let (first, rest) ← assigned alert fuel ts first rest
        further first rest

/-- Reads the value of a key, the pairs behind it and the closing brace. -/
def valueAndPairs (alert : Bool) (fuel : Nat) (key : Reading) (ts : List Token) :
    Attempt (List (Reading × Reading) × List Token) :=
  match fuel with
  | 0 => failure
  | fuel + 1 => do
    settle ts
    match ts with
    | .closing _ :: _ | .sign [','] :: _ => complain alert .missingValue
    | .sign ['*'] :: more => do
      let _ ← disjunction alert fuel more
      complain alert .starredValue
    | _ => do
      let (value, rest) ← expression alert true fuel ts
      match rest with
      | .closing _ :: rest => pure ([(key, value)], rest)
      | .sign [','] :: rest => do
        let (others, rest) ← pairs alert fuel rest
        pure ((key, value) :: others, rest)
      | _ => failure

/-- Reads the pairs behind a comma and the closing brace. -/
def pairs (alert : Bool) (fuel : Nat) (ts : List Token) :
    Attempt (List (Reading × Reading) × List Token) :=
  match fuel with
  | 0 => failure
  | fuel + 1 => do
    settle ts
    match ts with
    | .closing _ :: rest => pure ([], rest)
    | .sign ['*', '*'] :: more => do
      let (_, rest) ← disjunction alert fuel more
      let spread : Reading := .foreign .map
      match rest with
      | .closing _ :: rest => pure ([(spread, spread)], rest)
      | .sign [','] :: rest => do
        let (others, rest) ← pairs alert fuel rest
        pure ((spread, spread) :: others, rest)
      | _ => failure
    | _ => do
      let (key, rest) ← expression alert true fuel ts
      match rest with
      | .sign [':'] :: more => valueAndPairs alert fuel key more
      | _ => complain alert .missingColon

end

/-- Reads expressions that commas part, outside all brackets. -/
def expressions (alert : Bool) (fuel : Nat) (ts : List Token) : Attempt (Reading × List Token) :=
  match fuel with
  | 0 => failure
  | fuel + 1 => do
    let (first, rest) ← expression alert false fuel ts
    match rest with
    | .sign [','] :: more => do
      settle more
      (do let (others, rest) ← expressions alert fuel more
          pure (.ofTuple [first, others], rest)) <|> pure (.ofTuple [first], more)
    | _ => pure (first, rest)

/-- The fault of the tokens behind the last one that fits. -/
def faultAt : List Token → Fault
  | .indent :: _ => .unexpectedIndent
  | .stop fault :: _ => fault
  | _ => .ordinary

/-- Checks that a text is a literal value. -/
def checkLiteral (t : Text) : Except Fault Unit := do
  let ts ← tokens [] 1 true (t.length + 1) t
  let fuel := 16 * (ts.length + 2)
  match ← (expressions false fuel ts).run with
  | none =>
    let _ ← (expressions true fuel ts).run
    .error (faultAt ts)
  | some (value, rest) =>
    match rest.dropWhile (· = .lineEnd), value.fault with
    | [], none => .ok ()
    | [], some fault => .error fault
    | rest, _ =>
      let _ ← (expressions true fuel ts).run
      .error (faultAt rest)

end TagOrigin.Display.Argument
