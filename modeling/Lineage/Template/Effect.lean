import Lineage.Template.Reading

/-!
# What a tag does

A tag stands for a list of effects on the open structures of a template: it reads expressions, binds
names, opens, branches or closes a structure, or defines a block.  A tag that is malformed ends in
the effect `refuse`; the effects before it take place first, so that of two faults in a tag the one
that is met first is the one that is told.

`Effect.ofTag` looks only at the text of the tag, never at the structures around it.
-/

namespace Lineage.Template

open Lineage.Text

/-- An open structure, with what its tag says. -/
inductive Opened where
  | block (name : String)
  /-- A condition: the names that the test of the open branch reads, and whether the open branch is
  the `else` branch. -/
  | conditional (tested : List String) (inElse : Bool)
  | loop
  | macroBody
  | callBody
  | filterBody
  /-- The body of a `set` tag, which assigns the names when it ends. -/
  | capture (names : List String)
  | bindings
  | autoescape
deriving DecidableEq, Repr

/-- The kind of an open structure. -/
def Opened.kind : Opened → Structure
  | .block _ => .block
  | .conditional _ _ => .conditional
  | .loop => .loop
  | .macroBody => .macroBody
  | .callBody => .callBody
  | .filterBody => .filterBody
  | .capture _ => .capture
  | .bindings => .bindings
  | .autoescape => .autoescape

/-- Whether assignments in the structure stay inside it. -/
def Structure.holdsAssignments : Structure → Bool
  | .loop | .macroBody | .callBody | .bindings => true
  | _ => false

/-- One effect of a tag. -/
inductive Effect where
  /-- The tag is malformed. -/
  | refuse (cause : Cause)
  | read (expression : Expression) (context : Context)
  /-- Reads the test of the innermost structure, a condition, and guards the branch by it. -/
  | test (expression : Expression)
  /-- Asks that the innermost structure is a condition before its `else`. -/
  | expectBranch
  /-- Begins the `else` branch of the innermost structure, a condition or a loop. -/
  | otherwise
  | extend (expression : Expression)
  | define (block : String)
  /-- Opens a structure in which the names are bound. -/
  | enter (opened : Opened) (names : List String)
  /-- Closes the innermost structure, a block with the name if one is given. -/
  | leaveBlock (name : String)
  /-- Closes the innermost structure, which is of the given kind. -/
  | leave (kind : Structure)
  /-- Assigns the names. -/
  | bind (names : List String)
deriving DecidableEq, Repr

/-- The effects, or the refusal, of a tag. -/
def Effect.orRefuse : Except Cause (List Effect) → List Effect
  | .ok effects => effects
  | .error cause => [.refuse cause]

/-! ## Lists of names -/

/-- The word that the list consists of. -/
def onlyWord? : List Token → Option String
  | [token] => token.word?
  | _ => none

/-- What stands between the two brackets if the list begins with one and ends with one. -/
def withinRound? : List Token → Option (List Token)
  | [] => none
  | first :: rest =>
    match rest.getLast? with
    | none => none
    | some last =>
      if first.isSign "(" && last.isSign ")" then some rest.dropLast else none

/-- The names in a target `a, b, c`, which may stand in brackets. -/
def targetNames? (tokens : List Token) : Option (List String) :=
  (commaParts ((withinRound? tokens).getD tokens)).mapM onlyWord?

/-- A name, and the tokens of the value that is given to it. -/
structure Binding where
  name : String
  value : List Token
deriving DecidableEq, Repr

/-- A binding `name = value`. -/
def binding? : List Token → Option Binding
  | name :: equals :: value =>
    if equals.isSign "=" && !value.isEmpty then name.word?.map (⟨·, value⟩) else none
  | _ => none

/-- A parameter: nothing, a name, or a name with its default. -/
def parameter? (part : List Token) : Option (List Binding) :=
  match part with
  | [] => some []
  | [name] => name.word?.map fun word => [⟨word, []⟩]
  | _ => (binding? part).map ([·])

/-- The reads of the values in a list of bindings, and the names that it binds.  At the first part
that is no binding the list is refused, after the reads before it. -/
def readBindings (item? : List Token → Option (List Binding)) (refusal : Cause)
    (expression : Expression) : List (List Token) → List Effect × Except Cause (List String)
  | [] => ([], .ok [])
  | part :: parts =>
    match item? part with
    | none => ([], .error refusal)
    | some found =>
      let (reads, names) := readBindings item? refusal expression parts
      ((found.filter (!·.value.isEmpty)).map
          (fun bound => .read (expression.part bound.value) .plain) ++ reads,
        names.map (found.map (·.name) ++ ·))

/-- The reads and the names of a parameter list in round brackets. -/
def readParameters (expression : Expression) (tokens : List Token) :
    List Effect × Except Cause (List String) :=
  match withinRound? tokens with
  | none => ([], .error .parameterListExpected)
  | some inner => readBindings parameter? .invalidParameter expression (commaParts inner)

/-- The list without the modifiers `ignore missing`, `with context` and `without context` at the end
of its reverse. -/
def dropModifiers : List Token → List Token
  | second :: first :: rest =>
    if ((first.isWord "with" || first.isWord "without") && second.isWord "context") ||
        (first.isWord "ignore" && second.isWord "missing") then dropModifiers rest
    else second :: first :: rest
  | tokens => tokens

/-- The list without the modifiers of an inclusion or an import at its end. -/
def withoutModifiers (tokens : List Token) : List Token :=
  (dropModifiers tokens.reverse).reverse

/-! ## The tags -/

/-- Opens a condition, or goes on with one, by the test in the text. -/
def testEffects (before : List Effect) (text : List Char) : List Effect :=
  before ++ Effect.orRefuse do
    let expression ← Expression.ofText text
    if expression.tokens.isEmpty then throw .conditionExpected
    return [.test expression]

def extendsEffects (text : List Char) : Except Cause (List Effect) := do
  let expression ← Expression.ofText text
  if expression.tokens.isEmpty then throw .extendsWithoutTemplate
  return [.extend expression]

def blockEffects (text : List Char) : Except Cause (List Effect) := do
  let expression ← Expression.ofText text
  match expression.tokens with
  | [] => throw (.invalidBlock (String.ofList text))
  | first :: modifiers =>
    match first.word? with
    | some name =>
      if modifiers.all fun token => token.isWord "scoped" || token.isWord "required" then
        return [.define name]
      else throw (.invalidBlock (String.ofList text))
    | none => throw (.invalidBlock (String.ofList text))

def loopEffects (text : List Char) : Except Cause (List Effect) := do
  let expression ← Expression.ofText text
  let some position := findTopLevel? (·.isWord "in") 0 expression.tokens
    | throw .loopWithoutIn
  let some names := targetNames? (expression.tokens.take position)
    | throw .invalidLoopTarget
  let rest := expression.tokens.drop (position + 1)
  let range := if rest.getLast?.any (·.isWord "recursive") then rest.dropLast else rest
  let (iterable, filter) :=
    match findTopLevel? (·.isWord "if") 0 range with
    | some condition =>
      (range.take condition, [Effect.read (expression.part (range.drop (condition + 1))) .test])
    | none => (range, [])
  if iterable.isEmpty then throw .loopWithoutIterable
  return .read (expression.part iterable) .plain :: .enter .loop names :: filter

/-- An assignment, or the opening of a body whose text is assigned. -/
def setEffects (text : List Char) : Except Cause (List Effect) := do
  let expression ← Expression.ofText text
  match findTopLevel? (·.isSign "=") 0 expression.tokens with
  | some position =>
    let targets := expression.tokens.take position
    let value := expression.tokens.drop (position + 1)
    if value.isEmpty then throw .setWithoutValue
    let binds : List Effect :=
      -- A target with a point changes an attribute and binds no name.
      if targets.any (·.isSign ".") then []
      else
        match targetNames? targets with
        | some names => [.bind names]
        | none => [.refuse .invalidSetTarget]
    return .read (expression.part value) .plain :: binds
  | none =>
    let (targets, filters) := expression.tokens.span (!·.isSign "|")
    let some names := targetNames? targets
      | throw .invalidSetTarget
    let reads : List Effect :=
      if filters.isEmpty then [] else [.read (expression.part filters) .plain]
    return reads ++ [.enter (.capture names) []]

def macroEffects (text : List Char) : Except Cause (List Effect) := do
  let expression ← Expression.ofText text
  match expression.tokens with
  | [] => throw .macroWithoutName
  | first :: parameters =>
    let some name := first.word?
      | throw .macroWithoutName
    match readParameters expression parameters with
    | (reads, .ok names) => return reads ++ [.bind [name], .enter .macroBody names]
    | (reads, .error cause) => return reads ++ [.refuse cause]

def callEffects (text : List Char) : Except Cause (List Effect) := do
  let expression ← Expression.ofText text
  if expression.tokens.head?.any (·.isSign "(") then
    match readParameters expression (group expression.tokens) with
    | (reads, .ok names) => return reads ++ invoke expression (afterGroup expression.tokens) names
    | (reads, .error cause) => return reads ++ [.refuse cause]
  else return invoke expression expression.tokens []
where
  invoke (expression : Expression) (invocation : List Token) (names : List String) : List Effect :=
    if invocation.isEmpty then [.refuse .callWithoutInvocation]
    else [.read (expression.part invocation) .plain, .enter .callBody names]

def filterEffects (text : List Char) : Except Cause (List Effect) := do
  let expression ← Expression.ofText text
  if expression.tokens.head?.any (·.word?.isSome) then
    return [.read expression .filter, .enter .filterBody []]
  else throw .filterWithoutName

def withEffects (text : List Char) : Except Cause (List Effect) := do
  let expression ← Expression.ofText text
  if expression.tokens.isEmpty then return [.enter .bindings []]
  match readBindings (fun part => (binding? part).map ([·])) .invalidBinding expression
      (commaParts expression.tokens) with
  | (reads, .ok names) => return reads ++ [.enter .bindings names]
  | (reads, .error cause) => return reads ++ [.refuse cause]

def autoescapeEffects (text : List Char) : Except Cause (List Effect) := do
  let expression ← Expression.ofText text
  return [.read expression .plain, .enter .autoescape []]

def includeEffects (text : List Char) : Except Cause (List Effect) := do
  let expression ← Expression.ofText text
  let named := withoutModifiers expression.tokens
  if named.isEmpty then throw .includeWithoutTemplate
  return [.read (expression.part named) .plain]

def importEffects (text : List Char) : Except Cause (List Effect) := do
  let expression ← Expression.ofText text
  match (withoutModifiers expression.tokens).reverse with
  | alias_ :: word :: template =>
    match alias_.word? with
    | some name =>
      if word.isWord "as" && !template.isEmpty then
        return [.read (expression.part template.reverse) .plain, .bind [name]]
      else throw .importWithoutAlias
    | none => throw .importWithoutAlias
  | _ => throw .importWithoutAlias

/-- The name that an item of an import list binds. -/
def importedName? : List Token → Option String
  | [name] => name.word?
  | [name, word, alias_] =>
    if name.word?.isSome && word.isWord "as" then alias_.word? else none
  | _ => none

def fromEffects (text : List Char) : Except Cause (List Effect) := do
  let expression ← Expression.ofText text
  let tokens := withoutModifiers expression.tokens
  let some position := findTopLevel? (·.isWord "import") 0 tokens
    | throw .fromWithoutImport
  if position = 0 then throw .fromWithoutTemplate
  let binds : Effect :=
    match (commaParts (tokens.drop (position + 1))).mapM importedName? with
    | some names => .bind names
    | none => .refuse .invalidImportList
  return [.read (expression.part (tokens.take position)) .plain, binds]

/-- A character of the word with which a tag begins. -/
def continuesTagName (c : Char) : Bool :=
  c.isAlphanum || c == '_'

/-- The word with which the body of a tag begins. -/
def tagName (body : List Char) : String :=
  String.ofList (body.takeWhile continuesTagName)

/-- What stands behind the word with which the body of a tag begins. -/
def tagArgument (body : List Char) : List Char :=
  trim (body.dropWhile continuesTagName)

/-- The effects of the tag with the given body. -/
def Effect.ofTag (body : List Char) : List Effect :=
  let argument := tagArgument body
  match tagName body with
  | "" => [.refuse .emptyTag]
  | "extends" => orRefuse (extendsEffects argument)
  | "block" => orRefuse (blockEffects argument)
  | "endblock" => [.leaveBlock (String.ofList argument)]
  | "if" => testEffects [.enter (.conditional [] false) []] argument
  | "elif" => testEffects [.expectBranch] argument
  | "else" => [.otherwise]
  | "for" => orRefuse (loopEffects argument)
  | "set" => orRefuse (setEffects argument)
  | "macro" => orRefuse (macroEffects argument)
  | "call" => orRefuse (callEffects argument)
  | "filter" => orRefuse (filterEffects argument)
  | "with" => orRefuse (withEffects argument)
  | "autoescape" => orRefuse (autoescapeEffects argument)
  | "include" => orRefuse (includeEffects argument)
  | "import" => orRefuse (importEffects argument)
  | "from" => orRefuse (fromEffects argument)
  | "endif" => [.leave .conditional]
  | "endfor" => [.leave .loop]
  | "endmacro" => [.leave .macroBody]
  | "endcall" => [.leave .callBody]
  | "endfilter" => [.leave .filterBody]
  | "endset" => [.leave .capture]
  | "endwith" => [.leave .bindings]
  | "endautoescape" => [.leave .autoescape]
  | "endraw" => [.refuse .strayEndRaw]
  | name => [.refuse (.unknownTag name)]

/-- The effects of an output with the given body. -/
def Effect.ofOutput (body : List Char) : List Effect :=
  if body.isEmpty then [.refuse .emptyExpression]
  else orRefuse do
    let expression ← Expression.ofText body
    return [.read expression .plain]

end Lineage.Template
