/-!
# The structure of a template

A template is never rendered.  What is kept of it is a list of nodes in source order: its `extends`
tag, its blocks, the variables that it reads with their guards, the names that it assigns and its
runs of text.
-/

namespace Lineage.Template

/-- How the read of a variable is protected against the variable being undefined. -/
inductive Guard where
  | bare
  /-- A fallback follows the read; its source text describes it. -/
  | fallback (description : String)
  /-- The read happens only when a test on the same name holds, or in such a test. -/
  | conditional
deriving DecidableEq, Repr

/-- Whether the read tolerates that the variable is absent. -/
def Guard.isGuarded : Guard → Bool
  | .bare => false
  | _ => true

/-- What an `extends` tag names. -/
inductive Parent where
  | literal (name : String)
  /-- The parent depends on what happens at run time; the expression is kept as written. -/
  | dynamic (expression : String)
deriving DecidableEq, Repr

/-- A block of a template. -/
structure Block where
  name : String
  callsSuper : Bool
  /-- The innermost block around this one. -/
  enclosing : Option String
  line : Nat
deriving DecidableEq, Repr

/-- An element of a template. -/
inductive Node where
  | extends (parent : Parent) (line : Nat)
  | block (site : Block)
  | read (name : String) (guard : Guard) (line : Nat)
  | assign (name : String) (line : Nat)
  | text (bytes : Nat) (line : Nat)
deriving DecidableEq, Repr

/-- The line of a node. -/
def Node.line : Node → Nat
  | .extends _ line => line
  | .block site => site.line
  | .read _ _ line => line
  | .assign _ line => line
  | .text _ line => line

/-- The parent that an `extends` node names. -/
def Node.parent? : Node → Option Parent
  | .extends parent _ => some parent
  | _ => none

/-- The block that a node is. -/
def Node.block? : Node → Option Block
  | .block site => some site
  | _ => none

/-- The name and the guard of a read. -/
def Node.read? : Node → Option (String × Guard)
  | .read name guard _ => some (name, guard)
  | _ => none

/-- The name that a node assigns. -/
def Node.assign? : Node → Option String
  | .assign name _ => some name
  | _ => none

/-- The structural record of a template. -/
structure Parsed where
  name : String
  nodes : List Node
deriving DecidableEq, Repr

/-- The name of the parent template, if it is a literal. -/
def Parsed.parent (parsed : Parsed) : Option String :=
  parsed.nodes.findSome? fun
    | .extends (.literal name) _ => some name
    | _ => none

/-- The blocks in the order of their definition. -/
def Parsed.blocks (parsed : Parsed) : List Block :=
  parsed.nodes.filterMap Node.block?

/-- The reads with their guards, in source order and with repeats. -/
def Parsed.reads (parsed : Parsed) : List (String × Guard) :=
  parsed.nodes.filterMap Node.read?

/-- The names assigned at the level of the template, in source order and with repeats. -/
def Parsed.assigns (parsed : Parsed) : List String :=
  parsed.nodes.filterMap Node.assign?

end Lineage.Template
