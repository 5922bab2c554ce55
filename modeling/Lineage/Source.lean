import Lineage.Failure
import Lineage.Sha256

/-!
# The texts of templates

A text is known by the identity of its content.  Templates are looked up by name, and a look-up
finds a text, finds none, or fails.
-/

namespace Lineage

/-- The text of a template with the identity of its content. -/
structure Source where
  text : String
  identity : String
  identity_eq : identity = contentIdentity text

/-- The source with the given text. -/
def Source.ofText (text : String) : Source :=
  ⟨text, contentIdentity text, rfl⟩

theorem Source.eq_of_text {first second : Source} (same : first.text = second.text) :
    first = second := by
  obtain ⟨text, identity, rfl⟩ := first
  obtain ⟨_, _, rfl⟩ := second
  cases same
  rfl

/-- A way to look up templates by name. -/
abbrev Lookup := String → Except Failure (Option Source)

/-- Templates that are held in memory, each under a name of its own. -/
structure Library where
  templates : List (String × Source)

namespace Library

/-- The library without a template. -/
def empty : Library :=
  ⟨[]⟩

/-- The source of the template with the given name. -/
def find? (library : Library) (name : String) : Option Source :=
  library.templates.lookup name

/-- The library without the template of the given name. -/
def remove (library : Library) (name : String) : Library :=
  ⟨library.templates.filter (·.1 != name)⟩

/-- The library with the given text under the name. -/
def insert (library : Library) (name text : String) : Library :=
  ⟨(name, Source.ofText text) :: (library.remove name).templates⟩

/-- Whether a template has the given name. -/
def contains (library : Library) (name : String) : Bool :=
  (library.find? name).isSome

/-- The names of the templates in ascending order. -/
def names (library : Library) : List String :=
  (library.templates.map (·.1)).mergeSort fun a b => !(b < a)

/-- The library with the given templates, of which a later one wins over an earlier one with the
same name. -/
def ofList (templates : List (String × String)) : Library :=
  templates.foldl (fun library (name, text) => library.insert name text) empty

/-- Looks up the templates of the library. -/
def lookup (library : Library) : Lookup :=
  fun name => .ok (library.find? name)

@[simp]
theorem find?_empty (name : String) : empty.find? name = none :=
  rfl

theorem find?_remove (library : Library) (name other : String) :
    (library.remove name).find? other = if other = name then none else library.find? other := by
  obtain ⟨templates⟩ := library
  induction templates with
  | nil => simp [find?, remove]
  | cons entry rest ih =>
      obtain ⟨key, source⟩ := entry
      simp only [find?, remove] at ih ⊢
      grind

@[simp]
theorem find?_insert (library : Library) (name text other : String) :
    (library.insert name text).find? other =
      if other = name then some (Source.ofText text) else library.find? other := by
  by_cases equal : other = name
  · subst equal
    simp [find?, insert]
  · have removed := library.find?_remove name other
    simp only [equal, ↓reduceIte] at removed ⊢
    rw [← removed]
    have differs : (other == name) = false := by simpa using equal
    simp [find?, insert, List.lookup_cons, differs]

end Library

end Lineage
