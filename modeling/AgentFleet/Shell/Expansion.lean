import AgentFleet.Shell.Pattern
import AgentFleet.Shell.Process

/-!
# Expanded words

What a word becomes once its parameters and scripts are replaced: characters that remember whether
they may be split at or matched against files. From them come the fields of a command, a pattern,
or a single text.
-/

namespace AgentFleet.Shell

/-- An item of an expanded word. -/
inductive Atom where
  /-- A character, whether it may be part of a pattern, and whether it may be split at. -/
  | char (c : Char) (active splits : Bool)
  /-- A place that was quoted, so that a field begins here even if it is empty. -/
  | quote
  /-- The beginning of a text that may be split. -/
  | edge
  /-- The end of an argument that is a field of its own. -/
  | boundary
  /-- The end of an argument that is a field only when it is not empty. -/
  | gap
  deriving DecidableEq, Repr

namespace Atom

/-- The atoms of a text that was written as it stands. -/
def ofText (quoted : Bool) (s : String) : List Atom :=
  let cs := s.toList.map fun c => char c (!quoted) false
  if quoted then quote :: cs else cs

/-- The atoms of the value of an expansion. -/
def ofValue (quoted : Bool) (s : String) : List Atom :=
  let cs := s.toList.map fun c => char c (!quoted) (!quoted)
  (if quoted then quote else edge) :: cs

/-- The atoms of all arguments with something between them. -/
def ofArguments (quoted : Bool) (between : Atom) : List String → List Atom
  | [] => []
  | [a] => ofValue quoted a
  | a :: rest => ofValue quoted a ++ between :: ofArguments quoted between rest

/-- The atoms of a text in the word of an operator, where unquoted text may be split as well. -/
def inWord : Atom → Atom
  | char c true _ => char c true true
  | a => a

/-! ### Fields -/

/-- Whether a separator may be repeated without effect. -/
def isBlank (c : Char) : Bool :=
  c == ' ' || c == '\t' || c == '\n'

/-- The fields of an expanded word, of which one may have begun already, backwards. After a blank
separator another one that is not blank may be absorbed. -/
def fieldsFrom (separators : List Char) (field : Option Pattern) (absorbs : Bool) :
    List Atom → List Pattern
  | [] => (field.map List.reverse).toList
  | .quote :: rest => fieldsFrom separators (some (field.getD [])) false rest
  | .edge :: rest => fieldsFrom separators field false rest
  | .boundary :: rest => (field.getD []).reverse :: fieldsFrom separators none false rest
  | .gap :: rest =>
    (field.map List.reverse).toList ++ fieldsFrom separators none (field.isSome || absorbs) rest
  | .char c active splits :: rest =>
    if splits && separators.contains c then
      match field, isBlank c, absorbs with
      | some f, blank, _ => f.reverse :: fieldsFrom separators none blank rest
      | none, true, _ => fieldsFrom separators none absorbs rest
      | none, false, true => fieldsFrom separators none false rest
      | none, false, false => [] :: fieldsFrom separators none false rest
    else fieldsFrom separators (some ((c, active) :: field.getD [])) false rest

/-- The fields of an expanded word. -/
def fields (separators : String) (atoms : List Atom) : List Pattern :=
  fieldsFrom separators.toList none false atoms

/-- An expanded word as one pattern. -/
def pattern (atoms : List Atom) : Pattern :=
  atoms.filterMap fun a =>
    match a with
    | .char c active _ => some (c, active)
    | _ => none

/-- An expanded word as one text. -/
def joined (atoms : List Atom) : String :=
  (pattern atoms).text

end Atom

/-! ### Matching files -/

/-- Cuts a pattern at its slashes. -/
def patternComponents (component : Pattern) : Pattern → List Pattern
  | [] => [component.reverse]
  | (c, active) :: rest =>
    if c == '/' then component.reverse :: patternComponents [] rest
    else patternComponents ((c, active) :: component) rest

/-- The names in the directory of a path, its own two names included. -/
def namesIn (files : FileTree) (path : String) : List String :=
  match files.find (if path.isEmpty then "." else path) with
  | .ok (location, .directory) => "." :: ".." :: files.children location
  | _ => []

/-- The paths that the components of a pattern stand for after a path. A name that begins with a
dot stands only for a pattern that does. -/
def matchingPaths (files : FileTree) (path : String) : List Pattern → List String
  | [] => []
  | p :: ps =>
    let goOn (name : String) : List String :=
      if ps.isEmpty then [path ++ name] else matchingPaths files (path ++ name ++ "/") ps
    if p.isActive then
      let dotted := (Pattern.plain p).head? == some '.'
      (namesIn files path).flatMap fun n =>
        if p.matchesString n && (!n.startsWith "." || dotted) then goOn n else []
    else
      let name := String.ofList (Pattern.plain p)
      if !ps.isEmpty || files.pathExists (path ++ name) then goOn name else []

/-- The words that a field becomes: the files that it stands for, or else its text. -/
def matchFiles (files : FileTree) (field : Pattern) : List String :=
  if field.isActive then
    match matchingPaths files "" (patternComponents [] field) with
    | [] => [field.text]
    | paths => paths.mergeSort fun a b => !(b < a)
  else [field.text]

/-- The arguments that an expanded word becomes. -/
def wordArguments (p : Process) (atoms : List Atom) : List String :=
  (Atom.fields p.separators atoms).flatMap fun field =>
    if p.has 'f' then [field.text] else matchFiles p.files field

end AgentFleet.Shell
