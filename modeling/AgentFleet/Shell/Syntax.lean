/-!
# Shell scripts

The syntax of the scripts that stand behind the fleet's tools: words with their
quotes and expansions, simple and compound commands, and how they are joined.
-/

namespace AgentFleet.Shell

mutual

/-- A part of a word. `quoted` parts are neither split nor matched against files. -/
inductive Piece where
  /-- A text. -/
  | text (quoted : Bool) (s : String)
  /-- The home directory, for a tilde. -/
  | home
  /-- The value of a parameter. -/
  | parameter (quoted : Bool) (name : String)
  /-- The value of a parameter under an operator with a word. -/
  | edited (quoted : Bool) (name operator : String) (word : List Piece)
  /-- The length of the value of a parameter. -/
  | length (quoted : Bool) (name : String)
  /-- A parameter between braces that is malformed. -/
  | malformed
  /-- The output of a script. -/
  | command (quoted : Bool) (script : List Command)
  /-- The value of an arithmetic expression. -/
  | arithmetic (quoted : Bool) (expression : List Piece)

/-- A command. Those that may be the first to complain know the line they begin on. -/
inductive Command where
  /-- Assignments and words. -/
  | simple (line : Nat) (assignments : List (String × List Piece)) (words : List (List Piece))
      (redirections : List Redirection)
  /-- Commands one after the other. -/
  | sequence (commands : List Command)
  /-- A command and one that follows its success, or else its failure. -/
  | joined (onSuccess : Bool) (first second : Command)
  /-- A command whose status is negated. -/
  | negated (c : Command)
  /-- Commands that read each other's output. -/
  | pipe (commands : List Command)
  /-- A command that is not awaited. -/
  | background (line : Nat) (c : Command)
  /-- Commands in a process of their own. -/
  | isolated (line : Nat) (body : List Command) (redirections : List Redirection)
  /-- A command with redirections around it. -/
  | redirected (line : Nat) (c : Command) (redirections : List Redirection)
  /-- A condition, its consequence, and what is run otherwise. -/
  | conditional (condition consequence otherwise : List Command)
  /-- A loop that goes on while its condition succeeds, or fails when `negated`. -/
  | loop (negated : Bool) (condition body : List Command)
  /-- A loop over words. -/
  | forEach (line : Nat) (name : String) (items : List (List Piece)) (body : List Command)
  /-- A choice by patterns. -/
  | choice (line : Nat) (subject : List Piece) (cases : List (List (List Piece) × List Command))
  /-- A function. -/
  | define (name : String) (body : Command)

/-- A redirection of a file descriptor. -/
inductive Redirection where
  /-- The descriptor, the operator and its word. -/
  | redirect (descriptor : Nat) (operator : String) (target : List Piece)
  /-- A descriptor that reads the text of a word. -/
  | document (descriptor : Nat) (text : List Piece)

end

/-- A word. -/
abbrev Word := List Piece

/-- A script. -/
abbrev Script := List Command

/-- The text of a word without quotes and expansions. -/
def literal? : Word → Option String
  | [] => some ""
  | .text false s :: rest => (literal? rest).map fun t => s ++ t
  | _ => none

/-- Whether some part of a word is quoted. -/
def hasQuote (w : Word) : Bool :=
  w.any fun
    | .text quoted _ | .parameter quoted _ | .edited quoted _ _ _ | .length quoted _
    | .command quoted _ | .arithmetic quoted _ => quoted
    | .home | .malformed => false

/-- The text of a word, quoted or not, without its expansions. -/
def plainText : Word → String
  | [] => ""
  | .text _ s :: rest => s ++ plainText rest
  | _ :: rest => plainText rest

instance : Inhabited Command := ⟨.sequence []⟩

end AgentFleet.Shell
