import AgentFleet.Shell.FileTools

/-!
# Lines of bytes

Bytes cut into lines and put together again, and the files that a program reads one after the
other.
-/

namespace AgentFleet.Shell

/-! ### Pieces -/

/-- Cuts bytes at a separator. -/
def splitBytes (separator : UInt8) (piece : List UInt8) : List UInt8 → List (List UInt8)
  | [] => [piece.reverse]
  | b :: rest =>
    if b == separator then piece.reverse :: splitBytes separator [] rest
    else splitBytes separator (b :: piece) rest

/-- Bytes with something between them. -/
def joinBytes (between : List UInt8) : List (List UInt8) → List UInt8
  | [] => []
  | [a] => a
  | a :: rest => a ++ between ++ joinBytes between rest

/-- The lines of bytes, and whether the last of them has its end. -/
def splitLines (ending : UInt8) (bytes : List UInt8) : List (List UInt8) × Bool :=
  let lines := splitBytes ending [] bytes
  if lines.getLast? == some [] then (lines.dropLast, true) else (lines, false)

/-- Lines as bytes, each with its end. -/
def joinLines (ending : UInt8) (lines : List (List UInt8)) : List UInt8 :=
  lines.flatMap fun l => l ++ [ending]

/-- The lines of bytes with their ends; the last may lack its own. -/
def endedLines (ending : UInt8) (bytes : List UInt8) : List (List UInt8) :=
  let (lines, ended) := splitLines ending bytes
  match ended, lines.getLast? with
  | false, some last => (lines.dropLast.map fun l => l ++ [ending]) ++ [last]
  | _, _ => lines.map fun l => l ++ [ending]

/-- The letters of bytes as capitals. -/
def capitals (bytes : List UInt8) : List UInt8 :=
  bytes.map fun b => if 97 ≤ b.toNat && b.toNat ≤ 122 then b - 32 else b

/-- A number at the end of a column. -/
def inColumn (width n : Nat) : String :=
  let digits := toString n
  String.ofList (List.replicate (width - digits.length) ' ') ++ digits

/-! ### Operands -/

/-- The byte that ends lines: an option may choose the zero byte. -/
def Chosen.lineEnd (c : Chosen) : UInt8 :=
  if c.has 'z' then 0 else 10

/-- Names a path and what is wrong with it. -/
def nameAndReason (path reason : String) : String :=
  nameQuoted path ++ ": " ++ reason

/-- Reads operands, or the input when there are none, and hands each to a step; what cannot be read
is told of with the words around its name. -/
def foldOperands {α : Type} (complaint : String → String → String) (operands : List String)
    (step : Process → α → String → List UInt8 → Process × α) (p : Process) (a : α) : Process × α :=
  (if operands.isEmpty then ["-"] else operands).foldl
    (fun (p, a) path =>
      match FileTools.readOperand p path with
      | (.ok bytes, p) => step p a path bytes
      | (.error e, p) => (p.reject 1 (complaint path e), a))
    (p, a)

/-- All bytes of the operands, or of the input. -/
def gather (operands : List String) (p : Process) : Process × List UInt8 :=
  foldOperands nameAndReason operands (fun p all _ bytes => (p, all ++ bytes)) (p.answer 0) []

end AgentFleet.Shell
