import SecureChannel.Regex.Automaton.Tally
import SecureChannel.Bytes

/-! States that read one of several literals, as a tree. Literals count in the order they are given,
so a literal that ends splits those after it from those before it. -/
namespace SecureChannel.Regex.Automaton

/-- What is left of the literals at a node, cut where one of them ends. One that ends where nothing
has been read on from counts once. -/
def chunks : List Bytes → List (List Bytes)
  | [] => [[]]
  | [] :: rest => [] :: chunks rest
  | literal :: rest =>
    match chunks rest with
    | chunk :: others => (literal :: chunk) :: others
    | [] => [[literal]]

/-- Leaves one empty literal of those that come first. -/
def dropRepeatedEnd : List Bytes → List Bytes
  | [] :: rest => [] :: rest.dropWhile (·.isEmpty)
  | literals => literals

/-- What follows each byte that some literal begins with. -/
def afterFirst (chunk : List Bytes) : List (List Bytes) :=
  (chunk.filterMap (·.head?)).eraseDups.map fun b =>
    chunk.filterMap fun
      | [] => none
      | c :: rest => if c = b then some rest else none

/-- The bytes for a node that reads on with so many bytes: none if there is but one. -/
private def choices (count : Nat) : Nat := if count < 2 then 0 else Build.transitions count

/-- A node has a state for each chunk that reads on, and one that joins the chunks and the ends
between them. Where every literal ends there is none. No literal is longer than the fuel. -/
def literalNode : Nat → List Bytes → Build Unit
  | 0, _ => pure ()
  | fuel + 1, literals => do
    if literals.all (·.isEmpty) then pure ()
    else do
      let chunks := chunks (dropRepeatedEnd literals)
      let nexts := (chunks.map afterFirst).filter (!·.isEmpty)
      nexts.forM fun next => do
        next.forM (literalNode fuel)
        Build.states 1 (choices next.length)
      Build.states 1 (Build.ways (nexts.length + (chunks.length - 1)))

def literals (literals : List Bytes) : Build Unit := do
  Build.states 1 0
  let longest := literals.foldl (fun n bytes => max n bytes.length) 0
  literalNode longest literals

end SecureChannel.Regex.Automaton
