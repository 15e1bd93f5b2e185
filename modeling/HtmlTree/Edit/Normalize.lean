import HtmlTree.Edit

namespace HtmlTree.Edit

-- Merges a run of text children into its first node, or drops the run if it holds no text.
def collapse (parent : NodeId) (start count : Nat) : Edit Unit := do
  let f ← get
  let children := (f.children parent).getD []
  let run := (children.drop start).take count
  let text := String.join (run.map fun n => (f.node n).ownText)
  if 1 < run.length then modify (·.note (.merging run.length (f.name parent)))
  let keep := if text.isEmpty then none else run.head?
  modify fun f => (run.filter fun n => keep != some n).foldl (fun f n => f.setParent n none) f
  modify (·.setChildren parent
    (some (children.take start ++ keep.toList ++ children.drop (start + count))))
  match keep with
  | some n => modify (·.setData n (some text))
  | none => pure ()

-- Goes through children from the last to the first, `run` being how many texts stand directly
-- behind. Other children are visited before the run behind them is merged.
def sweep (visit : NodeId → Edit Unit) (parent : NodeId) : List NodeId → Nat → Edit Unit
  | [], run => if 0 < run then collapse parent 0 run else pure ()
  | n :: earlier, run => do
    if !(← get).known n then throw .noNode
    if ((← get).node n).isText then sweep visit parent earlier (run + 1)
    else
      visit n
      if 0 < run then collapse parent (earlier.length + 1) run
      sweep visit parent earlier 0

def normalizeWithin : Nat → NodeId → Edit Unit
  | 0, _ => pure ()
  | depth + 1, n => do
    let node := (← get).node n
    if !node.isNamed then throw .unsupported
    if node.isContainer then
      match node.children with
      | none => throw .missingPart
      | some children => sweep (normalizeWithin depth) n children.reverse 0
    else pure ()

-- Merges adjacent texts and drops empty ones throughout a tree.
def normalize (n : NodeId) : Edit Unit := do normalizeWithin (← get).reach n

end HtmlTree.Edit
