import HtmlTree.Construct.Place

namespace HtmlTree.Construct

variable {origin : Forest}

-- Closes an element that no other rule is for. The search ends at a special element.
def endOrdinary (name : String) : Construct origin Unit := do
  let site := (← progress).openElements.find? fun s =>
    s.name == name || Elements.special.contains s.qualified
  match site with
  | none => pure ()
  | some site =>
    if site.name == name then
      closeImpliedExcept name
      if !(← currentIs [name]) then faultAt "unexpected-end-tag" name
      update (·.popThrough (· == site))
    else faultAt "unexpected-end-tag" name

-- Puts one element into the place of another.
def exchange (p : Progress) (old new : Site) : Progress :=
  { p with
    formatting := p.formatting.replace (some old) (some new)
    openElements := p.openElements.replace old new }

def detachSite (site : Site) : Construct origin Unit := do
  match (← builder).parentOf? site with
  | some parent => act (.remove parent site)
  | none => pure ()

-- How many entries stand before a formatting element, counted from the earliest.
def formattingIndex (p : Progress) (site : Site) : Nat :=
  p.formatting.reverse.idxOf (some site)

-- Enters a formatting element after a number of others.
def enterFormatting (p : Progress) (index : Nat) (site : Site) : Progress :=
  let earliestFirst := p.formatting.reverse
  { p with formatting :=
      (earliestFirst.take index ++ some site :: earliestFirst.drop index).reverse }

-- Goes outwards from a block to the formatting element and wraps the block in copies of the
-- formatting in between. Elements that are no formatting are closed on the way. Gives the outermost
-- wrapping, and the place for the formatting element in the list.
def wrap (block formattingElement : Site) : Nat → Site → Site → Nat → Construct origin (Site × Nat)
  | 0, _, last, bookmark => pure (last, bookmark)
  | rounds + 1, inner, last, bookmark => do
    let p ← progress
    match (p.openElements.dropWhile (· != inner)).tail.head? with
    | none => pure (last, bookmark)
    | some node =>
      if !p.formatting.contains (some node) then
        update (·.removeOpen node)
        wrap block formattingElement rounds inner last bookmark
      else if node == formattingElement then pure (last, bookmark)
      else
        let bookmark := if last == block then formattingIndex p node + 1 else bookmark
        let copy ← make (.clone node)
        update (exchange · node copy)
        detachSite last
        act (.append copy last)
        wrap block formattingElement rounds copy copy bookmark

-- Moves a block out of the formatting element that is being closed around its beginning, and puts
-- the block's content into a copy of that element.
def adopt (formattingElement block : Site) : Construct origin Unit := do
  let p ← progress
  let ancestor ← match (p.openElements.dropWhile (· != formattingElement)).tail.head? with
    | some site => pure site
    | none => throw .stuck
  let (last, bookmark) ← wrap block formattingElement 3 block block
    (formattingIndex p formattingElement)
  detachSite last
  if Elements.tableParts.contains ancestor.name then
    match ← fosterPlace with
    | (parent, some table) => act (.before parent last table)
    | (_, none) => throw (.failure .noNode)
  else act (.append ancestor last)
  let copy ← make (.clone formattingElement)
  act (.reparent block copy)
  act (.append block copy)
  update fun p =>
    let p := enterFormatting (p.removeFormatting formattingElement) bookmark copy
    let p := p.removeOpen formattingElement
    let (inner, outer) := p.openElements.span (· != block)
    { p with openElements := inner ++ copy :: outer }

-- Closes formatting that blocks may have been opened in since.
def endFormatting (name : String) : Nat → Construct origin Unit
  | 0 => pure ()
  | rounds + 1 => do
    let p ← progress
    match p.formattingNamed? name with
    | none => endOrdinary name
    | some element =>
      let isOpen := p.openElements.contains element
      if !isOpen then
        faultAt "adoption-agency-1.2" name
        update (·.removeFormatting element)
      else if !p.inReach .usual element.name then endOrdinary name
      else
        if p.current? != some element then faultAt "adoption-agency-1.3" name
        let inside := (p.openElements.takeWhile (· != element)).reverse
        match inside.find? (fun s => Elements.special.contains s.qualified) with
        | none => update fun p => (p.popThrough (· == element)).removeFormatting element
        | some block =>
          adopt element block
          endFormatting name rounds

-- A block can be moved out of so many formatting elements of one name.
def endFormattingTag (name : String) : Construct origin Unit := endFormatting name 8

end HtmlTree.Construct
