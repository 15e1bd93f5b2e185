import HtmlTree.Construct
import HtmlTree.Construct.Elements

namespace HtmlTree

-- How far a search among the open elements goes.
inductive Reach where
  | usual
  | button
  | list
  | table
  | select
deriving DecidableEq, Repr

namespace Reach

-- Whether a search ends at an element of this namespace and name.
def bounds (reach : Reach) (qualified : String × String) : Bool :=
  let html (names : List String) : Bool :=
    qualified.1 == Namespace.html && names.contains qualified.2
  match reach with
  | .usual => Elements.scoping.contains qualified
  | .button => Elements.scoping.contains qualified || html ["button"]
  | .list => Elements.scoping.contains qualified || html ["ol", "ul"]
  | .table => html ["html", "table"]
  | .select => !html ["optgroup", "option"]

-- Whether a wanted element is met, from the current one outwards, before the search ends.
def finds (reach : Reach) (wanted : Site → Bool) : List Site → Bool
  | [] => false
  | s :: rest =>
    if wanted s then true
    else if reach.bounds s.qualified then false
    else reach.finds wanted rest

end Reach

namespace Progress

def inReach (p : Progress) (reach : Reach) (name : String) : Bool :=
  reach.finds (fun s => s.qualified == (Namespace.html, name)) p.openElements

def siteInReach (p : Progress) (site : Site) : Bool :=
  Reach.usual.finds (· == site) p.openElements

def pop (p : Progress) : Progress := { p with openElements := p.openElements.tail }

def push (p : Progress) (site : Site) : Progress :=
  { p with openElements := site :: p.openElements }

-- Closes elements as long as `keep` does not hold for the current one.
def popUntil (p : Progress) (keep : Site → Bool) : Progress :=
  { p with openElements := p.openElements.dropWhile fun s => !keep s }

-- Closes elements up to and including the first one that `last` holds for.
def popThrough (p : Progress) (last : Site → Bool) : Progress := (p.popUntil last).pop

-- Closes elements whose end is understood, but not those of one name.
def closeImplied (p : Progress) (except : Option String) : Progress :=
  { p with openElements := p.openElements.dropWhile fun s =>
      Elements.endImplied.contains s.name && some s.name != except }

def removeOpen (p : Progress) (site : Site) : Progress :=
  { p with openElements := p.openElements.erase site }

-- The formatting that goes on since the latest marker, latest first.
def activeFormatting (p : Progress) : List Site :=
  (p.formatting.takeWhile Option.isSome).filterMap id

-- The latest element of a name whose formatting goes on.
def formattingNamed? (p : Progress) (name : String) : Option Site :=
  p.activeFormatting.find? (·.name == name)

def markFormatting (p : Progress) : Progress := { p with formatting := none :: p.formatting }

-- Forgets the formatting since the latest marker, and the marker. There has to be some.
def clearFormatting? (p : Progress) : Option Progress :=
  if p.formatting.isEmpty then none
  else some { p with formatting := (p.formatting.dropWhile Option.isSome).tail }

def removeFormatting (p : Progress) (site : Site) : Progress :=
  { p with formatting := p.formatting.erase (some site) }

end Progress

namespace Construct

variable {origin : Forest}

def current : Construct origin Site := do
  match (← progress).current? with
  | some site => pure site
  | none => throw .stuck

def currentIs (names : List String) : Construct origin Bool :=
  return names.contains (← progress).currentName

def inReach (reach : Reach) (name : String) : Construct origin Bool :=
  return (← progress).inReach reach name

def pop : Construct origin Unit := update Progress.pop

def popUntilNamed (names : List String) : Construct origin Unit :=
  update (·.popUntil (names.contains ·.name))

def popThroughNamed (name : String) : Construct origin Unit :=
  update (·.popThrough (·.name == name))

def clearFormatting : Construct origin Unit := do
  match (← progress).clearFormatting? with
  | some p => update fun _ => p
  | none => throw .unformatted

def closeImplied : Construct origin Unit := update (·.closeImplied none)

def closeImpliedExcept (name : String) : Construct origin Unit :=
  update (·.closeImplied (some name))

-- The mode that an element's content is read in.
def modeInside : List (String × Mode) :=
  [("select", .inSelect), ("td", .inCell), ("th", .inCell), ("tr", .inRow),
   ("tbody", .inTableBody), ("thead", .inTableBody), ("tfoot", .inTableBody),
   ("caption", .inCaption), ("colgroup", .inColumnGroup), ("table", .inTable),
   ("head", .inBody), ("body", .inBody), ("frameset", .inFrameset), ("html", .beforeHead)]

-- The mode that the open elements call for, from the current one outwards. The name of the
-- outermost is that of the container, so only a fragment gets that far, and only a fragment can
-- be inside of certain elements.
def modeFor (p : Progress) : List Site → Option Mode
  | [] => none
  | s :: rest =>
    let outermost := rest.isEmpty
    let name := if outermost then p.container.getD "" else s.name
    if outermost && !p.isFragment then none
    else if ["select", "colgroup", "head", "html"].contains name && !p.isFragment then none
    else if !outermost && s.uri != some Namespace.html then modeFor p rest
    else
      match modeInside.lookup name with
      | some mode => some mode
      | none => if outermost then some .inBody else modeFor p rest

def resetMode : Construct origin Unit := do
  let p ← progress
  match modeFor p p.openElements with
  | some mode => goto mode
  | none => throw .stuck

end Construct
end HtmlTree
