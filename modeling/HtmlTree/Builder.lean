import HtmlTree.Edit

namespace HtmlTree

-- Namespaces by their full names, and the short names that elements carry.
namespace Namespace

def html : String := "http://www.w3.org/1999/xhtml"
def svg : String := "http://www.w3.org/2000/svg"
def math : String := "http://www.w3.org/1998/Math/MathML"

-- The short name of a namespace. Without one, or with an empty one, it is html; a namespace that
-- has no short name stands for itself.
def short : Option String → String
  | none => "html"
  | some uri =>
    if uri.isEmpty then "html"
    else if uri = html then "html"
    else if uri = svg then "svg"
    else if uri = math then "math"
    else uri

end Namespace

-- A node under construction, as tree construction sees it: the name and namespace it was made
-- with stay at hand.
structure Site where
  node : NodeId
  name : String
  uri : Option String
deriving DecidableEq, Repr, Inhabited

-- Namespace and name, html standing in for a missing or empty namespace.
def Site.qualified (s : Site) : String × String :=
  (match s.uri with
    | some uri => if uri.isEmpty then Namespace.html else uri
    | none => Namespace.html, s.name)

-- A forest that is being added to, and the sites made for it, latest first.
structure Builder where
  forest : Forest
  sites : List Site
  document : Site
deriving Repr, Inhabited

-- The name under which an attribute with a namespace of its own is kept.
def attributeName (qualifier : Option String) (localName : String) : String :=
  match qualifier with
  | some q => if q.isEmpty then localName else q ++ ":" ++ localName
  | none => localName

abbrev Build := EStateM Failure Builder

namespace Builder

-- What a site's children go into: the content fragment if it has one, else the node itself.
def container (b : Builder) (s : Site) : NodeId := (b.forest.content s.node).getD s.node

-- The site of a node, or of the template whose content fragment it is.
def siteOf? (b : Builder) (n : NodeId) : Option Site :=
  b.sites.find? fun s => s.node == n || b.forest.content s.node == some n

-- Read off the node's own link.
def parentOf? (b : Builder) (s : Site) : Option Site :=
  (b.forest.parent s.node).bind b.siteOf?

def attributes (b : Builder) (s : Site) : Attributes := (b.forest.attrs s.node).getD .empty

def hasContent (b : Builder) (s : Site) : Bool :=
  !((b.forest.children (b.container s)).getD []).isEmpty

def onForest (edit : Edit α) : Build α
  | ⟨forest, sites, document⟩ =>
    match edit forest with
    | .ok value f => .ok value ⟨f, sites, document⟩
    | .error failure f => .error failure ⟨f, sites, document⟩

def register (node : NodeId) (name : String) (uri : Option String) : Build Site := fun b =>
  let site : Site := ⟨node, name, uri⟩
  .ok site { b with sites := site :: b.sites }

-- A builder over a forest with no sites but that of a new document.
def fresh (f : Forest) : Builder :=
  let made := f.alloc .newDocument
  let site : Site := ⟨made.1, Node.documentName, none⟩
  ⟨made.2, [site], site⟩

def newDocument : Build Site := do
  register (← onForest (Edit.make .newDocument)) Node.documentName none

def newDoctype (name : Option String) : Build Site := do
  register (← onForest (Edit.make (.newDoctype name))) Node.doctypeName none

def newComment (data : Option String) : Build Site := do
  register (← onForest (Edit.make (.newComment data))) Node.commentName none

def newFragment : Build Site := do
  register (← onForest (Edit.make .newFragment)) Node.fragmentName none

def newElement (name : String) (uri : Option String) : Build Site := do
  register (← onForest (Edit.makeElement (some name) (some (Namespace.short uri)))) name uri

-- Gives new attributes. Nodes without a table of attributes keep none.
def setAttributes (s : Site) (attrs : Attributes) : Build Unit := do
  match (← get).forest.attrs s.node with
  | none => pure ()
  | some _ => onForest (modify (·.setAttrs s.node (some attrs)))

-- Adds attributes whose names are not there yet to those that are.
def addAttributes (s : Site) (attrs : Attributes) : Build Unit := do
  match (← get).forest.attrs s.node with
  | none => pure ()
  | some known =>
    onForest (modify (·.writeAttrs s.node (attrs.entries.foldl (fun all entry =>
      if all.names.contains entry.1 then all else all.put entry.1 entry.2) known)))

-- An element of the same name and namespace with the same attributes, and nothing in it.
def clone (s : Site) : Build Site := do
  let attrs := (← get).attributes s
  let copy ← newElement s.name s.uri
  setAttributes copy attrs
  pure copy

def appendChild (parent child : Site) : Build Unit := do
  onForest (Edit.append ((← get).container parent) (some child.node))

def insertBefore (parent child reference : Site) : Build Unit := do
  onForest (Edit.insertBefore ((← get).container parent) (some reference.node) (some child.node))

-- Adds text to a node if that is a text node, and else does what there is to do instead.
def extendText (n : NodeId) (data : Option String) (otherwise : Edit Unit) : Edit Unit := do
  let f ← get
  if !f.known n then throw .noNode
  if (f.node n).isText then
    match f.data n, data with
    | some old, some new => modify (·.setData n (some (old ++ new)))
    | _, _ => throw .missingPart
  else otherwise

-- Puts text at the end of a site or before a child of it, into the text node that stands there
-- already if there is one.
def insertText (s : Site) (data : Option String) (before : Option Site) : Build Unit := do
  let b ← get
  let target := b.container s
  match before, b.forest.children target with
  | none, children =>
    let new : Edit Unit := do Edit.append target (some (← Edit.make (.newText data)))
    match (children.getD []).getLast? with
    | some last => onForest (extendText last data new)
    | none => onForest new
  | some _, none => throw .unsupported
  | some reference, some children =>
    let new : Edit Unit := do
      Edit.insertBefore target (some reference.node) (some (← Edit.make (.newText data)))
    match children.idxOf? reference.node with
    | none => throw .notListed
    | some 0 => onForest new
    | some (place + 1) =>
      match children[place]? with
      | some left => onForest (extendText left data new)
      | none => onForest new

-- Takes a child out, if it is one.
def removeChild (parent child : Site) : Build Unit := do
  let b ← get
  if b.forest.parent child.node = some (b.container parent) then onForest (Edit.detach child.node)

-- Moves the children of one site to the end of another, one by one. Links that lead nowhere stay.
def reparentChildren (source target : Site) : Build Unit := do
  let b ← get
  match b.forest.children (b.container source) with
  | none => throw .missingPart
  | some children =>
    children.forM fun n =>
      onForest (Edit.append (b.container target) (if b.forest.known n then some n else none))

-- A new fragment that receives the children of a site.
def gatherFragment (source : Site) : Build Site := do
  let fragment ← newFragment
  reparentChildren source fragment
  pure fragment

end Builder

-- Everything that tree construction can ask of a builder.
inductive BuildStep where
  | document
  | doctype (name : Option String)
  | comment (data : Option String)
  | fragment
  | element (name : String) (uri : Option String)
  | clone (site : Site)
  | attributes (site : Site) (attrs : Attributes)
  | addAttributes (site : Site) (attrs : Attributes)
  | append (parent child : Site)
  | before (parent child reference : Site)
  | text (site : Site) (data : String) (reference : Option Site)
  | remove (parent child : Site)
  | reparent (source target : Site)
  | gather (source : Site)
deriving DecidableEq, Repr

namespace BuildStep

-- Carries out a step; those that make a node give its site.
def run : BuildStep → Build (Option Site)
  | .document => some <$> Builder.newDocument
  | .doctype name => some <$> Builder.newDoctype name
  | .comment data => some <$> Builder.newComment data
  | .fragment => some <$> Builder.newFragment
  | .element name uri => some <$> Builder.newElement name uri
  | .clone site => some <$> Builder.clone site
  | .attributes site attrs => do Builder.setAttributes site attrs; pure none
  | .addAttributes site attrs => do Builder.addAttributes site attrs; pure none
  | .append parent child => do Builder.appendChild parent child; pure none
  | .before parent child reference => do Builder.insertBefore parent child reference; pure none
  | .text site data reference => do Builder.insertText site (some data) reference; pure none
  | .remove parent child => do Builder.removeChild parent child; pure none
  | .reparent source target => do Builder.reparentChildren source target; pure none
  | .gather source => some <$> Builder.gatherFragment source

-- The builder that a step leaves, whether it succeeds or fails.
def after (step : BuildStep) (b : Builder) : Builder :=
  match step.run b with
  | .ok _ next => next
  | .error _ next => next

end BuildStep

-- Builders that steps lead to from a fresh one over the given forest.
inductive Built (origin : Forest) : Builder → Prop where
  | fresh : Built origin (Builder.fresh origin)
  | step (step : BuildStep) {b : Builder} : Built origin b → Built origin (step.after b)

end HtmlTree
