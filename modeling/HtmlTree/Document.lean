import HtmlTree.Construct.Run
import HtmlTree.Render
import HtmlTree.Search

namespace HtmlTree

-- What is to be read: text, or bytes with the label of an encoding that may have come with them.
inductive Material where
  | text (text : String)
  | bytes (bytes : List UInt8) (label : Option String)
deriving DecidableEq, Repr

-- Reads text into a forest. A fragment is read inside of an element, whose name is put into lower
-- case.
def construct (origin : Forest) (context : Option FragmentContext)
    (guessed : Option Source.Encoding) (text : String) :
    EStateM.Result Interrupt (Construction origin) NodeId :=
  let container := context.map fun c => Text.lower c.tag
  Construct.readAll (.begin origin (.start (.start text) container guessed))

-- Reads text or bytes, and tells the encoding of bytes. If the bytes say that they are in another
-- encoding than was guessed, all is read again from the first byte.
def constructFrom (origin : Forest) (context : Option FragmentContext) :
    Material → EStateM.Result Interrupt (Construction origin) NodeId × Option Source.Encoding
  | .text text => (construct origin context none text, none)
  | .bytes bytes label =>
    let reading := Source.Reading.choose label bytes
    let guessed := if reading.sure then none else some reading.encoding
    match construct origin context guessed (reading.encoding.decode reading.bytes) with
    | .error (.reread e) _ => (construct origin context none (e.decode bytes), some e)
    | result => (result, some reading.encoding)

-- Why there is no document.
inductive ReadFailure where
  -- a change to the tree was refused
  | refused (f : Failure)
  -- the open elements, or the formatting that goes on, admitted no way on
  | stuck
  | unformatted
  -- a number has too many digits
  | overlong
  -- strict reading stops at the first fault
  | fault (d : Diagnostic)
deriving DecidableEq, Repr

-- What a parser tells in the end beside the tree: where its root is, the encoding of bytes, and
-- everything that it found fault with, in the order it was met.
structure Parsed where
  root : NodeId
  encoding : Option Source.Encoding
  faults : List Diagnostic
deriving DecidableEq, Repr

-- A way to read into a forest by means of a builder: a whole document, or a fragment if there is a
-- context.
abbrev Parser :=
  Forest → Option FragmentContext → Material → EStateM.Result ReadFailure Builder Parsed

def diagnosticsOf (p : Progress) : List Diagnostic :=
  p.faults.reverse.map fun entry => .ofFault (some entry.2.1) (some entry.2.2) entry.1

-- The parser that goes by the rules for the construction of trees.
def htmlParser : Parser := fun origin context material =>
  match constructFrom origin context material with
  | (.ok root s, encoding) => .ok ⟨root, encoding, diagnosticsOf s.progress⟩ s.builder
  | (.error (.failure f) s, _) => .error (.refused f) s.builder
  | (.error .unformatted s, _) => .error .unformatted s.builder
  | (.error .overlong s, _) => .error .overlong s.builder
  | (.error _ s, _) => .error .stuck s.builder

-- A document or fragment that has been read, with what there was to find fault with.
structure Document where
  root : NodeId
  encoding : Option Source.Encoding
  context : Option FragmentContext
  diagnostics : List Diagnostic
deriving DecidableEq, Repr

structure ReadOptions where
  context : Option FragmentContext
  collect : Bool
  strict : Bool
deriving DecidableEq, Repr

def ReadOptions.plain : ReadOptions := ⟨none, false, false⟩

abbrev Read := EStateM ReadFailure Forest

namespace Document

-- Reads a document, or a fragment if there is a context, by means of a parser. The journal tells how
-- many faults there were; they are kept if they are asked for.
def readWith (parser : Parser) (material : Material) (options : ReadOptions) : Read Document :=
  fun origin =>
    match parser origin options.context material with
    | .error failure b => .error failure b.forest
    | .ok parsed b =>
      let all := parsed.faults
      let forest := if all.isEmpty then b.forest else b.forest.note (.reported all.length)
      match options.strict, all with
      | true, first :: _ => .error (.fault first) forest
      | _, _ =>
        .ok ⟨parsed.root, parsed.encoding, options.context, if options.collect then all else []⟩ forest

def read : Material → ReadOptions → Read Document := readWith htmlParser

-- The first element of a document that passes, template contents left out.
def query (d : Document) (f : Forest) (p : Predicate) : Searching (Option NodeId) :=
  f.query .visible p d.root

def queryAll (d : Document) (f : Forest) (p : Predicate) : StateM Trace (Walk.Trail NodeId) :=
  f.queryAll .visible p d.root

def markup (d : Document) (f : Forest) (layout : Markup.Layout) : Except Failure String :=
  f.outerMarkupRead layout 0 d.root

def text (d : Document) (f : Forest) (separator : String) (strip : Bool) : String :=
  f.readableText separator strip d.root

end Document
end HtmlTree
