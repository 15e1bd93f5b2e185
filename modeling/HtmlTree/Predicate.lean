import HtmlTree.Content
import HtmlTree.Text.Pattern

namespace HtmlTree

-- The calls that probes have recorded, in order.
abbrev Trace := List (String × NodeId)

-- A test that may leave a trace. It fails where it would have to look at no node.
abbrev Check := EStateM Failure Trace Bool

-- Conditions on a node: tests of its name, its attributes and its text, any test that is given, and
-- what is built up from them.
inductive Predicate where
  | document
  | fragment
  | element
  | text
  | comment
  | tag (name : String)
  | tagMatches (pattern : Text.Pattern)
  | attr (name : String)
  | attrValue (name : String) (value : Option String)
  | attrWord (name : String) (word : Option String)
  | directText (value : Option String)
  | textContent (value : Option String)
  | given (test : Forest → NodeId → Check)
  | all (parts : List Predicate)
  | any (parts : List Predicate)
  | not (part : Predicate)
  | parent (part : Predicate)
  | probe (label : String) (part : Predicate)

namespace Predicate

def hasWord (attrs : Option Attributes) (name : String) (word : Option String) : Bool :=
  match attrs.bind (·.get name), word with
  | some value, some word => !value.isEmpty && (Text.words value).contains word
  | _, _ => false

-- A test of what a node is.
def test (f : Forest) (n : NodeId) (property : Node → Bool) : Check :=
  if f.known n then pure (property (f.node n)) else throw .noNode

-- A test of what an element is. Without a name it cannot be told whether a node is one.
def testElement (f : Forest) (n : NodeId) (property : Node → Bool) : Check :=
  if f.known n && (f.node n).isNamed then
    pure ((f.node n).isElement && property (f.node n))
  else throw .noNode

-- A test of text that is read off the forest.
def compare (text : Except Failure String) (value : Option String) : Check :=
  match text with
  | .ok text => pure (some text == value)
  | .error failure => throw failure

-- Whether some node of a list passes, asked in order up to the first that does.
def someOf (check : NodeId → Check) : List NodeId → Check
  | [] => pure false
  | n :: rest => do if ← check n then pure true else someOf check rest

-- A part that asks for the ancestors of no node fails as a part.
def asPart (check : Check) : Check := fun trace =>
  match check trace with
  | .error .noAncestry trace => .error .noAncestryOfPart trace
  | answer => answer

mutual

-- The answer at a node. The parts of `all` and `any` are asked in order until one decides, and
-- `parent` asks the strict ancestors nearest first. Where there is no node, there are no
-- attributes either.
def check (f : Forest) : Predicate → NodeId → Check
  | .document, n => test f n Node.isDocument
  | .fragment, n => test f n Node.isFragment
  | .element, n => testElement f n fun _ => true
  | .text, n => test f n Node.isText
  | .comment, n => test f n Node.isComment
  | .tag name, n =>
    testElement f n fun node => Text.lower node.name == Text.lower name
  | .tagMatches pattern, n =>
    testElement f n fun node => pattern.search (Text.lower node.name)
  | .attr name, n => pure (((f.attrs n).getD .empty).has name)
  | .attrValue name value, n => pure (((f.attrs n).getD .empty).get name == value)
  | .attrWord name word, n => pure (hasWord (f.attrs n) name word)
  | .directText value, n => compare (f.directTextRead n) value
  | .textContent value, n => compare (f.textContentRead n) value
  | .given test, n => test f n
  | .all parts, n => checkAll f parts n
  | .any parts, n => checkAny f parts n
  | .not part, n => do pure (!(← check f part n))
  | .parent part, n =>
    if f.known n then someOf (check f part) (f.strictAncestors n) else throw .noAncestry
  | .probe label part, n => do
    modify (· ++ [(label, n)])
    check f part n

def checkAll (f : Forest) : List Predicate → NodeId → Check
  | [], _ => pure true
  | part :: rest, n => do if ← asPart (check f part n) then checkAll f rest n else pure false

def checkAny (f : Forest) : List Predicate → NodeId → Check
  | [], _ => pure false
  | part :: rest, n => do if ← asPart (check f part n) then pure true else checkAny f rest n

end

-- The same condition, for elements only.
def onElements (p : Predicate) : Predicate := .all [.element, p]

end Predicate
end HtmlTree
