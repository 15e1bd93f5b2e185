import HtmlTree.CommandLine.Arguments
import HtmlTree.Document
import HtmlTree.Edit.Normalize
import HtmlTree.Render
import HtmlTree.Search

namespace HtmlTree.CommandLine

-- What a run leaves: its exit status and what it has written.
structure Report where
  status : Nat
  out : String
  err : String
deriving DecidableEq, Repr

def programName : String := "justdom"

def versionLine : String := programName ++ " 0.1.0\n"

def usage : String :=
  String.join
    ["usage: " ++ programName ++ " [-h] [--tag TAG] [--class CLASS_NAME] [--attr NAME[=VALUE]]\n",
     "               [--format \x7bhtml,text\x7d] [--first] [--normalize]\n",
     "               [--include-templates] [--debug] [--version]\n",
     "               [path]\n"]

def helpText : String :=
  String.join
    [usage,
     "\nParse HTML5 and print the elements matching every given filter.\n",
     "\npositional arguments:\n",
     "  path                  HTML file to parse, or '-' to read from stdin\n",
     "\noptions:\n",
     "  -h, --help            show this help message and exit\n",
     "  --tag TAG             Match elements with this tag name (case-insensitive)\n",
     "  --class CLASS_NAME    Match elements whose class list contains this name\n",
     "  --attr NAME[=VALUE]   Match elements carrying attribute NAME, optionally\n",
     "                        equal to VALUE (repeatable)\n",
     "  --format \x7bhtml,text\x7d  Output format (default: html)\n",
     "  --first               Only output the first matching element\n",
     "  --normalize           Merge adjacent text nodes before querying\n",
     "  --include-templates   Also search inside <template> contents\n",
     "  --debug               Log tree operations to stderr\n",
     "  --version             show program's version number and exit\n",
     "\nExamples:\n",
     "  justdom page.html --tag a --attr href\n",
     "  curl -s https://example.com | justdom - --class nav --format text\n",
     "  justdom page.html --tag td --include-templates --first\n",
     "\nIf you don't have the 'justdom' command available, use:\n",
     "  python -m justdom ...\n"]

namespace Command

def attributeRule (option : String) : Predicate :=
  match cutAtEquals option with
  | (name, some value) => .attrValue name (some value)
  | (name, none) => .attr name

-- The filters that are given; an empty tag or class is none. There are none at all if an attribute
-- is asked for without saying which.
def predicate? (c : Command) : Option Predicate := do
  let given (value : Option String) (rule : String → Predicate) : List Predicate :=
    match value with
    | some text => if text.isEmpty then [] else [rule text]
    | none => []
  let attrs ← c.attrs.mapM fun option => option.map attributeRule
  pure (.all (given c.tag .tag ++ given c.className (.attrWord "class" ∘ some) ++ attrs))

def scope (c : Command) : Scope := if c.includeTemplates then .templates else .visible

-- How an element that was found is shown.
def rendering (c : Command) (f : Forest) (n : NodeId) : String :=
  match c.format with
  | .html => f.outerMarkup .flat 0 n
  | .text => f.readableText " " true n

-- The journal, a line to each note, if it is asked for.
def journal (c : Command) (f : Forest) : String :=
  if c.debug then
    String.join (f.journal.toList.filterMap fun note =>
      note.text?.map fun text => "DEBUG:" ++ note.channel ++ ":" ++ text ++ "\n")
  else ""

-- Searches a document and shows what is found. To find nothing is a failure.
def report (c : Command) (rule : Predicate) (root : NodeId) (f : Forest) : Report :=
  let found := (f.queryAll c.scope rule root []).1.items
  if found.isEmpty then ⟨1, "", c.journal f⟩
  else
    let shown := if c.first then found.take 1 else found
    ⟨0, "\n".intercalate (shown.map (c.rendering f)) ++ "\n", c.journal f⟩

-- Reports on a document that has been read.
def reportOn (c : Command) (root : NodeId) : Read Report := fun f =>
  let normalized := if c.normalize then Edit.normalize root f else .ok () f
  match normalized, c.predicate? with
  | .error failure f, _ => .error (.refused failure) f
  | .ok _ f, none => .error (.refused .unsupported) f
  | .ok _ f, some rule => .ok (c.report rule root f) f

-- Reads a text as a document by means of a parser, and reports on it.
def runWith (parser : Parser) (c : Command) (text : String) : Except ReadFailure Report :=
  match (do reportOn c (← Document.readWith parser (.text text) .plain).root : Read Report) .empty with
  | .ok report _ => .ok report
  | .error failure _ => .error failure

def run : Command → String → Except ReadFailure Report := runWith htmlParser

end Command

-- Why there is no file at a path, where there are none but those that are known.
inductive PathFault where
  -- a character that no path can have
  | malformed
  -- the path leads to a directory
  | directory
  -- a name is longer than any file's
  | overlong
  | absent
deriving DecidableEq, Repr

def PathFault.of (path : String) : PathFault :=
  let names := (path.splitOn "/").filter fun name => name != "" && name != "." && name != ".."
  if path.contains '\x00' then .malformed
  else if names.isEmpty then .directory
  else if names.head?.any (255 < ·.utf8ByteSize) then .overlong
  else .absent

-- What is to be done about a list of arguments: report at once, or first read what is on the
-- standard input or in a file.
inductive Plan where
  | report (r : Report)
  | fromInput (c : Command)
  | fromFile (path : String) (c : Command)
deriving DecidableEq, Repr

def Plan.ofArguments (args : List String) : Plan :=
  match Request.ofArguments args with
  | .help => .report ⟨0, helpText, ""⟩
  | .version => .report ⟨0, versionLine, ""⟩
  | .invalid => .report ⟨2, "", usage⟩
  | .command c =>
    match c.path with
    | none => .report ⟨1, "", helpText⟩
    | some path =>
      if path.isEmpty then .report ⟨1, "", helpText⟩
      else if path == "-" then .fromInput c
      else .fromFile path c

-- The text of bytes, with every line end as a line feed. There is none if they are not well-formed.
def textOf? (bytes : List UInt8) : Option String :=
  (Source.Encoding.utf8.decode? bytes).map fun text =>
    String.ofList (Source.oneLineEnd text.toList)

-- How the program ends: with a report, or without one because there is no file, because what is in it
-- is no text, or because the text cannot be read.
inductive Outcome where
  | report (r : Report)
  | noFile (fault : PathFault)
  | noText
  | unread (failure : ReadFailure)
deriving DecidableEq, Repr

def Command.runOn (c : Command) (bytes : List UInt8) : Outcome :=
  match textOf? bytes with
  | none => .noText
  | some text =>
    match c.run text with
    | .ok r => .report r
    | .error failure => .unread failure

-- Runs a command on the file at a path, if there is one.
def Command.runAt (c : Command) (path : String) : Option (List UInt8) → Outcome
  | some bytes => c.runOn bytes
  | none => .noFile (.of path)

end HtmlTree.CommandLine
