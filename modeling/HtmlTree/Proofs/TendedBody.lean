import HtmlTree.Construct.Body
import HtmlTree.Proofs.Tended

set_option mvcgen.warning false

namespace HtmlTree

open Std.Do Construct Progress

variable {origin : Forest} {tag : Tag}

namespace Progress

variable {d : NodeId} {p : Progress} {s : Site}

theorem Fitted.heading (fitted : p.Fitted d) :
    Hands d p.openElements p.formatting p.current? p.container p.scanner :=
  { fitted with head := fun _ found => fitted.current found }

theorem Fitted.headed (fitted : p.Fitted d) (found : p.head = some s) : s.Fits d :=
  fitted.head s found

end Progress

theorem Elements.respell_ne {spellings : List String} {name other : String}
    (absent : other ∉ spellings) (differs : name ≠ other) : respell spellings name ≠ other := by
  unfold respell
  cases found : spellings.find? fun s => Text.lowerAscii s == name with
  | none => exact differs
  | some s =>
    rintro rfl
    exact absent (List.mem_of_find?_eq_some found)

namespace Rules

-- Whatever token comes, unless it is an element called like text, what is at hand still fits.
structure Upheld (rules : Rules origin) : Prop where
  space (data : String) : Upholds (rules.space data)
  text (data : String) : Upholds (rules.text data)
  comment (data : String) : Upholds (rules.comment data)
  doctype (d : Doctype) : Upholds (rules.doctype d)
  start (tag : Tag) (named : tag.name ≠ Node.textName) : Upholds (rules.start tag)
  close (tag : Tag) : Upholds (rules.close tag)
  finish : Upholds rules.finish

theorem usual_upheld : (usual : Rules origin).Upheld where
  space data := by mvcgen [usual]
  text data := by mvcgen [usual]
  comment data := by mvcgen [usual]
  doctype d := by mvcgen [usual]
  start tag named := by mvcgen [usual]
  close tag := by mvcgen [usual]
  finish := by mvcgen [usual]

@[spec]
theorem missing_tends (code : String) (slots : List (String × String)) :
    Upholds (initial.missing code slots : Construct origin _) := by
  mvcgen [initial.missing] with grind

theorem initial_upheld : (initial : Rules origin).Upheld where
  space data := by mvcgen [initial]
  text data := by mvcgen [initial]
  comment data := by mvcgen [initial]
  doctype d := by mvcgen [initial] with grind [BuildStep.Admits, Site.Fits]
  start tag named := by mvcgen [initial]
  close tag := by mvcgen [initial]
  finish := by mvcgen [initial]

theorem beforeHtml_upheld : (beforeHtml : Rules origin).Upheld where
  space data := usual_upheld.finish
  text data := by mvcgen [beforeHtml]
  comment data := by mvcgen [beforeHtml]
  doctype := usual_upheld.doctype
  start tag named := by
    dsimp only [beforeHtml]
    mvcgen with grind
  close tag := by
    dsimp only [beforeHtml]
    mvcgen
  finish := by mvcgen [beforeHtml]

@[spec]
theorem openHead_tends (named : tag.name ≠ Node.textName) :
    Upholds (openHead tag : Construct origin _) := by
  mvcgen [openHead] with grind [Fitted.heading]

theorem beforeHead_upheld : (beforeHead : Rules origin).Upheld where
  space data := by mvcgen [beforeHead]
  text data := by mvcgen [beforeHead]
  comment := usual_upheld.comment
  doctype := usual_upheld.doctype
  start tag named := by
    dsimp only [beforeHead]
    mvcgen
  close tag := by
    dsimp only [beforeHead]
    mvcgen
  finish := by mvcgen [beforeHead]

@[spec]
theorem heedDeclared_tends (tag : Tag) : Upholds (heedDeclared tag : Construct origin _) := by
  mvcgen [heedDeclared] with grind

@[spec]
theorem endHead_tends : Upholds (endHead : Construct origin _) := by
  mvcgen [endHead]

@[spec]
theorem startInHead_tends (named : tag.name ≠ Node.textName) :
    Upholds (startInHead tag : Construct origin _) := by
  mvcgen [startInHead]

theorem inHead_upheld : (inHead : Rules origin).Upheld where
  space := usual_upheld.space
  text data := by mvcgen [inHead]
  comment := usual_upheld.comment
  doctype := usual_upheld.doctype
  start tag named := startInHead_tends named
  close tag := by
    dsimp only [inHead]
    mvcgen
  finish := by mvcgen [inHead]

theorem inHeadNoscript_upheld : (inHeadNoscript : Rules origin).Upheld where
  space := usual_upheld.space
  text data := by
    dsimp only [inHeadNoscript]
    mvcgen
  comment := usual_upheld.comment
  doctype := usual_upheld.doctype
  start tag named := by
    dsimp only [inHeadNoscript]
    mvcgen with grind
  close tag := by
    dsimp only [inHeadNoscript]
    mvcgen
  finish := by
    dsimp only [inHeadNoscript]
    mvcgen

@[spec]
theorem startBackInHead_tends (named : tag.name ≠ Node.textName) :
    Upholds (startBackInHead tag : Construct origin _) := by
  mvcgen [startBackInHead] with grind [Fitted.push, Fitted.removeOpen, → Fitted.headed]

theorem afterHead_upheld : (afterHead : Rules origin).Upheld where
  space := usual_upheld.space
  text data := by mvcgen [afterHead] with grind [Tag.imply, Node.textName]
  comment := usual_upheld.comment
  doctype := usual_upheld.doctype
  start tag named := by
    dsimp only [afterHead]
    mvcgen with grind [Tag.imply, Node.textName]
  close tag := by
    dsimp only [afterHead]
    mvcgen with grind [Tag.imply, Node.textName]
  finish := by mvcgen [afterHead] with grind [Tag.imply, Node.textName]

@[spec]
theorem endParagraph_tends : Upholds (endParagraph : Construct origin _) := by
  mvcgen [endParagraph]

@[spec]
theorem closeParagraph_tends : Upholds (closeParagraph : Construct origin _) := by
  mvcgen [closeParagraph]

@[spec]
theorem endBody_tends : Upholds (endBody : Construct origin _) := by
  mvcgen [endBody] with grind

@[spec]
theorem endHtml_tends : Upholds (endHtml : Construct origin _) := by
  mvcgen [endHtml]

@[spec]
theorem endBlock_tends (name : String) : Upholds (endBlock name : Construct origin _) := by
  mvcgen [endBlock] with grind

@[spec]
theorem endForm_tends : Upholds (endForm : Construct origin _) := by
  mvcgen [endForm] with grind [Fitted.removeOpen]

@[spec]
theorem endListItem_tends (name : String) : Upholds (endListItem name : Construct origin _) := by
  mvcgen [endListItem]

@[spec]
theorem endHeading_tends (name : String) : Upholds (endHeading name : Construct origin _) := by
  mvcgen [endHeading] with grind [Fitted.popThrough]

@[spec]
theorem endEnclosed_tends (name : String) : Upholds (endEnclosed name : Construct origin _) := by
  mvcgen [endEnclosed]

@[spec]
theorem endBreak_tends : Upholds (endBreak : Construct origin _) := by
  mvcgen [endBreak] with grind [Tag.imply, Node.textName]

@[spec]
theorem endInBody_tends (name : String) : Upholds (endInBody name : Construct origin _) := by
  mvcgen [endInBody]

@[spec]
theorem fostered_tends {act : Construct origin Reply} (upholds : Upholds act) :
    Upholds (fostered act) := by
  mvcgen [fostered, upholds] with grind

@[spec]
theorem endMisplaced_tends (name : String) : Upholds (endMisplaced name : Construct origin _) := by
  mvcgen [endMisplaced]

@[spec]
theorem endHere_tends (name : String) : Upholds (endHere name : Construct origin _) := by
  mvcgen [endHere]

@[spec]
theorem spaceInBody_tends (data : String) : Upholds (spaceInBody data : Construct origin _) := by
  mvcgen [spaceInBody] with grind

@[spec]
theorem textInBody_tends (data : String) : Upholds (textInBody data : Construct origin _) := by
  mvcgen [textInBody]

@[spec]
theorem startBlock_tends (named : tag.name ≠ Node.textName) :
    Upholds (startBlock tag : Construct origin _) := by
  mvcgen [startBlock] with grind

@[spec]
theorem startBody_tends (tag : Tag) : Upholds (startBody tag : Construct origin _) := by
  mvcgen [startBody] with grind [BuildStep.Admits]

@[spec]
theorem startFrameset_tends (named : tag.name ≠ Node.textName) :
    Upholds (startFrameset tag : Construct origin _) := by
  mvcgen [startFrameset] with grind

@[spec]
theorem startHeading_tends (named : tag.name ≠ Node.textName) :
    Upholds (startHeading tag : Construct origin _) := by
  mvcgen [startHeading] with grind

@[spec]
theorem startPreformatted_tends (named : tag.name ≠ Node.textName) :
    Upholds (startPreformatted tag : Construct origin _) := by
  mvcgen [startPreformatted] with grind

@[spec]
theorem startForm_tends (named : tag.name ≠ Node.textName) :
    Upholds (startForm tag : Construct origin _) := by
  mvcgen [startForm] with grind

@[spec]
theorem startListItem_tends (named : tag.name ≠ Node.textName) :
    Upholds (startListItem tag : Construct origin _) := by
  mvcgen [startListItem] with grind

@[spec]
theorem startAnchor_tends (named : tag.name ≠ Node.textName) :
    Upholds (startAnchor tag : Construct origin _) := by
  mvcgen [startAnchor] with grind [Fitted.removeOpen, Fitted.removeFormatting]

@[spec]
theorem startNobr_tends (named : tag.name ≠ Node.textName) :
    Upholds (startNobr tag : Construct origin _) := by
  mvcgen [startNobr] with grind

@[spec]
theorem startButton_tends (named : tag.name ≠ Node.textName) :
    Upholds (startButton tag : Construct origin _) := by
  mvcgen [startButton]

@[spec]
theorem startOrdinary_tends (named : tag.name ≠ Node.textName) :
    Upholds (startOrdinary tag : Construct origin _) := by
  mvcgen [startOrdinary] with grind

@[spec]
theorem startTable_tends (named : tag.name ≠ Node.textName) :
    Upholds (startTable tag : Construct origin _) := by
  mvcgen [startTable] with grind

@[spec]
theorem startVoid_tends (named : tag.name ≠ Node.textName) :
    Upholds (startVoid tag : Construct origin _) := by
  mvcgen [startVoid]

@[spec]
theorem startInput_tends (named : tag.name ≠ Node.textName) :
    Upholds (startInput tag : Construct origin _) := by
  mvcgen [startInput] with grind

@[spec]
theorem startRule_tends (named : tag.name ≠ Node.textName) :
    Upholds (startRule tag : Construct origin _) := by
  mvcgen [startRule]

@[spec]
theorem startIndex_tends (tag : Tag) : Upholds (startIndex tag : Construct origin _) := by
  mvcgen [startIndex] with grind [Tag.imply, Node.textName]

@[spec]
theorem startSelect_tends (named : tag.name ≠ Node.textName) :
    Upholds (startSelect tag : Construct origin _) := by
  mvcgen [startSelect]

@[spec]
theorem startRuby_tends (named : tag.name ≠ Node.textName) :
    Upholds (startRuby tag : Construct origin _) := by
  mvcgen [startRuby] with grind

@[spec]
theorem startOption_tends (named : tag.name ≠ Node.textName) :
    Upholds (startOption tag : Construct origin _) := by
  mvcgen [startOption] with grind

@[spec]
theorem insertForeign_tends (named : tag.name ≠ Node.textName) (uri : String)
    {names : List String} (absent : Node.textName ∉ names) (attributes : List String) :
    Upholds (insertForeign tag uri names attributes : Construct origin _) := by
  mvcgen [insertForeign] with grind [Elements.respell_ne]

@[spec]
theorem startForeign_tends (named : tag.name ≠ Node.textName) :
    Upholds (startForeign tag : Construct origin _) := by
  mvcgen [startForeign] with grind

@[spec]
theorem startRaw_tends (named : tag.name ≠ Node.textName) :
    Upholds (startRaw tag : Construct origin _) := by
  mvcgen [startRaw] with grind

@[spec]
theorem startInBody_tends (named : tag.name ≠ Node.textName) :
    Upholds (startInBody tag : Construct origin _) := by
  mvcgen [startInBody] with grind [Fitted.markFormatting, Node.textName]

@[spec]
theorem finishInBody_tends : Upholds (finishInBody : Construct origin _) := by
  mvcgen [finishInBody] with grind

theorem inBody_upheld : (inBody : Rules origin).Upheld where
  space := spaceInBody_tends
  text := textInBody_tends
  comment := usual_upheld.comment
  doctype := usual_upheld.doctype
  start _ named := startInBody_tends named
  close tag := endInBody_tends tag.name
  finish := finishInBody_tends

theorem inText_upheld : (inText : Rules origin).Upheld where
  space := usual_upheld.space
  text := usual_upheld.text
  comment := usual_upheld.comment
  doctype := usual_upheld.doctype
  start tag named := by mvcgen [inText]
  close tag := by mvcgen [inText] with grind
  finish := by mvcgen [inText] with grind

end Rules

end HtmlTree
