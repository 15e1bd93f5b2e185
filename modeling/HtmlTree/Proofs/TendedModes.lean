import HtmlTree.Construct.Run
import HtmlTree.Proofs.TendedBody

set_option mvcgen.warning false

namespace HtmlTree

open Std.Do EStateM Construct Progress

variable {origin : Forest} {tag : Tag}

namespace Rules

@[spec]
theorem collectTableText_tends (data : String) :
    Upholds (collectTableText data : Construct origin _) := by
  mvcgen [collectTableText] with grind

@[spec]
theorem beginTableText_tends (data : String) :
    Upholds (beginTableText data : Construct origin _) := by
  mvcgen [beginTableText] with grind

@[spec]
theorem flushTableText_tends : Upholds (flushTableText : Construct origin _) := by
  mvcgen [flushTableText] with grind

theorem inTableText_upheld : (inTableText : Rules origin).Upheld where
  space data := by mvcgen [inTableText] with grind
  text := collectTableText_tends
  comment data := by mvcgen [inTableText] with grind
  doctype := usual_upheld.doctype
  start tag named := by mvcgen [inTableText] with grind
  close tag := by mvcgen [inTableText] with grind
  finish := by mvcgen [inTableText] with grind

@[spec]
theorem clearToTable_tends : Upholds (clearToTable : Construct origin _) := by
  mvcgen [clearToTable]

@[spec]
theorem clearToRowGroup_tends : Upholds (clearToRowGroup : Construct origin _) := by
  mvcgen [clearToRowGroup]

@[spec]
theorem clearToRow_tends : Upholds (clearToRow : Construct origin _) := by
  mvcgen [clearToRow] with grind

@[spec]
theorem endRowGroup_tends (name : String) : Upholds (endRowGroup name : Construct origin _) := by
  mvcgen [endRowGroup]

@[spec]
theorem leaveRowGroup_tends : Upholds (leaveRowGroup : Construct origin _) := by
  mvcgen [leaveRowGroup] with grind

@[spec]
theorem endRow_tends : Upholds (endRow : Construct origin _) := by
  mvcgen [endRow]

@[spec]
theorem leaveRow_tends : Upholds (leaveRow : Construct origin _) := by
  mvcgen [leaveRow]

@[spec]
theorem endTable_tends : Upholds (endTable : Construct origin _) := by
  mvcgen [endTable] with grind

@[spec]
theorem startCaption_tends (named : tag.name ≠ Node.textName) :
    Upholds (startCaption tag : Construct origin _) := by
  mvcgen [startCaption] with grind [Fitted.markFormatting]

@[spec]
theorem startTablePart_tends (named : tag.name ≠ Node.textName) (inside : Mode) :
    Upholds (startTablePart tag inside : Construct origin _) := by
  mvcgen [startTablePart]

@[spec]
theorem startTableAgain_tends : Upholds (startTableAgain : Construct origin _) := by
  mvcgen [startTableAgain] with grind

@[spec]
theorem startMisplaced_tends (named : tag.name ≠ Node.textName) :
    Upholds (startMisplaced tag : Construct origin _) := by
  mvcgen [startMisplaced] with grind

@[spec]
theorem startInTable_tends (named : tag.name ≠ Node.textName) :
    Upholds (startInTable tag : Construct origin _) := by
  mvcgen [startInTable] with grind

@[spec]
theorem endInTable_tends (name : String) : Upholds (endInTable name : Construct origin _) := by
  mvcgen [endInTable]

@[spec]
theorem finishInTable_tends : Upholds (finishInTable : Construct origin _) := by
  mvcgen [finishInTable]

theorem inTable_upheld : (inTable : Rules origin).Upheld where
  space := beginTableText_tends
  text := beginTableText_tends
  comment := usual_upheld.comment
  doctype := usual_upheld.doctype
  start _ named := startInTable_tends named
  close tag := endInTable_tends tag.name
  finish := finishInTable_tends

@[spec]
theorem endCaption_tends : Upholds (endCaption : Construct origin _) := by
  mvcgen [endCaption] with grind

@[spec]
theorem leaveCaption_tends : Upholds (leaveCaption : Construct origin _) := by
  mvcgen [leaveCaption]

theorem inCaption_upheld : (inCaption : Rules origin).Upheld where
  space := usual_upheld.space
  text := textInBody_tends
  comment := usual_upheld.comment
  doctype := usual_upheld.doctype
  start tag named := by
    dsimp only [inCaption]
    mvcgen with grind
  close tag := by
    dsimp only [inCaption]
    mvcgen
  finish := finishInBody_tends

@[spec]
theorem leaveColumns_tends : Upholds (leaveColumns : Construct origin _) := by
  mvcgen [leaveColumns]

theorem inColumnGroup_upheld : (inColumnGroup : Rules origin).Upheld where
  space := usual_upheld.space
  text data := leaveColumns_tends
  comment := usual_upheld.comment
  doctype := usual_upheld.doctype
  start tag named := by
    dsimp only [inColumnGroup]
    mvcgen
  close tag := by
    dsimp only [inColumnGroup]
    mvcgen
  finish := by mvcgen [inColumnGroup]

@[spec]
theorem startRow_tends (named : tag.name ≠ Node.textName) :
    Upholds (startRow tag : Construct origin _) := by
  mvcgen [startRow]

theorem inTableBody_upheld : (inTableBody : Rules origin).Upheld where
  space := inTable_upheld.space
  text := inTable_upheld.text
  comment := inTable_upheld.comment
  doctype := inTable_upheld.doctype
  start tag named := by
    dsimp only [inTableBody]
    mvcgen with grind
  close tag := by
    dsimp only [inTableBody]
    mvcgen
  finish := inTable_upheld.finish

theorem inRow_upheld : (inRow : Rules origin).Upheld where
  space := inTable_upheld.space
  text := inTable_upheld.text
  comment := inTable_upheld.comment
  doctype := inTable_upheld.doctype
  start tag named := by
    dsimp only [inRow]
    mvcgen with grind [Fitted.markFormatting]
  close tag := by
    dsimp only [inRow]
    mvcgen
  finish := inTable_upheld.finish

@[spec]
theorem endCell_tends (name : String) : Upholds (endCell name : Construct origin _) := by
  mvcgen [endCell]

@[spec]
theorem closeCell_tends : Upholds (closeCell : Construct origin _) := by
  mvcgen [closeCell]

theorem inCell_upheld : (inCell : Rules origin).Upheld where
  space := usual_upheld.space
  text := textInBody_tends
  comment := usual_upheld.comment
  doctype := usual_upheld.doctype
  start tag named := by
    dsimp only [inCell]
    mvcgen with grind
  close tag := by
    dsimp only [inCell]
    mvcgen
  finish := finishInBody_tends

@[spec]
theorem endSelect_tends : Upholds (endSelect : Construct origin _) := by
  mvcgen [endSelect]

@[spec]
theorem popIf_tends (name : String) : Upholds (popIf name : Construct origin _) := by
  mvcgen [popIf]

@[spec]
theorem startInSelect_tends (named : tag.name ≠ Node.textName) :
    Upholds (startInSelect tag : Construct origin _) := by
  mvcgen [startInSelect] with grind

@[spec]
theorem endInSelect_tends (name : String) : Upholds (endInSelect name : Construct origin _) := by
  mvcgen [endInSelect] with grind

theorem inSelect_upheld : (inSelect : Rules origin).Upheld where
  space := usual_upheld.space
  text data := by
    dsimp only [inSelect]
    mvcgen
  comment := usual_upheld.comment
  doctype := usual_upheld.doctype
  start _ named := startInSelect_tends named
  close tag := endInSelect_tends tag.name
  finish := by mvcgen [inSelect]

theorem inSelectInTable_upheld : (inSelectInTable : Rules origin).Upheld where
  space := inSelect_upheld.space
  text := inSelect_upheld.text
  comment := inSelect_upheld.comment
  doctype := inSelect_upheld.doctype
  start tag named := by
    dsimp only [inSelectInTable]
    mvcgen with grind
  close tag := by
    dsimp only [inSelectInTable]
    mvcgen
  finish := inSelect_upheld.finish

@[spec]
theorem backToBody_tends (code : String) (slots : List (String × String)) :
    Upholds (backToBody code slots : Construct origin _) := by
  mvcgen [backToBody]

theorem afterBody_upheld : (afterBody : Rules origin).Upheld where
  space := usual_upheld.space
  text data := backToBody_tends _ _
  comment data := by
    dsimp only [afterBody]
    mvcgen with grind
  doctype := usual_upheld.doctype
  start tag named := by
    dsimp only [afterBody]
    mvcgen
  close tag := by
    dsimp only [afterBody]
    mvcgen with grind
  finish := usual_upheld.finish

theorem afterAfterBody_upheld : (afterAfterBody : Rules origin).Upheld where
  space := spaceInBody_tends
  text data := backToBody_tends _ _
  comment data := by
    dsimp only [afterAfterBody]
    mvcgen
  doctype := usual_upheld.doctype
  start tag named := by
    dsimp only [afterAfterBody]
    mvcgen
  close tag := backToBody_tends _ _
  finish := usual_upheld.finish

theorem inFrameset_upheld : (inFrameset : Rules origin).Upheld where
  space := usual_upheld.space
  text data := by
    dsimp only [inFrameset]
    mvcgen
  comment := usual_upheld.comment
  doctype := usual_upheld.doctype
  start tag named := by
    dsimp only [inFrameset]
    mvcgen with grind
  close tag := by
    dsimp only [inFrameset]
    mvcgen with grind
  finish := by mvcgen [inFrameset]

theorem afterFrameset_upheld : (afterFrameset : Rules origin).Upheld where
  space := usual_upheld.space
  text data := by
    dsimp only [afterFrameset]
    mvcgen
  comment := usual_upheld.comment
  doctype := usual_upheld.doctype
  start tag named := by
    dsimp only [afterFrameset]
    mvcgen with grind
  close tag := by
    dsimp only [afterFrameset]
    mvcgen
  finish := usual_upheld.finish

theorem afterAfterFrameset_upheld : (afterAfterFrameset : Rules origin).Upheld where
  space := spaceInBody_tends
  text data := by
    dsimp only [afterAfterFrameset]
    mvcgen
  comment data := by
    dsimp only [afterAfterFrameset]
    mvcgen
  doctype := usual_upheld.doctype
  start tag named := by
    dsimp only [afterAfterFrameset]
    mvcgen with grind
  close tag := by
    dsimp only [afterAfterFrameset]
    mvcgen
  finish := usual_upheld.finish

-- Whichever mode is set.
theorem of_upheld (mode : Mode) : (Rules.of mode : Rules origin).Upheld := by
  cases mode with
  | initial => exact initial_upheld
  | beforeHtml => exact beforeHtml_upheld
  | beforeHead => exact beforeHead_upheld
  | inHead => exact inHead_upheld
  | inHeadNoscript => exact inHeadNoscript_upheld
  | afterHead => exact afterHead_upheld
  | inBody => exact inBody_upheld
  | text => exact inText_upheld
  | inTable => exact inTable_upheld
  | inTableText => exact inTableText_upheld
  | inCaption => exact inCaption_upheld
  | inColumnGroup => exact inColumnGroup_upheld
  | inTableBody => exact inTableBody_upheld
  | inRow => exact inRow_upheld
  | inCell => exact inCell_upheld
  | inSelect => exact inSelect_upheld
  | inSelectInTable => exact inSelectInTable_upheld
  | inFrameset => exact inFrameset_upheld
  | afterBody => exact afterBody_upheld
  | afterFrameset => exact afterFrameset_upheld
  | afterAfterBody => exact afterAfterBody_upheld
  | afterAfterFrameset => exact afterAfterFrameset_upheld

-- Over the open elements, outwards.
@[spec]
theorem endForeign_tends (name : String) {outside : Construct origin Reply}
    (upholds : Upholds outside) (sites : List Site) : Upholds (endForeign name outside sites) := by
  induction sites with
  | nil => mvcgen [endForeign]
  | cons s rest ih =>
    cases rest with
    | nil =>
      mvcgen [endForeign]
      all_goals grind [Fitted.popThrough]
    | cons outer rest =>
      rw [endForeign]
      mvcgen [upholds, ih] with grind [Fitted.popThrough]

theorem inForeign_upheld {here : Rules origin} (upheld : here.Upheld) :
    (inForeign here).Upheld where
  space := usual_upheld.space
  text data := by
    dsimp only [inForeign]
    mvcgen
  comment := usual_upheld.comment
  doctype := usual_upheld.doctype
  start tag named := by
    dsimp only [inForeign]
    mvcgen with grind [Fitted.popUntil]
  close tag := by
    have outside := upheld.close tag
    dsimp only [inForeign]
    mvcgen with grind
  finish := usual_upheld.finish

end Rules

namespace Construct

@[spec]
theorem rulesFor_tends (token : Token) : Tends (rulesFor token : Construct origin _) Rules.Upheld := by
  mvcgen [rulesFor] with grind [Rules.of_upheld, Rules.inForeign_upheld]

theorem ruled_tends {token : Token} {act : Rules origin → Construct origin Reply}
    (upholds : ∀ rules, rules.Upheld → Upholds (act rules)) :
    Upholds (do act (← rulesFor token)) :=
  upholds_iff.mpr ((tends_iff.mp (rulesFor_tends token)).bind fun rules upheld =>
    upholds_iff.mp (upholds rules upheld))

-- One case for each kind of token.
@[spec]
theorem takeOnce_tends {token : Token} (proper : token.Proper) :
    Upholds (takeOnce token : Construct origin _) := by
  cases token with
  | fault f =>
    mvcgen [takeOnce]
    all_goals grind
  | overlong => mvcgen [takeOnce]
  | text data => exact ruled_tends fun rules upheld => upheld.text data
  | space data => exact ruled_tends fun rules upheld => upheld.space data
  | comment data => exact ruled_tends fun rules upheld => upheld.comment data
  | doctype d => exact ruled_tends fun rules upheld => upheld.doctype d
  | start tag => exact ruled_tends fun rules upheld => upheld.start tag proper
  | close tag => exact ruled_tends fun rules upheld => upheld.close tag

@[spec]
theorem takeWhileAgain_tends {token : Token} (proper : token.Proper) (fuel : Nat) :
    Upholds (takeWhileAgain token fuel : Construct origin _) := by
  induction fuel with
  | zero => mvcgen [takeWhileAgain]
  | succ fuel ih => mvcgen [takeWhileAgain, ih]

@[spec]
theorem take_tends {token : Token} (proper : token.Proper) :
    Upholds (take token : Construct origin _) := by
  mvcgen [take] with grind

@[spec]
theorem finishWhileAgain_tends (fuel : Nat) :
    Upholds (finishWhileAgain fuel : Construct origin _) := by
  induction fuel with
  | zero => mvcgen [finishWhileAgain]
  | succ fuel ih =>
    have finish (mode : Mode) : Upholds (Rules.of mode : Rules origin).finish :=
      (Rules.of_upheld mode).finish
    mvcgen [finishWhileAgain, finish, ih]

theorem Fitted.stepped {d : NodeId} {p : Progress} (fitted : p.Fitted d) {foreign : Bool}
    {tokens : List Token} {scanner : Scanner}
    (stepped : p.scanner.step foreign = some (tokens, scanner)) :
    (∀ token ∈ tokens, token.Proper) ∧ scanner.Proper :=
  Scanner.step_proper fitted.scanned stepped

-- Whatever is scanned is proper, so that what is at hand still fits when it has been taken.
@[spec]
theorem takeAll_tends (fuel : Nat) : Upholds (takeAll fuel : Construct origin _) := by
  induction fuel with
  | zero => mvcgen [takeAll]
  | succ fuel ih =>
    mvcgen [takeAll, ih] with grind [Fitted.scanning, → Fitted.stepped]

@[spec]
theorem openContainer_tends : Upholds (openContainer : Construct origin _) := by
  mvcgen [openContainer] with grind

theorem readAll_tends : Tends (readAll : Construct origin _) (· = origin.size) := by
  mvcgen [readAll] with grind [→ Hands.whole]

end Construct

end HtmlTree
