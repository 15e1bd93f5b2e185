import HtmlTree.Scan.Content
import HtmlTree.Scan.Declarations
import HtmlTree.Scan.Tags

namespace HtmlTree

namespace Scan

-- One step of scanning from the current state. `foreign` tells that the current element is not an
-- html one. Gives `false` at the end of the input.
def advance (foreign : Bool) : Scan Bool := do
  let going (act : Scan Unit) : Scan Bool := do act; pure true
  match (← get).state with
  | .data => data
  | .rcdata => rcdata
  | .rawtext => raw .rawtext
  | .script => raw .script
  | .plaintext => plaintext
  | .referenceInData => going do referenceInText; goto .data
  | .referenceInRcdata => going do referenceInText; goto .rcdata
  | .tagOpen => going tagOpen
  | .endTagOpen => going endTagOpen
  | .tagName => going tagName
  | .rawLess content => going (rawLess content)
  | .rawEndOpen content => going (rawEndOpen content)
  | .rawEndName content => going (rawEndName content)
  | .escapeStart => going (escapeStart false)
  | .escapeStartDash => going (escapeStart true)
  | .escaped => going (escaped 0)
  | .escapedDash => going (escaped 1)
  | .escapedDashDash => going (escaped 2)
  | .doubleStart => going (doubleWord .double .escaped)
  | .double => going (double 0)
  | .doubleDash => going (double 1)
  | .doubleDashDash => going (double 2)
  | .doubleLess => going doubleLess
  | .doubleEnd => going (doubleWord .escaped .double)
  | .beforeAttrName => going beforeAttrName
  | .attrName => going attrName
  | .afterAttrName => going afterAttrName
  | .beforeAttrValue => going beforeAttrValue
  | .quotedValue quote => going (quotedValue quote)
  | .bareValue => going bareValue
  | .afterAttrValue => going afterAttrValue
  | .selfClosing => going selfClosing
  | .bogusComment => going bogusComment
  | .declaration => going (declaration foreign)
  | .commentStart => going (commentStart false)
  | .commentStartDash => going (commentStart true)
  | .comment => going comment
  | .commentEndDash => going commentEndDash
  | .commentEnd => going commentEnd
  | .commentEndBang => going commentEndBang
  | .doctype => going doctype
  | .beforeDoctypeName => going beforeDoctypeName
  | .doctypeName => going doctypeName
  | .afterDoctypeName => going afterDoctypeName
  | .afterKeyword isPublic => going (afterKeyword isPublic)
  | .beforeIdentifier isPublic => going (beforeIdentifier isPublic)
  | .quotedIdentifier isPublic quote => going (quotedIdentifier isPublic quote)
  | .afterPublicIdentifier => going (betweenIdentifiers true)
  | .betweenIdentifiers => going (betweenIdentifiers false)
  | .afterSystemIdentifier => going afterSystemIdentifier
  | .bogusDoctype => going bogusDoctype
  | .cdata => going cdata

end Scan

-- The pieces that one step of scanning finds, complaints about strange characters first, or
-- nothing when the input has come to its end.
def Scanner.step (foreign : Bool) (s : Scanner) : Option (List Token × Scanner) :=
  match Scan.advance foreign s with
  | (false, _) => none
  | (true, s) =>
    let (strange, cursor) := s.cursor.report
    some (List.replicate strange (.fault ⟨"invalid-codepoint", []⟩) ++ s.queue.reverse,
      { s with cursor := cursor, queue := [] })

end HtmlTree
