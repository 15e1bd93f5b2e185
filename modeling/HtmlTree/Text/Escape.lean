namespace HtmlTree.Text

def noBreakSpace : Char := Char.ofNat 0xA0

-- Text between tags: the two brackets, the ampersand and the no-break space become references.
def escapeTextChar (c : Char) : List Char :=
  if c = '&' then ['&', 'a', 'm', 'p', ';']
  else if c = noBreakSpace then ['&', 'n', 'b', 's', 'p', ';']
  else if c = '<' then ['&', 'l', 't', ';']
  else if c = '>' then ['&', 'g', 't', ';']
  else [c]

def escapeText (text : String) : String := String.ofList (text.toList.flatMap escapeTextChar)

-- The quote around an attribute value: single only when the value holds double quotes alone.
def attributeQuote (value : String) : Char :=
  if value.toList.contains '"' && !value.toList.contains '\'' then '\'' else '"'

def escapeValueChar (quote c : Char) : List Char :=
  if c = '&' then ['&', 'a', 'm', 'p', ';']
  else if c = noBreakSpace then ['&', 'n', 'b', 's', 'p', ';']
  else if c = quote then
    if quote = '"' then ['&', 'q', 'u', 'o', 't', ';'] else ['&', '#', '3', '9', ';']
  else [c]

def escapeValue (quote : Char) (value : String) : String :=
  String.ofList (value.toList.flatMap (escapeValueChar quote))

end HtmlTree.Text
