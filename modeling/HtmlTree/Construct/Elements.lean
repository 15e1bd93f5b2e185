import HtmlTree.Builder

namespace HtmlTree.Elements

-- Elements that formatting is never carried around.
def special : List (String × String) :=
  ["address", "applet", "area", "article", "aside", "base", "basefont", "bgsound", "blockquote",
   "body", "br", "button", "caption", "center", "col", "colgroup", "command", "dd", "details",
   "dir", "div", "dl", "dt", "embed", "fieldset", "figure", "footer", "form", "frame", "frameset",
   "h1", "h2", "h3", "h4", "h5", "h6", "head", "header", "hr", "html", "iframe", "image", "img",
   "input", "isindex", "li", "link", "listing", "marquee", "menu", "meta", "nav", "noembed",
   "noframes", "noscript", "object", "ol", "p", "param", "plaintext", "pre", "script", "section",
   "select", "style", "table", "tbody", "td", "textarea", "tfoot", "th", "thead", "title", "tr",
   "ul", "wbr", "xmp"].map (fun name => (Namespace.html, name)) ++
  [(Namespace.svg, "foreignObject")]

def mathTextPoints : List (String × String) :=
  ["mi", "mo", "mn", "ms", "mtext"].map fun name => (Namespace.math, name)

-- Elements of svg whose content is html.
def svgContentPoints : List (String × String) :=
  ["foreignObject", "desc", "title"].map fun name => (Namespace.svg, name)

-- Elements that a search among the open ones does not go beyond.
def scoping : List (String × String) :=
  ["applet", "caption", "html", "marquee", "object", "table", "td", "th"].map
    (fun name => (Namespace.html, name)) ++
  mathTextPoints ++ [(Namespace.math, "annotation-xml")] ++ svgContentPoints

-- Special elements that a list item looks past.
def plainBlocks : List String := ["address", "div", "p"]

-- Elements that a new cell of a table leaves open.
def rowBounds : List String := ["tr", "html"]

-- Glyphs that are no html even where text of math is.
def mathGlyphs : List String := ["mglyph", "malignmark"]

def headings : List String := ["h1", "h2", "h3", "h4", "h5", "h6"]

-- Elements whose end is understood when the element around them ends.
def endImplied : List String := ["dd", "dt", "li", "option", "optgroup", "p", "rp", "rt"]

-- Parts of a table that hold no content themselves.
def tableParts : List String := ["table", "tbody", "tfoot", "thead", "tr"]

def rowGroups : List String := ["tbody", "tfoot", "thead"]

-- Start tags that begin another part of a table.
def tableStarts : List String :=
  ["caption", "col", "colgroup", "tbody", "td", "tfoot", "th", "thead", "tr"]

def formatting : List String :=
  ["b", "big", "code", "em", "font", "i", "s", "small", "strike", "strong", "tt", "u"]

def formattingEnds : List String := "a" :: "nobr" :: formatting

def blockStarts : List String :=
  ["address", "article", "aside", "blockquote", "center", "details", "dir", "div", "dl",
   "fieldset", "figcaption", "figure", "footer", "header", "hgroup", "main", "menu", "nav", "ol",
   "p", "section", "summary", "ul"]

def blockEnds : List String :=
  ["address", "article", "aside", "blockquote", "button", "center", "details", "dialog", "dir",
   "div", "dl", "fieldset", "figcaption", "figure", "footer", "header", "hgroup", "listing",
   "main", "menu", "nav", "ol", "pre", "section", "summary", "ul"]

-- Start tags in the body that are dealt with as in the head.
def headStarts : List String :=
  ["base", "basefont", "bgsound", "command", "link", "meta", "script", "style", "title"]

-- Elements that may be left open at the end.
def openAtEnd : List String :=
  ["dd", "dt", "li", "p", "tbody", "td", "tfoot", "th", "thead", "tr", "body", "html"]

-- Elements that may be left open when the body ends.
def openAtBodyEnd : List String := "optgroup" :: "option" :: "rp" :: "rt" :: openAtEnd

-- Start tags that end foreign content.
def breakouts : List String :=
  ["b", "big", "blockquote", "body", "br", "center", "code", "dd", "div", "dl", "dt", "em",
   "embed", "h1", "h2", "h3", "h4", "h5", "h6", "head", "hr", "i", "img", "li", "listing", "menu",
   "meta", "nobr", "ol", "p", "pre", "ruby", "s", "small", "span", "strong", "strike", "sub",
   "sup", "table", "tt", "u", "ul", "var"]

-- Elements of svg that have capital letters in their names.
def svgNames : List String :=
  ["altGlyph", "altGlyphDef", "altGlyphItem", "animateColor", "animateMotion", "animateTransform",
   "clipPath", "feBlend", "feColorMatrix", "feComponentTransfer", "feComposite",
   "feConvolveMatrix", "feDiffuseLighting", "feDisplacementMap", "feDistantLight", "feFlood",
   "feFuncA", "feFuncB", "feFuncG", "feFuncR", "feGaussianBlur", "feImage", "feMerge",
   "feMergeNode", "feMorphology", "feOffset", "fePointLight", "feSpecularLighting", "feSpotLight",
   "feTile", "feTurbulence", "foreignObject", "glyphRef", "linearGradient", "radialGradient",
   "textPath"]

def svgAttributes : List String :=
  ["attributeName", "attributeType", "baseFrequency", "baseProfile", "calcMode", "clipPathUnits",
   "contentScriptType", "contentStyleType", "diffuseConstant", "edgeMode",
   "externalResourcesRequired", "filterRes", "filterUnits", "glyphRef", "gradientTransform",
   "gradientUnits", "kernelMatrix", "kernelUnitLength", "keyPoints", "keySplines", "keyTimes",
   "lengthAdjust", "limitingConeAngle", "markerHeight", "markerUnits", "markerWidth",
   "maskContentUnits", "maskUnits", "numOctaves", "pathLength", "patternContentUnits",
   "patternTransform", "patternUnits", "pointsAtX", "pointsAtY", "pointsAtZ", "preserveAlpha",
   "preserveAspectRatio", "primitiveUnits", "refX", "refY", "repeatCount", "repeatDur",
   "requiredExtensions", "requiredFeatures", "specularConstant", "specularExponent",
   "spreadMethod", "startOffset", "stdDeviation", "stitchTiles", "surfaceScale",
   "systemLanguage", "tableValues", "targetX", "targetY", "textLength", "viewBox", "viewTarget",
   "xChannelSelector", "yChannelSelector", "zoomAndPan"]

def mathAttributes : List String := ["definitionURL"]

-- The spelling in a list that a name in lower case stands for, else the name itself.
def respell (spellings : List String) (name : String) : String :=
  (spellings.find? fun s => Text.lowerAscii s == name).getD name

end HtmlTree.Elements
