import AtomicCss.Markup.Token

/-! # Nesting of elements

Which start tags end an open element, how strongly an open element resists an end tag from
outside, and which elements have no content. -/

namespace AtomicCss.Markup

/-- The headings. -/
def headingTags : List String := ["h1", "h2", "h3", "h4", "h5", "h6"]

/-- Body elements whose start ends an open `head`. -/
def flowTags : List String :=
  ["a", "abbr", "acronym", "address", "b", "bdo", "big", "blockquote", "body", "br", "center",
    "cite", "code", "dd", "dfn", "dir", "div", "dl", "dt", "em", "fieldset", "font", "form",
    "frameset", "h1", "h2", "h3", "h4", "h5", "h6", "hr", "i", "iframe", "img", "kbd", "li",
    "listing", "map", "menu", "ol", "p", "pre", "q", "s", "samp", "small", "span", "strike",
    "strong", "sub", "sup", "table", "tt", "u", "ul", "var", "xmp"]

/-- Elements with the start tags that end them when they are open. -/
def endingStarts : List (List String × List String) :=
  [(["a"], ["a", "fieldset", "table", "td", "th"]),
    (["address"], ["dd", "dl", "dt", "form", "li", "ul"]),
    (["b"], ["center", "p", "td", "th"]),
    (["big", "s", "small", "strike", "tt"], ["p"]),
    (["caption", "col"], ["col", "colgroup", "tbody", "tfoot", "thead", "tr"]),
    (["colgroup"], ["colgroup", "tbody", "tfoot", "thead", "tr"]),
    (["dd"], ["dt"]),
    (["dir", "menu"], ["dd", "dl", "dt", "form", "ul"]),
    (["dl"], ["form", "li"]),
    (["dt"], ["dd", "dl"]),
    (["font"], ["center", "td", "th"]),
    (["form"], ["form"]),
    (headingTags, ["fieldset", "form", "li", "p", "table"]),
    (["head"], flowTags),
    (["hr"], ["form"]),
    (["i"], ["center", "p", "td", "th"]),
    (["legend"], ["fieldset"]),
    (["li"], ["li"]),
    (["link", "style", "title"], ["body", "frameset"]),
    (["listing", "pre", "xmp"], ["dd", "dl", "dt", "fieldset", "form", "li", "table", "ul"]),
    (["ol"], ["form"]),
    (["option"], ["optgroup", "option"]),
    (["p"],
      ["address", "blockquote", "body", "caption", "center", "col", "colgroup", "dd", "dir",
        "div", "dl", "dt", "fieldset", "form", "frameset", "h1", "h2", "h3", "h4", "h5", "h6",
        "head", "hr", "li", "listing", "menu", "ol", "p", "pre", "table", "tbody", "td", "tfoot",
        "th", "title", "tr", "ul", "xmp"]),
    (["script"], ["noscript"]),
    (["span"], ["td", "th"]),
    (["tbody"], ["tbody", "tfoot"]),
    (["td", "th"], ["tbody", "td", "tfoot", "th", "tr"]),
    (["tfoot"], ["tbody"]),
    (["thead"], ["tbody", "tfoot"]),
    (["tr"], ["tbody", "tfoot", "tr"]),
    (["u"], ["p", "td", "th"]),
    (["ul"], ["address", "form", "menu", "pre"])]

/-- Whether the start of `tag` ends an open element `current`. -/
def endsAtStart (tag current : Text) : Bool :=
  endingStarts.any fun (tags, starts) =>
    tags.any (·.toList = current) && starts.any (·.toList = tag)

/-- How strongly an element is held open. An end tag does not reach beyond an open element of
higher priority than its own. -/
def endPriorities : List (List String × Nat) :=
  [(["div"], 150), (["td", "th"], 160), (["tr"], 170), (["thead", "tbody", "tfoot"], 180),
    (["table"], 190), (["head", "body"], 200), (["html"], 220)]

/-- The priority of an element; 100 for those that are not listed. -/
def endPriority (tag : Text) : Nat :=
  ((endPriorities.find? fun (tags, _) => tags.any (·.toList = tag)).map Prod.snd).getD 100

/-- The elements that have no content. -/
def voidTags : List String :=
  ["area", "base", "basefont", "br", "col", "frame", "hr", "img", "input", "isindex", "link",
    "meta", "param"]

/-- Whether an element has no content. -/
def isVoid (tag : Text) : Bool := voidTags.any (·.toList = tag)

/-- The elements that belong into a `head` when they stand before any body. -/
def headContentTags : List String := ["script", "style", "meta", "link", "title", "base"]

/-- The elements that take the place of a body. -/
def frameTags : List String := ["noframes", "frame", "frameset"]

end AtomicCss.Markup
