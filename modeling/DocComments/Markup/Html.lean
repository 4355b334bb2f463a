import DocComments.Markup.Scan

set_option autoImplicit false

/-!
# Markup in angle brackets

Raw blocks and inline tags. A raw block starts at a line that opens with one of a few tags and ends
either at a given closing text or at a blank line. Inline, a tag, a comment, a processing
instruction, a declaration or a character data section is passed on as it is.

## Main definitions

* `Html.blockEnd?` — the text that closes the raw block starting at a line.
* `Html.startsNamedBlock` — the line starts with one of the block tags.
* `Html.startsLoneTag` — the line holds one complete tag and nothing else.
* `Html.inline?` — the inline construct at the head of a text.
* `Html.autolink?` — an address in angle brackets.
-/

namespace DocComments.Markup.Html

/-- The lower-case form of an ASCII letter. -/
def lower (c : Char) : Char :=
  if 'A' ≤ c && c ≤ 'Z' then Char.ofNat (c.toNat + 32) else c

/-! ## Tags -/

/-- Skips white space between the parts of a tag. Line ends are skipped only if `lines` allows it,
and the text must not end there. -/
def skipSpace? (lines : Bool) : List Char → Option (List Char)
  | [] => none
  | c :: rest =>
    if isLineBlank c then skipSpace? lines rest
    else if c == '\n' || c == '\r' then if lines then skipSpace? lines rest else none
    else some (c :: rest)

/-- Skips white space around the equals sign of an attribute. -/
def skipAround? (lines : Bool) : List Char → Option (List Char)
  | [] => some []
  | c :: rest =>
    if c == '\n' || c == '\r' then if lines then skipAround? lines rest else none
    else if isLineBlank c then skipAround? lines rest
    else some (c :: rest)

/-- The text after the closing quote of an attribute value. -/
def afterQuote? (lines : Bool) (mark : Char) : List Char → Option (List Char)
  | [] => none
  | c :: rest =>
    if c == mark then some rest
    else if (c == '\n' || c == '\r') && !lines then none
    else afterQuote? lines mark rest

/-- The characters that cannot stand in an attribute value without quotes. -/
def endsValue (c : Char) : Bool :=
  isAsciiSpace c || c == '"' || c == '\'' || c == '=' || c == '>' || c == '<' || c == '\x60'

/-- The text after an attribute value. -/
def afterValue? (lines : Bool) : List Char → Option (List Char)
  | [] => none
  | c :: rest =>
    if c == '"' || c == '\'' then afterQuote? lines c rest
    else if endsValue c then none
    else some (rest.dropWhile fun d => !endsValue d)

/-- The text after an attribute and its value, if it has one. -/
def afterAttribute? (lines : Bool) : List Char → Option (List Char)
  | [] => none
  | c :: rest =>
    if Text.isAsciiLetter c || c == '_' || c == ':' then
      let tail := rest.dropWhile fun d =>
        isAsciiAlphanumeric d || d == '_' || d == '.' || d == ':' || d == '-'
      match skipAround? lines tail with
      | none => none
      | some ('=' :: value) => (skipAround? lines value).bind (afterValue? lines)
      | some _ => some tail
    else
      none

/-- The text after the attributes of a tag. The first argument bounds their number. -/
def afterAttributes? (lines : Bool) : Nat → List Char → Option (List Char)
  | 0, _ => none
  | n + 1, text =>
    match skipSpace? lines text with
    | none => none
    | some rest =>
      if rest.head? == some '/' || rest.head? == some '>' then some rest
      else if rest.length == text.length then none
      else (afterAttribute? lines rest).bind (afterAttributes? lines n)

/-- The text after the bracket that ends a tag. -/
def afterBracket? : List Char → Option (List Char)
  | '>' :: rest => some rest
  | _ => none

/-- The text after the tag at the head of a text, which starts with the opening bracket. -/
def afterTag? (lines : Bool) : List Char → Option (List Char)
  | '<' :: '/' :: c :: rest =>
    if Text.isAsciiLetter c then
      afterBracket? ((rest.dropWhile fun d => isAsciiAlphanumeric d || d == '-').dropWhile
        isLineBlank)
    else
      none
  | '<' :: c :: rest =>
    if Text.isAsciiLetter c then
      let tail := rest.dropWhile fun d => isAsciiAlphanumeric d || d == '-'
      match afterAttributes? lines (tail.length + 1) tail with
      | some ('/' :: close) => afterBracket? close
      | some close => afterBracket? close
      | none => none
    else
      none
  | _ => none

/-! ## Raw blocks -/

/-- The tags whose raw block runs to the matching closing tag. -/
def verbatimTags : List String :=
  ["pre", "style", "script", "textarea"]

/-- The tags that start a raw block which runs to the next blank line. -/
def blockTags : List String :=
  ["address", "article", "aside", "base", "basefont", "blockquote", "body", "caption", "center",
    "col", "colgroup", "dd", "details", "dialog", "dir", "div", "dl", "dt", "fieldset",
    "figcaption", "figure", "footer", "form", "frame", "frameset", "h1", "h2", "h3", "h4", "h5",
    "h6", "head", "header", "hr", "html", "iframe", "legend", "li", "link", "main", "menu",
    "menuitem", "nav", "noframes", "ol", "optgroup", "option", "p", "param", "search", "section",
    "summary", "table", "tbody", "td", "tfoot", "th", "thead", "title", "tr", "track", "ul"]

/-- The text after the opening bracket starts with a tag, in any case, that ends there. -/
def startsVerbatim (tag : String) (text : List Char) : Bool :=
  let name := tag.toList
  (text.take name.length).map lower == name &&
    (text.drop name.length).head?.all fun c => isAsciiSpace c || c == '>'

/-- The text that closes the raw block whose line starts with an opening bracket and `text`. -/
def blockEnd? (text : List Char) : Option (List Char) :=
  match verbatimTags.find? (startsVerbatim · text) with
  | some tag => some (['<', '/'] ++ tag.toList ++ ['>'])
  | none =>
    match text with
    | '!' :: '-' :: '-' :: _ => some ['-', '-', '>']
    | '?' :: _ => some ['?', '>']
    | '!' :: '[' :: 'C' :: 'D' :: 'A' :: 'T' :: 'A' :: '[' :: _ => some [']', ']', '>']
    | '!' :: c :: _ => if 'A' ≤ c && c ≤ 'Z' then some ['>'] else none
    | _ => none

/-- The line that starts with an opening bracket and `text` starts with one of the block tags. -/
def startsNamedBlock (text : List Char) : Bool :=
  let text := if text.head? == some '/' then text.drop 1 else text
  let name := text.takeWhile isAsciiAlphanumeric
  let rest := text.drop name.length
  blockTags.contains (String.ofList (name.map lower)) &&
    (match rest with
     | [] => true
     | '/' :: '>' :: _ => true
     | c :: _ => c == ' ' || c == '\t' || c == '\r' || c == '\n' || c == '>')

/-- The line holds one complete tag and nothing else. -/
def startsLoneTag (text : List Char) : Bool :=
  match afterTag? false text with
  | some rest => (blankLine? rest).isSome
  | none => false

/-- The closing text occurs in a line. -/
def occurs (pattern : List Char) : List Char → Bool
  | [] => pattern.isEmpty
  | c :: rest => pattern.isPrefixOf (c :: rest) || occurs pattern rest

/-! ## Inline constructs -/

/-- The text after the first occurrence of a pattern. -/
def after? (pattern : List Char) : List Char → Option (List Char)
  | [] => none
  | c :: rest =>
    if pattern.isPrefixOf (c :: rest) then some ((c :: rest).drop pattern.length)
    else after? pattern rest

/-- The text after the inline construct at the head of a text. -/
def afterInline? : List Char → Option (List Char)
  | '<' :: '!' :: '-' :: '-' :: rest => after? ['-', '-', '>'] ('-' :: '-' :: rest)
  | '<' :: '!' :: '[' :: 'C' :: 'D' :: 'A' :: 'T' :: 'A' :: '[' :: rest =>
    let tail := rest.dropWhile (· != ']')
    if tail.isEmpty then none else afterBracket? (tail.dropWhile (· == ']'))
  | '<' :: '!' :: c :: rest =>
    if 'A' ≤ c && c ≤ 'Z' then
      let tail := rest.dropWhile fun d => 'A' ≤ d && d ≤ 'Z'
      if tail.head?.any isAsciiSpace then after? ['>'] tail else none
    else
      none
  | '<' :: '?' :: rest => after? ['?', '>'] rest
  | text => afterTag? true text

/-- The length of the inline construct at the head of a text. -/
def inline? (text : List Char) : Option Nat :=
  (afterInline? text).map fun rest => text.length - rest.length

/-! ## Addresses -/

/-- The address with a scheme before the closing bracket. -/
def uri? (text : List Char) : Option (List Char) :=
  let scheme := text.takeWhile fun c => isAsciiAlphanumeric c || c == '.' || c == '-' || c == '+'
  let rest := text.drop scheme.length
  if !text.head?.any Text.isAsciiLetter || rest.head? != some ':' then none
  else if scheme.length < 2 || 32 < scheme.length then none
  else
    let body := text.takeWhile fun c => !(c.toNat ≤ 0x20) && c != '<' && c != '>'
    if (text.drop body.length).head? == some '>' then some body else none

/-- The characters before the at sign of a mail address. -/
def isMailbox (c : Char) : Bool :=
  isAsciiAlphanumeric c ||
    ['.', '!', '#', '$', '%', '&', '\'', '*', '+', '/', '=', '?', '^', '_', '\x60', '\x7b', '|',
      '\x7d', '~', '-'].contains c

/-- A label of a host name: letters, digits and inner hyphens, at most 63 of them. -/
def isHostLabel (label : List Char) : Bool :=
  !label.isEmpty && label.length ≤ 63 && label.all (fun c => isAsciiAlphanumeric c || c == '-') &&
    label.head? != some '-' && label.getLast? != some '-'

/-- The mail address before the closing bracket. -/
def mail? (text : List Char) : Option (List Char) :=
  let mailbox := text.takeWhile isMailbox
  match text.drop mailbox.length with
  | '@' :: rest =>
    let host := rest.takeWhile fun c => isAsciiAlphanumeric c || c == '-' || c == '.'
    if !mailbox.isEmpty && (rest.drop host.length).head? == some '>' &&
        (Text.splitAt '.' host).all isHostLabel then
      some (mailbox ++ '@' :: host)
    else
      none
  | _ => none

/-- The address in angle brackets at the head of a text that follows the opening bracket. -/
def autolink? (text : List Char) : Option (List Char) :=
  (uri? text).or (mail? text)

end DocComments.Markup.Html
