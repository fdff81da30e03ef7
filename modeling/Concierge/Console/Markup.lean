import Concierge.Console.Handler
import Concierge.Console.Style
import Concierge.Text.Emoji

/-!
# Console markup

What is printed on the console may hold style tags in brackets. A console without colours shows the
text without its tags. Backslashes in front of a tag escape it: each pair of them stands for one, and
an odd one more makes the tag plain text. A closing tag has to close a tag that is open, and what a
closed tag gives to a handler has to be a literal. Names of pictographs between the tags are shown
as the pictographs.
-/

namespace Concierge.Markup

open Console

/-- Why a text cannot be shown. -/
inductive MarkupError where
  /-- No open tag has the name of a closing tag. -/
  | unopened (tag : String) (position : Nat)
  /-- No tag is open. -/
  | nothingOpen (position : Nat)
  /-- What a tag with these parameters gives to its handler cannot be given. -/
  | handler (arguments parameters : String) (fault : Handler.ArgumentFault)
  /-- A part of the style that a tag names is no number. -/
  | style (error : NumberError)
  deriving DecidableEq, Repr

/-- The class that a markup error is reported under. -/
def MarkupError.label : MarkupError → String
  | style e => e.label
  | _ => "MarkupError"

/-- The wording of a markup error. -/
def MarkupError.message : MarkupError → String
  | handler arguments parameters (.syntactic fault) =>
    "error parsing " ++ Text.quoted arguments ++ " in " ++ Text.quoted parameters ++ "; " ++
      fault.message
  | handler _ parameters (.literal fault) =>
    "error parsing " ++ Text.quoted parameters ++ "; " ++ fault.message
  | style e => e.message
  | unopened tag position =>
    "closing tag '" ++ tag ++ "' at position " ++ toString position ++
      " doesn't match any open tag"
  | nothingOpen position =>
    "closing tag '[/]' at position " ++ toString position ++ " has nothing to close"

/-- A character with which a tag can begin. -/
def isTagStart (c : Char) : Bool :=
  ('a' ≤ c && c ≤ 'z') || c == '#' || c == '/' || c == '@'

/-- The text of a tag up to its closing bracket, in front of which no other one is opened. -/
def tagText : List Char → Option (List Char)
  | [] => none
  | c :: cs =>
    if c == ']' then some []
    else if c == '[' then none
    else (tagText cs).map (c :: ·)

/-- A tag at the front of a text: the backslashes in front of it, and what stands in its
brackets. -/
def tagAt (cs : List Char) : Option (Nat × List Char) :=
  let slashes := (cs.takeWhile (· == '\\')).length
  match cs.drop slashes with
  | '[' :: c :: rest =>
    if isTagStart c then (tagText rest).map fun text => (slashes, c :: text) else none
  | _ => none

/-- Escapes the tags of a text. `skip` counts the characters of a tag that are still to be kept as
they are. -/
def escapeFrom : Nat → List Char → List Char
  | _, [] => []
  | skip + 1, c :: cs => c :: escapeFrom skip cs
  | 0, c :: cs =>
    match tagAt (c :: cs) with
    | some (slashes, text) =>
      List.replicate (slashes + 1) '\\' ++ c :: escapeFrom (slashes + text.length + 1) cs
    | none => c :: escapeFrom 0 cs

/-- A text with a single backslash at its end doubled. -/
def doubleLast (cs : List Char) : List Char :=
  match cs.reverse with
  | '\\' :: '\\' :: _ => cs
  | '\\' :: _ => cs ++ ['\\']
  | _ => cs

/-- A text that is shown as it is. -/
def escape (s : String) : String := String.ofList (doubleLast (escapeFrom 0 s.toList))

/-- A part of a text with tags. -/
inductive Piece where
  | plain (cs : List Char)
  | tag (text : List Char) (position : Nat)
  deriving DecidableEq, Repr

/-- Plain text between tags; an escaped bracket that opens no tag is a bracket. -/
def plainPiece (reversed : List Char) : List Piece :=
  if reversed.isEmpty then []
  else [.plain (Text.replaceAll ['\\', '['] ['['] reversed.reverse)]

/-- A tag or an escaped tag. -/
def tagPieces (position slashes : Nat) (text : List Char) : List Piece :=
  let kept := List.replicate (slashes / 2) '\\'
  if slashes % 2 = 1 then [.plain kept, .plain ('[' :: text ++ [']'])]
  else [.plain kept, .tag text (position + slashes)]

/-- The pieces of a text from a position on. `skip` counts the characters of a tag that are still to
be passed over, and `reversed` is the plain text before, its last character first. -/
def piecesFrom : Nat → Nat → List Char → List Char → List Piece
  | _, _, reversed, [] => plainPiece reversed
  | skip + 1, position, reversed, _ :: cs => piecesFrom skip (position + 1) reversed cs
  | 0, position, reversed, c :: cs =>
    match tagAt (c :: cs) with
    | some (slashes, text) =>
      plainPiece reversed ++ tagPieces position slashes text ++
        piecesFrom (slashes + text.length + 1) (position + 1) [] cs
    | none => piecesFrom 0 (position + 1) (c :: reversed) cs

/-- An open tag: the normal form of its name, and its parameters. -/
structure OpenTag where
  name : List Char
  parameters : List Char
  deriving DecidableEq, Repr

/-- The normal form of the name of a tag. -/
def styleName (cs : List Char) : Except MarkupError (List Char) :=
  (Style.normalized cs).mapError .style

/-- The name and the parameters of a tag. -/
def partsOf (text : List Char) : List Char × List Char := (Text.cutAt? '=' text).getD (text, [])

/-- Checks what a closed tag gives to its handler, if it has one. -/
def checkHandler (tag : OpenTag) : Except MarkupError Unit :=
  if tag.name.head? == some '@' && !tag.parameters.isEmpty then
    let arguments := Handler.arguments (Text.strip tag.parameters)
    (Handler.checkArguments arguments).mapError
      (.handler (String.ofList arguments) (String.ofList tag.parameters))
  else .ok ()

/-- The tags that stay open when a closing tag with a name closes the last one of that name. -/
def close (text name : List Char) (position : Nat) (opened : List OpenTag) :
    Except MarkupError (List OpenTag) := do
  if name.isEmpty then
    match opened with
    | [] => throw (.nothingOpen position)
    | tag :: rest =>
      checkHandler tag
      return rest
  else
    let name ← styleName name
    match opened.find? (·.name == name) with
    | none => throw (.unopened (String.ofList ('[' :: text ++ [']'])) position)
    | some tag =>
      checkHandler tag
      return opened.eraseP (·.name == name)

/-- The tags that are open after a tag, the last one first. -/
def applyTag (text : List Char) (position : Nat) (opened : List OpenTag) :
    Except MarkupError (List OpenTag) :=
  match partsOf text with
  | ('/' :: name, _) => close text (Text.strip name) position opened
  | (name, parameters) => do return ⟨← styleName name, parameters⟩ :: opened

/-- A control code that the console does not print. -/
def isUnprinted (c : Char) : Bool :=
  c == '\x07' || c == '\x08' || c == '\x0b' || c == '\x0c' || c == '\r'

/-- Plain text as the console shows it. -/
def shownPlain (cs : List Char) : List Char := (Text.withEmojis cs).filter fun c => !isUnprinted c

/-- The text of pieces without their tags. -/
def showPieces : List OpenTag → List Piece → Except MarkupError (List Char)
  | _, [] => .ok []
  | opened, .plain cs :: rest => do return shownPlain cs ++ (← showPieces opened rest)
  | opened, .tag text position :: rest => do
    showPieces (← applyTag text position opened) rest

/-- A text as the console shows it. -/
def shown (s : String) : Except MarkupError (List Char) :=
  showPieces [] (piecesFrom 0 0 [] s.toList)

end Concierge.Markup
