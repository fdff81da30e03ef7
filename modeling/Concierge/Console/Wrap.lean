import Concierge.Text.Blank
import Concierge.Text.Width

/-!
# Wrapping

A line that is too wide for its place is broken between words; the blanks behind a word stay with it. A
word that is wider than the place is either folded or cut off with an ellipsis. A cluster, which is a
character with those that belong to it, is never broken.
-/

namespace Concierge.Console

/-- What becomes of a word that is wider than its place. -/
inductive Overflow where
  | fold
  | ellipsis
  deriving DecidableEq, Repr

/-- A character with those that belong to it, and the cells that they take. -/
structure Cluster where
  chars : List Char
  cells : Nat
  deriving DecidableEq, Repr

/-- Clusters, the last one first, with characters that belong to the last one. -/
def joined (chars : List Char) (extra : Nat) : List Cluster → List Cluster
  | [] => [⟨chars, 0⟩]
  | k :: ks => ⟨k.chars ++ chars, k.cells + extra⟩ :: ks

/-- The clusters of a text behind others, the last one first, and behind a character that can still be
presented in another way. The flag says that the next character is joined to the ones before it. -/
def clustersFrom (done : List Cluster) (last : Option Char) (isJoined : Bool) :
    List Char → List Cluster
  | [] => done
  | c :: cs =>
    if isJoined then clustersFrom (joined [c] 0 done) last false cs
    else if Text.isJoiner c then clustersFrom (joined [c] 0 done) last (!done.isEmpty) cs
    else if Text.isPresenter c then
      let isWidened := (last.map (Text.isWithin Text.widenedRanges)).getD false
      if isWidened then clustersFrom (joined [c] 1 done) none false cs
      else clustersFrom (joined [c] 0 done) last false cs
    else
      match Text.charWidth c with
      | 0 => clustersFrom (joined [c] 0 done) last false cs
      | cells => clustersFrom (⟨[c], cells⟩ :: done) (some c) false cs

/-- The clusters of a text. -/
def clusters (cs : List Char) : List Cluster := (clustersFrom [] none false cs).reverse

/-- Breaks clusters into lines of at most so many cells, behind the line so far. -/
def foldClusters (width : Nat) (line : List Char) (used : Nat) : List Cluster → List (List Char)
  | [] => if used = 0 then [] else [line]
  | k :: ks =>
    if used + k.cells > width then line :: foldClusters width k.chars k.cells ks
    else foldClusters width (line ++ k.chars) (used + k.cells) ks

/-- Breaks a word into lines of at most so many cells. -/
def folded (width : Nat) (word : List Char) : List (List Char) :=
  foldClusters width [] 0 (clusters word)

/-- The clusters that fit into so many cells; a space fills the place of one that fits in part. -/
def cutClusters : Nat → List Cluster → List Char
  | 0, _ | _, [] => []
  | width, k :: ks =>
    if k.cells ≤ width then k.chars ++ cutClusters (width - k.cells) ks else [' ']

/-- A line cut off where it is too wide. -/
def truncated (overflow : Overflow) (width : Nat) (line : List Char) : List Char :=
  if Text.width line ≤ width then line
  else
    match overflow with
    | .fold => cutClusters width (clusters line)
    | .ellipsis => cutClusters (width - 1) (clusters line) ++ ['…']

/-- The words of a line, each with the blanks behind it and the first also with those in front of it.
`word` is the word so far, its last character first, and the flags say whether it has any ink yet and
whether blanks have followed. -/
def wordsFrom (word : List Char) (hasInk hasEnded : Bool) : List Char → List (List Char)
  | [] => if hasInk then [word.reverse] else []
  | c :: cs =>
    if Text.isBlank c then wordsFrom (c :: word) hasInk hasInk cs
    else if hasEnded then word.reverse :: wordsFrom [c] true false cs
    else wordsFrom (c :: word) true false cs

/-- Where the parts of a folded word begin, and the cells that the last of them takes. -/
def foldBreaks : Nat → List (List Char) → List Nat × Nat
  | _, [] => ([], 0)
  | start, [line] => ([start], Text.width line)
  | start, line :: lines =>
    let (breaks, used) := foldBreaks (start + line.length) lines
    (start :: breaks, used)

/-- Where a line is broken, given its words from a position on and the cells that are used. -/
def breaksFrom (overflow : Overflow) (width : Nat) : Nat → Nat → List (List Char) → List Nat
  | _, _, [] => []
  | start, used, word :: words =>
    let size := Text.width (Text.trimEnd Text.isBlank word)
    let next := start + word.length
    if used + size ≤ width then breaksFrom overflow width next (used + Text.width word) words
    else if width < size then
      match overflow with
      | .fold =>
        let (breaks, used) := foldBreaks start (folded width word)
        breaks ++ breaksFrom overflow width next used words
      | .ellipsis => start :: breaksFrom overflow width next (Text.width word) words
    else if used ≠ 0 ∧ start ≠ 0 then
      start :: breaksFrom overflow width next (Text.width word) words
    else breaksFrom overflow width next used words

/-- A text cut at some positions, the first of which is given its own. -/
def cutAt (position : Nat) (cs : List Char) : List Nat → List (List Char)
  | [] => [cs]
  | b :: breaks =>
    cs.take (b - position) :: cutAt b (cs.drop (b - position)) breaks

/-- A line without as many of the blanks at its end as it has characters too many. -/
def withoutExcess (width : Nat) (line : List Char) : List Char :=
  let blanks := (line.reverse.takeWhile Text.isBlank).length
  line.take (line.length - min blanks (line.length - width))

/-- The lines that a line is wrapped to. -/
def wrapped (overflow : Overflow) (width : Nat) (line : List Char) : List (List Char) :=
  let breaks := (breaksFrom overflow width 0 0 (wordsFrom [] false false line)).filter (· ≠ 0)
  (cutAt 0 line breaks).map (withoutExcess width)

end Concierge.Console
