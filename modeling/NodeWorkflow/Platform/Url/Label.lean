import NodeWorkflow.Files.Path
import NodeWorkflow.Text.Decomposition
import NodeWorkflow.Text.LowerCase
import NodeWorkflow.Platform.Url.Letters
import NodeWorkflow.Platform.Url.Punycode

/-!
# Names of hosts

The name of a host consists of labels with dots between them. A label in another script than that of
ASCII has a form in ASCII, in which it is sent, and has to obey rules that leave one way to write
it.

Part of the platform: the client for requests sends the names of hosts this way. No statement of the
library is about it.

## Main definitions

* `Label.isWellFormed` holds the rules.
* `Label.written?` is the form of a label in ASCII, `asciiName?` that of a name.
-/

namespace NodeWorkflow.Url

namespace Label

/-! ## Composed letters -/

/-- The parts of a letter. Syllables of Hangul stay whole, since their parts are no letters. -/
def partsOf (c : Char) : List Char :=
  if 0xAC00 ≤ c.toNat && c.toNat ≤ 0xD7A3 then [c] else decompose c

/-- The letter that consists of several parts. -/
def letterOf? (parts : List Char) : Option Char :=
  let codes := parts.map Char.toNat
  Decomposition.blocks.findSome? fun block =>
    (block.sequences.find? fun (code, targets) =>
      targets = codes && isLetter (Char.ofNat code)).map fun (code, _) => Char.ofNat code

/-- A letter by its parts, with the marks behind it that are not part of it, last first. -/
structure Cluster where
  parts : List Char
  marks : List Char

def Cluster.text (k : Cluster) : List Char :=
  (match letterOf? k.parts with
    | some c => [c]
    | none => k.parts) ++ k.marks.reverse

/-- Adds a character to clusters, the last of which comes first. It becomes part of a letter unless
a mark of its own class stands between them. -/
def addTo (clusters : List Cluster) (c : Char) : List Cluster :=
  match clusters with
  | [] => [⟨[c], []⟩]
  | k :: before =>
    if k.marks.all (fun m => combiningClass m < combiningClass c) &&
        (letterOf? (k.parts ++ [c])).isSome then
      ⟨k.parts ++ [c], k.marks⟩ :: before
    else if isMark c then ⟨k.parts, c :: k.marks⟩ :: before
    else ⟨[c], []⟩ :: k :: before

/-- A label in which letters take up all the marks that can be part of them. -/
def composed (label : List Char) : List Char :=
  ((inOrder (label.flatMap partsOf)).foldl addTo []).reverse.flatMap Cluster.text

/-! ## Rules -/

/-- Whether a letter on one side of a joiner is joined, across marks. -/
def isJoined (joins : Char → Bool) (side : List Char) : Bool :=
  (side.dropWhile isAttached).head?.any joins

/-- Whether a character may stand in a label between what comes before it, last first, and what
comes behind it. -/
def isAllowed (before : List Char) (c : Char) (behind : List Char) : Bool :=
  let isBehindVirama := before.head?.any fun d => combiningClass d = viramaClass
  isLetter c ||
    c = '\u200C' &&
      (isBehindVirama || isJoined joinsBehind before && isJoined joinsBefore behind) ||
    c = '\u200D' && isBehindVirama ||
    c = '\u00B7' && before.head? = some 'l' && behind.head? = some 'l' ||
    c = '\u0375' && behind.head?.any isGreek ||
    (c = '\u05F3' || c = '\u05F4') && before.head?.any isHebrew ||
    c = '\u30FB' && (before ++ behind).any isEastAsian ||
    isArabicDigit c && !(before ++ behind).any isPersianDigit ||
    isPersianDigit c && !(before ++ behind).any isArabicDigit

/-- Whether characters may stand behind others. -/
def areAllowed (before : List Char) : List Char → Bool
  | [] => true
  | c :: behind => isAllowed before c behind && areAllowed (c :: before) behind

/-- Whether a label is read in one direction. One from right to left begins with a letter and ends
with a letter or a digit, and its digits are of one kind. -/
def isOneWay (label : List Char) : Bool :=
  let directions := label.map direction
  let last? := (directions.reverse.dropWhile (· = .attached)).head?
  !(directions.contains .leftward || directions.contains .leftwardDigit) ||
    directions.head? = some .leftward && !directions.contains .rightward &&
      !(directions.contains .digit && directions.contains .leftwardDigit) &&
      last?.any (· ≠ .neutral)

/-- Whether hyphens stand only where they may: at neither end, and not where a form in ASCII has
them. -/
def isHyphenated (label : List Char) : Bool :=
  label.head? != some '-' && label.getLast? != some '-' && (label.drop 2).take 2 != ['-', '-']

def isWellFormed (label : List Char) : Bool :=
  label != [] && isHyphenated label && !label.head?.any isAttaching && areAllowed [] label &&
    isOneWay label && composed label = label

/-! ## Forms in ASCII -/

/-- What the form of a label in another script begins with. -/
def mark : List Char := "xn--".toList

/-- Whether a label of ASCII may be sent: it obeys the rules, or it is the form of one that does. -/
def isSendable (label : List Char) : Bool :=
  if mark.isPrefixOf label then
    let form := label.drop mark.length
    form != [] && form.getLast? != some '-' && (Punycode.decode? form).any isWellFormed
  else isWellFormed label

def lengthLimit : Nat := 63

/-- The form of a label in ASCII. -/
def written? (label : List Char) : Option (List Char) :=
  let form := if label.all Punycode.isBasic then label else mark ++ Punycode.encode label
  let isFit := if label.all Punycode.isBasic then isSendable label else isWellFormed label
  if isFit && form.length ≤ lengthLimit then some form else none

end Label

def nameLimit : Nat := 253

/-- The dots that part labels. -/
def isDot (c : Char) : Bool :=
  c = '.' || c = '\u3002' || c = '\uFF0E' || c = '\uFF61'

/-- The form of a name in ASCII, in small letters. A dot at its end stays. -/
def asciiName? (name : List Char) : Option (List Char) := do
  let labels := pieces '.' ((lowerCase name).map fun c => if isDot c then '.' else c)
  let isClosed := labels.getLast? = some []
  let forms ← (if isClosed then labels.dropLast else labels).mapM Label.written?
  let form := List.intercalate ['.'] forms
  if form.length ≤ nameLimit then some (if isClosed then form ++ ['.'] else form) else none

end NodeWorkflow.Url
