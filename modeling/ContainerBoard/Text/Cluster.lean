import ContainerBoard.Text.Extending
import ContainerBoard.Text.Marks
import ContainerBoard.Text.Pictographs

/-!
# Grapheme clusters

A screen cell holds what a reader takes for one character, which may be
several code points: a letter with its accents, a flag, a family of emoji.
`clusters` cuts a text into such groups by the extended rules of Unicode.
The clusters, one after another, are the text again.
-/

namespace ContainerBoard.Text

/-- The joiner U+200D. -/
def isJoiner (c : Char) : Bool :=
  c.toNat == 0x200d

/-- A leading consonant of the Korean script. -/
def isLeadingJamo (c : Char) : Bool :=
  (0x1100 ≤ c.toNat && c.toNat ≤ 0x115f) || (0xa960 ≤ c.toNat && c.toNat ≤ 0xa97c)

def isVowelJamo (c : Char) : Bool :=
  (0x1160 ≤ c.toNat && c.toNat ≤ 0x11a7) || (0xd7b0 ≤ c.toNat && c.toNat ≤ 0xd7c6)

def isTrailingJamo (c : Char) : Bool :=
  (0x11a8 ≤ c.toNat && c.toNat ≤ 0x11ff) || (0xd7cb ≤ c.toNat && c.toNat ≤ 0xd7fb)

/-- A whole Korean syllable. -/
def isSyllable (c : Char) : Bool :=
  0xac00 ≤ c.toNat && c.toNat ≤ 0xd7a3

/-- A whole Korean syllable without a trailing consonant. -/
def isOpenSyllable (c : Char) : Bool :=
  isSyllable c && (c.toNat - 0xac00) % 28 == 0

/-- Whether the parts of a Korean syllable stay together. -/
def joinsSyllable (before next : Char) : Bool :=
  (isLeadingJamo before &&
    (isLeadingJamo next || isVowelJamo next || isSyllable next)) ||
  ((isOpenSyllable before || isVowelJamo before) &&
    (isVowelJamo next || isTrailingJamo next)) ||
  (((isSyllable before && !isOpenSyllable before) || isTrailingJamo before) &&
    isTrailingJamo next)

/-- Whether the cluster, last character first, is a pictograph with a joiner
at its end. -/
def awaitsPictograph : List Char → Bool
  | [] => false
  | last :: earlier =>
    isJoiner last &&
      match earlier.dropWhile (fun c => isExtending c || isEmojiModifier c) with
      | [] => false
      | base :: _ => isPictograph base

/-- Whether the cluster, last character first, ends in an unpaired half of a
flag. -/
def awaitsFlagHalf (cluster : List Char) : Bool :=
  (cluster.takeWhile isRegionalIndicator).length % 2 == 1

/-- Whether `next` belongs to the cluster, which is given last character
first. -/
def continues (cluster : List Char) (next : Char) : Bool :=
  match cluster with
  | [] => false
  | last :: _ =>
    if last == '\r' && next == '\n' then true
    else if isSeparator last || isSeparator next then false
    else
      joinsSyllable last next ||
      isExtending next || isEmojiModifier next || isJoiner next ||
      isSpacingMark next || isPrepended last ||
      (awaitsPictograph cluster && isPictograph next) ||
      (awaitsFlagHalf cluster && isRegionalIndicator next)

/-- The clusters of the text that follows an open cluster, which is given
last character first. -/
def clustersAfter (cluster : List Char) : List Char → List (List Char)
  | [] => if cluster.isEmpty then [] else [cluster.reverse]
  | c :: rest =>
    if cluster.isEmpty then clustersAfter [c] rest
    else if continues cluster c then clustersAfter (c :: cluster) rest
    else cluster.reverse :: clustersAfter [c] rest

/-- The grapheme clusters of a text. -/
def clusters (s : String) : List (List Char) :=
  clustersAfter [] s.toList

end ContainerBoard.Text
