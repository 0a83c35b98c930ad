import MetricQuery.Text.CaseMap
import MetricQuery.Text.Cased

/-!
# Letter case of texts

Names are compared by their lower case, grains are read in upper case, and parameter names are
joined in title case.  All three mappings are full: a character may become several, and a capital
sigma in lower case depends on the letters around it.

## Main definitions

* `lower`, `upper`, `titled` : a text in lower, upper and title case.
* `isFinalSigma` : the condition under which a capital sigma becomes a final sigma.
-/

namespace MetricQuery.Text

/-- The upper case of a character. -/
def upperChar (c : Char) : List Char :=
  if c.toNat < 0x80 then [c.toUpper] else mapCase upperRuns upperExpansions c

/-- The title case of a character. -/
def titleChar (c : Char) : List Char :=
  if c.toNat < 0x80 then [c.toUpper] else mapCase titleRuns titleExpansions c

/-- Whether the first character that is not skipped has case. -/
def meetsCased (s : List Char) : Bool :=
  match s.dropWhile isCaseIgnorable with
  | [] => false
  | c :: _ => isCased c

/-- A sigma is final when a cased character stands before it and none after it.  The text before
it is given from its last character on. -/
def isFinalSigma (before after : List Char) : Bool :=
  meetsCased before && !meetsCased after

/-- The lower case of a character between two texts, the first of them reversed. -/
def lowerChar (before : List Char) (c : Char) (after : List Char) : List Char :=
  if c.toNat < 0x80 then [c.toLower]
  else if c = 'Σ' then [if isFinalSigma before after then 'ς' else 'σ']
  else mapCase lowerRuns lowerExpansions c

/-- The lower case of a text that follows another one, which is given reversed. -/
def lowerAfter (before : List Char) : List Char → List Char
  | [] => []
  | c :: rest => lowerChar before c rest ++ lowerAfter (c :: before) rest

/-- The lower case of a text. -/
def lower (s : List Char) : List Char :=
  lowerAfter [] s

/-- The upper case of a text. -/
def upper (s : List Char) : List Char :=
  s.flatMap upperChar

/-- The title case of a text that follows another one, which is given reversed: a letter after a
cased character is in lower case, any other in title case. -/
def titledAfter (before : List Char) : List Char → List Char
  | [] => []
  | c :: rest =>
    (if before.head?.any isCased then lowerChar before c rest else titleChar c) ++
      titledAfter (c :: before) rest

/-- The title case of a text. -/
def titled (s : List Char) : List Char :=
  titledAfter [] s

end MetricQuery.Text

namespace String

/-- The text in lower case. -/
def lowerCase (s : String) : String :=
  ofList (MetricQuery.Text.lower s.toList)

/-- The text in upper case. -/
def upperCase (s : String) : String :=
  ofList (MetricQuery.Text.upper s.toList)

end String
