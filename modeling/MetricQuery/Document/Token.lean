import MetricQuery.Calendar.Date
import MetricQuery.Document.Cursor
import MetricQuery.Text.Quoted

/-!
# Tokens of documents

A document is a row of tokens: marks that open and close structures, marks in front of their parts,
and scalars.

## Main definitions

* `Token` : a part of a document.
* `DocumentFault` : why a document cannot be read.
* `DocumentFault.message` : the wording, apart from that of a malformed document.
-/

namespace MetricQuery

/-- Why a document cannot be read.  A document that has not the form of one is malformed; the other
faults lie in single scalars. -/
inductive DocumentFault
  | malformed
  /-- An escape stands for a number that no character has. -/
  | characterCode (code : Nat)
  /-- An escape stands for half of a character, which is no part of a text. -/
  | halfCharacter (code : Nat)
  | calendar (fault : CalendarFault)
  | notInteger (base : Nat) (text : String)
  | integerTooLong (digits : Nat)
  | notNumber (text : String)
  /-- A part of a number counts more than any binary number. -/
  | factorTooLarge
  | notTruth (text : String)
  /-- A number has no digits. -/
  | noDigits
  /-- A text that is declared an instant is none. -/
  | notInstant
  /-- A structure is declared an instant. -/
  | instantStructure
  /-- Whatever else may keep a reader of documents from reading one. -/
  | foreign (wording : String)
deriving DecidableEq, Repr

/-- The wording of a fault. -/
def DocumentFault.message : DocumentFault → String
  | malformed => "Malformed YAML"
  | characterCode code =>
    if code < Nat.pow 2 31 then "chr() arg not in range(0x110000)"
    else "Python int too large to convert to C int"
  | halfCharacter _ => "surrogates not allowed"
  | calendar fault => fault.message
  | notInteger base text =>
    s!"invalid literal for int() with base {base}: " ++ (text.quotedLiteral.take 200).toString
  | integerTooLong digits =>
    s!"Exceeds the limit (4300 digits) for integer string conversion: value has {digits} digits" ++
      "; use sys.set_int_max_str_digits() to increase the limit"
  | notNumber text => s!"could not convert string to float: {text.quotedLiteral}"
  | factorTooLarge => "int too large to convert to float"
  | notTruth text => text.quotedLiteral
  | noDigits => "string index out of range"
  | notInstant => "'NoneType' object has no attribute 'groupdict'"
  | instantStructure => "expected string or bytes-like object, got 'list'"
  | foreign wording => wording

namespace Document

/-- A remark on how a document is to be read. -/
inductive Directive
  | version (major : Nat)
  | handle (name start : String)
  | other
deriving DecidableEq, Repr

/-- A part of a document. -/
inductive Token
  | streamEnd
  | directive (d : Directive)
  | documentStart
  | documentEnd
  | blockSequenceStart
  | blockMappingStart
  | blockEnd
  | flowSequenceStart
  | flowMappingStart
  | flowSequenceEnd
  | flowMappingEnd
  | blockEntry
  | flowEntry
  | key
  | value
  | alias (name : String)
  | anchor (name : String)
  /-- A tag, after a handle if it has one. -/
  | tag (handle : Option String) (name : String)
  /-- A scalar, and whether it stands without quotes. -/
  | scalar (isPlain : Bool) (text : String)
  /-- The place of a scalar that cannot be read. -/
  | faulty (fault : DocumentFault)
deriving DecidableEq, Repr

end Document

end MetricQuery
