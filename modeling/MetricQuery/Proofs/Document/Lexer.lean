import MetricQuery.Document.Lexer
import MetricQuery.Proofs.Outcome

/-!
# Faults of tokens

A text is read token by token up to the first place that cannot be read.  The row of tokens then
ends in a faulty one, and no other is faulty.  The text is malformed at that place, or an escape
between quotes is a number that no character has.

## Main definitions

* `DocumentFault.IsLexical` : the faults of a text that cannot be read into tokens.
* `Lexer.Genuine` : no token read so far is faulty.

## Main results

* `Lexer.Genuine.endsIn_step` : reading a further token ends in a genuine one or in a lexical fault.
* `isLexical_of_faulty_mem_tokens` : the fault of a faulty token is lexical.
-/

namespace MetricQuery

/-- The faults of a text that cannot be read into tokens. -/
def DocumentFault.IsLexical : DocumentFault → Prop
  | malformed => True
  | characterCode code => 0x10FFFF < code
  | halfCharacter code => 0xD800 ≤ code ∧ code < 0xE000
  | _ => False

namespace Document

open DocumentFault (IsLexical)
open Except (endsIn_ok endsIn_error)

theorem endsIn_malformed {α : Type} {P : α → Prop} :
    (Except.error .malformed : Except DocumentFault α).EndsIn IsLexical P :=
  endsIn_error trivial

/-! ### Scalars between quotes -/

theorem endsIn_longEscape (width : Nat) (c : Cursor) :
    (longEscape width c).EndsIn IsLexical fun _ => True := by
  unfold longEscape
  split
  · exact endsIn_malformed
  · split_ifs with hcode hhalf
    · exact endsIn_error hcode
    · exact endsIn_error hhalf
    · exact endsIn_ok trivial

theorem endsIn_quotedBreaks (fuel : Nat) (c : Cursor) :
    (quotedBreaks fuel c).EndsIn IsLexical fun _ => True := by
  induction fuel generalizing c with
  | zero => exact endsIn_ok trivial
  | succ fuel ih =>
      unfold quotedBreaks
      dsimp only
      split
      · exact endsIn_malformed
      · split
        · exact endsIn_ok trivial
        · exact (ih _).bind fun _ _ => endsIn_ok trivial

theorem endsIn_escape (c : Cursor) : (escape c).EndsIn IsLexical fun _ => True := by
  unfold escape
  split
  · exact endsIn_malformed
  · split
    · exact endsIn_ok trivial
    · exact endsIn_longEscape _ _
    · split
      · exact endsIn_quotedBreaks _ _
      · exact endsIn_malformed

/-- More of a quoted run behind what is read of it. -/
theorem endsIn_moreQuoted {double : Bool} {fuel : Nat} {c : Cursor}
    (h : (quotedRun double fuel c).EndsIn IsLexical fun _ => True) (word part : List Char) :
    (do
      let (text, c) ← quotedRun double fuel c
      return (word ++ part ++ text, c)).EndsIn IsLexical fun _ => True :=
  h.bind fun _ _ => endsIn_ok trivial

theorem endsIn_quotedRun (double : Bool) (fuel : Nat) (c : Cursor) :
    (quotedRun double fuel c).EndsIn IsLexical fun _ => True := by
  induction fuel generalizing c with
  | zero => exact endsIn_ok trivial
  | succ fuel ih =>
      have hmore (word part : List Char) (c : Cursor) := endsIn_moreQuoted (ih c) word part
      unfold quotedRun
      dsimp only
      split
      · split
        · exact hmore _ _ _
        · split
          · exact hmore _ _ _
          · exact endsIn_ok trivial
      · split
        · exact endsIn_ok trivial
        · exact hmore _ _ _
      · split
        · exact (endsIn_escape _).bind fun _ _ => hmore _ _ _
        · exact hmore _ _ _
      · exact endsIn_ok trivial

theorem endsIn_quotedGap (c : Cursor) : (quotedGap c).EndsIn IsLexical fun _ => True := by
  unfold quotedGap
  dsimp only
  split
  · exact endsIn_malformed
  · split
    · exact endsIn_ok trivial
    · exact (endsIn_quotedBreaks _ _).bind fun _ _ => endsIn_ok trivial

theorem endsIn_quotedParts (double : Bool) (fuel : Nat) (c : Cursor) :
    (quotedParts double fuel c).EndsIn IsLexical fun _ => True := by
  induction fuel generalizing c with
  | zero => exact endsIn_malformed
  | succ fuel ih =>
      unfold quotedParts
      refine (endsIn_quotedRun _ _ _).bind fun _ _ => iteInduction (fun _ => ?_) fun _ => ?_
      · exact endsIn_ok trivial
      · refine (endsIn_quotedGap _).bind fun _ _ => ?_
        exact (ih _).bind fun _ _ => endsIn_ok trivial

namespace Lexer

/-! ### Tags and directives -/

theorem endsIn_tagName (c : Cursor) : (tagName c).EndsIn IsLexical fun _ => True := by
  unfold tagName
  split
  · exact endsIn_malformed
  · split
    · exact endsIn_malformed
    · exact endsIn_ok trivial

theorem endsIn_tagHandle (c : Cursor) : (tagHandle c).EndsIn IsLexical fun _ => True := by
  unfold tagHandle
  dsimp only
  split_ifs
  · exact endsIn_malformed
  · exact endsIn_ok trivial
  · exact endsIn_ok trivial
  · exact endsIn_malformed

/-- The rest of a tag behind its handle. -/
theorem endsIn_tagBehind (handle : String) (c : Cursor) :
    Except.EndsIn IsLexical (fun (t, _) => ∀ fault, t ≠ .faulty fault) (do
      let (name, c) ← tagName c
      return (Token.tag (some handle) name, c)) :=
  (endsIn_tagName c).bind fun _ _ => endsIn_ok nofun

theorem endsIn_readTag (c : Cursor) :
    (readTag c).EndsIn IsLexical fun (t, _) => ∀ fault, t ≠ .faulty fault := by
  unfold readTag
  split_ifs
  · refine (endsIn_tagName _).bind fun _ _ => iteInduction (fun _ => ?_) fun _ => ?_
    · exact endsIn_malformed
    · exact endsIn_ok nofun
  · exact endsIn_ok nofun
  · dsimp only
    refine iteInduction (fun _ => ?_) fun _ => ?_
    · exact (endsIn_tagHandle c).bind fun _ _ => endsIn_tagBehind _ _
    · exact endsIn_tagBehind _ _

theorem endsIn_versionNumber (c : Cursor) : (versionNumber c).EndsIn IsLexical fun _ => True := by
  unfold versionNumber
  exact iteInduction (fun _ => endsIn_malformed) fun _ => endsIn_ok trivial

theorem endsIn_versionDirective (c : Cursor) :
    (versionDirective c).EndsIn IsLexical fun _ => True := by
  unfold versionDirective
  refine (endsIn_versionNumber _).bind fun _ _ => ?_
  refine iteInduction (fun _ => endsIn_malformed) fun _ => ?_
  refine (endsIn_versionNumber _).bind fun _ _ => ?_
  exact iteInduction (fun _ => endsIn_malformed) fun _ => endsIn_ok trivial

theorem endsIn_handleDirective (c : Cursor) :
    (handleDirective c).EndsIn IsLexical fun _ => True := by
  unfold handleDirective
  refine (endsIn_tagHandle _).bind fun _ _ => ?_
  refine iteInduction (fun _ => endsIn_malformed) fun _ => ?_
  refine (endsIn_tagName _).bind fun _ _ => ?_
  exact iteInduction (fun _ => endsIn_malformed) fun _ => endsIn_ok trivial

theorem endsIn_readDirective (c : Cursor) :
    (readDirective c).EndsIn IsLexical fun _ => True := by
  unfold readDirective
  refine iteInduction (fun _ => endsIn_malformed) fun _ => ?_
  have hend (d : Directive) (c : Cursor) :
      Except.EndsIn IsLexical (fun _ => True) (do
        let c := c.skipSpaces.skipComment
        if !endsLine c.peek then throw .malformed
        return (d, c.lineBreak.2)) :=
    iteInduction (fun _ => endsIn_malformed) fun _ => endsIn_ok trivial
  dsimp only
  split
  · exact (endsIn_versionDirective _).bind fun _ _ => hend _ _
  · exact (endsIn_handleDirective _).bind fun _ _ => hend _ _
  · exact hend _ _

/-! ### Genuine tokens -/

/-- No token that was read is faulty. -/
def Genuine (l : Lexer) : Prop :=
  ∀ fault, Token.faulty fault ∉ l.reversed

section Genuine

variable {l : Lexer} {t : Token}

theorem genuine_start (text : List Char) : (start text).Genuine :=
  fun _ => List.not_mem_nil

theorem Genuine.push (h : l.Genuine) (ht : ∀ fault, t ≠ .faulty fault) : (l.push t).Genuine :=
  fun fault hmem => (List.mem_cons.1 hmem).elim (fun heq => ht fault heq.symm) (h fault)

theorem Genuine.insert (h : l.Genuine) (position : Nat) (ht : ∀ fault, t ≠ .faulty fault) :
    (l.insert position t).Genuine := by
  intro fault hmem
  rcases List.mem_append.1 hmem with htake | hdrop
  · exact h fault (List.mem_of_mem_take htake)
  · rcases List.mem_cons.1 hdrop with heq | hdrop
    · exact ht fault heq.symm
    · exact h fault (List.mem_of_mem_drop hdrop)

theorem Genuine.closeTo (h : l.Genuine) (column : Int) (outer : List Int) :
    (l.closeTo column outer).Genuine := by
  induction outer generalizing l with
  | nil => exact h
  | cons outer rest ih =>
      unfold Lexer.closeTo
      exact iteInduction (fun _ => ih (h.push nofun)) fun _ => h

theorem Genuine.unwind (h : l.Genuine) (column : Int) : (l.unwind column).Genuine :=
  h.closeTo column _

theorem Genuine.openAt (h : l.Genuine) (column : Int) (position : Nat)
    (ht : ∀ fault, t ≠ .faulty fault) : (l.openAt column position t).Genuine := by
  unfold Lexer.openAt
  exact iteInduction (fun _ => h.insert position ht) fun _ => h

theorem Genuine.endsIn_dropKey (h : l.Genuine) : l.dropKey.EndsIn IsLexical Genuine := by
  unfold dropKey
  split
  · exact endsIn_ok h
  · exact iteInduction (fun _ => endsIn_malformed) fun _ => endsIn_ok h

theorem Genuine.endsIn_saveKey (h : l.Genuine) : l.saveKey.EndsIn IsLexical Genuine := by
  unfold saveKey
  refine iteInduction (fun _ => endsIn_ok h) fun _ => ?_
  exact h.endsIn_dropKey.bind fun _ hl => endsIn_ok hl

theorem Genuine.endsIn_dropStaleKeys (h : l.Genuine) :
    l.dropStaleKeys.EndsIn IsLexical Genuine := by
  unfold dropStaleKeys
  exact iteInduction (fun _ => endsIn_malformed) fun _ => endsIn_ok h

/-! ### Marks -/

theorem Genuine.endsIn_atEnd (h : l.Genuine) : l.atEnd.EndsIn IsLexical Genuine :=
  (h.unwind (-1)).endsIn_dropKey.bind fun _ hl => endsIn_ok (hl.push nofun)

theorem Genuine.endsIn_atDocumentMark (h : l.Genuine) (ht : ∀ fault, t ≠ .faulty fault) :
    (l.atDocumentMark t).EndsIn IsLexical Genuine :=
  (h.unwind (-1)).endsIn_dropKey.bind fun _ hl => endsIn_ok (Genuine.push hl ht)

theorem Genuine.endsIn_atOpening (h : l.Genuine) (ht : ∀ fault, t ≠ .faulty fault) :
    (l.atOpening t).EndsIn IsLexical Genuine :=
  h.endsIn_saveKey.bind fun _ hl => endsIn_ok (Genuine.push hl ht)

theorem Genuine.endsIn_atClosing (h : l.Genuine) (ht : ∀ fault, t ≠ .faulty fault) :
    (l.atClosing t).EndsIn IsLexical Genuine :=
  h.endsIn_dropKey.bind fun _ hl => endsIn_ok (Genuine.push hl ht)

theorem Genuine.endsIn_atFlowEntry (h : l.Genuine) : l.atFlowEntry.EndsIn IsLexical Genuine :=
  h.endsIn_dropKey.bind fun _ hl => endsIn_ok (Genuine.push hl nofun)

theorem Genuine.endsIn_atBlockEntry (h : l.Genuine) : l.atBlockEntry.EndsIn IsLexical Genuine := by
  unfold atBlockEntry
  refine iteInduction (fun _ => endsIn_malformed) fun _ => ?_
  have hopened : (l.openAt l.column l.count .blockSequenceStart).Genuine := h.openAt _ _ nofun
  exact hopened.endsIn_dropKey.bind fun _ hl => endsIn_ok (Genuine.push hl nofun)

theorem Genuine.endsIn_atKey (h : l.Genuine) : l.atKey.EndsIn IsLexical Genuine := by
  unfold atKey
  refine iteInduction (fun _ => endsIn_malformed) fun _ => ?_
  have hopened : (l.openAt l.column l.count .blockMappingStart).Genuine := h.openAt _ _ nofun
  exact hopened.endsIn_dropKey.bind fun _ hl => endsIn_ok (Genuine.push hl nofun)

theorem Genuine.endsIn_atValue (h : l.Genuine) : l.atValue.EndsIn IsLexical Genuine := by
  unfold atValue
  split
  · rename_i key _
    have hkey : (Lexer.insert { l with keys := l.keys.filter (·.1 != l.flowDepth) } key.position
        .key).Genuine := Genuine.insert h _ nofun
    have hopened := hkey.openAt (t := .blockMappingStart) key.column key.position nofun
    exact endsIn_ok (Genuine.push hopened nofun)
  · refine iteInduction (fun _ => endsIn_malformed) fun _ => ?_
    have hopened : (l.openAt l.column l.count .blockMappingStart).Genuine := h.openAt _ _ nofun
    exact hopened.endsIn_dropKey.bind fun _ hl => endsIn_ok (Genuine.push hl nofun)

/-! ### Names, tags and directives -/

theorem Genuine.endsIn_atName (h : l.Genuine) {token : String → Token}
    (ht : ∀ name fault, token name ≠ .faulty fault) :
    (l.atName token).EndsIn IsLexical Genuine := by
  unfold atName
  refine h.endsIn_saveKey.bind fun _ hl => iteInduction (fun _ => endsIn_malformed) fun _ => ?_
  exact endsIn_ok (Genuine.push hl (ht _))

theorem Genuine.endsIn_atTag (h : l.Genuine) : l.atTag.EndsIn IsLexical Genuine := by
  unfold atTag
  refine h.endsIn_saveKey.bind fun _ hl => (endsIn_readTag _).bind fun _ ht => ?_
  exact iteInduction (fun _ => endsIn_malformed) fun _ => endsIn_ok (Genuine.push hl ht)

theorem Genuine.endsIn_atDirective (h : l.Genuine) : l.atDirective.EndsIn IsLexical Genuine := by
  unfold atDirective
  refine (h.unwind (-1)).endsIn_dropKey.bind fun _ hl => ?_
  exact (endsIn_readDirective _).bind fun _ _ => endsIn_ok (Genuine.push hl nofun)

/-! ### Scalars -/

theorem Genuine.endsIn_atBlockScalar (h : l.Genuine) (folded : Bool) :
    (l.atBlockScalar folded).EndsIn IsLexical Genuine := by
  unfold atBlockScalar
  refine h.endsIn_dropKey.bind fun _ hl => ?_
  split
  · exact endsIn_malformed
  · exact endsIn_ok (Genuine.push hl nofun)

theorem Genuine.endsIn_atQuotedScalar (h : l.Genuine) (double : Bool) :
    (l.atQuotedScalar double).EndsIn IsLexical Genuine :=
  h.endsIn_saveKey.bind fun _ hl =>
    (endsIn_quotedParts _ _ _).bind fun _ _ => endsIn_ok (Genuine.push hl nofun)

theorem Genuine.endsIn_atPlainScalar (h : l.Genuine) : l.atPlainScalar.EndsIn IsLexical Genuine :=
  h.endsIn_saveKey.bind fun _ hl => endsIn_ok (Genuine.push hl nofun)

/-! ### Steps and runs -/

theorem Genuine.endsIn_dispatch (h : l.Genuine) (next : Char) :
    (l.dispatch next).EndsIn IsLexical Genuine := by
  unfold dispatch
  refine iteInduction (fun _ => h.endsIn_atDirective) fun _ => ?_
  refine iteInduction (fun _ => h.endsIn_atDocumentMark nofun) fun _ => ?_
  refine iteInduction (fun _ => h.endsIn_atDocumentMark nofun) fun _ => ?_
  split
  · exact h.endsIn_atOpening nofun
  · exact h.endsIn_atOpening nofun
  · exact h.endsIn_atClosing nofun
  · exact h.endsIn_atClosing nofun
  · exact h.endsIn_atFlowEntry
  · refine iteInduction (fun _ => h.endsIn_atBlockEntry) fun _ => ?_
    refine iteInduction (fun _ => h.endsIn_atKey) fun _ => ?_
    refine iteInduction (fun _ => h.endsIn_atValue) fun _ => ?_
    refine iteInduction (fun _ => h.endsIn_atName nofun) fun _ => ?_
    refine iteInduction (fun _ => h.endsIn_atName nofun) fun _ => ?_
    refine iteInduction (fun _ => h.endsIn_atTag) fun _ => ?_
    refine iteInduction (fun _ => h.endsIn_atBlockScalar _) fun _ => ?_
    refine iteInduction (fun _ => h.endsIn_atBlockScalar _) fun _ => ?_
    refine iteInduction (fun _ => h.endsIn_atQuotedScalar _) fun _ => ?_
    refine iteInduction (fun _ => h.endsIn_atQuotedScalar _) fun _ => ?_
    exact iteInduction (fun _ => h.endsIn_atPlainScalar) fun _ => endsIn_malformed

theorem Genuine.endsIn_step (h : l.Genuine) : l.step.EndsIn IsLexical Genuine := by
  have hgap : l.skipGap.Genuine := h
  unfold step
  refine hgap.endsIn_dropStaleKeys.bind fun l hl => ?_
  have hunwound : (l.unwind l.column).Genuine := Genuine.unwind hl _
  dsimp only
  split
  · exact hunwound.endsIn_atEnd
  · exact hunwound.endsIn_dispatch _

/-- A run from genuine tokens adds a faulty one at most at its end, for a lexical fault. -/
theorem Genuine.isLexical_of_mem_run (h : l.Genuine) {fuel : Nat} {fault : DocumentFault}
    (hmem : .faulty fault ∈ run fuel l) : fault.IsLexical := by
  induction fuel generalizing l with
  | zero => exact absurd (List.mem_reverse.1 hmem) (h fault)
  | succ fuel ih =>
      unfold run at hmem
      split at hmem
      · exact absurd (List.mem_reverse.1 hmem) (h fault)
      · split at hmem
        · rename_i next hnext
          exact ih (h.endsIn_step.value hnext) hmem
        · rename_i last hlast
          rcases List.mem_cons.1 (List.mem_reverse.1 hmem) with heq | hmem
          · obtain rfl := Token.faulty.inj heq
            exact h.endsIn_step.fault hlast
          · exact absurd (List.mem_of_mem_drop hmem) (h fault)

end Genuine

end Lexer

/-- **Where a text cannot be read into tokens**, it is malformed or an escape in it is a number that
no whole character has. -/
theorem isLexical_of_faulty_mem_tokens {text : List Char} {fault : DocumentFault}
    (h : .faulty fault ∈ tokens text) : fault.IsLexical :=
  (Lexer.genuine_start text).isLexical_of_mem_run h

end Document

end MetricQuery
