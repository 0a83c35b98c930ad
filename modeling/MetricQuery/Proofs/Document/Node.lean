import MetricQuery.Document.Node
import MetricQuery.Proofs.Outcome

/-!
# Faults of trees

The tree of a row of tokens is made from its front, and each token is taken once.  So if there is no
tree, either the tokens do not have the form of one, or the fault is that of a faulty token in the
row.

## Main definitions

* `FaultOf` : the faults of a row of tokens.
* `Composer.EndOf` : what is left of a row of tokens.
* `Composer.Traced` : all parts of structures end in faults of the row and leave an end of it.

## Main results

* `Composer.traced` : what every part of a structure ends in.
* `Node.endsIn_ofTokens` : the faults for which there is no tree.
-/

namespace MetricQuery.Document

open Except (endsIn_ok endsIn_error)

/-- A fault of a row of tokens: of its form, or of a faulty token in it. -/
def FaultOf (ts : List Token) (fault : DocumentFault) : Prop :=
  fault = .malformed ∨ .faulty fault ∈ ts

theorem faultOf_malformed (ts : List Token) : FaultOf ts .malformed :=
  .inl rfl

theorem FaultOf.mono {ts ts' : List Token} {fault : DocumentFault} (h : FaultOf ts fault)
    (hts : ts ⊆ ts') : FaultOf ts' fault :=
  h.imp_right fun hmem => hts hmem

namespace Composer

/-- The tokens that are left are the end of a row. -/
def EndOf (ts : List Token) (c : Composer) : Prop :=
  c.tokens <:+ ts

section Tokens

variable {ts : List Token} {c : Composer}

theorem EndOf.next (h : c.EndOf ts) : c.next.EndOf ts :=
  (List.drop_suffix 1 c.tokens).trans h

theorem EndOf.define (h : c.EndOf ts) (name : Option String) (meaning : Named) :
    (c.define name meaning).EndOf ts := by
  cases name with
  | none => exact h
  | some name => exact h

theorem mem_tokens_of_peek_eq_faulty {fault : DocumentFault} (h : c.peek = .faulty fault) :
    .faulty fault ∈ c.tokens := by
  obtain ⟨tokens, names⟩ := c
  cases tokens with
  | nil => exact nomatch h
  | cons t rest => exact h ▸ List.mem_cons_self

/-- A misplaced token is a fault of the row, its own if it is faulty. -/
theorem EndOf.faultOf_misplaced (h : c.EndOf ts) : FaultOf ts c.misplaced := by
  unfold misplaced
  split
  · rename_i fault hpeek
    exact .inr (h.subset (mem_tokens_of_peek_eq_faulty hpeek))
  · exact faultOf_malformed ts

/-! ### Properties -/

theorem EndOf.anchor (h : c.EndOf ts) : c.anchor.2.EndOf ts := by
  unfold Composer.anchor
  split
  · exact h.next
  · exact h

theorem EndOf.endsIn_properties (h : c.EndOf ts) (handles : Handles) :
    (c.properties handles).EndsIn (FaultOf ts) fun r => r.2.EndOf ts := by
  have hanchor := h.anchor
  unfold properties
  split
  · rename_i name c' heq
    rw [heq] at hanchor
    split
    · split
      · exact endsIn_ok (EndOf.next hanchor)
      · exact endsIn_error (faultOf_malformed ts)
    · exact endsIn_ok hanchor
  · rename_i c' heq
    rw [heq] at hanchor
    split
    · split
      · exact endsIn_ok (EndOf.anchor (EndOf.next hanchor))
      · exact endsIn_error (EndOf.faultOf_misplaced (EndOf.next hanchor))
    · exact endsIn_ok hanchor

theorem EndOf.endsIn_bare (h : c.EndOf ts) (p : Properties) :
    (bare p c).EndsIn (FaultOf ts) fun r => r.2.EndOf ts :=
  iteInduction (fun _ => endsIn_error h.faultOf_misplaced) fun _ => endsIn_ok (h.define _ _)

end Tokens

/-! ### Structures -/

/-- All parts of structures that are read with the same fuel end in faults of a row of tokens, and
leave an end of it. -/
structure Traced (ts : List Token) (handles : Handles) (fuel : Nat) : Prop where
  node (position : Position) {c : Composer} (hc : c.EndOf ts) :
    (node handles position fuel c).EndsIn (FaultOf ts) fun r => r.2.EndOf ts
  part (position : Position) (closing : List Token) {c : Composer} (hc : c.EndOf ts) :
    (part handles position closing fuel c).EndsIn (FaultOf ts) fun r => r.2.EndOf ts
  blockItems {c : Composer} (hc : c.EndOf ts) :
    (blockItems handles fuel c).EndsIn (FaultOf ts) fun r => r.2.EndOf ts
  looseItems {c : Composer} (hc : c.EndOf ts) :
    (looseItems handles fuel c).EndsIn (FaultOf ts) fun r => r.2.EndOf ts
  blockEntries {c : Composer} (hc : c.EndOf ts) :
    (blockEntries handles fuel c).EndsIn (FaultOf ts) fun r => r.2.EndOf ts
  flowItems (isFirst : Bool) {c : Composer} (hc : c.EndOf ts) :
    (flowItems handles isFirst fuel c).EndsIn (FaultOf ts) fun r => r.2.EndOf ts
  flowEntries (isFirst : Bool) {c : Composer} (hc : c.EndOf ts) :
    (flowEntries handles isFirst fuel c).EndsIn (FaultOf ts) fun r => r.2.EndOf ts

section Structures

variable {ts : List Token} {handles : Handles} {fuel : Nat} {c : Composer}

theorem traced_zero : Traced ts handles 0 where
  node _ _ _ := endsIn_error (faultOf_malformed ts)
  part _ _ _ _ := endsIn_error (faultOf_malformed ts)
  blockItems _ := endsIn_error (faultOf_malformed ts)
  looseItems _ := endsIn_error (faultOf_malformed ts)
  blockEntries _ := endsIn_error (faultOf_malformed ts)
  flowItems _ _ _ := endsIn_error (faultOf_malformed ts)
  flowEntries _ _ _ := endsIn_error (faultOf_malformed ts)

theorem Traced.node_succ (h : Traced ts handles fuel) (position : Position) (hc : c.EndOf ts) :
    (Composer.node handles position (fuel + 1) c).EndsIn (FaultOf ts) fun r => r.2.EndOf ts := by
  unfold Composer.node
  split
  · split
    · exact endsIn_error (faultOf_malformed ts)
    · exact endsIn_ok hc.next
    · exact endsIn_ok hc.next
  · refine (hc.endsIn_properties handles).bind fun _ hc => ?_
    refine iteInduction (fun _ => endsIn_error (EndOf.faultOf_misplaced hc)) fun _ => ?_
    dsimp only
    split
    · exact endsIn_ok (EndOf.define (EndOf.next hc) _ _)
    · refine (h.flowItems _ (EndOf.define (EndOf.next hc) _ _)).bind fun _ hc => ?_
      exact endsIn_ok (EndOf.define hc _ _)
    · refine (h.flowEntries _ (EndOf.define (EndOf.next hc) _ _)).bind fun _ hc => ?_
      exact endsIn_ok (EndOf.define hc _ _)
    · refine iteInduction (fun _ => EndOf.endsIn_bare hc _) fun _ => ?_
      refine (h.looseItems (EndOf.define hc _ _)).bind fun _ hc => ?_
      exact endsIn_ok (EndOf.define hc _ _)
    · refine iteInduction (fun _ => EndOf.endsIn_bare hc _) fun _ => ?_
      refine (h.blockItems (EndOf.define (EndOf.next hc) _ _)).bind fun _ hc => ?_
      exact endsIn_ok (EndOf.define hc _ _)
    · refine iteInduction (fun _ => EndOf.endsIn_bare hc _) fun _ => ?_
      refine (h.blockEntries (EndOf.define (EndOf.next hc) _ _)).bind fun _ hc => ?_
      exact endsIn_ok (EndOf.define hc _ _)
    · exact EndOf.endsIn_bare hc _

theorem Traced.part_succ (h : Traced ts handles fuel) (position : Position) (closing : List Token)
    (hc : c.EndOf ts) :
    (Composer.part handles position closing (fuel + 1) c).EndsIn (FaultOf ts)
      fun r => r.2.EndOf ts := by
  unfold Composer.part
  exact iteInduction (fun _ => endsIn_ok hc) fun _ => h.node position hc

theorem Traced.blockItems_succ (h : Traced ts handles fuel) (hc : c.EndOf ts) :
    (Composer.blockItems handles (fuel + 1) c).EndsIn (FaultOf ts) fun r => r.2.EndOf ts := by
  unfold Composer.blockItems
  split
  · refine (h.part _ _ hc.next).bind fun _ hc => ?_
    exact (h.blockItems hc).bind fun _ hc => endsIn_ok hc
  · exact endsIn_ok hc.next
  · exact endsIn_error hc.faultOf_misplaced

theorem Traced.looseItems_succ (h : Traced ts handles fuel) (hc : c.EndOf ts) :
    (Composer.looseItems handles (fuel + 1) c).EndsIn (FaultOf ts) fun r => r.2.EndOf ts := by
  unfold Composer.looseItems
  split
  · refine (h.part _ _ hc.next).bind fun _ hc => ?_
    exact (h.looseItems hc).bind fun _ hc => endsIn_ok hc
  · exact endsIn_ok hc

theorem Traced.blockEntries_succ (h : Traced ts handles fuel) (hc : c.EndOf ts) :
    (Composer.blockEntries handles (fuel + 1) c).EndsIn (FaultOf ts) fun r => r.2.EndOf ts := by
  unfold Composer.blockEntries
  split
  · refine (h.part _ _ hc.next).bind fun _ hc => ?_
    dsimp only
    split
    · refine (h.part _ _ (EndOf.next hc)).bind fun _ hc => ?_
      exact (h.blockEntries hc).bind fun _ hc => endsIn_ok hc
    · exact (h.blockEntries hc).bind fun _ hc => endsIn_ok hc
  · exact endsIn_ok hc.next
  · exact endsIn_error hc.faultOf_misplaced

/-- Behind the comma in front of a part between brackets, if it is not the first. -/
theorem EndOf.behindComma (hc : c.EndOf ts) (isFirst : Bool) :
    (if isFirst then c else c.next).EndOf ts :=
  iteInduction (fun _ => hc) fun _ => hc.next

theorem Traced.flowItems_succ (h : Traced ts handles fuel) (isFirst : Bool) (hc : c.EndOf ts) :
    (Composer.flowItems handles isFirst (fuel + 1) c).EndsIn (FaultOf ts)
      fun r => r.2.EndOf ts := by
  have hcomma := hc.behindComma isFirst
  unfold Composer.flowItems
  refine iteInduction (fun _ => endsIn_ok hc.next) fun _ => ?_
  refine iteInduction (fun _ => endsIn_error hc.faultOf_misplaced) fun _ => ?_
  dsimp only
  split
  · exact endsIn_ok hcomma.next
  · refine (h.part _ _ hcomma.next).bind fun _ hc => ?_
    split
    · refine (h.part _ _ (EndOf.next hc)).bind fun _ hc => ?_
      exact (h.flowItems _ hc).bind fun _ hc => endsIn_ok hc
    · exact (h.flowItems _ hc).bind fun _ hc => endsIn_ok hc
  · refine (h.node _ hcomma).bind fun _ hc => ?_
    exact (h.flowItems _ hc).bind fun _ hc => endsIn_ok hc

theorem Traced.flowEntries_succ (h : Traced ts handles fuel) (isFirst : Bool) (hc : c.EndOf ts) :
    (Composer.flowEntries handles isFirst (fuel + 1) c).EndsIn (FaultOf ts)
      fun r => r.2.EndOf ts := by
  have hcomma := hc.behindComma isFirst
  unfold Composer.flowEntries
  refine iteInduction (fun _ => endsIn_ok hc.next) fun _ => ?_
  refine iteInduction (fun _ => endsIn_error hc.faultOf_misplaced) fun _ => ?_
  dsimp only
  split
  · exact endsIn_ok hcomma.next
  · refine (h.part _ _ hcomma.next).bind fun _ hc => ?_
    split
    · refine (h.part _ _ (EndOf.next hc)).bind fun _ hc => ?_
      exact (h.flowEntries _ hc).bind fun _ hc => endsIn_ok hc
    · exact (h.flowEntries _ hc).bind fun _ hc => endsIn_ok hc
  · refine (h.node _ hcomma).bind fun _ hc => ?_
    exact (h.flowEntries _ hc).bind fun _ hc => endsIn_ok hc

/-- Every part of a structure ends in a fault of the row of tokens or leaves an end of it.  The
induction is on the fuel, which the parts hand on to each other. -/
theorem traced (ts : List Token) (handles : Handles) (fuel : Nat) : Traced ts handles fuel := by
  induction fuel with
  | zero => exact traced_zero
  | succ fuel ih =>
      exact {
        node := fun position _ hc => ih.node_succ position hc
        part := fun position closing _ hc => ih.part_succ position closing hc
        blockItems := fun hc => ih.blockItems_succ hc
        looseItems := fun hc => ih.looseItems_succ hc
        blockEntries := fun hc => ih.blockEntries_succ hc
        flowItems := fun isFirst _ hc => ih.flowItems_succ isFirst hc
        flowEntries := fun isFirst _ hc => ih.flowEntries_succ isFirst hc }

/-! ### Documents -/

theorem endsIn_directives (version : Option Nat) (handles : Handles) (ts : List Token) :
    (directives version handles ts).EndsIn (FaultOf ts) fun r => r.2 <:+ ts := by
  fun_induction directives version handles ts with
  | case1 => exact endsIn_error (faultOf_malformed _)
  | case2 version handles major rest _ ih =>
      exact ih.mono (fun _ h => h.mono (List.subset_cons_self _ _))
        fun _ h => h.trans (List.suffix_cons _ _)
  | case3 => exact endsIn_error (faultOf_malformed _)
  | case4 version handles name start rest _ ih =>
      exact ih.mono (fun _ h => h.mono (List.subset_cons_self _ _))
        fun _ h => h.trans (List.suffix_cons _ _)
  | case5 version handles rest ih =>
      exact ih.mono (fun _ h => h.mono (List.subset_cons_self _ _))
        fun _ h => h.trans (List.suffix_cons _ _)
  | case6 => exact endsIn_ok (List.suffix_refl _)

theorem EndOf.endsIn_finish (hc : c.EndOf ts) :
    c.finish.EndsIn (FaultOf ts) fun _ => True := by
  unfold finish
  split
  · exact endsIn_ok trivial
  · have hleft : c.tokens.dropWhile (· == .documentEnd) <:+ ts :=
      (List.dropWhile_suffix _).trans hc
    have hdirectives := (endsIn_directives none [] (c.tokens.dropWhile (· == .documentEnd))).mono
      (fun _ h => h.mono hleft.subset) fun _ h => h.trans hleft
    refine hdirectives.bind fun (_, rest) hrest => ?_
    have hend : EndOf ts { c with tokens := rest } := hrest
    exact endsIn_error hend.faultOf_misplaced

theorem EndOf.endsIn_content (hc : c.EndOf ts) (handles : Handles) :
    (c.content handles).EndsIn (FaultOf ts) fun r => r.2.EndOf ts := by
  unfold content
  split
  · exact endsIn_ok hc
  · exact endsIn_ok hc
  · exact endsIn_ok hc
  · exact endsIn_ok hc
  · exact (traced ts handles _).node _ hc

end Structures

end Composer

/-- A document behind its directives. -/
theorem Node.endsIn_behindDirectives {ts rest : List Token} (handles : Handles)
    (hrest : rest <:+ ts) :
    Except.EndsIn (FaultOf ts) (fun _ => True) (do
      let c : Composer := ⟨rest, []⟩
      if c.peek != .documentStart then throw c.misplaced
      let given := usualHandles.filter fun (name, _) => !handles.has name
      let (n, c) ← c.next.content (handles ++ given)
      c.finish
      return n) := by
  have hc : Composer.EndOf ts ⟨rest, []⟩ := hrest
  refine iteInduction (fun _ => endsIn_error hc.faultOf_misplaced) fun _ => ?_
  refine (hc.next.endsIn_content _).bind fun _ hc => ?_
  exact (Composer.EndOf.endsIn_finish hc).bind fun _ _ => endsIn_ok trivial

/-- **If a row of tokens makes no tree**, its form is to blame or a faulty token in it. -/
theorem Node.endsIn_ofTokens (ts : List Token) :
    (Node.ofTokens ts).EndsIn (FaultOf ts) fun _ => True := by
  unfold Node.ofTokens
  split
  · exact endsIn_ok trivial
  · exact (Composer.endsIn_directives _ _ _).bind fun _ hrest =>
      Node.endsIn_behindDirectives _ hrest
  · exact (Composer.endsIn_directives _ _ _).bind fun _ hrest =>
      Node.endsIn_behindDirectives _ hrest
  · have hall : Composer.EndOf ts ⟨ts, []⟩ := List.suffix_refl ts
    refine ((Composer.traced ts _ _).node _ hall).bind fun _ hc => ?_
    exact (Composer.EndOf.endsIn_finish hc).bind fun _ _ => endsIn_ok trivial

end MetricQuery.Document
