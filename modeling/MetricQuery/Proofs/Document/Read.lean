import MetricQuery.Document.Read
import MetricQuery.Proofs.Document.Lexer
import MetricQuery.Proofs.Document.Node

/-!
# Faults of data

A text that stands for no data is malformed, or an escape in it is a number that no whole character
has, or a part of its tree has a text that is no value of its kind.  The tree is looked at level by
level, with the entries that one mapping takes over from another in the place where they are taken
to; each of them is a part of the tree all the same.

## Main definitions

* `Node.PartOf` : the parts of a tree, itself included.
* `Node.Unreadable` : nodes whose text is no value of their kind.
* `Defect` : a fault of a single scalar of a text.

## Main results

* `Node.endsIn_entries` : the entries of a mapping are parts of the tree.
* `Node.Unreadable.keyTag_mem` : the kinds of unreadable nodes.
* `Node.endsIn_check` : the fault of a tree is that of one of its parts.
* `defect_of_ofDocument_eq_error` : why a text stands for no data.
-/

namespace MetricQuery.Document

open Except (endsIn_ok endsIn_error)

namespace Node

/-! ### Parts of a tree -/

/-- The parts of a tree: itself, and the items, keys and values of its parts. -/
inductive PartOf (root : Node) : Node → Prop
  | self : PartOf root root
  | item {tag : Tag} {items : List Node} {n : Node} (h : PartOf root (.sequence tag items))
      (hn : n ∈ items) : PartOf root n
  | key {tag : Tag} {own : List (Node × Node)} {entry : Node × Node}
      (h : PartOf root (.mapping tag own)) (hentry : entry ∈ own) : PartOf root entry.1
  | value {tag : Tag} {own : List (Node × Node)} {entry : Node × Node}
      (h : PartOf root (.mapping tag own)) (hentry : entry ∈ own) : PartOf root entry.2

/-- Parts of a tree, and texts, as which a sign for the text of a mapping is read. -/
def Drawn (root n : Node) : Prop :=
  PartOf root n ∨ ∃ text, n = .scalar .str text

section Drawn

variable {root n : Node}

theorem Drawn.item {tag : Tag} {items : List Node} (h : Drawn root (.sequence tag items))
    (hn : n ∈ items) : Drawn root n := by
  obtain h | ⟨text, heq⟩ := h
  · exact .inl (h.item hn)
  · exact nomatch heq

theorem Drawn.entry {tag : Tag} {own : List (Node × Node)} (h : Drawn root (.mapping tag own))
    {entry : Node × Node} (hentry : entry ∈ own) : Drawn root entry.1 ∧ Drawn root entry.2 := by
  obtain h | ⟨text, heq⟩ := h
  · exact ⟨.inl (h.key hentry), .inl (h.value hentry)⟩
  · exact nomatch heq

end Drawn

/-! ### Entries -/

/-- All keys and values of a list of entries are drawn from a tree. -/
def AllDrawn (root : Node) (es : List (Node × Node)) : Prop :=
  ∀ e ∈ es, Drawn root e.1 ∧ Drawn root e.2

section Entries

variable {root : Node}

theorem allDrawn_nil : AllDrawn root [] :=
  fun _ h => absurd h List.not_mem_nil

theorem AllDrawn.append {es es' : List (Node × Node)} (h : AllDrawn root es)
    (h' : AllDrawn root es') : AllDrawn root (es ++ es') :=
  fun e he => (List.mem_append.1 he).elim (h e) (h' e)

mutual

/-- The entries of a mapping are drawn from a tree if the mapping is. -/
theorem endsIn_entries : (n : Node) → Drawn root n →
    n.entries.EndsIn (· = .malformed) (AllDrawn root)
  | mapping _ own, h =>
    (endsIn_splitEntries own fun _ he => h.entry he).bind fun _ hr =>
      endsIn_ok (hr.1.append hr.2)
  | cycle true, _ => endsIn_ok allDrawn_nil
  | cycle false, _ => endsIn_error rfl
  | scalar .., _ => endsIn_error rfl
  | sequence .., _ => endsIn_error rfl

theorem endsIn_splitEntries : (own : List (Node × Node)) → AllDrawn root own →
    (splitEntries own).EndsIn (· = .malformed) fun r => AllDrawn root r.1 ∧ AllDrawn root r.2
  | [], _ => endsIn_ok ⟨allDrawn_nil, allDrawn_nil⟩
  | (key, value) :: rest, h => by
    obtain ⟨⟨hkey, hvalue⟩, hrest⟩ := List.forall_mem_cons.1 h
    unfold splitEntries
    split_ifs
    · refine (endsIn_takenFrom value hvalue).bind fun _ hfirst => ?_
      refine (endsIn_splitEntries rest hrest).bind fun _ hr => ?_
      exact endsIn_ok ⟨AllDrawn.append hfirst hr.1, hr.2⟩
    · refine (endsIn_splitEntries rest hrest).bind fun _ hr => endsIn_ok ⟨hr.1, ?_⟩
      refine List.forall_mem_cons.2 ⟨⟨?_, hvalue⟩, hr.2⟩
      dsimp only
      split
      · exact .inr ⟨_, rfl⟩
      · exact hkey

theorem endsIn_takenFrom : (n : Node) → Drawn root n →
    (takenFrom n).EndsIn (· = .malformed) (AllDrawn root)
  | mapping _ own, h =>
    (endsIn_splitEntries own fun _ he => h.entry he).bind fun _ hr =>
      endsIn_ok (hr.1.append hr.2)
  | sequence _ items, h =>
    (endsIn_takenFromEach items fun _ hn => h.item hn).bind fun lists hlists => by
      refine endsIn_ok fun e he => ?_
      obtain ⟨es, hes, he⟩ := List.mem_flatten.1 he
      exact hlists es (List.mem_reverse.1 hes) e he
  | cycle true, _ => endsIn_ok allDrawn_nil
  | cycle false, _ => endsIn_error rfl
  | scalar .., _ => endsIn_error rfl

theorem endsIn_takenFromEach : (items : List Node) → (∀ n ∈ items, Drawn root n) →
    (takenFromEach items).EndsIn (· = .malformed) fun lists => ∀ es ∈ lists, AllDrawn root es
  | [], _ => endsIn_ok fun _ h => absurd h List.not_mem_nil
  | n :: rest, h => by
    obtain ⟨hn, hrest⟩ := List.forall_mem_cons.1 h
    unfold takenFromEach
    refine (endsIn_entries n hn).bind fun _ hfirst => ?_
    refine (endsIn_takenFromEach rest hrest).bind fun _ hlists => ?_
    exact endsIn_ok (List.forall_mem_cons.2 ⟨hfirst, hlists⟩)

end

end Entries

/-! ### Unreadable nodes -/

/-- A node of a kind of scalars whose text is no value of the kind, for a fault that says why. -/
inductive Unreadable : Node → DocumentFault → Prop
  | scalar {tag : Tag} {text : String} {fault : DocumentFault}
      (h : tag.read text = .error fault) : Unreadable (.scalar tag text) fault
  /-- The text of a mapping stands under the sign for it. -/
  | mapping {tag : Tag} {own : List (Node × Node)} {text : String} {fault : DocumentFault}
      (htext : textAmong? own = some text) (h : tag.read text = .error fault) :
      Unreadable (.mapping tag own) fault
  /-- No mapping is an instant, whatever its text is. -/
  | instant {own : List (Node × Node)} {text : String} (htext : textAmong? own = some text) :
      Unreadable (.mapping .timestamp own) .instantStructure

/-- The kinds of which not every text is a value. -/
def selectiveTags : List Tag :=
  [.bool, .int, .float, .timestamp]

/-- A text that is not malformed for its kind is a value unless the kind is a selective one. -/
theorem mem_selectiveTags_of_read_eq_error {tag : Tag} {text : String} {fault : DocumentFault}
    (h : tag.read text = .error fault) (hfault : fault ≠ .malformed) : tag ∈ selectiveTags := by
  cases tag with
  | bool | int | float | timestamp => simp [selectiveTags]
  | null | str => exact nomatch h
  | omap | pairs | set | seq | map | merge | value | other =>
      exact absurd (Except.error.inj h).symm hfault
  | binary =>
      have hbytes : (readBytes text).EndsIn (· = .malformed) fun _ => True := by
        unfold readBytes
        split
        · split
          · exact endsIn_ok trivial
          · exact endsIn_error rfl
        · exact endsIn_error rfl
      have hmalformed : fault = .malformed :=
        (hbytes.map (f := Datum.bytes) (Q := fun _ => True) fun _ _ => trivial).fault h
      exact absurd hmalformed hfault

theorem Unreadable.keyTag_mem {n : Node} {fault : DocumentFault} (h : Unreadable n fault)
    (hfault : fault ≠ .malformed) : ∃ tag ∈ selectiveTags, n.keyTag = some tag := by
  cases h with
  | scalar h => exact ⟨_, mem_selectiveTags_of_read_eq_error h hfault, rfl⟩
  | mapping _ h => exact ⟨_, mem_selectiveTags_of_read_eq_error h hfault, rfl⟩
  | instant _ => exact ⟨.timestamp, by simp [selectiveTags], rfl⟩

/-- A node of a kind of scalars is malformed, unreadable, or has a value. -/
theorem unreadable_of_single_eq_error {n : Node} {tag : Tag} {fault : DocumentFault}
    (htag : n.keyTag = some tag) (h : single tag n = .error fault) :
    fault = .malformed ∨ Unreadable n fault := by
  unfold single at h
  split at h
  · exact .inl (Except.error.inj h).symm
  · rename_i text htext
    cases n with
    | scalar tag' text' =>
        obtain rfl := Option.some.inj htag
        obtain rfl := Option.some.inj htext
        split at h
        · rename_i hscalar
          exact nomatch hscalar
        · exact .inr (.scalar h)
    | mapping tag' own =>
        obtain rfl := Option.some.inj htag
        split at h
        · obtain rfl := Except.error.inj h
          exact .inr (.instant htext)
        · exact .inr (.mapping htext h)
    | sequence _ _ => exact nomatch htext
    | cycle _ => exact nomatch htext

/-! ### Faults of parts -/

/-- The faults that are found in a tree: its form, or a part whose text is no value of its kind. -/
def FoundIn (root : Node) (fault : DocumentFault) : Prop :=
  fault = .malformed ∨ ∃ n, PartOf root n ∧ Unreadable n fault

/-- The node of a part is drawn from a tree. -/
def Part.Drawn (root : Node) : Part → Prop
  | .key n => Node.Drawn root n
  | .item n => Node.Drawn root n
  | .unfit => True

section Parts

variable {root n : Node}

theorem Drawn.endsIn_single (h : Drawn root n) {tag : Tag} (htag : n.keyTag = some tag) :
    (single tag n).EndsIn (FoundIn root) fun _ => True := by
  cases hsingle : single tag n with
  | ok d => exact endsIn_ok trivial
  | error fault =>
      refine endsIn_error ?_
      obtain hmalformed | hunreadable := unreadable_of_single_eq_error htag hsingle
      · exact .inl hmalformed
      · obtain hpart | ⟨text, rfl⟩ := h
        · exact .inr ⟨n, hpart, hunreadable⟩
        -- A text is a value of its kind.
        · cases hunreadable with
          | scalar h => exact nomatch h

theorem drawn_of_mem_pairParts (h : Drawn root n) {p : Part} (hp : p ∈ pairParts n) :
    p.Drawn root := by
  unfold pairParts at hp
  split at hp
  · have hentry := h.entry List.mem_cons_self
    rcases List.mem_cons.1 hp with rfl | hp
    · exact hentry.1
    · obtain rfl := List.mem_singleton.1 hp
      exact hentry.2
  · obtain rfl := List.mem_singleton.1 hp
    trivial

theorem AllDrawn.part {es : List (Node × Node)} (h : AllDrawn root es) {p : Part}
    (hp : p ∈ es.flatMap fun (key, value) => [.key key, .item value]) : p.Drawn root := by
  obtain ⟨e, he, hp⟩ := List.mem_flatMap.1 hp
  rcases List.mem_cons.1 hp with rfl | hp
  · exact (h e he).1
  · obtain rfl := List.mem_singleton.1 hp
    exact (h e he).2

theorem Drawn.endsIn_parts (h : Drawn root n) :
    n.parts.EndsIn (· = .malformed) fun ps => ∀ p ∈ ps, p.Drawn root := by
  unfold parts
  split
  · refine endsIn_ok fun p hp => ?_
    obtain ⟨m, hm, rfl⟩ := List.mem_map.1 hp
    exact h.item hm
  · exact (endsIn_entries _ h).bind fun _ hes => endsIn_ok fun _ hp => AllDrawn.part hes hp
  · exact (endsIn_entries _ h).bind fun _ hes => endsIn_ok fun _ hp => AllDrawn.part hes hp
  · refine endsIn_ok fun p hp => ?_
    obtain ⟨m, hm, hp⟩ := List.mem_flatMap.1 hp
    exact drawn_of_mem_pairParts (h.item hm) hp
  · refine endsIn_ok fun p hp => ?_
    obtain ⟨m, hm, hp⟩ := List.mem_flatMap.1 hp
    exact drawn_of_mem_pairParts (h.item hm) hp
  · exact endsIn_ok fun _ hp => absurd hp List.not_mem_nil
  · exact endsIn_error rfl

theorem Part.Drawn.endsIn_checkPart {p : Part} (h : p.Drawn root) :
    (checkPart p).EndsIn (FoundIn root) fun level => ∀ n ∈ level, Node.Drawn root n := by
  have hnil : ∀ n ∈ ([] : List Node), Node.Drawn root n := fun _ hn => absurd hn List.not_mem_nil
  cases p with
  | unfit => exact endsIn_error (.inl rfl)
  | key n =>
      rw [checkPart]
      split
      · exact endsIn_error (.inl rfl)
      · rename_i tag htag
        refine iteInduction (fun _ => endsIn_error (.inl rfl)) fun _ => ?_
        exact (Node.Drawn.endsIn_single h htag).map fun _ _ => hnil
  | item n =>
      rw [checkPart]
      split
      · exact endsIn_ok hnil
      · rename_i tag htag
        refine iteInduction (fun _ => endsIn_ok ?_) fun _ => ?_
        · exact List.forall_mem_singleton.2 h
        · exact (Node.Drawn.endsIn_single h htag).map fun _ _ => hnil

/-- The induction is on the levels: those below drawn nodes are drawn. -/
theorem endsIn_checkLevels {fuel : Nat} {level : List Node} (h : ∀ n ∈ level, Drawn root n) :
    (checkLevels fuel level).EndsIn (FoundIn root) fun _ => True := by
  induction fuel generalizing level with
  | zero => exact endsIn_ok trivial
  | succ fuel ih =>
      cases level with
      | nil => exact endsIn_ok trivial
      | cons first rest =>
          unfold checkLevels
          refine Except.EndsIn.bind (P := fun inner => ∀ ns ∈ inner, ∀ n ∈ ns, Drawn root n)
            (Except.EndsIn.mapM fun n hn => ?_) fun inner hinner => ih fun n hn => ?_
          · have hparts : n.parts.EndsIn (FoundIn root) fun ps => ∀ p ∈ ps, p.Drawn root :=
              (h n hn).endsIn_parts.mono (fun _ heq => .inl heq) fun _ hps => hps
            refine hparts.bind fun ps hps => ?_
            refine (Except.EndsIn.mapM fun p hp => (hps p hp).endsIn_checkPart).bind
              fun levels hlevels => endsIn_ok fun m hm => ?_
            obtain ⟨ns, hns, hm⟩ := List.mem_flatten.1 hm
            exact hlevels ns hns m hm
          · obtain ⟨ns, hns, hn⟩ := List.mem_flatten.1 hn
            exact hinner ns hns n hn

/-- **The fault of a tree** is that it is malformed, or that of one of its parts. -/
theorem endsIn_check (root : Node) : root.check.EndsIn (FoundIn root) fun _ => True := by
  have hroot : (Part.item root).Drawn root := .inl .self
  exact hroot.endsIn_checkPart.bind fun _ hlevel => endsIn_checkLevels hlevel

end Parts

end Node

/-- A text without a tree is malformed, or ends in the fault of an escape. -/
theorem Node.endsIn_ofText (text : List Char) :
    (Node.ofText text).EndsIn
      (fun fault => fault = .malformed ∨ fault.IsLexical ∧ .faulty fault ∈ tokens text)
      fun _ => True :=
  (Node.endsIn_ofTokens (tokens text)).mono
    (fun _ hfault => hfault.imp_right fun hmem => ⟨isLexical_of_faulty_mem_tokens hmem, hmem⟩)
    fun _ h => h

/-- A fault of a single scalar of a text: an escape in the front of it that is a number of no whole
character, or a part of the tree whose text is no value of its kind. -/
inductive Defect (content : String) : DocumentFault → Prop
  | escape {count : Nat} {fault : DocumentFault} (hlexical : fault.IsLexical)
      (h : .faulty fault ∈ tokens ((Text.normalLines content.toList).take count)) :
      Defect content fault
  | part {root n : Node} {tag : Tag} {fault : DocumentFault}
      (hroot : Node.ofText (Text.normalLines content.toList) = .ok root)
      (hpart : root.PartOf n) (htag : n.keyTag = some tag) (hselective : tag ∈ Node.selectiveTags)
      (h : n.Unreadable fault) : Defect content fault

/-- **Why a text stands for no data:** it is malformed, or one of its scalars is to blame. -/
theorem defect_of_ofDocument_eq_error {content : String} {fault : DocumentFault}
    (h : Datum.ofDocument content = .error fault) (hfault : fault ≠ .malformed) :
    Defect content fault := by
  have hends : (Datum.ofDocument content).EndsIn
      (fun fault => fault = .malformed ∨ Defect content fault) fun _ => True := by
    unfold Datum.ofDocument
    dsimp only
    split
    · refine Except.EndsIn.bind (P := fun _ => True) ?_ fun _ _ => endsIn_error (.inl rfl)
      exact (Node.endsIn_ofText _).mono
        (fun _ hfault => hfault.imp_right fun hfault => .escape hfault.1 hfault.2) fun _ h => h
    · cases hroot : Node.ofText (Text.normalLines content.toList) with
      | error fault =>
          refine endsIn_error ?_
          refine ((Node.endsIn_ofText _).fault hroot).imp_right fun hfault => ?_
          rw [← List.take_length (l := Text.normalLines content.toList)] at hfault
          exact .escape hfault.1 hfault.2
      | ok root =>
          show Except.EndsIn _ _ (root.check >>= fun _ => pure root.datum)
          refine Except.EndsIn.bind (P := fun _ => True) ?_ fun _ _ => endsIn_ok trivial
          refine root.endsIn_check.mono (fun fault hfound => ?_) fun _ _ => trivial
          by_cases hfault : fault = .malformed
          · exact .inl hfault
          · obtain ⟨n, hpart, hunreadable⟩ := hfound.resolve_left hfault
            obtain ⟨tag, hselective, htag⟩ := hunreadable.keyTag_mem hfault
            exact .inr (.part hroot hpart htag hselective hunreadable)
  exact (hends.fault h).resolve_left hfault

end MetricQuery.Document
