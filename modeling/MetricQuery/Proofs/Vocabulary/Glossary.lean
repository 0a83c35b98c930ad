import Mathlib.Data.List.Induction
import Mathlib.Data.List.TakeWhile
import MetricQuery.Proofs.Distinct
import MetricQuery.Proofs.Keyed
import MetricQuery.Vocabulary.Glossary

/-!
# Glossaries are written once

A glossary is meant to be an ordered map that is written once: an item is held under its name in
lower case, the first item with a name stays, and the items stand in the order in which they came.
Here this is said of whole runs.  All items that the calls of a run offer are put in a row, and the
glossary holds those whose name does not come up earlier in the row (`Glossary.firstNamed`).  So no
call has to be looked into to know what is found under a name: it is the first item of the row that
has the name.

An item whose name is no text is refused with a fault and ends its call, so what stands behind it in
the same call is not offered.

## Main definitions

* `Named.key` : the name of an item in lower case.
* `LawfulNamed` : things that have the same name if they are equal.
* `Glossary.Call`, `Glossary.Call.apply` : a call that offers items, and what it does.
* `Glossary.firstNamed` : the items whose name does not come up earlier.
* `Glossary.Holds` : a glossary that holds the first of the offered items.

## Main results

* `Glossary.prefix_run` : a glossary only ever grows at its end.
* `Glossary.Holds.apply`, `Glossary.Holds.run` : what one call and what a run leaves.
* `Glossary.run_writeOnce` : all that can be observed of a glossary after a run.
-/

namespace MetricQuery

/-! ### Names -/

namespace Named

variable {α : Type} [Named α]

/-- The name of an item, if it is a text. -/
def text? (item : α) : Option String :=
  (Datum.scalar (Named.name item)).text?

/-- Whether the name of an item is a text. -/
def hasText (item : α) : Bool :=
  (text? item).isSome

/-- The name of an item in lower case. -/
def key (item : α) : String :=
  ((text? item).getD "").lowerCase

theorem key_of_text? {item : α} {s : String} (h : text? item = some s) :
    key item = s.lowerCase := by
  rw [key, h, Option.getD_some]

end Named

/-- Things that have the same name if they are equal. -/
class LawfulNamed (α : Type) [BEq α] [Named α] : Prop where
  name_beq {a b : α} : (a == b) = true → (Named.name a == Named.name b) = true

instance : LawfulNamed Dimension where
  name_beq {a b} h := by
    have hattributes : a.attributes = b.attributes := of_decide_eq_true h
    have hname : a.apiName = b.apiName := congrArg (·.1.1) hattributes
    exact Scalar.beq_iff.2 (congrArg Denotation.text hname)

instance : LawfulNamed Metric where
  name_beq {a b} h := by
    cases a
    cases b
    exact (Bool.and_eq_true_iff.1 h).1

/-- Equal items whose names are texts have the same key. -/
theorem LawfulNamed.key_eq {α : Type} [BEq α] [Named α] [LawfulNamed α] {a b : α}
    (ha : Named.hasText a = true) (hb : Named.hasText b = true) (h : (a == b) = true) :
    Named.key a = Named.key b := by
  have hname := Scalar.beq_iff.1 (LawfulNamed.name_beq h)
  unfold Named.hasText Named.key Named.text? at *
  cases hna : Named.name a <;> cases hnb : Named.name b <;>
    simp_all [Datum.text?, Scalar.denotation]

namespace Glossary

variable {α : Type} [Named α]

/-! ### Calls -/

/-- A call that offers items to a glossary: one item, several ones, or one whose name must not be
taken. -/
inductive Call (α : Type)
  | add (item : α)
  | addAll (items : List α)
  | register (item : α)

/-- What a call answers. -/
inductive Answer
  /-- Whether anything was added. -/
  | added (changed : Bool)
  | registered
  /-- The name is taken. -/
  | taken
  | fault (fault : Fault)

namespace Call

/-- What a call does and answers. -/
def apply (g : Glossary α) : Call α → Glossary α × Answer
  | add item =>
    match g.add item with
    | .ok (g', added) => (g', .added added)
    | .error fault => (g, .fault fault)
  | addAll items =>
    match g.addAll items with
    | (g', .ok changed) => (g', .added changed)
    | (g', .error fault) => (g', .fault fault)
  | register item =>
    match g.add item with
    | .ok (g', true) => (g', .registered)
    | .ok (_, false) => (g, .taken)
    | .error fault => (g, .fault fault)

/-- The items of a call. -/
def items : Call α → List α
  | add item | register item => [item]
  | addAll items => items

/-- The items that a call offers: those in front of the first one whose name is no text. -/
def offers (c : Call α) : List α :=
  c.items.takeWhile Named.hasText

end Call

/-- The registration of a dimension, as a call. -/
theorem apply_register (g : Glossary Dimension) (d : Dimension) :
    (Call.register d).apply g =
      match g.register? d with
      | some g' => (g', .registered)
      | none => (g, .taken) := by
  have hadd : g.add d = .ok (g.offer d.apiName d) := rfl
  rw [Call.apply, hadd, register?]
  obtain ⟨g', _ | _⟩ := g.offer d.apiName d <;> rfl

/-- A glossary after several calls. -/
def run (g : Glossary α) (calls : List (Call α)) : Glossary α :=
  calls.foldl (fun g c => (c.apply g).1) g

/-! ### One item -/

section OneItem

variable {g g' : Glossary α} {item : α} {name : String} {b : Bool}

omit [Named α] in
theorem offer_of_mem (h : name.lowerCase ∈ g.entries.keys) : g.offer name item = (g, false) :=
  if_pos (Keyed.has_iff.2 h)

omit [Named α] in
theorem offer_of_notMem (h : name.lowerCase ∉ g.entries.keys) :
    g.offer name item = (⟨g.entries ++ [(name.lowerCase, item)]⟩, true) :=
  if_neg fun hhas => h (Keyed.has_iff.1 hhas)

theorem add_of_text? (h : Named.text? item = some name) :
    g.add item = .ok (g.offer name item) := by
  have hread : (Datum.scalar (Named.name item)).readText = .ok name := by
    rw [Datum.readText, Datum.readTextFor]
    unfold Named.text? at h
    rw [h]
  rw [add, hread]
  rfl

theorem exists_add_of_text?_eq_none (h : Named.text? item = none) (g : Glossary α) :
    ∃ fault, g.add item = .error fault := by
  have hread : ∃ fault, (Datum.scalar (Named.name item)).readText = .error fault := by
    rw [Datum.readText, Datum.readTextFor]
    unfold Named.text? at h
    rw [h]
    exact ⟨_, rfl⟩
  obtain ⟨fault, hfault⟩ := hread
  exact ⟨fault, by rw [add, hfault]; rfl⟩

/-- An item is added at the end if its name is a text that is not taken, and else nothing changes.
-/
theorem add_eq_ok_iff :
    g.add item = .ok (g', b) ↔ Named.hasText item = true ∧
      (Named.key item ∈ g.entries.keys ∧ g' = g ∧ b = false ∨
        Named.key item ∉ g.entries.keys ∧ g' = ⟨g.entries ++ [(Named.key item, item)]⟩ ∧
          b = true) := by
  cases hname : Named.text? item with
  | none =>
      obtain ⟨fault, hfault⟩ := exists_add_of_text?_eq_none hname g
      rw [hfault, Named.hasText, hname]
      exact ⟨(nomatch ·), fun h => nomatch h.1⟩
  | some name =>
      rw [add_of_text? hname, Except.ok.injEq, Named.key_of_text? hname, Named.hasText, hname]
      by_cases hmem : name.lowerCase ∈ g.entries.keys
      · rw [offer_of_mem hmem]
        simp [hmem, eq_comm]
      · rw [offer_of_notMem hmem]
        simp [hmem, eq_comm]

end OneItem

/-! ### Growth -/

section Growth

variable {g g' : Glossary α} {items : List α} {calls : List (Call α)}

theorem prefix_add {item : α} {b : Bool} (h : g.add item = .ok (g', b)) :
    g.entries <+: g'.entries := by
  obtain ⟨-, ⟨-, rfl, -⟩ | ⟨-, rfl, -⟩⟩ := add_eq_ok_iff.1 h
  · exact List.prefix_rfl
  · exact List.prefix_append _ _

theorem addAll_cons_of_error {item : α} {fault : Fault} (h : g.add item = .error fault) :
    g.addAll (item :: items) = (g, .error fault) := by
  rw [addAll, h]

theorem addAll_cons_of_ok {item : α} {b : Bool} (h : g.add item = .ok (g', b)) :
    g.addAll (item :: items) =
      ((g'.addAll items).1, (g'.addAll items).2.map (b || ·)) := by
  rw [addAll, h]

theorem prefix_addAll (g : Glossary α) (items : List α) :
    g.entries <+: (g.addAll items).1.entries := by
  induction items generalizing g with
  | nil => exact List.prefix_rfl
  | cons item items ih =>
      cases hadd : g.add item with
      | error fault => exact ⟨[], by rw [addAll_cons_of_error hadd, List.append_nil]⟩
      | ok r =>
          obtain ⟨g', b⟩ := r
          rw [addAll_cons_of_ok hadd]
          exact (prefix_add hadd).trans (ih g')

/-- A call leaves the items of a glossary where they are. -/
theorem prefix_apply (g : Glossary α) (c : Call α) : g.entries <+: (c.apply g).1.entries := by
  cases c with
  | add item =>
      rw [Call.apply]
      cases hadd : g.add item with
      | error fault => exact List.prefix_rfl
      | ok r => exact prefix_add hadd
  | register item =>
      rw [Call.apply]
      cases hadd : g.add item with
      | error fault => exact List.prefix_rfl
      | ok r =>
          obtain ⟨g', _ | _⟩ := r
          · exact List.prefix_rfl
          · exact prefix_add hadd
  | addAll items =>
      have hgrown := prefix_addAll g items
      rw [Call.apply]
      cases hadd : g.addAll items with
      | mk g' outcome =>
          rw [hadd] at hgrown
          cases outcome <;> exact hgrown

/-- A glossary only ever grows at its end. -/
theorem prefix_run (g : Glossary α) (calls : List (Call α)) :
    g.entries <+: (g.run calls).entries := by
  induction calls generalizing g with
  | nil => exact List.prefix_rfl
  | cons c calls ih => exact (prefix_apply g c).trans (ih (c.apply g).1)

omit [Named α] in
/-- What is found under a name is found there in every glossary that has grown from it. -/
theorem get?_of_prefix {name : String} {item : α} (hgrown : g.entries <+: g'.entries)
    (h : g.get? name = some item) : g'.get? name = some item := by
  obtain ⟨more, hmore⟩ := hgrown
  unfold get? at *
  rw [← hmore, Keyed.get?_append, h, Option.some_or]

/-- Several items are added exactly if the glossary grows. -/
theorem addAll_eq_ok_iff_size_lt {b : Bool} (h : (g.addAll items).2 = .ok b) :
    b = true ↔ g.size < (g.addAll items).1.size := by
  induction items generalizing g b with
  | nil =>
      obtain rfl := Except.ok.inj h
      simp [addAll]
  | cons item items ih =>
      cases hadd : g.add item with
      | error fault =>
          rw [addAll_cons_of_error hadd] at h
          exact nomatch h
      | ok r =>
          obtain ⟨g', added⟩ := r
          rw [addAll_cons_of_ok hadd] at h ⊢
          dsimp only at h ⊢
          cases hrest : (g'.addAll items).2 with
          | error fault =>
              rw [hrest] at h
              exact nomatch h
          | ok changed =>
              rw [hrest] at h
              obtain rfl := Except.ok.inj h
              have hgrown : g'.size ≤ (g'.addAll items).1.size := (prefix_addAll g' items).length_le
              have hchanged := ih hrest
              obtain ⟨-, ⟨-, rfl, rfl⟩ | ⟨-, rfl, rfl⟩⟩ := add_eq_ok_iff.1 hadd
              · simpa using hchanged
              · simp only [size, List.length_append, List.length_singleton] at hgrown ⊢
                simp only [Bool.true_or, true_iff]
                omega

end Growth

/-! ### The first items with a name -/

/-- The items whose name does not come up earlier, in whichever letter case. -/
def firstNamed (offered : List α) : List α :=
  (offered.zipIdx.filter fun (item, i) =>
    !((offered.take i).map Named.key).contains (Named.key item)).map (·.1)

section FirstNamed

variable {offered : List α} {item : α}

theorem firstNamed_concat (offered : List α) (item : α) :
    firstNamed (offered ++ [item]) = firstNamed offered ++
      if Named.key item ∈ offered.map Named.key then [] else [item] := by
  have hbefore : ∀ p ∈ offered.zipIdx,
      (!(((offered ++ [item]).take p.2).map Named.key).contains (Named.key p.1)) =
        !((offered.take p.2).map Named.key).contains (Named.key p.1) := by
    intro p hp
    have hlt : p.2 < offered.length := by
      have := List.snd_lt_of_mem_zipIdx hp
      omega
    rw [List.take_append_of_le_length (by omega)]
  rw [firstNamed, List.zipIdx_append, List.filter_append, List.map_append,
    List.filter_congr hbefore, firstNamed]
  congr 1
  by_cases h : Named.key item ∈ offered.map Named.key
  · simp [h]
  · simp [h]

/-- The keys of the first items are those of all items. -/
theorem mem_keys_firstNamed {key : String} :
    key ∈ (firstNamed offered).map Named.key ↔ key ∈ offered.map Named.key := by
  induction offered using List.reverseRecOn with
  | nil => rfl
  | append_singleton offered item ih =>
      rw [firstNamed_concat, List.map_append, List.mem_append, ih, List.map_append,
        List.mem_append]
      by_cases h : Named.key item ∈ offered.map Named.key
      · rw [if_pos h]
        constructor
        · rintro (hkey | hkey)
          · exact .inl hkey
          · exact absurd hkey List.not_mem_nil
        · rintro (hkey | hkey)
          · exact .inl hkey
          · rw [List.map_singleton, List.mem_singleton] at hkey
            exact .inl (hkey ▸ h)
      · rw [if_neg h]

/-- The first items have different keys. -/
theorem nodup_keys_firstNamed (offered : List α) : ((firstNamed offered).map Named.key).Nodup := by
  induction offered using List.reverseRecOn with
  | nil => exact .nil
  | append_singleton offered item ih =>
      rw [firstNamed_concat, List.map_append]
      by_cases h : Named.key item ∈ offered.map Named.key
      · rw [if_pos h, List.map_nil, List.append_nil]
        exact ih
      · rw [if_neg h, List.map_singleton, List.nodup_append]
        refine ⟨ih, List.nodup_singleton _, fun key hkey key' hkey' heq => h ?_⟩
        rw [← List.mem_singleton.1 hkey', ← heq]
        exact mem_keys_firstNamed.1 hkey

theorem mem_of_mem_firstNamed (h : item ∈ firstNamed offered) : item ∈ offered := by
  obtain ⟨p, hp, rfl⟩ := List.mem_map.1 h
  exact List.fst_mem_of_mem_zipIdx (List.mem_filter.1 hp).1

/-- A key is found among the first items where it is found among all items. -/
theorem find?_firstNamed (offered : List α) (key : String) :
    (firstNamed offered).find? (Named.key · == key) = offered.find? (Named.key · == key) := by
  induction offered using List.reverseRecOn with
  | nil => rfl
  | append_singleton offered item ih =>
      rw [firstNamed_concat, List.find?_append, List.find?_append, ih]
      by_cases h : Named.key item ∈ offered.map Named.key
      · rw [if_pos h]
        by_cases hkey : Named.key item = key
        · -- The key has been found before, so the last item is not looked at.
          obtain ⟨other, hother, hsame⟩ := List.mem_map.1 h
          have hfound : (offered.find? (Named.key · == key)).isSome := by
            rw [List.find?_isSome]
            exact ⟨other, hother, by rw [hsame, hkey, beq_self_eq_true]⟩
          obtain ⟨found, hfound⟩ := Option.isSome_iff_exists.1 hfound
          rw [hfound, Option.some_or, Option.some_or]
        · simp [hkey]
      · rw [if_neg h]

end FirstNamed

/-! ### What a glossary holds -/

/-- A glossary holds the first ones of the offered items under their names in lower case. -/
structure Holds (g : Glossary α) (offered : List α) : Prop where
  entries : g.entries = (firstNamed offered).map fun item => (Named.key item, item)
  hasText : ∀ item ∈ offered, Named.hasText item = true

section Holds

variable {g g' : Glossary α} {offered items : List α} {item : α} {b : Bool}

theorem holds_empty : (empty : Glossary α).Holds [] :=
  ⟨rfl, fun _ h => absurd h List.not_mem_nil⟩

theorem Holds.items_eq (h : g.Holds offered) : g.items = firstNamed offered := by
  rw [Glossary.items, h.entries, List.map_map]
  exact List.map_id _

theorem Holds.mem_keys (h : g.Holds offered) {key : String} :
    key ∈ g.entries.keys ↔ key ∈ offered.map Named.key := by
  rw [← mem_keys_firstNamed, h.entries, Keyed.keys, List.map_map]
  rfl

/-- Under a name stands the first offered item that has it. -/
theorem Holds.get?_eq (h : g.Holds offered) (name : String) :
    g.get? name = offered.find? (Named.key · == name.lowerCase) := by
  rw [get?, Keyed.get?, h.entries, List.find?_map, Option.map_map, ← find?_firstNamed]
  exact congrFun Option.map_id _

theorem Holds.add (h : g.Holds offered) (hadd : g.add item = .ok (g', b)) :
    g'.Holds (offered ++ [item]) := by
  obtain ⟨htext, hitem⟩ := add_eq_ok_iff.1 hadd
  refine ⟨?_, ?_⟩
  · rw [firstNamed_concat]
    obtain ⟨hmem, rfl, -⟩ | ⟨hmem, rfl, -⟩ := hitem
    · rw [if_pos (h.mem_keys.1 hmem), List.append_nil, h.entries]
    · rw [if_neg fun hkey => hmem (h.mem_keys.2 hkey), List.map_append, h.entries]
      rfl
  · intro other hother
    rcases List.mem_append.1 hother with hother | hother
    · exact h.hasText other hother
    · rw [List.mem_singleton.1 hother]
      exact htext

/-- Several items are added one after another up to the first one whose name is no text. -/
theorem Holds.addAll (h : g.Holds offered) (items : List α) :
    (g.addAll items).1.Holds (offered ++ items.takeWhile Named.hasText) := by
  induction items generalizing g offered with
  | nil =>
      rw [List.takeWhile_nil, List.append_nil]
      exact h
  | cons item items ih =>
      cases hadd : g.add item with
      | error fault =>
          have htext : Named.hasText item = false := by
            by_contra htext
            obtain ⟨name, hname⟩ := Option.isSome_iff_exists.1 (Bool.not_eq_false _ ▸ htext)
            exact nomatch hadd.symm.trans (add_of_text? hname)
          rw [addAll_cons_of_error hadd, List.takeWhile_cons_of_neg (by simp [htext]),
            List.append_nil]
          exact h
      | ok r =>
          obtain ⟨g', b⟩ := r
          have htext : Named.hasText item = true := (add_eq_ok_iff.1 hadd).1
          rw [addAll_cons_of_ok hadd, List.takeWhile_cons_of_pos htext, List.append_cons]
          exact ih (h.add hadd)

/-- Several items are added without a fault exactly if all names are texts. -/
theorem exists_addAll_eq_ok_iff (g : Glossary α) :
    (∃ b, (g.addAll items).2 = .ok b) ↔ ∀ item ∈ items, Named.hasText item = true := by
  induction items generalizing g with
  | nil => exact ⟨fun _ _ h => absurd h List.not_mem_nil, fun _ => ⟨false, rfl⟩⟩
  | cons item items ih =>
      rw [List.forall_mem_cons]
      cases hadd : g.add item with
      | error fault =>
          rw [addAll_cons_of_error hadd]
          constructor
          · rintro ⟨b, h⟩
            exact nomatch h
          · rintro ⟨htext, -⟩
            obtain ⟨name, hname⟩ := Option.isSome_iff_exists.1 htext
            exact nomatch hadd.symm.trans (add_of_text? hname)
      | ok r =>
          obtain ⟨g', added⟩ := r
          rw [addAll_cons_of_ok hadd, ← ih g']
          have htext : Named.hasText item = true := (add_eq_ok_iff.1 hadd).1
          dsimp only
          cases (g'.addAll items).2 with
          | error fault => simp [Except.map]
          | ok changed => simp [Except.map, htext]

/-- A glossary can be made of items whose names are texts. -/
theorem exists_ofItems_eq_ok (h : ∀ item ∈ items, Named.hasText item = true) :
    ∃ g, ofItems items = .ok g ∧ g.Holds items := by
  have hholds := holds_empty.addAll items
  rw [List.takeWhile_eq_self_iff.2 h, List.nil_append] at hholds
  obtain ⟨b, hb⟩ := (exists_addAll_eq_ok_iff (empty : Glossary α)).2 h
  refine ⟨_, ?_, hholds⟩
  rw [ofItems]
  cases hadd : (empty : Glossary α).addAll items with
  | mk g outcome =>
      rw [hadd] at hb
      dsimp only at hb
      rw [hb]

/-- What one call leaves. -/
theorem Holds.apply (h : g.Holds offered) (c : Call α) :
    (c.apply g).1.Holds (offered ++ c.offers) := by
  cases c with
  | add item | register item =>
      have hall := h.addAll [item]
      rw [Call.apply]
      cases hadd : g.add item with
      | error fault =>
          rw [addAll_cons_of_error hadd] at hall
          exact hall
      | ok r =>
          rw [addAll_cons_of_ok hadd] at hall
          obtain ⟨g', _ | _⟩ := r
          · obtain ⟨-, ⟨-, rfl, -⟩ | ⟨-, -, hb⟩⟩ := add_eq_ok_iff.1 hadd
            · exact hall
            · exact nomatch hb
          · exact hall
  | addAll items =>
      have hall := h.addAll items
      rw [Call.apply]
      cases hadd : g.addAll items with
      | mk g' outcome =>
          rw [hadd] at hall
          cases outcome <;> exact hall

/-- What a run leaves. -/
theorem Holds.run (h : g.Holds offered) (calls : List (Call α)) :
    (g.run calls).Holds (offered ++ calls.flatMap Call.offers) := by
  induction calls generalizing g offered with
  | nil =>
      rw [List.flatMap_nil, List.append_nil]
      exact h
  | cons c calls ih =>
      rw [List.flatMap_cons, ← List.append_assoc]
      exact ih (h.apply c)

/-- No two items of a glossary are equal. -/
theorem Holds.noRepeats_items [BEq α] [LawfulNamed α] (h : g.Holds offered) :
    NoRepeats g.items := by
  rw [h.items_eq]
  have hkeys : (firstNamed offered).Pairwise fun a b => Named.key a ≠ Named.key b :=
    List.pairwise_map.1 (nodup_keys_firstNamed offered)
  refine hkeys.imp_of_mem fun {a b} ha hb hne => ?_
  by_contra heq
  have hatext := h.hasText a (mem_of_mem_firstNamed ha)
  have hbtext := h.hasText b (mem_of_mem_firstNamed hb)
  exact hne (LawfulNamed.key_eq hatext hbtext (Bool.not_eq_false _ ▸ heq))

end Holds

/-! ### What calls answer -/

section Answers

variable {g : Glossary α} {items : List α} {item : α}

/-- An item with a text for its name is added exactly if the glossary grows by one. -/
theorem answer_add (h : Named.hasText item = true) (g : Glossary α) :
    ∃ b, ((Call.add item).apply g).2 = .added b ∧
      (b = true ↔ ((Call.add item).apply g).1.size = g.size + 1) := by
  obtain ⟨name, hname⟩ := Option.isSome_iff_exists.1 h
  rw [Call.apply]
  cases hadd : g.add item with
  | error fault => exact nomatch hadd.symm.trans (add_of_text? hname)
  | ok r =>
      obtain ⟨g', b⟩ := r
      refine ⟨b, rfl, ?_⟩
      obtain ⟨-, ⟨-, rfl, rfl⟩ | ⟨-, rfl, rfl⟩⟩ := add_eq_ok_iff.1 hadd
      · simp
      · simp [size]

/-- Of several items with texts for names one is added exactly if the glossary grows. -/
theorem answer_addAll (h : ∀ item ∈ items, Named.hasText item = true) (g : Glossary α) :
    ∃ b, ((Call.addAll items).apply g).2 = .added b ∧
      (b = true ↔ g.size < ((Call.addAll items).apply g).1.size) := by
  obtain ⟨b, hb⟩ := (exists_addAll_eq_ok_iff g).2 h
  have hsize := addAll_eq_ok_iff_size_lt hb
  rw [Call.apply]
  cases hadd : g.addAll items with
  | mk g' outcome =>
      rw [hadd] at hb hsize
      dsimp only at hb
      rw [hb]
      exact ⟨b, rfl, hsize⟩

theorem contains_name_iff (h : Named.hasText item = true) :
    g.contains (.scalar (Named.name item)) = true ↔ Named.key item ∈ g.entries.keys := by
  obtain ⟨name, hname⟩ := Option.isSome_iff_exists.1 h
  rw [Named.key_of_text? hname, contains]
  unfold Named.text? at hname
  rw [hname, Option.any_some, get?]
  cases hget : g.entries.get? name.lowerCase with
  | none => simp [Keyed.get?_eq_none_iff.1 hget]
  | some found =>
      have hmem : name.lowerCase ∈ g.entries.keys := by
        by_contra hnot
        exact nomatch hget.symm.trans (Keyed.get?_eq_none_iff.2 hnot)
      simp [hmem]

/-- The registration of an item with a text for its name is refused exactly if the name is taken,
and it then changes nothing. -/
theorem answer_register (h : Named.hasText item = true) (g : Glossary α) :
    (((Call.register item).apply g).2 = .registered ∧
        g.contains (.scalar (Named.name item)) = false) ∨
      (((Call.register item).apply g).2 = .taken ∧ ((Call.register item).apply g).1 = g ∧
        g.contains (.scalar (Named.name item)) = true) := by
  rw [← Bool.not_eq_true, contains_name_iff h, Call.apply]
  obtain ⟨name, hname⟩ := Option.isSome_iff_exists.1 h
  cases hadd : g.add item with
  | error fault => exact nomatch hadd.symm.trans (add_of_text? hname)
  | ok r =>
      obtain ⟨g', b⟩ := r
      obtain ⟨-, ⟨hmem, rfl, rfl⟩ | ⟨hmem, rfl, rfl⟩⟩ := add_eq_ok_iff.1 hadd
      · exact .inr ⟨rfl, rfl, hmem⟩
      · exact .inl ⟨rfl, hmem⟩

end Answers

/-! ### Runs -/

/-- **Glossaries are written once.**  A glossary can be made of any items with texts for names.  Let
calls add and register more.  Put all items that are offered in a row, the first ones in front.

* The glossary holds, in their order, the items whose name does not come up earlier in the row in
  whichever letter case, and under a name it finds the first item of the row that has it.
* The next call answers as the glossary changes: an added item makes it grow by one, several items
  make it grow if one of them is added, and a registration is refused exactly if the name is taken,
  and then changes nothing.
* A name is contained exactly if something is found under it, the letter case of a name makes no
  difference, and what has been found stays so for good.
* No two items are equal, so that a set of them has as many members as the glossary. -/
theorem run_writeOnce [BEq α] [LawfulNamed α] {initial : List α}
    (hinitial : ∀ item ∈ initial, Named.hasText item = true) :
    ∃ start, ofItems initial = .ok start ∧ ∀ calls : List (Call α),
      let g := start.run calls
      let offered := initial ++ calls.flatMap Call.offers
      (g.items = firstNamed offered ∧
        ∀ name, g.get? name = offered.find? (Named.key · == name.lowerCase)) ∧
      (∀ item, Named.hasText item = true → ∃ b, ((Call.add item).apply g).2 = .added b ∧
        (b = true ↔ ((Call.add item).apply g).1.size = g.size + 1)) ∧
      (∀ items, (∀ item ∈ items, Named.hasText item = true) →
        ∃ b, ((Call.addAll items).apply g).2 = .added b ∧
          (b = true ↔ g.size < ((Call.addAll items).apply g).1.size)) ∧
      (∀ item, Named.hasText item = true →
        (((Call.register item).apply g).2 = .registered ∧
          g.contains (.scalar (Named.name item)) = false) ∨
        (((Call.register item).apply g).2 = .taken ∧ ((Call.register item).apply g).1 = g ∧
          g.contains (.scalar (Named.name item)) = true)) ∧
      (∀ name, g.contains (.text name) = true ↔ ∃ item, g.find (.text name) = .ok (some item)) ∧
      (∀ name name' : String, name.lowerCase = name'.lowerCase →
        g.find (.text name) = g.find (.text name')) ∧
      (∀ name item, g.find (.text name) = .ok (some item) →
        ∀ more, (g.run more).find (.text name) = .ok (some item)) ∧
      g.members.length = g.size := by
  obtain ⟨start, hstart, hfirst⟩ := exists_ofItems_eq_ok hinitial
  refine ⟨start, hstart, fun calls => ?_⟩
  intro g offered
  have hholds : g.Holds offered := hfirst.run calls
  have hfind : ∀ (g' : Glossary α) (name : String),
      g'.find (.text name) = .ok (g'.get? name) := fun _ _ => rfl
  refine ⟨⟨hholds.items_eq, hholds.get?_eq⟩, fun item h => answer_add h g,
    fun items h => answer_addAll h g, fun item h => answer_register h g, fun name => ?_,
    fun name name' h => ?_, fun name item h more => ?_, ?_⟩
  · have hcontains : g.contains (.text name) = (g.get? name).isSome := rfl
    simp only [hcontains, hfind, Except.ok.injEq, Option.isSome_iff_exists]
  · rw [hfind, hfind, get?, get?, h]
  · rw [hfind, Except.ok.injEq] at h
    rw [hfind, get?_of_prefix (prefix_run g more) h]
  · rw [members, hholds.noRepeats_items.distinct_eq, Glossary.items, List.length_map, size]

/-- Metrics of one name in two letter cases, and a dimension that is registered twice. -/
theorem run_writeOnce_clicks :
    let clicks : Metric := ⟨.text "clicks", "", "", "General", []⟩
    let again : Metric := ⟨.text "Clicks", "count(*)", "", "General", []⟩
    let views : Metric := ⟨.text "views", "", "", "General", []⟩
    let page : Dimension := .make "page" "" "" "" [] []
    let other : Dimension := .make "PAGE" "another" "" "" [] []
    (∃ start, ofItems [clicks] = .ok start ∧
      (start.run [.addAll [again, views], .add again]).items =
        firstNamed [clicks, again, views, again] ∧
      (start.run [.addAll [again, views], .add again]).members.length = 2) ∧
    ∃ start, ofItems [page] = .ok start ∧
      ((Call.register other).apply start).2 = .taken ∧ Named.hasText other = true := by
  intro clicks again views page other
  constructor
  · have hinitial : ∀ item ∈ [clicks], Named.hasText item = true := by decide
    obtain ⟨start, hstart, hrun⟩ := run_writeOnce hinitial
    obtain ⟨⟨hitems, -⟩, -, -, -, -, -, -, hmembers⟩ := hrun [.addAll [again, views], .add again]
    refine ⟨start, hstart, hitems, hmembers.trans ?_⟩
    obtain rfl := Except.ok.inj hstart
    decide
  · have hinitial : ∀ item ∈ [page], Named.hasText item = true := by decide
    obtain ⟨start, hstart, hrun⟩ := run_writeOnce hinitial
    obtain ⟨-, -, -, hregister, -⟩ := hrun []
    refine ⟨start, hstart, ?_, rfl⟩
    obtain ⟨-, hfree⟩ | ⟨htaken, -⟩ := hregister other rfl
    · obtain rfl := Except.ok.inj hstart
      exact absurd hfree (by decide)
    · exact htaken

end Glossary

end MetricQuery
