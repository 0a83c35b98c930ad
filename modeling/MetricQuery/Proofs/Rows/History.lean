import Mathlib.Data.List.Induction
import MetricQuery.Proofs.Rows.Attach

/-!
# Stores and providers over runs of calls

Stores and providers are known by name, and several providers may be bound to one store.  What they
answer after a run of calls is settled by the run alone.  The calls that name a store give it a
history, a row of events at keys: a row is put under a key, or a key is removed.  A store keeps
under a key what the last event at the key has put there, and its keys stand in the order in which
they have come to stay (`Rows.arrivals`).  A provider finds the keys of the store that it was last
bound to, as they are at the time of the question.  No other call is looked at, so stores and
providers do not disturb each other.

## Main definitions

* `Rows.Call`, `Rows.Call.apply` : a call of a store or a provider, and what it does.
* `Rows.Event`, `Rows.history` : what happens at a key of a store, and all that has happened.
* `Rows.lastPut`, `Rows.arrivals` : the row under a key and the keys, as a history tells them.
* `Rows.lastBinding` : the store that a provider was last bound to.

## Main results

* `Rows.store_apply`, `Rows.binding_apply` : what one call does to a store and to a binding.
* `Rows.Tells.apply`, `Rows.tells_run` : a run leaves what its history tells.
* `Rows.run_history` : all that stores and providers answer after a run.
-/

namespace MetricQuery

namespace Rows

/-! ### Calls -/

/-- A call of a store, of a provider or of one of their registries, by name.  Rows are texts. -/
inductive Call
  | openStore (store : String)
  | openProvider (provider : String)
  | put (store key row : String)
  | putAll (store : String) (entries : List (String × String))
  | get (store key : String)
  | remove (store key : String)
  | keys (store : String)
  | bind (provider : String) (store : Option String)
  | findAllKeys (provider : String)

/-- What a call answers. -/
inductive Answer
  | done
  | row (row : Option Datum)
  | removed (present : Bool)
  | keys (keys : List String)

namespace Call

/-- What a call does and answers.  A store or provider that is called is asked for first. -/
def apply (rows : Rows) : Call → Rows × Answer
  | openStore store => (rows.openStore store, .done)
  | openProvider provider => (rows.openProvider provider, .done)
  | put store key row => ((rows.openStore store).put store key (.text row), .done)
  | putAll store entries =>
    ((rows.openStore store).putAll store (entries.map fun e => (e.1, .text e.2)), .done)
  | get store key =>
    let rows := rows.openStore store
    (rows, .row ((rows.store store).get? key))
  | remove store key =>
    let (rows, present) := (rows.openStore store).remove store key
    (rows, .removed present)
  | keys store =>
    let rows := rows.openStore store
    (rows, .keys (rows.store store).keys)
  | bind provider store => ((rows.openProvider provider).bind provider store, .done)
  | findAllKeys provider =>
    let rows := rows.openProvider provider
    (rows, .keys (rows.keysOf provider))

/-- The stores that a call asks for. -/
def stores : Call → List String
  | openStore store | put store _ _ | putAll store _ | get store _ | remove store _ | keys store =>
    [store]
  | bind _ store => store.toList
  | openProvider _ | findAllKeys _ => []

/-- The providers that a call asks for. -/
def providers : Call → List String
  | openProvider provider | bind provider _ | findAllKeys provider => [provider]
  | _ => []

end Call

/-- Stores and providers after several calls. -/
def run (rows : Rows) (calls : List Call) : Rows :=
  calls.foldl (fun rows c => (c.apply rows).1) rows

/-! ### Histories -/

/-- What happens at a key of a store: a row is put there, or the key is removed. -/
structure Event where
  key : String
  row : Option String
deriving DecidableEq, Repr

/-- What a call does to a store. -/
def Call.events (store : String) : Call → List Event
  | put s key row => if s = store then [⟨key, some row⟩] else []
  | putAll s entries => if s = store then entries.map fun e => ⟨e.1, some e.2⟩ else []
  | remove s key => if s = store then [⟨key, none⟩] else []
  | _ => []

/-- What several calls do to a store. -/
def history (store : String) (calls : List Call) : List Event :=
  calls.flatMap (Call.events store)

/-- The row under a key: the one that was put last, unless the key has been removed since. -/
def lastPut (key : String) (events : List Event) : Option String :=
  (events.filter (·.key == key)).getLast?.bind (·.row)

/-- The keys after one more event.  A key that is there keeps its place, a new one comes last. -/
def arrive (keys : List String) (e : Event) : List String :=
  if e.row.isSome then (if e.key ∈ keys then keys else keys ++ [e.key])
  else keys.filter (· != e.key)

/-- The keys that are there, in the order in which they have come to stay. -/
def arrivals (events : List Event) : List String :=
  events.foldl arrive []

/-- What a call binds a provider to, if it binds the provider. -/
def Call.binding? (provider : String) : Call → Option (Option String)
  | bind p store => if p = provider then some store else none
  | _ => none

/-- The store that a provider was last bound to; none if it never was, or was freed. -/
def lastBinding (provider : String) (calls : List Call) : Option String :=
  (calls.filterMap (Call.binding? provider)).getLast?.join

section Histories

variable {key : String}

theorem history_concat (store : String) (calls : List Call) (c : Call) :
    history store (calls ++ [c]) = history store calls ++ c.events store := by
  simp [history]

theorem lastPut_concat (events : List Event) (e : Event) :
    lastPut key (events ++ [e]) = if e.key = key then e.row else lastPut key events := by
  rw [lastPut, List.filter_append]
  by_cases h : e.key = key <;> simp [h, lastPut]

theorem arrivals_append (events more : List Event) :
    arrivals (events ++ more) = more.foldl arrive (arrivals events) :=
  List.foldl_append

theorem lastBinding_concat (provider : String) (calls : List Call) (c : Call) :
    lastBinding provider (calls ++ [c]) =
      (c.binding? provider).getD (lastBinding provider calls) := by
  rw [lastBinding, List.filterMap_append]
  cases h : c.binding? provider <;> simp [h, lastBinding]

end Histories

/-! ### One store -/

/-- What an event does to a store. -/
def Event.enact (store : Store) (e : Event) : Store :=
  match e.row with
  | some row => Keyed.put store e.key (.text row)
  | none => Keyed.erase store e.key

/-- A store holds what events tell. -/
structure Follows (store : Store) (events : List Event) : Prop where
  keys : Keyed.keys store = arrivals events
  row : ∀ key, Keyed.get? store key = (lastPut key events).map Datum.text

section OneStore

variable {store : Store} {events : List Event}

theorem follows_nil : Follows [] [] :=
  ⟨rfl, fun _ => rfl⟩

/-- An event that is enacted is told. -/
theorem Follows.enact (h : Follows store events) (e : Event) :
    Follows (e.enact store) (events ++ [e]) := by
  obtain ⟨key, row⟩ := e
  refine ⟨?_, fun other => ?_⟩
  · rw [arrivals_append, ← h.keys]
    cases row with
    | none => exact Keyed.keys_erase store key
    | some row =>
        by_cases hmem : key ∈ Keyed.keys store
        · simp [Event.enact, arrive, hmem, Keyed.keys_put_of_mem hmem]
        · simp [Event.enact, arrive, hmem, Keyed.keys_put_of_notMem hmem]
  · rw [lastPut_concat]
    by_cases hkey : key = other
    · subst hkey
      rw [if_pos rfl]
      cases row with
      | none => exact Keyed.get?_erase_self store key
      | some row => exact Keyed.get?_put_self store key _
    · rw [if_neg hkey, ← h.row]
      cases row with
      | none => exact Keyed.get?_erase_of_ne (Ne.symm hkey) store
      | some row => exact Keyed.get?_put_of_ne (Ne.symm hkey) store _

theorem Follows.enactAll (h : Follows store events) (more : List Event) :
    Follows (more.foldl Event.enact store) (events ++ more) := by
  induction more generalizing store events with
  | nil =>
      rw [List.append_nil]
      exact h
  | cons e more ih =>
      rw [List.append_cons]
      exact ih (h.enact e)

/-- A row is kept under a key exactly if the key has come to stay. -/
theorem Follows.holds_iff (h : Follows store events) (key : String) :
    store.holds key = true ↔ key ∈ arrivals events := by
  rw [← h.keys, Store.holds, h.row]
  have hkey : Keyed.get? store key = none ↔ key ∉ Keyed.keys store := Keyed.get?_eq_none_iff
  rw [h.row] at hkey
  cases hput : lastPut key events with
  | none =>
      rw [hput] at hkey
      simp [hkey.1 rfl]
  | some row =>
      rw [hput] at hkey
      have hpresent : key ∈ Keyed.keys store := by
        by_contra hnot
        exact nomatch hkey.2 hnot
      have hrow : (Datum.text row == Datum.null) = false := rfl
      simp [hpresent, hrow]

end OneStore

/-! ### One call -/

section OneCall

variable (rows : Rows) (name other : String)

theorem store_openStore : (rows.openStore name).store other = rows.store other := by
  by_cases h : name ∈ rows.stores.keys
  · rw [openStore_of_mem h]
  · rw [openStore_of_notMem h, store, store, Keyed.get?_append]
    cases Keyed.get? rows.stores other with
    | some rows => rw [Option.some_or]
    | none =>
        -- A store that has just been opened has no rows.
        rw [Option.none_or, Keyed.get?]
        cases hname : name == other <;> simp [hname]

theorem store_openProvider : (rows.openProvider name).store other = rows.store other := by
  rw [store, stores_openProvider, store]

theorem store_bind (store : Option String) :
    (rows.bind name store).store other = rows.store other := by
  cases store with
  | none => rfl
  | some s => exact store_openStore rows s other

theorem store_modify (change : Store → Store) :
    (rows.modify name change).store other =
      if name = other then change (rows.store name) else rows.store other := by
  by_cases h : name = other
  · subst h
    rw [if_pos rfl, store, modify, Keyed.get?_put_self, Option.getD_some]
  · rw [if_neg h, store, modify, Keyed.get?_put_of_ne (Ne.symm h), store]

/-- A call changes a store by its events at the store. -/
theorem store_apply (c : Call) :
    (c.apply rows).1.store name = (c.events name).foldl Event.enact (rows.store name) := by
  cases c with
  | openStore s | get s key | keys s => exact store_openStore rows s name
  | openProvider p | findAllKeys p => exact store_openProvider rows p name
  | bind p s => exact (store_bind _ p name s).trans (store_openProvider rows p name)
  | put s key row | remove s key =>
      refine (store_modify _ s name _).trans ?_
      rw [store_openStore, store_openStore, Call.events]
      by_cases h : s = name
      · rw [if_pos h, if_pos h, h]
        rfl
      · rw [if_neg h, if_neg h]
        rfl
  | putAll s entries =>
      refine (store_modify _ s name _).trans ?_
      rw [store_openStore, store_openStore, Call.events]
      by_cases h : s = name
      · rw [if_pos h, if_pos h, h, List.foldl_map, Store.putAll, List.foldl_map]
        rfl
      · rw [if_neg h, if_neg h]
        rfl

theorem binding_openStore : (rows.openStore name).binding other = rows.binding other := by
  rw [binding, providers_openStore, binding]

theorem providers_bind (store : Option String) :
    (rows.bind name store).providers = Keyed.put rows.providers name store := by
  cases store with
  | none => rfl
  | some s =>
      rw [bind]
      dsimp only [Option.elim]
      rw [providers_openStore]

/-- A call changes a binding only if it binds the provider. -/
theorem binding_apply (c : Call) :
    (c.apply rows).1.binding name = (c.binding? name).getD (rows.binding name) := by
  cases c with
  | openStore s | get s key | keys s => exact binding_openStore rows s name
  | openProvider p | findAllKeys p => exact binding_openProvider rows p name
  | put s key row | remove s key | putAll s entries => exact binding_openStore rows s name
  | bind p s =>
      rw [Call.apply, Call.binding?, binding, providers_bind]
      by_cases h : p = name
      · rw [if_pos h, h, Keyed.get?_put_self]
        rfl
      · rw [if_neg h, Keyed.get?_put_of_ne (Ne.symm h)]
        exact binding_openProvider rows p name

theorem keys_stores_openStore :
    (rows.openStore name).stores.keys = rows.stores.keys ++ newNames rows.stores.keys [name] := by
  rw [stores_openStore, Keyed.keys_append_map]

theorem keys_stores_modify (change : Store → Store) :
    ((rows.openStore name).modify name change).stores.keys = (rows.openStore name).stores.keys := by
  refine Keyed.keys_put_of_mem ?_ _
  rw [keys_stores_openStore]
  exact mem_append_newNames _ _

/-- A call adds the store that it asks for, if it is new. -/
theorem keys_stores_apply (c : Call) :
    (c.apply rows).1.stores.keys = rows.stores.keys ++ newNames rows.stores.keys c.stores := by
  cases c with
  | openStore s | get s key | keys s => exact keys_stores_openStore rows s
  | put s key row | remove s key | putAll s entries =>
      exact (keys_stores_modify rows s _).trans (keys_stores_openStore rows s)
  | openProvider p | findAllKeys p =>
      refine (congrArg Keyed.keys (stores_openProvider rows p)).trans ?_
      exact (List.append_nil _).symm
  | bind p s =>
      cases s with
      | none =>
          refine (congrArg Keyed.keys (stores_openProvider rows p)).trans ?_
          exact (List.append_nil _).symm
      | some s =>
          refine (keys_stores_openStore (rows.openProvider p) s).trans ?_
          rw [stores_openProvider]
          rfl

theorem keys_providers_openProvider :
    (rows.openProvider name).providers.keys =
      rows.providers.keys ++ newNames rows.providers.keys [name] := by
  rw [providers_openProvider, Keyed.keys_append_map]

/-- A call adds the provider that it asks for, if it is new. -/
theorem keys_providers_apply (c : Call) :
    (c.apply rows).1.providers.keys =
      rows.providers.keys ++ newNames rows.providers.keys c.providers := by
  cases c with
  | openStore s | get s key | keys s | put s key row | remove s key | putAll s entries =>
      refine (congrArg Keyed.keys (providers_openStore rows s)).trans ?_
      exact (List.append_nil _).symm
  | openProvider p | findAllKeys p => exact keys_providers_openProvider rows p
  | bind p s =>
      have hmem : p ∈ (rows.openProvider p).providers.keys := by
        rw [keys_providers_openProvider]
        exact mem_append_newNames _ _
      refine Eq.trans ?_ (keys_providers_openProvider rows p)
      rw [Call.apply, providers_bind, Keyed.keys_put_of_mem hmem]

end OneCall

/-! ### Runs -/

/-- Stores and providers are what the calls of a run tell. -/
structure Tells (rows : Rows) (calls : List Call) : Prop where
  store : ∀ name, Follows (rows.store name) (history name calls)
  binding : ∀ provider, rows.binding provider = lastBinding provider calls
  stores : rows.stores.keys = (calls.flatMap Call.stores).eraseDups
  providers : rows.providers.keys = (calls.flatMap Call.providers).eraseDups

section Runs

variable {rows : Rows} {calls : List Call}

theorem tells_nil : Rows.empty.Tells [] :=
  ⟨fun _ => follows_nil, fun _ => rfl, rfl, rfl⟩

theorem eraseDups_append_newNames {names more : List String} (h : more.length ≤ 1) :
    (names ++ more).eraseDups = names.eraseDups ++ newNames names.eraseDups more := by
  match more with
  | [] => simp [newNames]
  | [name] =>
      rw [List.eraseDups_append]
      by_cases hmem : name ∈ names
      · simp [newNames, List.removeAll, hmem]
      · simp [newNames, List.removeAll, hmem, List.eraseDups_cons]

theorem Call.length_stores_le (c : Call) : c.stores.length ≤ 1 := by
  cases c with
  | bind p s => cases s <;> simp [stores]
  | _ => simp [stores]

theorem Call.length_providers_le (c : Call) : c.providers.length ≤ 1 := by
  cases c <;> simp [providers]

theorem Tells.apply (h : rows.Tells calls) (c : Call) :
    (c.apply rows).1.Tells (calls ++ [c]) := by
  refine ⟨fun name => ?_, fun provider => ?_, ?_, ?_⟩
  · rw [store_apply, history_concat]
    exact (h.store name).enactAll _
  · rw [binding_apply, lastBinding_concat, h.binding]
  · rw [keys_stores_apply, h.stores, List.flatMap_append, List.flatMap_singleton,
      eraseDups_append_newNames c.length_stores_le]
  · rw [keys_providers_apply, h.providers, List.flatMap_append, List.flatMap_singleton,
      eraseDups_append_newNames c.length_providers_le]

/-- A run leaves what its calls tell. -/
theorem tells_run (calls : List Call) : (Rows.empty.run calls).Tells calls := by
  induction calls using List.reverseRecOn with
  | nil => exact tells_nil
  | append_singleton calls c ih =>
      have hlast : Rows.empty.run (calls ++ [c]) = (c.apply (Rows.empty.run calls)).1 :=
        List.foldl_append
      rw [hlast]
      exact ih.apply c

theorem modify_id {name : String} (h : name ∈ rows.stores.keys) : rows.modify name id = rows := by
  obtain ⟨store, hstore⟩ : ∃ store, Keyed.get? rows.stores name = some store := by
    by_contra hnone
    exact Keyed.get?_eq_none_iff.1 (Option.eq_none_iff_forall_ne_some.2
      fun store hstore => hnone ⟨store, hstore⟩) h
  rw [modify, id, Rows.store, hstore, Option.getD_some, Keyed.put_eq_self hstore]

theorem modify_modify (rows : Rows) (name : String) (change change' : Store → Store) :
    (rows.modify name change).modify name change' = rows.modify name (change' ∘ change) := by
  rw [modify, store_modify, if_pos rfl, modify, modify, Keyed.put_put]
  rfl

/-- Rows put under several keys at once are put there one after another. -/
theorem apply_putAll (rows : Rows) (store : String) (entries : List (String × String)) :
    ((Call.putAll store entries).apply rows).1 =
      rows.run (.openStore store :: entries.map fun e => .put store e.1 e.2) := by
  have hopened : store ∈ (rows.openStore store).stores.keys := by
    rw [keys_stores_openStore]
    exact mem_append_newNames _ _
  change (rows.openStore store).modify store
      (fun s => s.putAll (entries.map fun e => (e.1, Datum.text e.2))) =
    (rows.openStore store).run (entries.map fun e => .put store e.1 e.2)
  generalize rows.openStore store = opened at hopened
  induction entries generalizing opened with
  | nil => exact modify_id hopened
  | cons e entries ih =>
      -- The first row is put into a store that is open already.
      have hfirst : ((Call.put store e.1 e.2).apply opened).1 =
          opened.modify store (fun s => s.put e.1 (.text e.2)) := by
        rw [Call.apply, openStore_of_mem hopened]
        rfl
      have hkeys : store ∈ (opened.modify store fun s => s.put e.1 (.text e.2)).stores.keys := by
        rw [← openStore_of_mem hopened, keys_stores_modify, openStore_of_mem hopened]
        exact hopened
      have hrest := ih _ hkeys
      rw [modify_modify, ← hfirst] at hrest
      exact hrest

/-- **Stores and providers over a run.**  After any calls of stores, providers and registries the
following is so.

* The row under a key of a store is the one that was put there last, unless the key has been removed
  since.  The keys stand in the order in which they have come to stay: a row put under a key that is
  there leaves it in its place, and one put under a removed key brings it to the end.  A removal
  tells whether the key was there.  Several rows are put as if they were put one after another.
* A provider finds the keys that its store has at the time, and none if it is not bound.
* The names in the registries are those that have been asked for, each at its first request.
* A call that does nothing to a store leaves it as it is, and one that neither binds a provider nor
  does anything to its store leaves what the provider finds. -/
theorem run_history (calls : List Call) :
    let rows := Rows.empty.run calls
    (∀ store key, ((Call.get store key).apply rows).2 =
      .row ((lastPut key (history store calls)).map Datum.text)) ∧
    (∀ store, ((Call.keys store).apply rows).2 = .keys (arrivals (history store calls))) ∧
    (∀ store key row, key ∈ (rows.store store).keys →
      ((rows.run [.put store key row]).store store).keys = (rows.store store).keys) ∧
    (∀ store key row, ((rows.run [.remove store key, .put store key row]).store store).keys =
      (rows.store store).keys.filter (· != key) ++ [key]) ∧
    (∀ store key, ((Call.remove store key).apply rows).2 =
      .removed (decide (key ∈ arrivals (history store calls)))) ∧
    (∀ store entries, ((Call.putAll store entries).apply rows).1 =
      rows.run (.openStore store :: entries.map fun e => .put store e.1 e.2)) ∧
    (∀ provider, ((Call.findAllKeys provider).apply rows).2 =
      .keys ((lastBinding provider calls).elim [] fun store => arrivals (history store calls))) ∧
    (rows.stores.keys = (calls.flatMap Call.stores).eraseDups ∧
      rows.providers.keys = (calls.flatMap Call.providers).eraseDups) ∧
    (∀ (c : Call) store, c.events store = [] → (c.apply rows).1.store store = rows.store store) ∧
    ∀ (c : Call) provider, c.binding? provider = none →
      (∀ store, rows.binding provider = some store → c.events store = []) →
      (c.apply rows).1.keysOf provider = rows.keysOf provider := by
  intro rows
  have htells : rows.Tells calls := tells_run calls
  have hkeysOf : ∀ provider, rows.keysOf provider =
      (lastBinding provider calls).elim [] fun store => arrivals (history store calls) := by
    intro provider
    rw [keysOf, htells.binding]
    cases lastBinding provider calls with
    | none => rfl
    | some store => exact (htells.store store).keys
  refine ⟨fun store key => ?_, fun store => ?_, fun store key row hkey => ?_,
    fun store key row => ?_, fun store key => ?_, apply_putAll rows, fun provider => ?_,
    ⟨htells.stores, htells.providers⟩, fun c store h => ?_, fun c provider hbinding h => ?_⟩
  · rw [← (htells.store store).row, ← store_openStore rows store store]
    rfl
  · rw [← (htells.store store).keys, ← store_openStore rows store store]
    rfl
  · have hput : (rows.run [.put store key row]).store store =
        Keyed.put (rows.store store) key (.text row) := by
      refine (store_apply rows store (.put store key row)).trans ?_
      rw [Call.events, if_pos rfl]
      rfl
    rw [hput]
    exact Keyed.keys_put_of_mem hkey _
  · have hput : (rows.run [.remove store key, .put store key row]).store store =
        Keyed.put (Keyed.erase (rows.store store) key) key (.text row) := by
      refine (store_apply _ store (.put store key row)).trans ?_
      rw [Call.events, if_pos rfl, store_apply rows store (.remove store key), Call.events,
        if_pos rfl]
      rfl
    have hgone : key ∉ Keyed.keys (Keyed.erase (rows.store store) key) := by
      simp [Keyed.keys_erase]
    rw [hput, Keyed.keys_put_of_notMem hgone, Keyed.keys_erase]
  · have hanswer : ((Call.remove store key).apply rows).2 =
        .removed ((rows.store store).holds key) := by
      rw [← store_openStore rows store store]
      rfl
    rw [hanswer, Answer.removed.injEq, Bool.eq_iff_iff, decide_eq_true_iff]
    exact (htells.store store).holds_iff key
  · have hopened : (rows.openProvider provider).keysOf provider = rows.keysOf provider := by
      rw [keysOf, binding_openProvider, keysOf]
      cases rows.binding provider with
      | none => rfl
      | some store => exact congrArg Keyed.keys (store_openProvider rows provider store)
    rw [← hkeysOf, ← hopened]
    rfl
  · rw [store_apply, h]
    rfl
  · rw [keysOf, binding_apply, hbinding, Option.getD_none, keysOf]
    cases hbound : rows.binding provider with
    | none => rfl
    | some store =>
        dsimp only
        rw [store_apply, h store hbound]
        rfl

end Runs

end Rows

end MetricQuery
