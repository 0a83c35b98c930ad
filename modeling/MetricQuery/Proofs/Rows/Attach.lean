import MetricQuery.Catalog.Dimensions
import MetricQuery.Proofs.Keyed

/-!
# Stores and providers of dimensions

A dimension that is loaded is attached to the store and the search provider of its name: both come
into being if they are not there, and the provider is bound to the store.  Several names that are
attached one after another add the new ones among them to the stores and to the providers, in their
order.  Nothing else changes: no store gains or loses a row, and no other provider is bound anew
(`Rows.attached_attachAll`).

## Main definitions

* `newNames` : the names of a list that are not there yet.
* `Rows.attachAll` : several names that are attached one after another.
* `Rows.Attached` : stores and providers that differ from others by some attached names.

## Main results

* `Rows.attached_attach` : what one attached name changes.
* `Rows.attached_attachAll` : what several attached names change.
* `Rows.Attached.store_eq` : no row of any store changes.
* `Rows.Attached.keysOf_eq` : a provider finds the keys of the store it is attached to.
-/

namespace MetricQuery

/-! ### New names -/

/-- The names of a list that are not among the old ones. -/
def newNames (old names : List String) : List String :=
  names.filter fun name => name ∉ old

section NewNames

variable {old names : List String} {name : String}

theorem newNames_singleton_of_mem (h : name ∈ old) : newNames old [name] = [] := by
  simp [newNames, h]

theorem newNames_singleton_of_notMem (h : name ∉ old) : newNames old [name] = [name] := by
  simp [newNames, h]

theorem newNames_nil (names : List String) : newNames [] names = names := by
  simp [newNames]

/-- A name that does not come up again is taken on its own, and the others after it. -/
theorem newNames_cons (h : name ∉ names) :
    newNames old (name :: names) =
      newNames old [name] ++ newNames (old ++ newNames old [name]) names := by
  have hrest : newNames (old ++ newNames old [name]) names = newNames old names := by
    refine List.filter_congr fun other hother => ?_
    have hne : other ≠ name := fun heq => h (heq ▸ hother)
    have hself : other ∉ newNames old [name] := fun hmem =>
      hne (List.mem_singleton.1 (List.mem_filter.1 hmem).1)
    simp [hself]
  rw [hrest, ← List.singleton_append]
  exact List.filter_append _ _

end NewNames

namespace Rows

/-! ### One attached name -/

/-- Several names are attached one after another. -/
def attachAll (rows : Rows) (names : List String) : Rows :=
  names.foldl attach rows

/-- The stores and providers `after` differ from `before` by attached names: the new ones among them
have been added, each provider of such a name is bound to the store of the name, and nothing else
has changed. -/
structure Attached (before : Rows) (names : List String) (after : Rows) : Prop where
  stores : after.stores = before.stores ++ (newNames before.stores.keys names).map (·, [])
  providers : after.providers.keys =
    before.providers.keys ++ newNames before.providers.keys names
  binding : ∀ provider, after.binding provider =
    if provider ∈ names then some provider else before.binding provider

section Attach

variable {rows before after : Rows} {names : List String} {name : String}

theorem openStore_of_mem (h : name ∈ rows.stores.keys) : rows.openStore name = rows :=
  if_pos (Keyed.has_iff.2 h)

theorem openStore_of_notMem (h : name ∉ rows.stores.keys) :
    rows.openStore name = { rows with stores := rows.stores ++ [(name, [])] } :=
  if_neg fun hhas => h (Keyed.has_iff.1 hhas)

theorem openProvider_of_mem (h : name ∈ rows.providers.keys) : rows.openProvider name = rows :=
  if_pos (Keyed.has_iff.2 h)

theorem openProvider_of_notMem (h : name ∉ rows.providers.keys) :
    rows.openProvider name = { rows with providers := rows.providers ++ [(name, none)] } :=
  if_neg fun hhas => h (Keyed.has_iff.1 hhas)

/-- Opening a store adds it if it is new. -/
theorem stores_openStore (rows : Rows) (name : String) :
    (rows.openStore name).stores =
      rows.stores ++ (newNames rows.stores.keys [name]).map (·, []) := by
  by_cases h : name ∈ rows.stores.keys
  · simp [openStore_of_mem h, newNames_singleton_of_mem h]
  · simp [openStore_of_notMem h, newNames_singleton_of_notMem h]

theorem providers_openStore (rows : Rows) (name : String) :
    (rows.openStore name).providers = rows.providers := by
  rw [openStore]
  split <;> rfl

/-- Opening a provider adds it, unbound, if it is new. -/
theorem providers_openProvider (rows : Rows) (name : String) :
    (rows.openProvider name).providers =
      rows.providers ++ (newNames rows.providers.keys [name]).map (·, none) := by
  by_cases h : name ∈ rows.providers.keys
  · simp [openProvider_of_mem h, newNames_singleton_of_mem h]
  · simp [openProvider_of_notMem h, newNames_singleton_of_notMem h]

theorem stores_openProvider (rows : Rows) (name : String) :
    (rows.openProvider name).stores = rows.stores := by
  rw [openProvider]
  split <;> rfl

theorem mem_append_newNames (old : List String) (name : String) :
    name ∈ old ++ newNames old [name] := by
  by_cases h : name ∈ old
  · exact List.mem_append_left _ h
  · rw [newNames_singleton_of_notMem h]
    exact List.mem_append_right _ List.mem_cons_self

/-- An opened provider is bound to what it was bound to before, or to nothing. -/
theorem binding_openProvider (rows : Rows) (name provider : String) :
    (rows.openProvider name).binding provider = rows.binding provider := by
  by_cases h : name ∈ rows.providers.keys
  · rw [openProvider_of_mem h]
  · rw [openProvider_of_notMem h, binding, binding, Keyed.get?_append]
    cases hget : Keyed.get? rows.providers provider with
    | some store => rw [Option.some_or]
    | none =>
        rw [Option.none_or, Keyed.get?]
        cases hname : name == provider <;> simp [hname]

/-- The bindings after one name is attached: only the provider of the name is bound anew. -/
theorem binding_attach (rows : Rows) (name provider : String) :
    (rows.attach name).binding provider =
      if provider = name then some name else rows.binding provider := by
  have hproviders : (rows.attach name).providers =
      Keyed.put ((rows.openStore name).openProvider name).providers name (some name) := by
    rw [attach, bind]
    dsimp only [Option.elim]
    rw [providers_openStore]
  by_cases h : provider = name
  · rw [binding, hproviders, h, Keyed.get?_put_self, if_pos rfl]
    rfl
  · rw [binding, hproviders, Keyed.get?_put_of_ne h, if_neg h]
    have hopened := binding_openProvider (rows.openStore name) name provider
    rw [binding, binding, providers_openStore] at hopened
    exact hopened

/-- What one attached name changes. -/
theorem attached_attach (rows : Rows) (name : String) :
    rows.Attached [name] (rows.attach name) := by
  have hopened := stores_openStore rows name
  have hproviders := providers_openProvider (rows.openStore name) name
  rw [providers_openStore] at hproviders
  refine ⟨?_, ?_, fun provider => ?_⟩
  · -- The store is there when the provider is bound to it, so it is not opened a second time.
    have hmem : name ∈ ((rows.openStore name).openProvider name).stores.keys := by
      rw [stores_openProvider, hopened, Keyed.keys_append_map]
      exact mem_append_newNames _ _
    have hattach : (rows.attach name).stores =
        (((rows.openStore name).openProvider name).openStore name).stores := rfl
    rw [hattach, openStore_of_mem hmem, stores_openProvider, hopened]
  · have hattach : (rows.attach name).providers.keys =
        (Keyed.put (((rows.openStore name).openProvider name).openStore name).providers name
          (some name)).keys := rfl
    have hmem : name ∈ ((rows.openStore name).openProvider name).providers.keys := by
      rw [hproviders, Keyed.keys_append_map]
      exact mem_append_newNames _ _
    rw [hattach, providers_openStore, Keyed.keys_put_of_mem hmem, hproviders,
      Keyed.keys_append_map]
  · rw [binding_attach]
    by_cases h : provider = name
    · simp [h]
    · simp [h]

/-! ### Several attached names -/

theorem attached_nil (rows : Rows) : rows.Attached [] rows := by
  refine ⟨?_, ?_, fun provider => ?_⟩ <;> simp [newNames]

/-- Names are attached one after another. -/
theorem Attached.cons {between : Rows} (hname : before.Attached [name] between)
    (hnames : between.Attached names after) (hnew : name ∉ names) :
    before.Attached (name :: names) after := by
  have hkeys : between.stores.keys =
      before.stores.keys ++ newNames before.stores.keys [name] := by
    rw [hname.stores, Keyed.keys_append_map]
  refine ⟨?_, ?_, fun provider => ?_⟩
  · rw [hnames.stores, hkeys, hname.stores, newNames_cons hnew, List.map_append, List.append_assoc]
  · rw [hnames.providers, hname.providers, newNames_cons hnew, List.append_assoc]
  · rw [hnames.binding, hname.binding]
    by_cases hmem : provider ∈ names
    · simp [hmem]
    · by_cases heq : provider = name <;> simp [hmem, heq]

/-- What several attached names change. -/
theorem attached_attachAll (h : names.Nodup) (rows : Rows) :
    rows.Attached names (rows.attachAll names) := by
  induction names generalizing rows with
  | nil => exact attached_nil rows
  | cons name names ih =>
      obtain ⟨hnew, hnodup⟩ := List.nodup_cons.1 h
      exact (attached_attach rows name).cons (ih hnodup (rows.attach name)) hnew

/-- No row of any store changes. -/
theorem Attached.store_eq (h : before.Attached names after) (name : String) :
    after.store name = before.store name := by
  rw [store, store, h.stores, Keyed.get?_append]
  cases Keyed.get? before.stores name with
  | some rows => rw [Option.some_or]
  | none =>
      -- A store that is not there has no rows, and neither has a new one.
      rw [Option.none_or]
      cases hget : Keyed.get? ((newNames before.stores.keys names).map (·, ([] : Store))) name with
      | none => rfl
      | some rows =>
          obtain ⟨_, -, hentry⟩ := List.mem_map.1 (Keyed.mem_of_get?_eq_some hget)
          obtain ⟨-, rfl⟩ := Prod.mk.inj hentry
          rfl

/-- A provider finds the keys of the store of its name, whatever rows the stores come to hold. -/
theorem Attached.keysOf_eq (h : before.Attached names after) (hname : name ∈ names)
    (stores : Keyed String Store) :
    Rows.keysOf ⟨stores, after.providers⟩ name =
      (Rows.store ⟨stores, after.providers⟩ name).keys := by
  have hbinding : Rows.binding ⟨stores, after.providers⟩ name = some name := by
    have hbound := h.binding name
    rw [if_pos hname] at hbound
    exact hbound
  rw [keysOf, hbinding]

end Attach

end Rows

end MetricQuery
