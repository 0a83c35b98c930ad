import MetricQuery.Collection
import MetricQuery.Keyed
import MetricQuery.Text.Case

/-!
# Rows of dimensions

The rows of a dimension are kept in a store under their keys.  A search provider finds keys in the
store it is bound to.  Stores and providers are known by name and come into being when they are
first asked for.

## Main definitions

* `Store` : the rows of one dimension.
* `Rows` : all stores and search providers.
* `Rows.put`, `Rows.remove`, `Rows.bind` : changes of a store and of a binding.
* `Rows.keysOf`, `Rows.matching` : the keys that a provider finds.
-/

namespace MetricQuery

/-! ### One store -/

/-- Rows under their keys. -/
abbrev Store := Keyed String Datum

/-- The store with a row put under each of several keys, one after another. -/
def Store.putAll (store : Store) (entries : List (String × Datum)) : Store :=
  entries.foldl (fun store entry => store.put entry.1 entry.2) store

/-- Whether a row other than the absent value is kept under a key. -/
def Store.holds (store : Store) (key : String) : Bool :=
  match store.get? key with
  | some row => !(row == .null)
  | none => false

/-- Whether a text stands somewhere in another. -/
def occursIn (part : List Char) : List Char → Bool
  | [] => part.isEmpty
  | c :: rest => part.isPrefixOf (c :: rest) || occursIn part rest

/-- Whether the key starts with one text and contains another, without regard to letter case. -/
def matchesKey (start part key : String) : Bool :=
  let key := key.lowerCase.toList
  start.lowerCase.toList.isPrefixOf key && occursIn part.lowerCase.toList key

/-! ### All stores and providers -/

/-- All stores and search providers by name, in the order in which they were first asked for.  A
provider is bound to the store of a name, or to none. -/
structure Rows where
  stores : Keyed String Store
  providers : Keyed String (Option String)
deriving Repr, Inhabited

namespace Rows

/-- No stores and providers. -/
def empty : Rows := ⟨[], []⟩

/-- The rows of a store, none in one that has not been asked for. -/
def store (rows : Rows) (name : String) : Store :=
  (rows.stores.get? name).getD []

/-- The name of the store that a provider is bound to. -/
def binding (rows : Rows) (provider : String) : Option String :=
  (rows.providers.get? provider).join

/-- A store is asked for. -/
def openStore (rows : Rows) (name : String) : Rows :=
  if rows.stores.has name then rows else { rows with stores := rows.stores ++ [(name, [])] }

/-- A provider is asked for. -/
def openProvider (rows : Rows) (name : String) : Rows :=
  if rows.providers.has name then rows
  else { rows with providers := rows.providers ++ [(name, none)] }

/-- A change of the rows of a store. -/
def modify (rows : Rows) (name : String) (change : Store → Store) : Rows :=
  { rows with stores := rows.stores.put name (change (rows.store name)) }

/-- A row is put under a key of a store. -/
def put (rows : Rows) (name key : String) (row : Datum) : Rows :=
  rows.modify name fun store => store.put key row

/-- Rows are put under several keys of a store. -/
def putAll (rows : Rows) (name : String) (entries : List (String × Datum)) : Rows :=
  rows.modify name fun store => store.putAll entries

/-- A key is removed from a store; the answer says whether a row was kept under it. -/
def remove (rows : Rows) (name key : String) : Rows × Bool :=
  (rows.modify name fun store => store.erase key, (rows.store name).holds key)

/-- A provider is bound to a store, or freed. -/
def bind (rows : Rows) (provider : String) (store : Option String) : Rows :=
  let rows := store.elim rows rows.openStore
  { rows with providers := rows.providers.put provider store }

/-- All keys that a provider finds: those of the store it is bound to. -/
def keysOf (rows : Rows) (provider : String) : List String :=
  match rows.binding provider with
  | some name => (rows.store name).keys
  | none => []

/-- The keys that a provider finds for a start and a part. -/
def matching (rows : Rows) (provider start part : String) : List String :=
  (rows.keysOf provider).filter (matchesKey start part)

end Rows

end MetricQuery
