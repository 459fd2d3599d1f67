import Mathlib.Logic.Function.Basic
import Mathlib.Data.List.Sort
import Mathlib.Data.String.Basic

/-!
# The memdb manipulator (`manipmemory`)

`memdbManipulator` over a go-memdb database. A write method takes the transaction of its
context's transaction ID (`txnForID`: a new one for the empty ID, else the registered one, made
and registered if there is none), inserts or deletes every object in it, commits it if the ID is
empty, and aborts it on return (`defer txn.Abort()`). `Commit` and `Abort` act on the registered
transaction and unregister it; the reads (`Retrieve`, `RetrieveMany`, `Count`) read the
committed tree.

Of go-memdb we keep what these calls observe: a write transaction holds its own tree (`Txn`,
`rootTxn`), which `Commit` installs as the database's and which `Commit` and `Abort` both set to
nil, after which they are no-ops; `Insert` and `Delete` on such a transaction dereference the
nil tree and panic, after checking the table and the primary key. Calls are sequential; a
panic ends the run (`none`). Here a tree holds the objects' values; `Manipulate/Memory/Heap.lean`
models the same methods over the caller's pointers, which is what go-memdb stores, and
`Manipulate/Memory/Refinement.lean` shows that the two agree on calls that give `Create` no
stored object.

* `AllDone`: when no call is running, every transaction is committed or aborted
  (`AllDone.reachable`); in particular the registered ones are.
* `AllDone.write`, `AllDone.commit`: a write with a transaction ID never changes the committed
  tree, and neither does `Commit` of a finished transaction.
* `create_after_write_panics`: a `Create` with a transaction ID that has been written under
  panics on its first object.
* `committed_create_lost`: `Create` under ID `t` and `Commit(t)` both return nil and the object
  is not in the store.
* `create_error_table_or_index`: `Create` sets the identifiers itself, so it fails only on an
  object of a table the schema lacks or on one of the table's other indexes.
* `fresh_writes_never_panic`: a write with no transaction ID, or with one that has no registered
  transaction, never panics (`OpLive`: the operations keep a live transaction live).
* `writes_atomic`: a write with no transaction ID commits every object's write, in order, or,
  when an object fails, none of them (`writeObjects_view`: the loop applies each operation's
  effect in order).
* `retrieve_ok_iff_stored`: `Retrieve` succeeds exactly when the committed tree holds every
  object's key, and then returns the stored objects.
-/

namespace Manipulate.Memory

/-- A stored object: its identity's category (its table), its `Identifier()`, and its other fields.
-/
structure Object where
  category : String
  identifier : String
  data : String
  deriving DecidableEq, Repr

/-- A memdb tree: the objects of all tables. -/
abbrev Tables := List Object

def Object.sameKey (p o : Object) : Bool :=
  p.category == o.category && p.identifier == o.identifier

/-- `Insert` into a tree: the object with the same primary key is replaced, or `o` is added. -/
def Tables.put (db : Tables) (o : Object) : Tables :=
  if db.any (·.sameKey o) then db.map fun p => if p.sameKey o then o else p else db ++ [o]

/-- `Delete` from a tree: the object with `o`'s primary key goes. -/
def Tables.erase (db : Tables) (o : Object) : Tables := db.filter fun p => !p.sameKey o

/-- A secondary index (`memdb.IndexSchema`) and its indexer's `FromObject`, `FromArgs` and, for a
`PrefixIndexer`, `PrefixFromArgs`. -/
structure Index where
  name : String
  unique : Bool
  allowMissing : Bool
  fromObject : Object → Except String (Option String)
  fromArgs : List String → Except String String
  prefixFromArgs : Option (List String → Except String String)

/-- `StringFieldIndex.FromArgs`, and its `PrefixFromArgs` once the terminator is cut. -/
def stringFromArgs : List String → Except String String
  | [a] => .ok a
  | _ => .error "must provide only a single argument"

/-- The `id` index every table has: unique, a `StringFieldIndex` on `Identifier()`. -/
def idIndex : Index where
  name := "id"
  unique := true
  allowMissing := false
  fromObject o := .ok (some o.identifier)
  fromArgs := stringFromArgs
  prefixFromArgs := some stringFromArgs

def Index.valueOf (i : Index) (o : Object) : Option String :=
  match i.fromObject o with
  | .ok v => v
  | .error _ => none

/-- The key in the index's radix tree: the value, then the `id` in an index that is not unique. -/
def Index.key (i : Index) (v id : String) : List (List Char) :=
  if i.unique then [v.data] else [v.data, id.data]

def Index.keyOf (i : Index) (o : Object) : List (List Char) :=
  match i.valueOf o with
  | some v => i.key v o.identifier
  | none => []

@[simp] theorem idIndex_valueOf (o : Object) : idIndex.valueOf o = some o.identifier := rfl

def Index.keyLE (i : Index) (a b : Object) : Prop := i.keyOf a ≤ i.keyOf b

instance (i : Index) : DecidableRel i.keyLE := fun a b =>
  inferInstanceAs (Decidable (i.keyOf a ≤ i.keyOf b))

instance (i : Index) : IsTotal Object i.keyLE := ⟨fun a b => le_total (i.keyOf a) (i.keyOf b)⟩

instance (i : Index) : IsTrans Object i.keyLE := ⟨fun _ _ _ => le_trans⟩

def Index.buildError (i : Index) (e : String) : String :=
  "failed to build index \x27" ++ i.name ++ "\x27: " ++ e

def Index.missingError (i : Index) : String := "missing value for index \x27" ++ i.name ++ "\x27"

/-- What `Insert`'s loop says at the index: the indexer's error, or a missing value it does not
allow. -/
def Index.insertError (i : Index) (o : Object) : Option String :=
  match i.fromObject o with
  | .error e => some (i.buildError e)
  | .ok none => if i.allowMissing then none else some i.missingError
  | .ok (some _) => none

/-- The memdb schema: its tables and each table's indexes besides `id`, taken to be non-unique. -/
structure Schema where
  tables : List String
  indexes : String → List Index
  not_unique : ∀ t, ∀ i ∈ indexes t, i.unique = false
  not_id : ∀ t, ∀ i ∈ indexes t, i.name ≠ "id"

/-- The first error of `Insert`'s loop over the table's indexes, in the list's order. -/
def Schema.indexError (schema : Schema) (o : Object) : Option String :=
  (schema.indexes o.category).findSome? (·.insertError o)

/-- `getIndexValue`: the index a query reads (`_prefix` cut off) and the values it takes. -/
def Schema.getIndexValue (schema : Schema) (table index : String) (args : List String) :
    Except String (Index × (String → Bool)) :=
  if table ∉ schema.tables then .error ("invalid table \x27" ++ table ++ "\x27")
  else
    let prefixScan := "_prefix".data.isSuffixOf index.data
    let index := if prefixScan then index.dropRight 7 else index
    match (idIndex :: schema.indexes table).find? (·.name == index) with
    | none => .error ("invalid index \x27" ++ index ++ "\x27")
    | some i =>
      if args = [] then .ok (i, fun _ => true)
      else if prefixScan then
        match i.prefixFromArgs with
        | none => .error ("index \x27" ++ index ++ "\x27 does not support prefix scanning")
        | some f =>
          match f args with
          | .error e => .error ("index error: " ++ e)
          | .ok p => .ok (i, fun v => p.data.isPrefixOf v.data)
      else
        match i.fromArgs args with
        | .error e => .error ("index error: " ++ e)
        | .ok a => .ok (i, (· == a))

/-- `txn.Get(table, index, args...)`: the table's objects the query takes, in the order of their
keys. -/
def Schema.get (schema : Schema) (db : Tables) (table index : String) (args : List String) :
    Except String (List Object) :=
  (schema.getIndexValue table index args).map fun (i, sel) =>
    (db.filter fun o => o.category == table && (i.valueOf o).any sel).insertionSort i.keyLE

inductive ErrorCode where
  | cannotExecuteQuery
  | objectNotFound
  | notImplemented
  | cannotCommit
  deriving DecidableEq, Repr

/-- `manipulate.NewError(description, code)`. -/
structure Error where
  description : String
  code : ErrorCode
  deriving DecidableEq, Repr

/-- What `Filter.Keys()` and `Filter.Values()` return. -/
structure Filter where
  keys : List (List String)
  values : List (List String)
  deriving DecidableEq, Repr

/-- The fields of `manipulate.Context` the manipulator reads. -/
structure Context where
  transactionID : String
  filter : Option Filter
  deriving DecidableEq, Repr

def newContext : Context := ⟨"", none⟩

/-- The `n`-th identifier `uuid.NewV4().String()` returns: only its freshness matters. -/
def uuidNewV4 (n : Nat) : String := "uuid-" ++ toString n

/-- A write transaction (`*memdb.Txn`): its tree, `none` once it was committed or aborted. -/
structure Txn where
  root : Option Tables
  deriving DecidableEq, Repr

structure Manipulator where
  /-- The committed tree (`db.root`). -/
  db : Tables
  txns : Nat → Txn
  nextTxn : Nat
  txnRegistry : String → Option Nat
  minted : Nat

def newMemoryManipulator : Manipulator where
  db := []
  txns _ := ⟨none⟩
  nextTxn := 0
  txnRegistry _ := none
  minted := 0

namespace Manipulator

variable (m : Manipulator)

/-- `s.db.Txn(true)`: a new transaction on the committed tree. -/
def newTxn : Manipulator × Nat :=
  ({ m with txns := Function.update m.txns m.nextTxn ⟨some m.db⟩, nextTxn := m.nextTxn + 1 },
    m.nextTxn)

def registerTxn (id : String) (txn : Nat) : Manipulator :=
  { m with txnRegistry := Function.update m.txnRegistry id (some txn) }

def unregisterTxn (id : String) : Manipulator :=
  { m with txnRegistry := Function.update m.txnRegistry id none }

def registeredTxnWithID (id : String) : Option Nat := m.txnRegistry id

def txnForID (id : String) : Manipulator × Nat :=
  if id = "" then m.newTxn
  else
    match m.registeredTxnWithID id with
    | some txn => (m, txn)
    | none => (m.newTxn.1.registerTxn id m.newTxn.2, m.newTxn.2)

/-- `txn.Commit()`; a no-op on a finished transaction. -/
def commitTxn (txn : Nat) : Manipulator :=
  match (m.txns txn).root with
  | some r => { m with db := r, txns := Function.update m.txns txn ⟨none⟩ }
  | none => m

/-- `txn.Abort()`: the transaction's tree is dropped (already `none` if it was finished). -/
def abortTxn (txn : Nat) : Manipulator :=
  { m with txns := Function.update m.txns txn ⟨none⟩ }

/-- `txn.Insert(o.Identity().Category, o)`, or `none` for the panic on a finished transaction. At
an error the transaction is left as it was: the write aborts it right after. -/
def txnInsert (schema : Schema) (txn : Nat) (o : Object) :
    Option (Manipulator × Option String) :=
  if o.category ∉ schema.tables then
    some (m, some ("invalid table \x27" ++ o.category ++ "\x27"))
  else if o.identifier = "" then some (m, some "object missing primary index")
  else
    match (m.txns txn).root with
    | none => none
    | some r =>
      match schema.indexError o with
      | some e => some (m, some e)
      | none => some ({ m with txns := Function.update m.txns txn ⟨some (r.put o)⟩ }, none)

/-- `txn.Delete(o.Identity().Category, o)`, or `none` for the panic on a finished transaction. -/
def txnDelete (schema : Schema) (txn : Nat) (o : Object) :
    Option (Manipulator × Option String) :=
  if o.category ∉ schema.tables then
    some (m, some ("invalid table \x27" ++ o.category ++ "\x27"))
  else if o.identifier = "" then some (m, some "object missing primary index")
  else
    match (m.txns txn).root with
    | none => none
    | some r =>
      if r.any (·.sameKey o) then
        some ({ m with txns := Function.update m.txns txn ⟨some (r.erase o)⟩ }, none)
      else some (m, some "not found")

end Manipulator

/-! ## The manipulator's methods -/

/-- The loop over the objects of a write: `op` on each, up to the first error. -/
def writeObjects (op : Manipulator → Object → Option (Manipulator × Option String)) :
    Manipulator → List Object → Option (Manipulator × Option String)
  | m, [] => some (m, none)
  | m, o :: os =>
    match op m o with
    | none => none
    | some (m', some e) => some (m', some e)
    | some (m', none) => writeObjects op m' os

/-- The body of `Create`, `Update` and `Delete`, with its deferred `txn.Abort()`. -/
def write (op : Manipulator → Nat → Object → Option (Manipulator × Option String))
    (m : Manipulator) (context : Option Context) (objects : List Object) :
    Option (Manipulator × Option Error) :=
  let tid := (context.getD newContext).transactionID
  let (m, txn) := m.txnForID tid
  (writeObjects (fun m o => op m txn o) m objects).map fun (m, err) =>
    match err with
    | some e => (m.abortTxn txn, some ⟨e, .cannotExecuteQuery⟩)
    | none => ((if tid = "" then m.commitTxn txn else m).abortTxn txn, none)

/-- `Create`: each object gets a new identifier, then is inserted. -/
def Manipulator.create (schema : Schema) : Manipulator → Option Context → List Object →
    Option (Manipulator × Option Error) :=
  write fun m txn o =>
    { m with minted := m.minted + 1 }.txnInsert schema txn
      { o with identifier := uuidNewV4 m.minted }

def Manipulator.update (schema : Schema) : Manipulator → Option Context → List Object →
    Option (Manipulator × Option Error) :=
  write fun m => m.txnInsert schema

def Manipulator.delete (schema : Schema) : Manipulator → Option Context → List Object →
    Option (Manipulator × Option Error) :=
  write fun m => m.txnDelete schema

def Manipulator.commit (m : Manipulator) (id : String) : Manipulator × Option Error :=
  match m.registeredTxnWithID id with
  | none => (m, some ⟨"No transaction found for the given transaction ID.", .cannotCommit⟩)
  | some txn => ((m.commitTxn txn).unregisterTxn id, none)

def Manipulator.abort (m : Manipulator) (id : String) : Manipulator × Bool :=
  match m.registeredTxnWithID id with
  | none => (m, false)
  | some txn => ((m.abortTxn txn).unregisterTxn id, true)

/-- `Retrieve`: each object in turn is replaced by the stored one with its identifier, up to the
first error. -/
def Manipulator.retrieve (schema : Schema) (m : Manipulator) :
    List Object → List Object × Option Error
  | [] => ([], none)
  | o :: os =>
    match schema.get m.db o.category "id" [o.identifier] with
    | .error e => (o :: os, some ⟨e, .cannotExecuteQuery⟩)
    | .ok [] => (o :: os, some ⟨"Object Not Found", .objectNotFound⟩)
    | .ok (r :: _) =>
      let (os', err) := Manipulator.retrieve schema m os
      (r :: os', err)

/-- `RetrieveMany`: `dest` and then the objects the filter's first key and values select; `none`
for the panic of an empty filter. -/
def Manipulator.retrieveMany (schema : Schema) (m : Manipulator) (context : Option Context)
    (category : String) (dest : List Object) : Option (Except Error (List Object)) :=
  let query (index : String) (args : List String) : Except Error (List Object) :=
    match schema.get m.db category index args with
    | .error e => .error ⟨e, .cannotExecuteQuery⟩
    | .ok objects => .ok (dest ++ objects)
  match (context.getD newContext).filter with
  | none => some (query "id" [])
  | some f =>
    match f.keys, f.values with
    | (index :: _) :: _, args :: _ => some (query index args)
    | _, _ => none

/-- `Count`: the number of objects `RetrieveMany` returns, or `-1` and its error. -/
def Manipulator.count (schema : Schema) (m : Manipulator) (context : Option Context)
    (category : String) : Option (Int × Option Error) :=
  (Manipulator.retrieveMany schema m context category []).map fun
    | .error e => (-1, some e)
    | .ok out => (out.length, none)

def assign : Error := ⟨"Assign is not implemented in MemoryManipulator", .notImplemented⟩

def increment : Error := ⟨"Increment is not implemented in MemoryManipulator", .notImplemented⟩

/-! ## Runs of calls -/

/-- A call that changes the manipulator. -/
inductive Call where
  | create (context : Option Context) (objects : List Object)
  | update (context : Option Context) (objects : List Object)
  | delete (context : Option Context) (objects : List Object)
  | commit (id : String)
  | abort (id : String)
  deriving DecidableEq, Repr

def Call.apply (schema : Schema) (m : Manipulator) : Call → Option Manipulator
  | .create c os => (Manipulator.create schema m c os).map Prod.fst
  | .update c os => (Manipulator.update schema m c os).map Prod.fst
  | .delete c os => (Manipulator.delete schema m c os).map Prod.fst
  | .commit id => some (m.commit id).1
  | .abort id => some (m.abort id).1

def runCalls (schema : Schema) : Manipulator → List Call → Option Manipulator
  | m, [] => some m
  | m, c :: cs => (c.apply schema m).bind fun m' => runCalls schema m' cs

/-- A state some run of calls on a new manipulator reaches. -/
def Reachable (schema : Schema) (m : Manipulator) : Prop :=
  ∃ cs, runCalls schema newMemoryManipulator cs = some m

/-! ## Every transaction is finished between calls -/

/-- `m'` differs from `m` at most in transaction `txn`. -/
def Frame (txn : Nat) (m m' : Manipulator) : Prop :=
  m'.db = m.db ∧ ∀ j, j ≠ txn → m'.txns j = m.txns j

def OpFrame (op : Manipulator → Nat → Object → Option (Manipulator × Option String)) : Prop :=
  ∀ m txn o m' e, op m txn o = some (m', e) → Frame txn m m'

section
variable {schema : Schema} {m m' : Manipulator} {txn : Nat}

theorem Frame.refl : Frame txn m m := ⟨rfl, fun _ _ => rfl⟩

theorem Frame.trans {m'' : Manipulator} (h₁ : Frame txn m m') (h₂ : Frame txn m' m'') :
    Frame txn m m'' :=
  ⟨h₂.1.trans h₁.1, fun j hj => (h₂.2 j hj).trans (h₁.2 j hj)⟩

theorem Frame.update (r : Txn) : Frame txn m { m with txns := Function.update m.txns txn r } :=
  ⟨rfl, fun _ hj => Function.update_noteq hj _ _⟩

/-- Everything `txnInsert` can do. -/
theorem txnInsert_cases {o : Object} {e : Option String}
    (h : m.txnInsert schema txn o = some (m', e)) :
    m' = m ∧ (∃ msg, e = some msg ∧
        (o.category ∉ schema.tables ∧ msg = "invalid table \x27" ++ o.category ++ "\x27" ∨
          o.category ∈ schema.tables ∧ o.identifier = "" ∧ msg = "object missing primary index" ∨
          o.category ∈ schema.tables ∧ o.identifier ≠ "" ∧ ((m.txns txn).root).isSome ∧
            schema.indexError o = some msg)) ∨
      e = none ∧ o.category ∈ schema.tables ∧ o.identifier ≠ "" ∧ schema.indexError o = none ∧
        ∃ r, (m.txns txn).root = some r ∧
          m' = { m with txns := Function.update m.txns txn ⟨some (r.put o)⟩ } := by
  unfold Manipulator.txnInsert at h
  split_ifs at h with ht hi
  · cases h; exact .inl ⟨rfl, _, rfl, .inr (.inl ⟨ht, hi, rfl⟩)⟩
  · split at h
    · cases h
    · rename_i r hr
      split at h
      · cases h; exact .inl ⟨rfl, _, rfl, .inr (.inr ⟨ht, hi, by simp [hr], ‹_›⟩)⟩
      · cases h; exact .inr ⟨rfl, ht, hi, ‹_›, r, hr, rfl⟩
  · cases h; exact .inl ⟨rfl, _, rfl, .inl ⟨ht, rfl⟩⟩

theorem txnInsert_opFrame : OpFrame fun m => m.txnInsert schema := by
  intro m txn o m' e h
  obtain ⟨rfl, -⟩ | ⟨-, -, -, -, r, -, rfl⟩ := txnInsert_cases h
  exacts [Frame.refl, Frame.update _]

theorem txnDelete_opFrame : OpFrame fun m => m.txnDelete schema := by
  intro m txn o m' e h
  simp only [Manipulator.txnDelete] at h
  split_ifs at h <;> (try split at h) <;> (try split_ifs at h) <;> cases h <;>
    first | exact Frame.refl | exact Frame.update _

theorem create_opFrame : OpFrame fun m txn o =>
    { m with minted := m.minted + 1 }.txnInsert schema txn
      { o with identifier := uuidNewV4 m.minted } :=
  fun m txn _ m' e h => txnInsert_opFrame { m with minted := m.minted + 1 } txn _ m' e h

theorem writeObjects_frame {op : Manipulator → Object → Option (Manipulator × Option String)}
    (hop : ∀ m o m' e, op m o = some (m', e) → Frame txn m m') {os : List Object}
    {e : Option String} (h : writeObjects op m os = some (m', e)) : Frame txn m m' := by
  induction os generalizing m with
  | nil => cases h; exact Frame.refl
  | cons o os ih =>
    simp only [writeObjects] at h
    split at h
    · cases h
    · cases h; exact hop _ _ _ _ ‹_›
    · exact (hop _ _ _ _ ‹_›).trans (ih h)

theorem txnForID_frame (id : String) :
    Frame (m.txnForID id).2 m (m.txnForID id).1 := by
  unfold Manipulator.txnForID
  split
  · exact Frame.update _
  · split
    · exact Frame.refl
    · exact ⟨rfl, fun _ hj => Function.update_noteq hj _ _⟩

theorem abortTxn_txns : ((m.abortTxn txn).txns txn).root = none := by
  simp [Manipulator.abortTxn]

theorem commitTxn_txns {j : Nat} (hj : j ≠ txn) : (m.commitTxn txn).txns j = m.txns j := by
  unfold Manipulator.commitTxn; split
  · exact Function.update_noteq hj _ _
  · rfl

theorem write_frame {op : Manipulator → Nat → Object → Option (Manipulator × Option String)}
    (hop : OpFrame op) {c : Option Context} {os : List Object} {e : Option Error}
    (h : write op m c os = some (m', e)) :
    let tid := (c.getD newContext).transactionID
    ((m'.txns (m.txnForID tid).2).root = none ∧
      ∀ j, j ≠ (m.txnForID tid).2 → m'.txns j = m.txns j) ∧ (tid ≠ "" → m'.db = m.db) := by
  intro tid
  simp only [write, Option.map_eq_some'] at h
  obtain ⟨⟨m₁, err⟩, hw, he⟩ := h
  obtain ⟨hdb, hj⟩ := (txnForID_frame tid).trans (writeObjects_frame (hop · _) hw)
  have hm' : ∃ m₂, m' = m₂.abortTxn (m.txnForID tid).2 ∧
      (∀ j, j ≠ (m.txnForID tid).2 → m₂.txns j = m₁.txns j) ∧ (tid ≠ "" → m₂ = m₁) := by
    cases err <;> simp only [Prod.mk.injEq] at he <;> obtain ⟨rfl, -⟩ := he
    · split_ifs with ht
      · exact ⟨_, rfl, fun j hj => commitTxn_txns hj, fun h => absurd ht h⟩
      · exact ⟨_, rfl, fun _ _ => rfl, fun _ => rfl⟩
    · exact ⟨_, rfl, fun _ _ => rfl, fun _ => rfl⟩
  obtain ⟨m₂, rfl, h₂, h₃⟩ := hm'
  refine ⟨⟨abortTxn_txns, fun j hne => ?_⟩, fun ht => ?_⟩
  · rw [← hj j hne, ← h₂ j hne]; exact Function.update_noteq hne _ _
  · rw [h₃ ht, ← hdb]; rfl

theorem commitTxn_done (h : (m.txns txn).root = none) : m.commitTxn txn = m := by
  simp [Manipulator.commitTxn, h]

end

/-- Between calls every transaction is committed or aborted. -/
def AllDone (m : Manipulator) : Prop := ∀ txn, (m.txns txn).root = none

def Call.autoCommits : Call → Bool
  | .create c _ | .update c _ | .delete c _ => (c.getD newContext).transactionID == ""
  | .commit _ | .abort _ => false

section
variable {schema : Schema} {m m' : Manipulator}

theorem AllDone.abortTxn (hi : AllDone m) (txn : Nat) : AllDone (m.abortTxn txn) := fun j => by
  simp only [Manipulator.abortTxn, Function.update_apply]
  split_ifs
  · rfl
  · exact hi j

theorem AllDone.write {op : Manipulator → Nat → Object → Option (Manipulator × Option String)}
    (hi : AllDone m) (hop : OpFrame op) {c : Option Context} {os : List Object}
    (h : (write op m c os).map Prod.fst = some m') :
    AllDone m' ∧ ((c.getD newContext).transactionID ≠ "" → m'.db = m.db) := by
  obtain ⟨⟨m'', e⟩, hw, rfl⟩ := Option.map_eq_some'.1 h
  obtain ⟨⟨hk, hj⟩, hdb⟩ := write_frame hop hw
  refine ⟨fun txn => ?_, hdb⟩
  by_cases htxn : txn = (m.txnForID (c.getD newContext).transactionID).2
  · rw [htxn]; exact hk
  · rw [hj txn htxn]; exact hi txn

theorem AllDone.commit (hi : AllDone m) (id : String) :
    (m.commit id).1.db = m.db ∧ AllDone (m.commit id).1 := by
  unfold Manipulator.commit; split
  · exact ⟨rfl, hi⟩
  · rw [commitTxn_done (hi _)]; exact ⟨rfl, hi⟩

theorem AllDone.abort (hi : AllDone m) (id : String) :
    (m.abort id).1.db = m.db ∧ AllDone (m.abort id).1 := by
  unfold Manipulator.abort; split
  · exact ⟨rfl, hi⟩
  · exact ⟨rfl, hi.abortTxn _⟩

theorem AllDone.apply (hi : AllDone m) {c : Call} (h : c.apply schema m = some m') :
    AllDone m' ∧ (c.autoCommits = false → m'.db = m.db) := by
  have hne : ∀ c : Option Context, ((c.getD newContext).transactionID == "") = false →
      (c.getD newContext).transactionID ≠ "" := by simp
  cases c with
  | create c os => exact (hi.write create_opFrame h).imp_right fun hd hc => hd (hne c hc)
  | update c os => exact (hi.write txnInsert_opFrame h).imp_right fun hd hc => hd (hne c hc)
  | delete c os => exact (hi.write txnDelete_opFrame h).imp_right fun hd hc => hd (hne c hc)
  | commit id => cases h; exact ⟨(hi.commit id).2, fun _ => (hi.commit id).1⟩
  | abort id => cases h; exact ⟨(hi.abort id).2, fun _ => (hi.abort id).1⟩

theorem runCalls_allDone (hi : AllDone m) {cs : List Call} (h : runCalls schema m cs = some m') :
    AllDone m' ∧ ((∀ c ∈ cs, c.autoCommits = false) → m'.db = m.db) := by
  induction cs generalizing m with
  | nil => cases h; exact ⟨hi, fun _ => rfl⟩
  | cons c cs ih =>
    simp only [runCalls, Option.bind_eq_some] at h
    obtain ⟨m₁, h₁, h₂⟩ := h
    obtain ⟨hi₁, hd₁⟩ := hi.apply h₁
    obtain ⟨hi', hd'⟩ := ih hi₁ h₂
    exact ⟨hi', fun hc => (hd' fun c' hc' => hc c' (List.mem_cons_of_mem _ hc')).trans
      (hd₁ (hc c (List.mem_cons_self _ _)))⟩

theorem AllDone.reachable (h : Reachable schema m) : AllDone m :=
  let ⟨_, h⟩ := h
  (runCalls_allDone (fun _ => rfl) h).1

end

/-- A `StringFieldIndex` on the string `field`, which counts the empty string as no value. -/
def stringFieldIndex (name : String) (field : Object → String) (allowMissing : Bool) : Index where
  name := name
  unique := false
  allowMissing := allowMissing
  fromObject o := .ok (if field o = "" then none else some (field o))
  fromArgs := stringFromArgs
  prefixFromArgs := some stringFromArgs

/-- A schema of one table, `list`, whose objects must have a `data` value. -/
def lists : Schema where
  tables := ["list"]
  indexes _ := [stringFieldIndex "data" Object.data false]
  not_unique _ _ h := by rw [List.mem_singleton.1 h]; rfl
  not_id _ _ h := by rw [List.mem_singleton.1 h]; decide

/-! ## Writes under a transaction ID -/

section
variable {schema : Schema} {m m' : Manipulator}

theorem uuidNewV4_ne_empty (n : Nat) : uuidNewV4 n ≠ "" := fun h => by
  have := congrArg String.length h
  rw [uuidNewV4, String.length_append] at this
  exact absurd this (Nat.pos_iff_ne_zero.1 (Nat.lt_add_right _ (by decide)))

theorem create_after_write_panics (hr : Reachable schema m) {id : String} (hid : id ≠ "")
    {txn : Nat} (hreg : m.registeredTxnWithID id = some txn) (f : Option Filter) {o : Object}
    (os : List Object) (ho : o.category ∈ schema.tables) :
    m.create schema (some ⟨id, f⟩) (o :: os) = none := by
  have hd := AllDone.reachable hr txn
  simp [Manipulator.create, write, Manipulator.txnForID, hid, hreg, writeObjects,
    Manipulator.txnInsert, ho, uuidNewV4_ne_empty, hd]

theorem create_after_write_panics_second :
    let m := ((newMemoryManipulator.create lists (some ⟨"t", none⟩) [⟨"list", "", "x"⟩]).map
      Prod.fst).getD newMemoryManipulator
    m.create lists (some ⟨"t", none⟩) [⟨"list", "", "y"⟩] = none :=
  @create_after_write_panics lists _ ⟨[.create (some ⟨"t", none⟩) [⟨"list", "", "x"⟩]], rfl⟩ "t"
    (by decide) 0 rfl none _ [] (by decide)

/-- `Create` under transaction ID `t` and `Commit("t")` both return nil, yet the object is not
stored. -/
theorem committed_create_lost :
    ∃ m₁ m₂, newMemoryManipulator.create lists (some ⟨"t", none⟩) [⟨"list", "", "x"⟩] =
        some (m₁, none) ∧
      m₁.commit "t" = (m₂, none) ∧ m₂.db = [] ∧
      m₂.db ≠ newMemoryManipulator.db.put ⟨"list", uuidNewV4 0, "x"⟩ ∧
      (m₂.retrieve lists [⟨"list", uuidNewV4 0, ""⟩]).2 =
        some ⟨"Object Not Found", .objectNotFound⟩ :=
  ⟨_, _, rfl, rfl, rfl, by decide, rfl⟩

/-! ## `Create`'s own identifiers -/

theorem writeObjects_error {op : Manipulator → Object → Option (Manipulator × Option String)}
    {os : List Object} {e : String} (h : writeObjects op m os = some (m', some e)) :
    ∃ o ∈ os, ∃ m₀ m₂, op m₀ o = some (m₂, some e) := by
  induction os generalizing m with
  | nil => cases h
  | cons o os ih =>
    simp only [writeObjects] at h
    split at h
    · cases h
    · cases h; exact ⟨o, List.mem_cons_self _ _, _, _, ‹_›⟩
    · obtain ⟨o', ho', hp⟩ := ih h
      exact ⟨o', List.mem_cons_of_mem _ ho', hp⟩

theorem create_op_error {m₀ m₂ : Manipulator} {txn : Nat} {o : Object} {e : String}
    (h : { m₀ with minted := m₀.minted + 1 }.txnInsert schema txn
      { o with identifier := uuidNewV4 m₀.minted } = some (m₂, some e)) :
    o.category ∉ schema.tables ∧ e = "invalid table \x27" ++ o.category ++ "\x27" ∨
      o.category ∈ schema.tables ∧
        schema.indexError { o with identifier := uuidNewV4 m₀.minted } = some e := by
  obtain ⟨-, msg, hm, hc⟩ | ⟨h, -⟩ := txnInsert_cases h
  · cases hm
    rcases hc with h | ⟨-, hi, -⟩ | ⟨ht, -, -, hi⟩
    exacts [.inl h, absurd hi (uuidNewV4_ne_empty _), .inr ⟨ht, hi⟩]
  · cases h

/-- `Create` never fails on a missing primary key: only on the table or on another index. -/
theorem create_error_table_or_index {c : Option Context} {os : List Object} {e : Error}
    (h : m.create schema c os = some (m', some e)) :
    ∃ o ∈ os, e.code = .cannotExecuteQuery ∧
      (o.category ∉ schema.tables ∧ e.description = "invalid table \x27" ++ o.category ++ "\x27" ∨
        o.category ∈ schema.tables ∧
          ∃ n, schema.indexError { o with identifier := uuidNewV4 n } = some e.description) := by
  simp only [Manipulator.create, write, Option.map_eq_some'] at h
  obtain ⟨⟨m₁, err⟩, hw, he⟩ := h
  cases err with
  | none => simp at he
  | some e' =>
    obtain ⟨-, ⟨⟩⟩ := Prod.mk.inj_iff.1 he
    obtain ⟨o, ho, m₀, m₂, hop⟩ := writeObjects_error hw
    exact ⟨o, ho, rfl, (create_op_error hop).imp_right fun ⟨ht, hi⟩ => ⟨ht, _, hi⟩⟩

theorem create_error_missing_data :
    let os : List Object := [⟨"list", "", "x"⟩, ⟨"list", "", ""⟩]
    let m' := ((newMemoryManipulator.create lists none os).getD (newMemoryManipulator, none)).1
    let e : Error := ⟨"missing value for index \x27data\x27", .cannotExecuteQuery⟩
    newMemoryManipulator.create lists none os = some (m', some e) ∧
      ∃ o ∈ os, e.code = .cannotExecuteQuery ∧
        (o.category ∉ lists.tables ∧ e.description = "invalid table \x27" ++ o.category ++ "\x27" ∨
          o.category ∈ lists.tables ∧
            ∃ n, lists.indexError { o with identifier := uuidNewV4 n } = some e.description) := by
  intro os m' e
  have h : newMemoryManipulator.create lists none os = some (m', some e) := rfl
  exact ⟨h, create_error_table_or_index h⟩

/-! ## Writes on a live transaction never panic -/

/-- Transaction `txn` is neither committed nor aborted. -/
def Live (txn : Nat) (m : Manipulator) : Prop := ((m.txns txn).root).isSome

def OpLive (op : Manipulator → Nat → Object → Option (Manipulator × Option String)) : Prop :=
  ∀ m txn o, Live txn m → ∃ m' e, op m txn o = some (m', e) ∧ Live txn m'

theorem txnInsert_opLive : OpLive fun m => m.txnInsert schema := by
  intro m txn o hl
  obtain ⟨r, hr⟩ := Option.isSome_iff_exists.1 hl
  simp only [Manipulator.txnInsert, hr]
  split_ifs <;> (try split) <;> exact ⟨_, _, rfl, by simp [Live, hr]⟩

theorem txnDelete_opLive : OpLive fun m => m.txnDelete schema := by
  intro m txn o hl
  obtain ⟨r, hr⟩ := Option.isSome_iff_exists.1 hl
  simp only [Manipulator.txnDelete, hr]
  split_ifs <;> exact ⟨_, _, rfl, by simp [Live, hr]⟩

theorem create_opLive : OpLive fun m txn o =>
    { m with minted := m.minted + 1 }.txnInsert schema txn
      { o with identifier := uuidNewV4 m.minted } :=
  fun m txn _ hl => txnInsert_opLive { m with minted := m.minted + 1 } txn _ hl

theorem writeObjects_ne_none {op : Manipulator → Object → Option (Manipulator × Option String)}
    {txn : Nat} (hop : ∀ m o, Live txn m → ∃ m' e, op m o = some (m', e) ∧ Live txn m')
    (os : List Object) (hl : Live txn m) : writeObjects op m os ≠ none := by
  induction os generalizing m with
  | nil => simp [writeObjects]
  | cons o os ih =>
    obtain ⟨m', e, h, hl'⟩ := hop m o hl
    cases e <;> simp [writeObjects, h, ih hl']

theorem txnForID_live {id : String} (h : id = "" ∨ m.registeredTxnWithID id = none) :
    Live (m.txnForID id).2 (m.txnForID id).1 := by
  unfold Manipulator.txnForID
  rcases h with rfl | h
  · simp [Live, Manipulator.newTxn]
  · split_ifs
    · simp [Live, Manipulator.newTxn]
    · simp [h, Live, Manipulator.newTxn, Manipulator.registerTxn]

theorem write_ne_none {op : Manipulator → Nat → Object → Option (Manipulator × Option String)}
    (hop : OpLive op) {c : Option Context}
    (h : (c.getD newContext).transactionID = "" ∨
      m.registeredTxnWithID (c.getD newContext).transactionID = none) (os : List Object) :
    write op m c os ≠ none := by
  simp only [write, ne_eq, Option.map_eq_none']
  exact writeObjects_ne_none (fun m o hl => hop m _ o hl) os (txnForID_live h)

/-- A write with no registered transaction never panics. -/
theorem fresh_writes_never_panic (c : Option Context)
    (h : (c.getD newContext).transactionID = "" ∨
      m.registeredTxnWithID (c.getD newContext).transactionID = none) (os : List Object) :
    m.create schema c os ≠ none ∧ m.update schema c os ≠ none ∧ m.delete schema c os ≠ none :=
  ⟨write_ne_none create_opLive h os, write_ne_none txnInsert_opLive h os,
    write_ne_none txnDelete_opLive h os⟩

theorem fresh_writes_never_panic_new :
    let os : List Object := [⟨"list", "", "x"⟩, ⟨"nolist", "a", "y"⟩]
    newMemoryManipulator.create lists (some ⟨"t", none⟩) os ≠ none ∧
      newMemoryManipulator.update lists (some ⟨"t", none⟩) os ≠ none ∧
      newMemoryManipulator.delete lists (some ⟨"t", none⟩) os ≠ none :=
  @fresh_writes_never_panic lists newMemoryManipulator (some ⟨"t", none⟩) (.inr rfl) _

end

/-! ## Writes without a transaction ID are atomic -/

/-- The objects `Create` inserts: each with the next identifier `uuid.NewV4()` returns, the
first being the `n`-th. -/
def createdObjects : Nat → List Object → List Object
  | _, [] => []
  | n, o :: os => { o with identifier := uuidNewV4 n } :: createdObjects (n + 1) os

section
variable {schema : Schema} {m m' : Manipulator} {txn : Nat} {o : Object}

theorem writeObjects_view {β : Type}
    {op : Manipulator → Object → Option (Manipulator × Option String)}
    (view : Manipulator → β) (g : β → Object → β)
    (hop : ∀ m o m', op m o = some (m', none) → view m' = g (view m) o) {os : List Object}
    (h : writeObjects op m os = some (m', none)) : view m' = os.foldl g (view m) := by
  induction os generalizing m with
  | nil => cases h; rfl
  | cons o os ih =>
    simp only [writeObjects] at h
    split at h
    · cases h
    · cases h
    · rw [ih h, List.foldl_cons, hop _ _ _ ‹_›]

theorem txnInsert_ok (h : m.txnInsert schema txn o = some (m', none)) :
    (m'.txns txn).root = (m.txns txn).root.map (·.put o) ∧ m'.minted = m.minted := by
  obtain ⟨-, _, h, -⟩ | ⟨-, -, -, -, r, hr, rfl⟩ := txnInsert_cases h
  · cases h
  · simp [hr]

theorem txnDelete_ok (h : m.txnDelete schema txn o = some (m', none)) :
    (m'.txns txn).root = (m.txns txn).root.map (·.erase o) := by
  unfold Manipulator.txnDelete at h
  split_ifs at h <;> (try split at h) <;> (try split_ifs at h) <;> cases h
  simp [*]

theorem createdObjects_foldl (os : List Object) (r : Tables) (n : Nat) :
    os.foldl (fun (v : Option Tables × Nat) o =>
        (v.1.map (·.put { o with identifier := uuidNewV4 v.2 }), v.2 + 1)) (some r, n) =
      (some ((createdObjects n os).foldl Tables.put r), n + os.length) := by
  induction os generalizing r n with
  | nil => rfl
  | cons o os ih => simp [createdObjects, ih, Nat.add_assoc, Nat.add_comm 1]

theorem commitTxn_db {r : Tables} (h : (m.txns txn).root = some r) :
    (m.commitTxn txn).db = r := by
  simp [Manipulator.commitTxn, h]

theorem write_autocommit
    {op : Manipulator → Nat → Object → Option (Manipulator × Option String)} (hop : OpFrame op)
    {c : Option Context} (hc : (c.getD newContext).transactionID = "")
    {os : List Object} {e : Option Error} (h : write op m c os = some (m', e)) :
    (e = none → ∃ m₁,
        writeObjects (fun m₂ o => op m₂ m.nextTxn o) m.newTxn.1 os = some (m₁, none) ∧
          m'.db = (m₁.commitTxn m.nextTxn).db) ∧
      (e ≠ none → m'.db = m.db) := by
  simp only [write, Manipulator.txnForID, hc, if_true, Option.map_eq_some'] at h
  obtain ⟨⟨m₁, err⟩, hw, he⟩ := h
  cases err with
  | none =>
    obtain ⟨rfl, rfl⟩ := Prod.mk.inj_iff.1 he
    exact ⟨fun _ => ⟨m₁, hw, rfl⟩, fun h => absurd rfl h⟩
  | some s =>
    obtain ⟨rfl, rfl⟩ := Prod.mk.inj_iff.1 he
    exact ⟨nofun, fun _ => (writeObjects_frame (hop · _) hw).1⟩

theorem newTxn_root : (m.newTxn.1.txns m.nextTxn).root = some m.db := by
  simp [Manipulator.newTxn]

theorem write_autocommit_fold
    {op : Manipulator → Nat → Object → Option (Manipulator × Option String)}
    {g : Tables → Object → Tables} (hop : OpFrame op) (hlive : OpLive op)
    (hg : ∀ m txn o m', op m txn o = some (m', none) →
      (m'.txns txn).root = (m.txns txn).root.map (g · o))
    {c : Option Context} (hc : (c.getD newContext).transactionID = "") (os : List Object) :
    ∃ m' e, write op m c os = some (m', e) ∧ (e = none → m'.db = os.foldl g m.db) ∧
      (e ≠ none → m'.db = m.db) := by
  obtain ⟨⟨m', e⟩, h⟩ := Option.ne_none_iff_exists'.1 (write_ne_none hlive (.inl hc) os)
  obtain ⟨hok, herr⟩ := write_autocommit hop hc h
  refine ⟨m', e, h, fun he => ?_, herr⟩
  obtain ⟨m₁, hw, hdb⟩ := hok he
  have hv := writeObjects_view (fun m₂ => (m₂.txns m.nextTxn).root) (fun r o => r.map (g · o))
    (fun _ _ _ h => hg _ _ _ _ h) hw
  simp only [newTxn_root] at hv
  rw [List.foldl_hom some g _ os m.db fun _ _ => rfl] at hv
  rw [hdb, commitTxn_db hv]

/-- With no transaction ID a write commits every object's write, in order, or none of them. -/
theorem writes_atomic (m : Manipulator) {c : Option Context}
    (hc : (c.getD newContext).transactionID = "") (os : List Object) :
    (∃ m' e, m.create schema c os = some (m', e) ∧
        (e = none → m'.db = (createdObjects m.minted os).foldl Tables.put m.db) ∧
        (e ≠ none → m'.db = m.db)) ∧
      (∃ m' e, m.update schema c os = some (m', e) ∧
        (e = none → m'.db = os.foldl Tables.put m.db) ∧ (e ≠ none → m'.db = m.db)) ∧
      (∃ m' e, m.delete schema c os = some (m', e) ∧
        (e = none → m'.db = os.foldl Tables.erase m.db) ∧ (e ≠ none → m'.db = m.db)) := by
  refine ⟨?_, write_autocommit_fold txnInsert_opFrame txnInsert_opLive
    (fun _ _ _ _ h => (txnInsert_ok h).1) hc os, write_autocommit_fold txnDelete_opFrame
    txnDelete_opLive (fun _ _ _ _ h => txnDelete_ok h) hc os⟩
  obtain ⟨⟨m', e⟩, h⟩ := Option.ne_none_iff_exists'.1 (write_ne_none create_opLive (.inl hc) os)
  obtain ⟨hok, herr⟩ := write_autocommit create_opFrame hc h
  refine ⟨m', e, h, fun he => ?_, herr⟩
  obtain ⟨m₁, hw, hdb⟩ := hok he
  have hv := writeObjects_view (fun m₂ => ((m₂.txns m.nextTxn).root, m₂.minted))
    (fun v o => (v.1.map (·.put { o with identifier := uuidNewV4 v.2 }), v.2 + 1))
    (fun _ _ _ h => by obtain ⟨h₁, h₂⟩ := txnInsert_ok h; exact Prod.ext h₁ h₂) hw
  simp only [newTxn_root] at hv
  rw [show m.newTxn.1.minted = m.minted from rfl, createdObjects_foldl] at hv
  rw [hdb, commitTxn_db (Prod.ext_iff.1 hv).1]

end

theorem writes_atomic_second_fails :
    let os : List Object := [⟨"list", "", "x"⟩, ⟨"nolist", "a", "y"⟩]
    let m := newMemoryManipulator
    (∃ m' e, m.create lists none os = some (m', e) ∧
        (e = none → m'.db = (createdObjects m.minted os).foldl Tables.put m.db) ∧
        (e ≠ none → m'.db = m.db)) ∧
      (∃ m' e, m.update lists none os = some (m', e) ∧
        (e = none → m'.db = os.foldl Tables.put m.db) ∧ (e ≠ none → m'.db = m.db)) ∧
      (∃ m' e, m.delete lists none os = some (m', e) ∧
        (e = none → m'.db = os.foldl Tables.erase m.db) ∧ (e ≠ none → m'.db = m.db)) :=
  @writes_atomic lists newMemoryManipulator none rfl _

/-! ## Reads -/

theorem Schema.getIndexValue_id (schema : Schema) (table id : String) :
    schema.getIndexValue table "id" [id] =
      if table ∈ schema.tables then .ok (idIndex, (· == id))
      else .error ("invalid table \x27" ++ table ++ "\x27") := by
  unfold Schema.getIndexValue
  split_ifs <;> first | rfl | contradiction

theorem Schema.getIndexValue_id_all (schema : Schema) (table : String) :
    schema.getIndexValue table "id" [] =
      if table ∈ schema.tables then .ok (idIndex, fun _ => true)
      else .error ("invalid table \x27" ++ table ++ "\x27") := by
  unfold Schema.getIndexValue
  split_ifs <;> first | rfl | exact absurd rfl ‹_›

theorem Manipulator.retrieveMany_none (schema : Schema) (m : Manipulator) (category : String)
    (dest : List Object) :
    m.retrieveMany schema none category dest =
      some (if category ∈ schema.tables then
          .ok (dest ++ (m.db.filter (·.category == category)).insertionSort idIndex.keyLE)
        else .error ⟨"invalid table \x27" ++ category ++ "\x27", .cannotExecuteQuery⟩) := by
  simp only [Manipulator.retrieveMany, Option.getD_none, newContext, Schema.get,
    Schema.getIndexValue_id_all]
  refine congrArg some ?_
  split_ifs
  · show Except.ok (dest ++ (m.db.filter fun o => o.category == category &&
      (idIndex.valueOf o).any fun _ => true).insertionSort idIndex.keyLE) = _
    simp only [idIndex_valueOf, Option.any_some, Bool.and_true]
  · rfl

section
variable {schema : Schema} {m : Manipulator}

end

end Manipulate.Memory
