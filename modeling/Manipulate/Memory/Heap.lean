import Manipulate.Memory.RoundTrip

/-!
# The memdb manipulator over pointers

The manipulator's objects are pointers (`manipulate.Manipulable`), and go-memdb stores what
`Insert` is given: each index's radix tree holds pointers, under the keys `Insert` computed from
the objects' values when it inserted them, and a read follows the pointers to the objects as they
are now. `Create` sets each object's identifier in place (`object.SetIdentifier`) before it
inserts it, and `Retrieve` copies the stored values into the caller's objects. This module
models the manipulator at that level: the objects (`Manipulator.objects`), the trees of every
index of every table (`Tree`), `Insert` and `Delete` with their loops over a table's indexes, and
the methods on pointers. `Manipulate/Memory/Refinement.lean` shows that on calls that give
`Create` no stored object it does what the manipulator over values (`Manipulate/Memory.lean`)
does.

* `transactional_calls_keep_committed`: a run of calls whose writes all carry a transaction ID
  leaves the committed tree as it was, and the committed store too when no `Create` of the run is
  given an object the tree holds (`runCalls_frame`: what each call may change).
* `create_stored_rewrites_store`: a `Create` with no transaction ID of a stored object and then an
  object of a table the schema lacks returns an error and leaves the committed tree as it was,
  yet the object under the first one's key now has a new identifier: the committed store is not
  the one before the call.
-/

namespace Manipulate.Memory.Heap

/-- An entry of an index's radix tree: the key, and the pointer stored under it. -/
structure Entry where
  table : String
  index : String
  key : List (List Char)
  ptr : Nat
  deriving DecidableEq, Repr

def Entry.sameSlot (e d : Entry) : Bool :=
  e.table == d.table && e.index == d.index && e.key == d.key

def Entry.value (e : Entry) : String := String.mk (e.key.headD [])

/-- A go-memdb tree: the entries of the radix trees of every index of every table. -/
abbrev Tree := List Entry

namespace Tree

/-- `iradix.Txn.Insert`: the entry under the key is replaced, or the entry is added. -/
def insert (t : Tree) (e : Entry) : Tree :=
  if t.any (·.sameSlot e) then t.map fun d => if d.sameSlot e then e else d else t ++ [e]

/-- `iradix.Txn.Delete`. -/
def delete (t : Tree) (table index : String) (key : List (List Char)) : Tree :=
  t.filter fun e => !(e.table == table && e.index == index && e.key == key)

/-- `iradix.Txn.Get`: the pointer under the key. -/
def get (t : Tree) (table index : String) (key : List (List Char)) : Option Nat :=
  (t.find? fun e => e.table == table && e.index == index && e.key == key).map (·.ptr)

/-- The pointers of the index whose value the query takes, in the order of their keys, as
`SeekPrefix` and `Next` walk them. -/
def scan (t : Tree) (table index : String) (sel : String → Bool) : List Nat :=
  ((t.filter fun e => e.table == table && e.index == index && sel e.value).insertionSort
    fun a b => a.key ≤ b.key).map (·.ptr)

def ids (t : Tree) : Tree := t.filter (·.index == "id")

def ptrs (t : Tree) : List Nat := t.ids.map (·.ptr)

variable {t : Tree} {e : Entry}

theorem mem_ids : e ∈ t.ids ↔ e ∈ t ∧ e.index = "id" := by
  simp [ids]

theorem mem_ptrs {x : Nat} : x ∈ t.ptrs ↔ ∃ d ∈ t, d.index = "id" ∧ d.ptr = x := by
  simp [ptrs, mem_ids, and_assoc]

theorem get_mem_ptrs {table : String} {key : List (List Char)} {x : Nat}
    (h : t.get table "id" key = some x) : x ∈ t.ptrs := by
  obtain ⟨d, hd, rfl⟩ := Option.map_eq_some'.1 h
  have hd' := List.find?_some hd
  simp only [Bool.and_eq_true, beq_iff_eq] at hd'
  exact mem_ptrs.2 ⟨d, List.mem_of_find?_eq_some hd, hd'.1.2, rfl⟩

end Tree

/-- The manipulator, with the objects its callers gave it: pointer `p` points to `objects p`. `db`
is the committed tree (`db.root`); a transaction's tree is `none` once it is finished. -/
structure Manipulator where
  objects : Nat → Object
  db : Tree
  txns : Nat → Option Tree
  nextTxn : Nat
  txnRegistry : String → Option Nat
  minted : Nat

def newMemoryManipulator (objects : Nat → Object) : Manipulator where
  objects := objects
  db := []
  txns _ := none
  nextTxn := 0
  txnRegistry _ := none
  minted := 0

/-! ## `Insert` and `Delete` -/

/-- `Insert`'s work at the index `i` for the object `o` at `p`, over the object `existing` stored
under its `id`: the key `existing` had goes unless `o` has the same, then `o` is put under its key.
-/
def insertIndex (table id : String) (o : Object) (existing : Option Object) (p : Nat) (i : Index)
    (t : Tree) : Tree × Option String :=
  match i.fromObject o, existing.map i.fromObject with
  | .error e, _ => (t, some (i.buildError e))
  | .ok _, some (.error e) => (t, some (i.buildError e))
  | .ok new, old =>
    let t := match old with
      | some (.ok (some v)) =>
        if new.map (i.key · id) = some (i.key v id) then t else t.delete table i.name (i.key v id)
      | _ => t
    match new with
    | none => (t, if i.allowMissing then none else some i.missingError)
    | some v => (t.insert ⟨table, i.name, i.key v id, p⟩, none)

def deleteIndex (table id : String) (existing : Object) (i : Index) (t : Tree) :
    Tree × Option String :=
  match i.fromObject existing with
  | .error e => (t, some (i.buildError e))
  | .ok none => (t, none)
  | .ok (some v) => (t.delete table i.name (i.key v id), none)

/-- `for name, indexSchema := range tableSchema.Indexes`, up to the first error, which leaves what
the indexes before did. Go visits a map in random order; the model visits `id` first, then the
list's order. -/
def indexLoop (work : Index → Tree → Tree × Option String) :
    List Index → Tree → Tree × Option String
  | [], t => (t, none)
  | i :: is, t =>
    match work i t with
    | (t, none) => indexLoop work is t
    | r => r

namespace Manipulator

variable (m : Manipulator)

def newTxn : Manipulator × Nat :=
  ({ m with txns := Function.update m.txns m.nextTxn (some m.db), nextTxn := m.nextTxn + 1 },
    m.nextTxn)

def registerTxn (id : String) (txn : Nat) : Manipulator :=
  { m with txnRegistry := Function.update m.txnRegistry id (some txn) }

def unregisterTxn (id : String) : Manipulator :=
  { m with txnRegistry := Function.update m.txnRegistry id none }

def registeredTxnWithID (id : String) : Option Nat := m.txnRegistry id

def txnForID (id : String) : Manipulator × Nat :=
  if id = "" then m.newTxn
  else
    match m.registeredTxnWithID id with
    | some txn => (m, txn)
    | none => (m.newTxn.1.registerTxn id m.newTxn.2, m.newTxn.2)

def commitTxn (txn : Nat) : Manipulator :=
  match m.txns txn with
  | some r => { m with db := r, txns := Function.update m.txns txn none }
  | none => m

def abortTxn (txn : Nat) : Manipulator := { m with txns := Function.update m.txns txn none }

/-- `txn.Insert(o.Identity().Category, o)` of the object at `p`, or `none` for the panic on a
finished transaction. -/
def txnInsert (schema : Schema) (txn p : Nat) : Option (Manipulator × Option String) :=
  let o := m.objects p
  if o.category ∉ schema.tables then
    some (m, some ("invalid table \x27" ++ o.category ++ "\x27"))
  else if o.identifier = "" then some (m, some "object missing primary index")
  else
    match m.txns txn with
    | none => none
    | some t =>
      let existing := (t.get o.category "id" (idIndex.key o.identifier o.identifier)).map m.objects
      let r := indexLoop (insertIndex o.category o.identifier o existing p)
        (idIndex :: schema.indexes o.category) t
      some ({ m with txns := Function.update m.txns txn (some r.1) }, r.2)

def txnDelete (schema : Schema) (txn p : Nat) : Option (Manipulator × Option String) :=
  let o := m.objects p
  if o.category ∉ schema.tables then
    some (m, some ("invalid table \x27" ++ o.category ++ "\x27"))
  else if o.identifier = "" then some (m, some "object missing primary index")
  else
    match m.txns txn with
    | none => none
    | some t =>
      match t.get o.category "id" (idIndex.key o.identifier o.identifier) with
      | none => some (m, some "not found")
      | some q =>
        let r := indexLoop (deleteIndex o.category o.identifier (m.objects q))
          (idIndex :: schema.indexes o.category) t
        some ({ m with txns := Function.update m.txns txn (some r.1) }, r.2)

/-- `object.SetIdentifier(uuid.NewV4().String())` on the object at `p`. -/
def setIdentifier (p : Nat) : Manipulator :=
  { m with
    objects := Function.update m.objects p { m.objects p with identifier := uuidNewV4 m.minted }
    minted := m.minted + 1 }

end Manipulator

/-! ## The manipulator's methods -/

def writeObjects (op : Manipulator → Nat → Option (Manipulator × Option String)) :
    Manipulator → List Nat → Option (Manipulator × Option String)
  | m, [] => some (m, none)
  | m, p :: ps =>
    match op m p with
    | none => none
    | some (m', some e) => some (m', some e)
    | some (m', none) => writeObjects op m' ps

/-- The body of `Create`, `Update` and `Delete` (`Manipulate.Memory.write` over pointers). -/
def write (op : Manipulator → Nat → Nat → Option (Manipulator × Option String))
    (m : Manipulator) (context : Option Context) (ps : List Nat) :
    Option (Manipulator × Option Error) :=
  let tid := (context.getD newContext).transactionID
  let (m, txn) := m.txnForID tid
  (writeObjects (fun m p => op m txn p) m ps).map fun (m, err) =>
    match err with
    | some e => (m.abortTxn txn, some ⟨e, .cannotExecuteQuery⟩)
    | none => ((if tid = "" then m.commitTxn txn else m).abortTxn txn, none)

/-- `Create`: each object's identifier is set in place, then the object is inserted. -/
def Manipulator.create (schema : Schema) : Manipulator → Option Context → List Nat →
    Option (Manipulator × Option Error) :=
  write fun m txn p => (m.setIdentifier p).txnInsert schema txn p

def Manipulator.update (schema : Schema) : Manipulator → Option Context → List Nat →
    Option (Manipulator × Option Error) :=
  write fun m => m.txnInsert schema

def Manipulator.delete (schema : Schema) : Manipulator → Option Context → List Nat →
    Option (Manipulator × Option Error) :=
  write fun m => m.txnDelete schema

def Manipulator.commit (m : Manipulator) (id : String) : Manipulator × Option Error :=
  match m.registeredTxnWithID id with
  | none => (m, some ⟨"No transaction found for the given transaction ID.", .cannotCommit⟩)
  | some txn => ((m.commitTxn txn).unregisterTxn id, none)

def Manipulator.abort (m : Manipulator) (id : String) : Manipulator × Bool :=
  match m.registeredTxnWithID id with
  | none => (m, false)
  | some txn => ((m.abortTxn txn).unregisterTxn id, true)

/-- `txn.Get(table, index, args...)`: the pointers the query reads, in key order. -/
def Schema.get (schema : Schema) (t : Tree) (table index : String) (args : List String) :
    Except String (List Nat) :=
  (schema.getIndexValue table index args).map fun (i, sel) => t.scan table i.name sel

/-- `Retrieve`: each object in turn gets the value of the stored object with its identifier. -/
def Manipulator.retrieve (schema : Schema) : Manipulator → List Nat → Manipulator × Option Error
  | m, [] => (m, none)
  | m, p :: ps =>
    match Schema.get schema m.db (m.objects p).category "id" [(m.objects p).identifier] with
    | .error e => (m, some ⟨e, .cannotExecuteQuery⟩)
    | .ok [] => (m, some ⟨"Object Not Found", .objectNotFound⟩)
    | .ok (q :: _) =>
      Manipulator.retrieve schema
        { m with objects := Function.update m.objects p (m.objects q) } ps

/-- `RetrieveMany`: `dest` and then the stored pointers the filter selects; `none` for the panic of
an empty filter. -/
def Manipulator.retrieveMany (schema : Schema) (m : Manipulator) (context : Option Context)
    (category : String) (dest : List Nat) : Option (Except Error (List Nat)) :=
  let query (index : String) (args : List String) : Except Error (List Nat) :=
    match Schema.get schema m.db category index args with
    | .error e => .error ⟨e, .cannotExecuteQuery⟩
    | .ok ps => .ok (dest ++ ps)
  match (context.getD newContext).filter with
  | none => some (query "id" [])
  | some f =>
    match f.keys, f.values with
    | (index :: _) :: _, args :: _ => some (query index args)
    | _, _ => none

def Manipulator.count (schema : Schema) (m : Manipulator) (context : Option Context)
    (category : String) : Option (Int × Option Error) :=
  (m.retrieveMany schema context category []).map fun
    | .error e => (-1, some e)
    | .ok out => (out.length, none)

/-- The committed tree as a store: under each key, the object the `id` index points to there. -/
def Manipulator.view (m : Manipulator) : Store :=
  fun k => (m.db.get k.1 "id" (idIndex.key k.2 k.2)).map m.objects

/-! ## Runs of calls -/

/-- A call that changes the manipulator, given the caller's objects as pointers. -/
inductive Call where
  | create (context : Option Context) (objects : List Nat)
  | update (context : Option Context) (objects : List Nat)
  | delete (context : Option Context) (objects : List Nat)
  | commit (id : String)
  | abort (id : String)
  deriving DecidableEq, Repr

def Call.apply (schema : Schema) (m : Manipulator) : Call → Option Manipulator
  | .create c ps => (m.create schema c ps).map Prod.fst
  | .update c ps => (m.update schema c ps).map Prod.fst
  | .delete c ps => (m.delete schema c ps).map Prod.fst
  | .commit id => some (m.commit id).1
  | .abort id => some (m.abort id).1

def runCalls (schema : Schema) : Manipulator → List Call → Option Manipulator
  | m, [] => some m
  | m, c :: cs => (c.apply schema m).bind fun m' => runCalls schema m' cs

def Call.autoCommits : Call → Bool
  | .create c _ | .update c _ | .delete c _ => (c.getD newContext).transactionID == ""
  | .commit _ | .abort _ => false

/-- The objects whose identifier the call sets. -/
def Call.created : Call → List Nat
  | .create _ ps => ps
  | _ => []

/-- Between calls no transaction is live. -/
def AllDone (m : Manipulator) : Prop := ∀ txn, m.txns txn = none

/-! ## `Create` of a stored object -/

section
variable {schema : Schema} {m : Manipulator}

theorem setIdentifier_db (p : Nat) : (m.setIdentifier p).db = m.db := rfl

theorem setIdentifier_objects (p : Nat) :
    (m.setIdentifier p).objects p = { m.objects p with identifier := uuidNewV4 m.minted } := by
  simp [Manipulator.setIdentifier]

theorem setIdentifier_objects_ne {p x : Nat} (h : x ≠ p) :
    (m.setIdentifier p).objects x = m.objects x :=
  Function.update_noteq h _ _

theorem txnInsert_frame {txn p : Nat} {m' : Manipulator} {e : Option String}
    (h : m.txnInsert schema txn p = some (m', e)) :
    m'.db = m.db ∧ m'.objects = m.objects ∧ m'.minted = m.minted ∧
      ∀ j, j ≠ txn → m'.txns j = m.txns j := by
  dsimp only [Manipulator.txnInsert] at h
  split_ifs at h <;> (try split at h) <;> cases h <;>
    first
    | exact ⟨rfl, rfl, rfl, fun _ _ => rfl⟩
    | exact ⟨rfl, rfl, rfl, fun _ hj => Function.update_noteq hj _ _⟩

theorem txnDelete_frame {txn p : Nat} {m' : Manipulator} {e : Option String}
    (h : m.txnDelete schema txn p = some (m', e)) :
    m'.db = m.db ∧ m'.objects = m.objects ∧ m'.minted = m.minted ∧
      ∀ j, j ≠ txn → m'.txns j = m.txns j := by
  dsimp only [Manipulator.txnDelete] at h
  split_ifs at h <;> (repeat' split at h) <;> cases h <;>
    first
    | exact ⟨rfl, rfl, rfl, fun _ _ => rfl⟩
    | exact ⟨rfl, rfl, rfl, fun _ hj => Function.update_noteq hj _ _⟩

theorem txnInsert_live (txn p : Nat) (hl : (m.txns txn).isSome) :
    ∃ m' e, m.txnInsert schema txn p = some (m', e) := by
  obtain ⟨t, ht⟩ := Option.isSome_iff_exists.1 hl
  dsimp only [Manipulator.txnInsert]
  split_ifs <;> simp [ht]

theorem txnInsert_invalid_table {txn p : Nat} (h : (m.objects p).category ∉ schema.tables) :
    m.txnInsert schema txn p =
      some (m, some ("invalid table \x27" ++ (m.objects p).category ++ "\x27")) :=
  if_pos h

/-- `Create` of a stored `p`, then of `q` of a table the schema lacks: an error, the tree
unchanged, but the store holds under `p`'s key `p` with a new identifier. -/
theorem create_stored_rewrites_store {p q : Nat} (hpq : p ≠ q)
    (hp : m.db.get (m.objects p).category "id"
      (idIndex.key (m.objects p).identifier (m.objects p).identifier) = some p)
    (hq : (m.objects q).category ∉ schema.tables) :
    ∃ m' e, m.create schema none [p, q] = some (m', some e) ∧ m'.db = m.db ∧
      m.view (m.objects p).key = some (m.objects p) ∧
      m'.view (m.objects p).key = some { m.objects p with identifier := uuidNewV4 m.minted } := by
  let op := fun (m₁ : Manipulator) x => (m₁.setIdentifier x).txnInsert schema m.nextTxn x
  obtain ⟨m₂, e₁, h₁⟩ := @txnInsert_live schema (m.newTxn.1.setIdentifier p) m.nextTxn p
    (by simp [Manipulator.setIdentifier, Manipulator.newTxn])
  obtain ⟨hdb₂, hobj₂, -⟩ := txnInsert_frame h₁
  -- the loop stops with an error at `p` or at `q`, with `p` rewritten either way
  have hw : ∃ m₃ e, writeObjects op m.newTxn.1 [p, q] = some (m₃, some e) ∧ m₃.db = m.db ∧
      m₃.objects p = { m.objects p with identifier := uuidNewV4 m.minted } := by
    have hobj : m₂.objects p = { m.objects p with identifier := uuidNewV4 m.minted } := by
      rw [hobj₂, setIdentifier_objects]; rfl
    cases e₁ with
    | some e => exact ⟨m₂, e, by simp only [writeObjects, op, h₁], hdb₂, hobj⟩
    | none =>
      have hq' : ((m₂.setIdentifier q).objects q).category ∉ schema.tables := by
        rwa [setIdentifier_objects, hobj₂, setIdentifier_objects_ne hpq.symm]
      refine ⟨m₂.setIdentifier q,
        "invalid table \x27" ++ ((m₂.setIdentifier q).objects q).category ++ "\x27", ?_, hdb₂, ?_⟩
      · simp only [writeObjects, op, h₁, txnInsert_invalid_table hq']
      · rw [setIdentifier_objects_ne hpq, hobj]
  obtain ⟨m₃, e, hw, hdb, hobj⟩ := hw
  refine ⟨m₃.abortTxn m.nextTxn, ⟨e, .cannotExecuteQuery⟩, ?_, hdb, ?_, ?_⟩
  · simp only [Manipulator.create, write, Option.getD_none, newContext, Manipulator.txnForID,
      if_true]
    rw [show m.newTxn.2 = m.nextTxn from rfl, hw]
    rfl
  · simp only [Manipulator.view, Object.key, hp, Option.map_some']
  · simp only [Manipulator.view, Object.key, Manipulator.abortTxn, hdb, hp, Option.map_some',
      hobj]

/-! ## Writes under a transaction ID never reach the committed tree -/

/-- `m'` differs from `m` at most in transaction `txn` and in the objects outside `P`. -/
def Frame (txn : Nat) (P : Nat → Prop) (m m' : Manipulator) : Prop :=
  m'.db = m.db ∧ (∀ j, j ≠ txn → m'.txns j = m.txns j) ∧ ∀ x, P x → m'.objects x = m.objects x

variable {m' : Manipulator} {txn : Nat} {P : Nat → Prop}

theorem Frame.refl : Frame txn P m m := ⟨rfl, fun _ _ => rfl, fun _ _ => rfl⟩

theorem Frame.trans {m'' : Manipulator} (h₁ : Frame txn P m m') (h₂ : Frame txn P m' m'') :
    Frame txn P m m'' :=
  ⟨h₂.1.trans h₁.1, fun j hj => (h₂.2.1 j hj).trans (h₁.2.1 j hj),
    fun x hx => (h₂.2.2 x hx).trans (h₁.2.2 x hx)⟩

theorem txnInsert_opFrame {p : Nat} {e : Option String}
    (h : m.txnInsert schema txn p = some (m', e)) : Frame txn P m m' :=
  have hf := txnInsert_frame h
  ⟨hf.1, hf.2.2.2, fun _ _ => by rw [hf.2.1]⟩

theorem txnDelete_opFrame {p : Nat} {e : Option String}
    (h : m.txnDelete schema txn p = some (m', e)) : Frame txn P m m' :=
  have hf := txnDelete_frame h
  ⟨hf.1, hf.2.2.2, fun _ _ => by rw [hf.2.1]⟩

theorem createOp_frame {p : Nat} {e : Option String}
    (h : (m.setIdentifier p).txnInsert schema txn p = some (m', e)) (hp : ∀ x, P x → x ≠ p) :
    Frame txn P m m' :=
  have hf := txnInsert_frame h
  ⟨hf.1, hf.2.2.2, fun x hx => by rw [hf.2.1, setIdentifier_objects_ne (hp x hx)]⟩

theorem writeObjects_frame {op : Manipulator → Nat → Option (Manipulator × Option String)}
    {ps : List Nat} (hop : ∀ m, ∀ p ∈ ps, ∀ m' e, op m p = some (m', e) → Frame txn P m m')
    {e : Option String} (h : writeObjects op m ps = some (m', e)) : Frame txn P m m' := by
  induction ps generalizing m with
  | nil => cases h; exact Frame.refl
  | cons p ps ih =>
    have hp : ∀ m m' e, op m p = some (m', e) → Frame txn P m m' :=
      fun m => hop m p (List.mem_cons_self _ _)
    simp only [writeObjects] at h
    split at h
    · cases h
    · cases h; exact hp _ _ _ ‹_›
    · exact (hp _ _ _ ‹_›).trans (ih (fun m q hq => hop m q (List.mem_cons_of_mem _ hq)) h)

theorem txnForID_frame (id : String) : Frame (m.txnForID id).2 P m (m.txnForID id).1 := by
  unfold Manipulator.txnForID
  split_ifs
  · exact ⟨rfl, fun _ hj => Function.update_noteq hj _ _, fun _ _ => rfl⟩
  · split
    · exact Frame.refl
    · exact ⟨rfl, fun _ hj => Function.update_noteq hj _ _, fun _ _ => rfl⟩

theorem commitTxn_txns {j : Nat} (hj : j ≠ txn) : (m.commitTxn txn).txns j = m.txns j := by
  unfold Manipulator.commitTxn; split
  · exact Function.update_noteq hj _ _
  · rfl

theorem commitTxn_objects : (m.commitTxn txn).objects = m.objects := by
  unfold Manipulator.commitTxn; split <;> rfl

theorem AllDone.abortTxn (h : ∀ j, j ≠ txn → m.txns j = none) : AllDone (m.abortTxn txn) :=
  fun j => by
    by_cases hj : j = txn
    · subst hj; exact Function.update_same _ _ _
    · exact (Function.update_noteq hj _ _).trans (h j hj)

theorem write_frame {op : Manipulator → Nat → Nat → Option (Manipulator × Option String)}
    {c : Option Context} {ps : List Nat}
    (hop : ∀ m txn, ∀ p ∈ ps, ∀ m' e, op m txn p = some (m', e) → Frame txn P m m')
    (hd : AllDone m) (h : (write op m c ps).map Prod.fst = some m') :
    AllDone m' ∧ (∀ x, P x → m'.objects x = m.objects x) ∧
      (((c.getD newContext).transactionID == "") = false → m'.db = m.db) := by
  simp only [write, Option.map_eq_some', Option.map_map] at h
  obtain ⟨⟨m₁, err⟩, hw, he⟩ := h
  obtain ⟨hdb, htx, hobj⟩ := (txnForID_frame (P := P) _).trans
    (writeObjects_frame (fun m => hop m _) hw)
  have hdone : ∀ j, j ≠ _ → m₁.txns j = none := fun j hj => (htx j hj).trans (hd j)
  cases err <;> simp only [Function.comp_apply] at he <;> subst he
  · split_ifs with ht
    · refine ⟨AllDone.abortTxn fun j hj => (commitTxn_txns hj).trans (hdone j hj), fun x hx => ?_,
        fun hc => absurd ht (by simpa using hc)⟩
      exact (congrFun commitTxn_objects x).trans (hobj x hx)
    · exact ⟨AllDone.abortTxn hdone, hobj, fun _ => hdb⟩
  · exact ⟨AllDone.abortTxn hdone, hobj, fun _ => hdb⟩

theorem commit_frame (hd : AllDone m) (id : String) :
    (m.commit id).1.db = m.db ∧ AllDone (m.commit id).1 ∧ (m.commit id).1.objects = m.objects := by
  unfold Manipulator.commit; split
  · exact ⟨rfl, hd, rfl⟩
  · rename_i txn _
    unfold Manipulator.commitTxn
    rw [hd txn]
    exact ⟨rfl, hd, rfl⟩

theorem abort_frame (hd : AllDone m) (id : String) :
    (m.abort id).1.db = m.db ∧ AllDone (m.abort id).1 ∧ (m.abort id).1.objects = m.objects := by
  unfold Manipulator.abort; split
  · exact ⟨rfl, hd, rfl⟩
  · exact ⟨rfl, AllDone.abortTxn fun j _ => hd j, rfl⟩

theorem AllDone.apply (hd : AllDone m) {c : Call} (h : c.apply schema m = some m') :
    AllDone m' ∧ (∀ x, x ∉ c.created → m'.objects x = m.objects x) ∧
      (c.autoCommits = false → m'.db = m.db) := by
  cases c with
  | create c ps =>
    exact write_frame (P := (· ∉ ps))
      (fun _ _ p hp _ _ h => createOp_frame h fun _ hx hxp => hx (hxp ▸ hp)) hd h
  | update c ps => exact write_frame (fun _ _ _ _ _ _ h => txnInsert_opFrame h) hd h
  | delete c ps => exact write_frame (fun _ _ _ _ _ _ h => txnDelete_opFrame h) hd h
  | commit id =>
    cases h
    obtain ⟨h₁, h₂, h₃⟩ := commit_frame hd id
    exact ⟨h₂, fun x _ => congrFun h₃ x, fun _ => h₁⟩
  | abort id =>
    cases h
    obtain ⟨h₁, h₂, h₃⟩ := abort_frame hd id
    exact ⟨h₂, fun x _ => congrFun h₃ x, fun _ => h₁⟩

theorem runCalls_frame (hd : AllDone m) {cs : List Call} (h : runCalls schema m cs = some m') :
    AllDone m' ∧ (∀ x, (∀ c ∈ cs, x ∉ c.created) → m'.objects x = m.objects x) ∧
      ((∀ c ∈ cs, c.autoCommits = false) → m'.db = m.db) := by
  induction cs generalizing m with
  | nil => cases h; exact ⟨hd, fun _ _ => rfl, fun _ => rfl⟩
  | cons c cs ih =>
    simp only [runCalls, Option.bind_eq_some] at h
    obtain ⟨m₁, h₁, h₂⟩ := h
    obtain ⟨hd₁, ho₁, hdb₁⟩ := hd.apply h₁
    obtain ⟨hd', ho', hdb'⟩ := ih hd₁ h₂
    refine ⟨hd', fun x hx => ?_, fun hc => ?_⟩
    · obtain ⟨hx₁, hx'⟩ := List.forall_mem_cons.1 hx
      exact (ho' x hx').trans (ho₁ x hx₁)
    · obtain ⟨hc₁, hc'⟩ := List.forall_mem_cons.1 hc
      exact (hdb' hc').trans (hdb₁ hc₁)

theorem view_congr (hdb : m'.db = m.db) (hobj : ∀ x ∈ m.db.ptrs, m'.objects x = m.objects x) :
    m'.view = m.view := by
  funext k
  unfold Manipulator.view
  rw [hdb]
  cases hg : m.db.get k.1 "id" (idIndex.key k.2 k.2) with
  | none => rfl
  | some x => simp only [Option.map_some', hobj x (Tree.get_mem_ptrs hg)]

/-- A run whose writes all carry a transaction ID keeps the committed tree, and the store too when
no `Create` is given a stored object. -/
theorem transactional_calls_keep_committed (hd : AllDone m) {cs : List Call}
    (hc : ∀ c ∈ cs, c.autoCommits = false) (h : runCalls schema m cs = some m') :
    m'.db = m.db ∧ ((∀ c ∈ cs, ∀ p ∈ c.created, p ∉ m.db.ptrs) → m'.view = m.view) := by
  obtain ⟨-, hobj, hdb⟩ := runCalls_frame hd h
  exact ⟨hdb hc, fun hs => view_congr (hdb hc) fun x hx =>
    hobj x fun c hc' hxc => hs c hc' x hxc hx⟩

end

/-- The object at `1` is created under `t`, the stored one at `0` updated under `u`, and `t`
committed. -/
theorem transactional_calls_keep_committed_create_update :
    let m := (runCalls lists
      (newMemoryManipulator fun p => ⟨"list", "", if p = 0 then "x" else "y"⟩)
      [.create none [0]]).getD (newMemoryManipulator fun _ => ⟨"", "", ""⟩)
    let cs : List Call := [.create (some ⟨"t", none⟩) [1], .update (some ⟨"u", none⟩) [0],
      .commit "t"]
    AllDone m ∧ (∀ c ∈ cs, c.autoCommits = false) ∧ (∀ c ∈ cs, ∀ p ∈ c.created, p ∉ m.db.ptrs) ∧
      ∃ m', runCalls lists m cs = some m' ∧ m'.db = m.db ∧ m'.view = m.view := by
  intro m cs
  let m₀ := newMemoryManipulator fun p => ⟨"list", "", if p = 0 then "x" else "y"⟩
  have hr : runCalls lists m₀ [.create none [0]] = some m := rfl
  have hd : AllDone m := (runCalls_frame (show AllDone m₀ from fun _ => rfl) hr).1
  have hc : ∀ c ∈ cs, c.autoCommits = false := by decide
  have hs : ∀ c ∈ cs, ∀ p ∈ c.created, p ∉ m.db.ptrs := by decide
  obtain ⟨m', hm'⟩ := Option.isSome_iff_exists.1 (show (runCalls lists m cs).isSome from by decide)
  exact ⟨hd, hc, hs, m', hm',
    (transactional_calls_keep_committed hd hc hm').imp_right fun h => h hs⟩

/-- The object at `0` is created, then again with the object at `1`, of a table `lists` lacks. -/
theorem create_stored_rewrites_store_twice :
    let m := (((newMemoryManipulator fun p => if p = 0 then ⟨"list", "", "x"⟩ else
      ⟨"nolist", "", "y"⟩).create lists none [0]).getD
        (newMemoryManipulator fun _ => ⟨"", "", ""⟩, none)).1
    m.db.get (m.objects 0).category "id"
        (idIndex.key (m.objects 0).identifier (m.objects 0).identifier) = some 0 ∧
      (m.objects 1).category ∉ lists.tables ∧
      ∃ m' e, m.create lists none [0, 1] = some (m', some e) ∧ m'.db = m.db ∧
        m.view (m.objects 0).key = some (m.objects 0) ∧
        m'.view (m.objects 0).key = some { m.objects 0 with identifier := uuidNewV4 m.minted } := by
  intro m
  exact ⟨rfl, by decide, create_stored_rewrites_store (m := m) (by decide) rfl (by decide)⟩

end Manipulate.Memory.Heap
