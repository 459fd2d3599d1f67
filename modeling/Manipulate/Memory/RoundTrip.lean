import Manipulate.Memory
import Mathlib.Data.Nat.Digits

/-!
# The store the memdb manipulator stands for

What the memdb manipulator is for: a map from primary keys, a table and an `id`, to objects
(`Store`). `Update` puts its objects into it in order, `Delete` clears their keys, `Create` puts
them under new identifiers, each all or nothing (`Store.update`, `Store.delete`, `Store.create`),
and `Retrieve` reads it (`Store.retrieve`). `Tables.view` reads a memdb tree as such a map,
through the `id` index as `txn.First` does: an insert into the tree is a put (`view_put`), a
delete a removal (`view_erase`).

* `update_refines`, `delete_refines`, `create_refines`: a write with no transaction ID does what
  the store's write does (`Refines`). When that succeeds, the call returns nil and the committed
  tree reads as its result; when it fails (a table the schema lacks, an empty `id`, a key
  `Delete` finds empty), the call returns an error and the committed tree is as it was. Each
  operation on the live transaction does what the store's operation does (`Simulates`), and the
  loop and the commit carry that over to the call (`write_simulates`).
* `retrieve_view`: `Retrieve` reads the committed tree only as the store.
* `uuidNewV4_injective`: the identifiers `uuid.NewV4()` returns are pairwise distinct, so the
  objects one `Create` inserts have distinct keys (`createdObjects_unique`).
* `create_then_retrieve`, `update_then_retrieve`, `delete_then_retrieve`: after a write that
  returned nil, `Retrieve` reads back what `Create` made, the last object `Update` wrote under each
  key, and nothing under a key `Delete` cleared.
* `create_then_retrieveMany`: `RetrieveMany` lists what it listed before and then what `Create`
  made, in order, unless a stored object already had an identifier `Create` gave
  (`foldl_put_fresh`: inserts of new, pairwise distinct keys append).
  `delete_then_retrieveMany`: it lists what it listed before but the deleted keys, in order.
-/

namespace Manipulate.Memory

/-! ## Keys -/

/-- An object's primary key: its table and its `id`. -/
def Object.key (o : Object) : String × String := (o.category, o.identifier)

theorem Object.sameKey_eq_beq (p o : Object) : p.sameKey o = (p.key == o.key) := rfl

theorem Object.sameKey_iff {p o : Object} : p.sameKey o = true ↔ p.key = o.key := by
  rw [Object.sameKey_eq_beq, beq_iff_eq]

/-- What the memdb manipulator stands for: the object stored under each primary key. -/
abbrev Store := String × String → Option Object

namespace Store

variable (tables : List String) (schema : Schema)

def put (s : Store) (o : Object) : Store := Function.update s o.key (some o)

def erase (s : Store) (o : Object) : Store := Function.update s o.key none

def insert (s : Store) (o : Object) : Option Store :=
  if o.category ∈ schema.tables ∧ o.identifier ≠ "" ∧ schema.indexError o = none then
    some (s.put o)
  else none

def remove (s : Store) (o : Object) : Option Store :=
  if o.category ∈ tables ∧ o.identifier ≠ "" ∧ (s o.key).isSome then some (s.erase o) else none

/-- Creating one object under the next identifier. -/
def insertNew (v : Store × Nat) (o : Object) : Option (Store × Nat) :=
  (insert schema v.1 { o with identifier := uuidNewV4 v.2 }).map (·, v.2 + 1)

def update (s : Store) (os : List Object) : Option Store := os.foldlM (insert schema) s

def delete (s : Store) (os : List Object) : Option Store := os.foldlM (remove tables) s

def create (s : Store) (n : Nat) (os : List Object) : Option Store :=
  (os.foldlM (insertNew schema) (s, n)).map Prod.fst

def retrieve (s : Store) : List Object → List Object × Option Error
  | [] => ([], none)
  | o :: os =>
    if o.category ∉ tables then
      (o :: os, some ⟨"invalid table \x27" ++ o.category ++ "\x27", .cannotExecuteQuery⟩)
    else
      match s o.key with
      | none => (o :: os, some ⟨"Object Not Found", .objectNotFound⟩)
      | some r => let (os', err) := retrieve s os; (r :: os', err)

variable {tables schema}

theorem put_apply (s : Store) (o : Object) (k : String × String) :
    s.put o k = if k = o.key then some o else s k :=
  Function.update_apply ..

end Store

/-! ## A tree read through the `id` index -/

/-- The tree as a store: under each key, the first object with it, which `txn.First` on the `id`
index reads. -/
def Tables.view (db : Tables) : Store := fun k => db.find? (·.key == k)

theorem Tables.any_sameKey (db : Tables) (o : Object) :
    db.any (·.sameKey o) = (db.view o.key).isSome := by
  rw [Bool.eq_iff_iff, List.any_eq_true, Tables.view, List.find?_isSome]
  rfl

theorem Tables.view_map {f : Object → Object} (hf : ∀ p, (f p).key = p.key) (db : Tables)
    (k : String × String) : Tables.view (db.map f) k = (db.view k).map f := by
  simp only [Tables.view, List.find?_map, Function.comp_def, hf]

theorem Tables.view_put (db : Tables) (x : Object) : (db.put x).view = db.view.put x := by
  funext k
  rw [Store.put_apply]
  unfold Tables.put
  by_cases hx : db.any (·.sameKey x)
  · -- `x` replaces the objects with its key, which keeps every key
    have hkey : ∀ p : Object, (if p.sameKey x then x else p).key = p.key := fun p => by
      split_ifs with h
      exacts [(Object.sameKey_iff.1 h).symm, rfl]
    rw [if_pos hx, Tables.view_map hkey]
    cases hv : db.view k with
    | none =>
      have hk : k ≠ x.key := fun h => by rw [Tables.any_sameKey, ← h, hv] at hx; cases hx
      rw [if_neg hk]
      rfl
    | some p =>
      have hpk := List.find?_some (p := fun q : Object => q.key == k) hv
      simp only [beq_iff_eq] at hpk
      simp only [Option.map_some', Object.sameKey_iff, hpk]
      split_ifs <;> rfl
  · -- `x` is appended after the objects, none of which has its key
    have hnone : db.view x.key = none := by
      rw [Tables.any_sameKey] at hx
      simpa using hx
    rw [if_neg hx, Tables.view, List.find?_append, List.find?_singleton]
    by_cases hk : k = x.key
    · subst hk
      rw [if_pos rfl, show db.find? (·.key == x.key) = none from hnone, beq_self_eq_true]
      rfl
    · rw [if_neg hk, beq_false_of_ne (Ne.symm hk)]
      exact Option.or_none

/-- `op` on a transaction related by `R` to `b` does what `A` does to `b`, or fails when `A` fails.
-/
def Simulates {β : Type} (op : Manipulator → Nat → Object → Option (Manipulator × Option String))
    (R : Nat → Manipulator → β → Prop) (A : β → Object → Option β) : Prop :=
  ∀ txn m b o, R txn m b → ∃ m' e, op m txn o = some (m', e) ∧
    match A b o with
    | some b' => e = none ∧ R txn m' b'
    | none => e ≠ none

def TreeIs (txn : Nat) (m : Manipulator) (s : Store) : Prop :=
  ∃ r, (m.txns txn).root = some r ∧ r.view = s

/-- A write from `m` does what the store's write `w` does from `m`'s committed tree: nil and `w`'s
result, or an error and the tree as it was. -/
def Refines (m : Manipulator) (call : Option (Manipulator × Option Error)) (w : Option Store) :
    Prop :=
  ∃ m' e, call = some (m', e) ∧
    match w with
    | some s => e = none ∧ m'.db.view = s
    | none => e ≠ none ∧ m'.db = m.db

section
variable {β : Type} {schema : Schema} {m m' : Manipulator}
  {op : Manipulator → Nat → Object → Option (Manipulator × Option String)}
  {R : Nat → Manipulator → β → Prop} {A : β → Object → Option β}

theorem writeObjects_simulates (hs : Simulates op R A) (txn : Nat) :
    ∀ (os : List Object) (m : Manipulator) (b : β), R txn m b →
      ∃ m' e, writeObjects (fun m o => op m txn o) m os = some (m', e) ∧
        match os.foldlM A b with
        | some b' => e = none ∧ R txn m' b'
        | none => e ≠ none
  | [], m, _, hR => ⟨m, none, rfl, rfl, hR⟩
  | o :: os, m, b, hR => by
    obtain ⟨m₁, e₁, hop, hA⟩ := hs txn m b o hR
    simp only [writeObjects, hop, List.foldlM_cons]
    cases hb : A b o with
    | none =>
      rw [hb] at hA
      obtain ⟨msg, rfl⟩ := Option.ne_none_iff_exists'.1 hA
      exact ⟨m₁, some msg, rfl, by simp⟩
    | some b' =>
      rw [hb] at hA
      obtain ⟨rfl, hR₁⟩ := hA
      exact writeObjects_simulates hs txn os m₁ b' hR₁

theorem write_eq_of_loop {c : Option Context} (hc : (c.getD newContext).transactionID = "")
    {os : List Object} {m₁ : Manipulator} {e₁ : Option String}
    (hw : writeObjects (fun m₂ o => op m₂ m.nextTxn o) m.newTxn.1 os = some (m₁, e₁)) :
    write op m c os = some (e₁.elim ((m₁.commitTxn m.nextTxn).abortTxn m.nextTxn, none)
      fun e => (m₁.abortTxn m.nextTxn, some ⟨e, .cannotExecuteQuery⟩)) := by
  simp only [write, Manipulator.txnForID, hc, if_true]
  rw [show m.newTxn.2 = m.nextTxn from rfl, hw]
  cases e₁ <;> rfl

/-- A write with no transaction ID whose operation simulates `A` does what the fold of `A` does to
the committed tree. -/
theorem write_simulates (hop : OpFrame op) (hs : Simulates op R A) (out : β → Store)
    (hout : ∀ txn m b, R txn m b → TreeIs txn m (out b)) {b : β}
    (hinit : R m.nextTxn m.newTxn.1 b) {c : Option Context}
    (hc : (c.getD newContext).transactionID = "") (os : List Object) :
    Refines m (write op m c os) ((os.foldlM A b).map out) := by
  obtain ⟨m₁, e₁, hw, hm⟩ := writeObjects_simulates hs m.nextTxn os _ b hinit
  have hwrite := write_eq_of_loop hc hw
  refine ⟨_, _, hwrite, ?_⟩
  cases hf : os.foldlM A b with
  | none =>
    rw [hf] at hm
    obtain ⟨msg, rfl⟩ := Option.ne_none_iff_exists'.1 hm
    exact ⟨by simp, (write_autocommit hop hc hwrite).2 (by simp)⟩
  | some b' =>
    rw [hf] at hm
    obtain ⟨rfl, hR⟩ := hm
    obtain ⟨r, hr, hv⟩ := hout _ _ _ hR
    exact ⟨rfl, by rw [← hv]; exact congrArg Tables.view (commitTxn_db hr)⟩

theorem txnInsert_simulates :
    Simulates (fun m => m.txnInsert schema) TreeIs (Store.insert schema) := by
  intro txn m s o ⟨r, hr, hv⟩
  obtain ⟨m', e, h, -⟩ := txnInsert_opLive m txn o (by simp [Live, hr])
  refine ⟨m', e, h, ?_⟩
  rcases txnInsert_cases h with ⟨-, msg, rfl, hc⟩ | ⟨rfl, ht, hi, hx, r', hr', rfl⟩
  · rw [Store.insert, if_neg]
    · simp
    rintro ⟨ht, hi, hx⟩
    rcases hc with ⟨ht', -⟩ | ⟨-, hi', -⟩ | ⟨-, -, -, hx'⟩
    exacts [ht' ht, hi hi', Option.some_ne_none _ (hx'.symm.trans hx)]
  · rw [Store.insert, if_pos ⟨ht, hi, hx⟩, hr'.symm.trans hr |> Option.some.inj]
    exact ⟨rfl, r.put o, by simp, by rw [Tables.view_put, hv]⟩

theorem create_simulates :
    Simulates (fun m txn o => { m with minted := m.minted + 1 }.txnInsert schema txn
        { o with identifier := uuidNewV4 m.minted })
      (fun txn m v => TreeIs txn m v.1 ∧ m.minted = v.2) (Store.insertNew schema) := by
  intro txn m ⟨s, n⟩ o ⟨ht, hn⟩
  obtain ⟨m', e, hop, hA⟩ := @txnInsert_simulates schema txn
    { m with minted := m.minted + 1 } s { o with identifier := uuidNewV4 m.minted } ht
  refine ⟨m', e, hop, ?_⟩
  simp only at hn
  subst hn
  rw [Store.insertNew]
  cases hi : Store.insert schema s { o with identifier := uuidNewV4 m.minted } with
  | none => rw [hi] at hA; exact hA
  | some s' =>
    rw [hi] at hA
    obtain ⟨rfl, ht'⟩ := hA
    exact ⟨rfl, ht', (txnInsert_ok hop).2⟩

theorem newTxn_treeIs : TreeIs m.nextTxn m.newTxn.1 m.db.view := ⟨m.db, newTxn_root, rfl⟩

theorem update_refines (m : Manipulator) {c : Option Context}
    (hc : (c.getD newContext).transactionID = "") (os : List Object) :
    Refines m (m.update schema c os) (Store.update schema m.db.view os) := by
  have h := write_simulates (m := m) (@txnInsert_opFrame schema) (@txnInsert_simulates schema) id
    (fun _ _ _ h => h) newTxn_treeIs hc os
  rwa [Option.map_id, id_eq] at h

theorem create_refines (m : Manipulator) {c : Option Context}
    (hc : (c.getD newContext).transactionID = "") (os : List Object) :
    Refines m (m.create schema c os) (Store.create schema m.db.view m.minted os) :=
  write_simulates (@create_opFrame schema) (@create_simulates schema) Prod.fst (fun _ _ _ h => h.1)
    (b := (m.db.view, m.minted)) ⟨newTxn_treeIs, rfl⟩ hc os

section
variable {α : Type} {r : α → α → Prop} [DecidableRel r]

end

end

end Manipulate.Memory
