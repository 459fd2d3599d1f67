import Manipulate.Memory.Heap

/-!
# The manipulator over pointers refines the manipulator over values

`Manipulate/Memory.lean` models the memdb manipulator over values: its trees are lists of objects.
Here that model is shown to be what the manipulator over pointers (`Manipulate/Memory/Heap.lean`)
does, as long as the objects the stored pointers point to are the ones that were inserted: a tree
whose `id` entries are `Consistent` is read as the list of the objects they point to
(`Tree.stored`). `Abstracts` relates the two manipulators; each operation on a transaction, the
loop over the objects and the commit keep it (`txnInsert_refines`, `writeObjects_refines`,
`write_refines`), provided `Create` is given distinct pointers no tree holds (`Unstored`).

* `update_refines_store`, `create_refines_store`: from a state between calls (`Sound`), a write
  with no transaction ID does to the committed store what the store's write does, and ends in
  such a state (`CallRefines`).
* `retrieve_refines_store`: `Retrieve` copies into each object what the store holds under its
  key and leaves the store as it was.
* `retrieveMany_refines`: `RetrieveMany` with no filter lists, through the pointers, what it
  lists over values: the table's objects in the order of their identifiers.
-/

namespace Manipulate.Memory.Heap

/-! ## The `id` index of a tree -/

/-- The objects the `id` entries point to, in the order of the entries. -/
def Tree.stored (objects : Nat → Object) (t : Tree) : Tables := t.ids.map (objects ·.ptr)

/-- What `Insert` checks of an object before it stores it. -/
def Accepts (schema : Schema) (o : Object) : Prop :=
  o.category ∈ schema.tables ∧ o.identifier ≠ "" ∧ schema.indexError o = none

instance (schema : Schema) (o : Object) : Decidable (Accepts schema o) :=
  inferInstanceAs (Decidable (_ ∧ _ ∧ _))

def idEntry (o : Object) (p : Nat) : Entry := ⟨o.category, "id", [o.identifier.data], p⟩

/-- The `id` entries of a tree point to objects `Insert` accepted, each under the object's key as
it is now, and no key holds two. -/
structure Consistent (schema : Schema) (objects : Nat → Object) (t : Tree) : Prop where
  keys : (t.ids.map fun e => (e.table, e.key)).Nodup
  ids : ∀ e ∈ t.ids, e = idEntry (objects e.ptr) e.ptr ∧ Accepts schema (objects e.ptr)

instance (schema : Schema) (objects : Nat → Object) (t : Tree) :
    Decidable (Consistent schema objects t) :=
  decidable_of_iff (_ ∧ _) ⟨fun ⟨k, i⟩ => ⟨k, i⟩, fun ⟨k, i⟩ => ⟨k, i⟩⟩

namespace Tree

variable {t : Tree} {e : Entry}

theorem sameSlot_index {d : Entry} (h : d.sameSlot e = true) : d.index = e.index := by
  simp only [Entry.sameSlot, Bool.and_eq_true, beq_iff_eq] at h
  exact h.1.2

theorem ids_insert_of_ne (h : e.index ≠ "id") : (t.insert e).ids = t.ids := by
  have hf : ∀ d : Entry, d.index = "id" → d.sameSlot e = false := fun d hd =>
    Bool.eq_false_iff.2 fun hs => h (sameSlot_index hs ▸ hd)
  unfold insert ids
  split_ifs
  · rw [List.filter_map, List.filter_congr (q := (·.index == "id")) fun d _ => ?_]
    · refine (List.map_congr_left fun d hd => ?_).trans (List.map_id _)
      rw [if_neg (by rw [hf d (by simpa using (List.mem_filter.1 hd).2)]; decide)]
      rfl
    · by_cases hs : d.sameSlot e
      · have hd : d.index ≠ "id" := sameSlot_index hs ▸ h
        simp [hs, h, hd]
      · simp [hs]
  · simp [List.filter_append, h]

theorem ids_delete_of_ne {table index : String} {key : List (List Char)} (h : index ≠ "id") :
    (t.delete table index key).ids = t.ids := by
  unfold delete ids
  rw [List.filter_filter]
  refine List.filter_congr fun d _ => ?_
  by_cases hd : d.index = "id"
  · simp [hd, Ne.symm h]
  · simp [hd]

theorem ids_insert_id (h : e.index = "id") : (t.insert e).ids = t.ids.insert e := by
  have hany : t.ids.any (·.sameSlot e) = t.any (·.sameSlot e) := by
    refine Bool.eq_iff_iff.2 ⟨fun ha => ?_, fun ha => ?_⟩ <;>
      obtain ⟨d, hd, hs⟩ := List.any_eq_true.1 ha <;> refine List.any_eq_true.2 ⟨d, ?_, hs⟩
    exacts [(mem_ids.1 hd).1, mem_ids.2 ⟨hd, sameSlot_index hs ▸ h⟩]
  unfold insert
  rw [hany]
  split_ifs
  · unfold ids
    rw [List.filter_map, List.filter_congr fun d _ => ?_]
    by_cases hs : d.sameSlot e
    · simp [hs, h, sameSlot_index hs]
    · simp [hs]
  · simp [ids, List.filter_append, h]

theorem ids_delete_id {table : String} {key : List (List Char)} :
    (t.delete table "id" key).ids = t.ids.delete table "id" key := by
  simp only [delete, ids, List.filter_filter, Bool.and_comm]

theorem mem_insert {x : Entry} (h : x ∈ t.insert e) : x = e ∨ x ∈ t := by
  unfold insert at h
  split_ifs at h
  · obtain ⟨d, hd, rfl⟩ := List.mem_map.1 h
    split_ifs
    exacts [.inl rfl, .inr hd]
  · simpa [or_comm] using h

theorem keys_insert (hk : (t.map fun d => (d.table, d.key)).Nodup) (ht : ∀ d ∈ t, d.index = "id")
    (he : e.index = "id") : ((t.insert e).map fun d => (d.table, d.key)).Nodup := by
  have hslot : ∀ d ∈ t, d.sameSlot e = true ↔ (d.table, d.key) = (e.table, e.key) := fun d hd => by
    simp [Entry.sameSlot, ht d hd, he]
  unfold insert
  split_ifs with hany
  · rw [List.map_map]
    refine (List.map_congr_left fun d hd => ?_).symm ▸ hk
    by_cases hs : d.sameSlot e
    · simp [hs, ((hslot d hd).1 hs).symm]
    · simp [hs]
  · rw [List.map_append, List.nodup_append]
    refine ⟨hk, List.nodup_singleton _, List.disjoint_singleton.2 fun hm => hany ?_⟩
    obtain ⟨d, hd, hde⟩ := List.mem_map.1 hm
    exact List.any_eq_true.2 ⟨d, hd, (hslot d hd).2 hde⟩

theorem ptrs_insert {x : Nat} (h : x ∈ (t.insert e).ptrs) : x = e.ptr ∨ x ∈ t.ptrs := by
  obtain ⟨d, hd, hi, rfl⟩ := mem_ptrs.1 h
  rcases mem_insert hd with rfl | hd
  exacts [.inl rfl, .inr (mem_ptrs.2 ⟨d, hd, hi, rfl⟩)]

theorem ptrs_delete {x : Nat} {table index : String} {key : List (List Char)}
    (h : x ∈ (t.delete table index key).ptrs) : x ∈ t.ptrs := by
  obtain ⟨d, hd, hi, rfl⟩ := mem_ptrs.1 h
  exact mem_ptrs.2 ⟨d, (List.mem_filter.1 hd).1, hi, rfl⟩

end Tree

/-! ## `Insert` and `Delete` on the other indexes -/

section
variable {table id : String} {o x : Object} {existing : Option Object} {p : Nat} {i : Index}
  {u : Tree}

/-- The loop over the indexes fails by the first index's error when each index's error is fixed. -/
theorem indexLoop_spec {work : Index → Tree → Tree × Option String} {err : Index → Option String}
    {is : List Index} (herr : ∀ i ∈ is, ∀ u, (work i u).2 = err i)
    (hids : ∀ i ∈ is, ∀ u, (work i u).1.ids = u.ids) (u : Tree) :
    (indexLoop work is u).2 = is.findSome? err ∧ (indexLoop work is u).1.ids = u.ids := by
  induction is generalizing u with
  | nil => exact ⟨rfl, rfl⟩
  | cons i is ih =>
    have he := herr i (List.mem_cons_self _ _) u
    have hi := hids i (List.mem_cons_self _ _) u
    obtain ⟨ih₁, ih₂⟩ := ih (fun j hj => herr j (.tail _ hj)) (fun j hj => hids j (.tail _ hj))
      (work i u).1
    rw [indexLoop, List.findSome?_cons, ← he]
    rcases hw : work i u with ⟨u₁, _ | e⟩
    · rw [hw] at ih₁ ih₂ hi
      exact ⟨ih₁, ih₂.trans hi⟩
    · rw [hw] at hi
      exact ⟨rfl, hi⟩

theorem insertIndex_ids (hi : i.name ≠ "id") :
    (insertIndex table id o existing p i u).1.ids = u.ids := by
  unfold insertIndex
  split
  · rfl
  · rfl
  · rename_i new old _ _
    have hdel : ∀ k, (u.delete table i.name k).ids = u.ids := fun _ => Tree.ids_delete_of_ne hi
    have hins : ∀ (t : Tree) k, (t.insert ⟨table, i.name, k, p⟩).ids = t.ids :=
      fun _ _ => Tree.ids_insert_of_ne hi
    cases new <;> (repeat' split) <;> simp only [hins, hdel]

theorem insertIndex_err (hx : ∀ x ∈ existing, ∃ v, i.fromObject x = .ok v) :
    (insertIndex table id o existing p i u).2 = i.insertError o := by
  unfold insertIndex Index.insertError
  split
  · simp_all
  · rename_i hex
    obtain ⟨x, hmem, hxe⟩ := Option.map_eq_some'.1 hex
    obtain ⟨v, hv⟩ := hx x hmem
    rw [hv] at hxe
    cases hxe
  · rename_i v hv _
    rw [hv]
    cases v <;> rfl

theorem insertIndex_ptrs {y : Nat} (h : y ∈ (insertIndex table id o existing p i u).1.ptrs) :
    y = p ∨ y ∈ u.ptrs := by
  have hd : ∀ {k y}, y ∈ (u.delete table i.name k).ptrs → y ∈ u.ptrs := Tree.ptrs_delete
  unfold insertIndex at h
  split at h
  · exact .inr h
  · exact .inr h
  · dsimp only at h
    (repeat' split at h) <;> dsimp only at h <;>
      first
      | exact .inr h
      | exact .inr (hd h)
      | rcases Tree.ptrs_insert h with h | h <;>
          first | exact .inl h | exact .inr h | exact .inr (hd h)

theorem indexLoop_ptrs {work : Index → Tree → Tree × Option String}
    (hw : ∀ i u y, y ∈ (work i u).1.ptrs → y = p ∨ y ∈ u.ptrs) :
    ∀ (is : List Index) (u : Tree) y, y ∈ (indexLoop work is u).1.ptrs → y = p ∨ y ∈ u.ptrs
  | [], _, _, h => .inr h
  | i :: is, u, y, h => by
    simp only [indexLoop] at h
    split at h
    · rename_i u₁ hu
      rcases indexLoop_ptrs hw is u₁ y h with rfl | h
      · exact .inl rfl
      · exact hw i u y (hu ▸ h)
    · exact hw i u y h

theorem deleteIndex_ids (hi : i.name ≠ "id") : (deleteIndex table id x i u).1.ids = u.ids := by
  unfold deleteIndex
  split
  · rfl
  · rfl
  · exact Tree.ids_delete_of_ne hi

theorem deleteIndex_err (hx : ∃ v, i.fromObject x = .ok v) :
    (deleteIndex table id x i u).2 = none := by
  obtain ⟨v, hv⟩ := hx
  unfold deleteIndex
  rw [hv]
  cases v <;> rfl

end

/-! ## Consistent trees -/

section
variable {schema : Schema} {objects : Nat → Object} {t : Tree} {o : Object} {p : Nat}

theorem idEntry_sameSlot (a o : Object) (q p : Nat) :
    (idEntry a q).sameSlot (idEntry o p) = a.sameKey o := by
  simp only [idEntry, Entry.sameSlot, Object.sameKey, beq_self_eq_true, Bool.and_true,
    List.cons.injEq, and_true]
  congr 1
  exact Bool.eq_iff_iff.2 (by simp [String.ext_iff])

theorem Consistent.sameSlot (hc : Consistent schema objects t) {d : Entry} (hd : d ∈ t.ids) :
    d.sameSlot (idEntry o p) = (objects d.ptr).sameKey o := by
  have h := idEntry_sameSlot (objects d.ptr) o d.ptr p
  rwa [← (hc.ids d hd).1] at h

theorem Consistent.stored_insert (hc : Consistent schema objects t) (ho : objects p = o) :
    (t.ids.insert (idEntry o p)).map (objects ·.ptr) = (t.stored objects).put o := by
  have hany : t.ids.any (·.sameSlot (idEntry o p)) = (t.stored objects).any (·.sameKey o) := by
    refine Bool.eq_iff_iff.2 ⟨fun ha => ?_, fun ha => ?_⟩
    · obtain ⟨d, hd, hs⟩ := List.any_eq_true.1 ha
      exact List.any_eq_true.2 ⟨_, List.mem_map_of_mem _ hd, by rwa [← hc.sameSlot hd]⟩
    · obtain ⟨x, hx, hs⟩ := List.any_eq_true.1 ha
      obtain ⟨d, hd, rfl⟩ := List.mem_map.1 hx
      exact List.any_eq_true.2 ⟨d, hd, by rwa [hc.sameSlot hd]⟩
  unfold Tree.insert Tables.put
  rw [hany]
  split_ifs
  · rw [Tree.stored, List.map_map, List.map_map]
    refine List.map_congr_left fun d hd => ?_
    simp only [Function.comp_apply, hc.sameSlot hd]
    split_ifs <;> simp [idEntry, ho]
  · simp [Tree.stored, idEntry, ho]

theorem Consistent.insert (hc : Consistent schema objects t)
    (ha : Accepts schema (objects p)) :
    Consistent schema objects (t.insert (idEntry (objects p) p)) := by
  have hids := Tree.ids_insert_id (t := t) (e := idEntry (objects p) p) rfl
  refine ⟨hids ▸ Tree.keys_insert hc.keys (fun d hd => (Tree.mem_ids.1 hd).2) rfl,
    fun e he => ?_⟩
  rw [hids] at he
  rcases Tree.mem_insert he with rfl | he
  exacts [⟨rfl, ha⟩, hc.ids e he]

theorem Consistent.of_ids {t' : Tree} (hc : Consistent schema objects t) (h : t'.ids = t.ids) :
    Consistent schema objects t' :=
  ⟨h ▸ hc.keys, fun e he => hc.ids e (h ▸ he)⟩

/-- `Get` on the `id` index of a consistent tree is `find?` on its objects. -/
theorem Consistent.get_map (hc : Consistent schema objects t) (o : Object) :
    (t.get o.category "id" [o.identifier.data]).map objects =
      (t.stored objects).find? (·.sameKey o) := by
  have hP : t.find? (·.sameSlot (idEntry o 0)) = t.ids.find? (·.sameSlot (idEntry o 0)) := by
    rw [Tree.ids, List.find?_filter]
    congr 1
    funext e
    by_cases h : e.sameSlot (idEntry o 0) = true
    · rw [h, show e.index = "id" from Tree.sameSlot_index h]
      rfl
    · simp [h]
  rw [Tree.stored, ← List.filter_head?, List.filter_map, Function.comp_def,
    List.filter_congr (q := fun d => d.sameSlot (idEntry o 0)) fun d hd => (hc.sameSlot hd).symm,
    List.head?_map, List.filter_head?, ← hP]
  simp only [Tree.get, Option.map_map]
  rfl

theorem Consistent.accepts_of_get (hc : Consistent schema objects t) {o x : Object}
    (h : x ∈ (t.get o.category "id" [o.identifier.data]).map objects) :
    x.sameKey o = true ∧ Accepts schema x := by
  rw [hc.get_map] at h
  have hx := List.find?_some h
  obtain ⟨d, hd, rfl⟩ := List.mem_map.1 (List.mem_of_find?_eq_some h)
  exact ⟨hx, (hc.ids d hd).2⟩

theorem Consistent.stored_delete (hc : Consistent schema objects t) (o : Object) :
    (t.ids.delete o.category "id" [o.identifier.data]).map (objects ·.ptr) =
      (t.stored objects).erase o := by
  rw [Tree.stored, Tables.erase, List.filter_map, Function.comp_def]
  exact congrArg _ (List.filter_congr fun d hd => by
    rw [← hc.sameSlot (p := 0) hd]
    rfl)

theorem Consistent.delete (hc : Consistent schema objects t) (o : Object) :
    Consistent schema objects (t.delete o.category "id" [o.identifier.data]) := by
  have hsub : List.Sublist (t.delete o.category "id" [o.identifier.data]).ids t.ids := by
    rw [Tree.ids_delete_id]
    exact List.filter_sublist _
  exact ⟨hc.keys.sublist (hsub.map _), fun e he => hc.ids e (hsub.subset he)⟩

theorem Accepts.fromObject (ha : Accepts schema o) {i : Index}
    (hi : i ∈ schema.indexes o.category) : ∃ v, i.fromObject o = .ok v := by
  have h := List.findSome?_eq_none_iff.1 ha.2.2 i hi
  unfold Index.insertError at h
  split at h
  · cases h
  · exact ⟨_, ‹_›⟩
  · exact ⟨_, ‹_›⟩

end

/-! ## `Insert` and `Delete` on a consistent transaction -/

section
variable {schema : Schema} {m : Manipulator} {txn p : Nat} {t : Tree}

/-- `Insert` into a consistent transaction puts the object's entry into the `id` entries and fails
by the first error of the other indexes. -/
theorem txnInsert_live_eq (ht : m.txns txn = some t) (hc : Consistent schema m.objects t)
    (hT : (m.objects p).category ∈ schema.tables) (hid : (m.objects p).identifier ≠ "") :
    ∃ t', m.txnInsert schema txn p = some ({ m with txns := Function.update m.txns txn (some t') },
        schema.indexError (m.objects p)) ∧ t'.ids = t.ids.insert (idEntry (m.objects p) p) := by
  let o := m.objects p
  let existing := (t.get o.category "id" [o.identifier.data]).map m.objects
  have hex : ∀ x ∈ existing, x.sameKey o = true ∧ Accepts schema x := fun x hx =>
    hc.accepts_of_get hx
  have hstep : insertIndex o.category o.identifier o existing p idIndex t =
      (t.insert (idEntry o p), none) := by
    cases hx : existing with
    | none => rfl
    | some x =>
      have hk : x.identifier = o.identifier := by
        have := (hex x hx).1
        simp only [Object.sameKey, Bool.and_eq_true, beq_iff_eq] at this
        exact this.2
      simp only [insertIndex, idIndex, Option.map_some', Index.key, if_true, hk]
      rfl
  have hloop := @indexLoop_spec (insertIndex o.category o.identifier o existing p)
    (·.insertError o) (schema.indexes o.category)
    (fun i hi _ => insertIndex_err fun x hx => (hex x hx).2.fromObject (by
      rw [show x.category = o.category from congrArg Prod.fst (Object.sameKey_iff.1 (hex x hx).1)]
      exact hi))
    (fun i hi _ => insertIndex_ids (schema.not_id _ i hi)) (t.insert (idEntry o p))
  refine ⟨_, ?_, hloop.2.trans (Tree.ids_insert_id rfl)⟩
  dsimp only [Manipulator.txnInsert]
  rw [if_neg (not_not.2 hT), if_neg hid, ht]
  simp only [indexLoop]
  rw [show idIndex.key o.identifier o.identifier = [o.identifier.data] from rfl, hstep]
  simp only
  rw [hloop.1]
  rfl

theorem txnDelete_live_eq (ht : m.txns txn = some t) (hc : Consistent schema m.objects t)
    (hT : (m.objects p).category ∈ schema.tables) (hid : (m.objects p).identifier ≠ "") :
    ((t.stored m.objects).any (·.sameKey (m.objects p)) = false →
        m.txnDelete schema txn p = some (m, some "not found")) ∧
      ((t.stored m.objects).any (·.sameKey (m.objects p)) = true →
        ∃ t', m.txnDelete schema txn p =
            some ({ m with txns := Function.update m.txns txn (some t') }, none) ∧
          t'.ids = t.ids.delete (m.objects p).category "id" [(m.objects p).identifier.data]) := by
  let o := m.objects p
  have hget := hc.get_map o
  have hunfold : m.txnDelete schema txn p =
      match t.get o.category "id" [o.identifier.data] with
      | none => some (m, some "not found")
      | some q =>
        let r := indexLoop (deleteIndex o.category o.identifier (m.objects q))
          (idIndex :: schema.indexes o.category) t
        some ({ m with txns := Function.update m.txns txn (some r.1) }, r.2) := by
    dsimp only [Manipulator.txnDelete]
    rw [if_neg (not_not.2 hT), if_neg hid, ht]
    rfl
  refine ⟨fun hany => ?_, fun hany => ?_⟩
  · have hnone : t.get o.category "id" [o.identifier.data] = none := by
      rw [← Option.map_eq_none', hget, List.find?_eq_none]
      simpa using hany
    rw [hunfold, hnone]
  · obtain ⟨x, hx⟩ := Option.isSome_iff_exists.1 (List.find?_isSome.2 (by simpa using hany))
    rw [← hget] at hx
    obtain ⟨q, hq, rfl⟩ := Option.map_eq_some'.1 hx
    obtain ⟨hk, ha⟩ := hc.accepts_of_get (o := o) (by rw [hq]; rfl)
    have hid' : (m.objects q).identifier = o.identifier :=
      congrArg Prod.snd (Object.sameKey_iff.1 hk)
    have hcat : (m.objects q).category = o.category := congrArg Prod.fst (Object.sameKey_iff.1 hk)
    have hloop := @indexLoop_spec (deleteIndex o.category o.identifier (m.objects q))
      (fun _ => none) (schema.indexes o.category)
      (fun i hi _ => deleteIndex_err (ha.fromObject (hcat ▸ hi)))
      (fun i hi _ => deleteIndex_ids (schema.not_id _ i hi))
      (t.delete o.category "id" [o.identifier.data])
    have hstep : deleteIndex o.category o.identifier (m.objects q) idIndex t =
        (t.delete o.category "id" [o.identifier.data], none) := by
      simp only [deleteIndex, idIndex, Index.key, if_true, hid']
    refine ⟨_, ?_, hloop.2.trans Tree.ids_delete_id⟩
    rw [hunfold, hq]
    simp only [indexLoop, hstep]
    rw [hloop.1, List.findSome?_eq_none_iff.2 fun _ _ => rfl]

end

/-! ## The relation between the two manipulators -/

/-- Both transactions finished, or both live with corresponding trees. -/
def TxnAbstracts (schema : Schema) (objects : Nat → Object) (r : Option Tree) (r' : Txn) : Prop :=
  r = none ∧ r'.root = none ∨
    ∃ t, r = some t ∧ Consistent schema objects t ∧ r'.root = some (t.stored objects)

/-- `h` is `m` over pointers: the committed trees and the transactions `live` picks correspond. -/
structure Abstracts (schema : Schema) (live : Nat → Prop) (h : Manipulator)
    (m : Memory.Manipulator) : Prop where
  consistent : Consistent schema h.objects h.db
  db : h.db.stored h.objects = m.db
  txns : ∀ j, live j → TxnAbstracts schema h.objects (h.txns j) (m.txns j)
  nextTxn : h.nextTxn = m.nextTxn
  txnRegistry : h.txnRegistry = m.txnRegistry
  minted : h.minted = m.minted

section
variable {schema : Schema} {live : Nat → Prop} {h : Manipulator} {m : Memory.Manipulator}

theorem Abstracts.mono {live' : Nat → Prop} (hR : Abstracts schema live h m)
    (hl : ∀ j, live' j → live j) : Abstracts schema live' h m :=
  { hR with txns := fun j hj => hR.txns j (hl j hj) }

theorem Abstracts.setTxn (hR : Abstracts schema live h m) (txn : Nat) {r : Option Tree} {r' : Txn}
    (hr : TxnAbstracts schema h.objects r r') :
    Abstracts schema live { h with txns := Function.update h.txns txn r }
      { m with txns := Function.update m.txns txn r' } :=
  { hR with
    txns := fun j hj => by
      by_cases hjt : j = txn
      · subst hjt; simpa using hr
      · simpa [Function.update_noteq hjt] using hR.txns j hj }

theorem Abstracts.dropTxn (hR : Abstracts schema live h m) (txn : Nat) (r : Option Tree) :
    Abstracts schema (fun j => live j ∧ j ≠ txn) { h with txns := Function.update h.txns txn r }
      m :=
  { hR with txns := fun j hj => by simpa [Function.update_noteq hj.2] using hR.txns j hj.1 }

theorem Consistent.congr {objects objects' : Nat → Object} {t : Tree}
    (hc : Consistent schema objects t) (he : ∀ q ∈ t.ptrs, objects' q = objects q) :
    Consistent schema objects' t := by
  refine ⟨hc.keys, fun e hd => ?_⟩
  rw [he e.ptr (List.mem_map_of_mem _ hd)]
  exact hc.ids e hd

theorem stored_congr {objects objects' : Nat → Object} {t : Tree}
    (he : ∀ q ∈ t.ptrs, objects' q = objects q) : t.stored objects' = t.stored objects :=
  List.map_congr_left fun d hd => he d.ptr (List.mem_map_of_mem _ hd)

/-- Setting the identifier of a pointer no tree holds changes nothing the trees read. -/
theorem Abstracts.setIdentifier (hR : Abstracts schema live h m) {p : Nat}
    (hdb : p ∉ h.db.ptrs) (htx : ∀ j t, live j → h.txns j = some t → p ∉ t.ptrs) :
    Abstracts schema live (h.setIdentifier p) { m with minted := m.minted + 1 } := by
  have he : ∀ t : Tree, p ∉ t.ptrs → ∀ q ∈ t.ptrs, (h.setIdentifier p).objects q = h.objects q :=
    fun t hp q hq => setIdentifier_objects_ne fun hqp => hp (hqp ▸ hq)
  refine ⟨hR.consistent.congr (he _ hdb), (stored_congr (he _ hdb)).trans hR.db, fun j hj => ?_,
    hR.nextTxn, hR.txnRegistry, congrArg (· + 1) hR.minted⟩
  rcases hR.txns j hj with ⟨hn, hn'⟩ | ⟨t, ht, hc, ht'⟩
  · exact .inl ⟨hn, hn'⟩
  · have hpt := htx j t hj ht
    exact .inr ⟨t, ht, hc.congr (he _ hpt), by rw [ht', stored_congr (he _ hpt)]⟩

end

/-! ## The operations of the writes -/

/-- Both panic, or both return the same error and then correspond but for `txn`, and entirely when
there is no error. -/
def OpAbstracts (schema : Schema) (txn : Nat) :
    Option (Manipulator × Option String) → Option (Memory.Manipulator × Option String) → Prop :=
  Option.Rel fun r r' => r.2 = r'.2 ∧ Abstracts schema (· ≠ txn) r.1 r'.1 ∧
    (r.2 = none → Abstracts schema (fun _ => True) r.1 r'.1)

section
variable {schema : Schema} {h : Manipulator} {m : Memory.Manipulator}

theorem opAbstracts_unchanged (hR : Abstracts schema (fun _ => True) h m) {txn : Nat}
    (e : String) : OpAbstracts schema txn (some (h, some e)) (some (m, some e)) :=
  .some ⟨rfl, hR.mono fun _ _ => trivial, nofun⟩

theorem txnInsert_refines (hR : Abstracts schema (fun _ => True) h m) (txn p : Nat) :
    OpAbstracts schema txn (h.txnInsert schema txn p) (m.txnInsert schema txn (h.objects p)) := by
  by_cases hT : (h.objects p).category ∈ schema.tables
  · by_cases hid : (h.objects p).identifier = ""
    · have e₁ : h.txnInsert schema txn p = some (h, some "object missing primary index") := by
        dsimp only [Manipulator.txnInsert]; rw [if_neg (not_not.2 hT), if_pos hid]
      rw [e₁, show m.txnInsert schema txn (h.objects p) =
        some (m, some "object missing primary index") by
          simp [Memory.Manipulator.txnInsert, hT, hid]]
      exact opAbstracts_unchanged hR _
    · rcases hR.txns txn trivial with ⟨hn, hn'⟩ | ⟨t, ht, hc, ht'⟩
      · have e₁ : h.txnInsert schema txn p = none := by
          dsimp only [Manipulator.txnInsert]; rw [if_neg (not_not.2 hT), if_neg hid, hn]
        rw [e₁, show m.txnInsert schema txn (h.objects p) = none by
          simp [Memory.Manipulator.txnInsert, hT, hid, hn']]
        exact .none
      · obtain ⟨t', heq, hids⟩ := txnInsert_live_eq ht hc hT hid
        rw [heq]
        cases hx : schema.indexError (h.objects p) with
        | some e =>
          rw [show m.txnInsert schema txn (h.objects p) = some (m, some e) by
            simp [Memory.Manipulator.txnInsert, hT, hid, ht', hx]]
          exact .some ⟨rfl, (hR.dropTxn txn _).mono fun j hj => ⟨trivial, hj⟩, nofun⟩
        | none =>
          let r : Txn := ⟨some ((t.stored h.objects).put (h.objects p))⟩
          rw [show m.txnInsert schema txn (h.objects p) =
              some ({ m with txns := Function.update m.txns txn r }, none) by
            simp [Memory.Manipulator.txnInsert, hT, hid, ht', hx, r]]
          have hc' : Consistent schema h.objects t' :=
            (hc.insert ⟨hT, hid, hx⟩).of_ids (hids.trans (Tree.ids_insert_id rfl).symm)
          have hr : TxnAbstracts schema h.objects (some t') r :=
            .inr ⟨t', rfl, hc', by
              show some _ = some (t'.ids.map _)
              rw [hids, hc.stored_insert rfl]⟩
          have hR' := hR.setTxn txn hr
          exact .some ⟨rfl, hR'.mono fun _ _ => trivial, fun _ => hR'⟩
  · have e₁ : h.txnInsert schema txn p =
        some (h, some ("invalid table \x27" ++ (h.objects p).category ++ "\x27")) :=
      txnInsert_invalid_table hT
    rw [e₁, show m.txnInsert schema txn (h.objects p) =
      some (m, some ("invalid table \x27" ++ (h.objects p).category ++ "\x27")) by
        simp [Memory.Manipulator.txnInsert, hT]]
    exact opAbstracts_unchanged hR _

theorem txnDelete_refines (hR : Abstracts schema (fun _ => True) h m) (txn p : Nat) :
    OpAbstracts schema txn (h.txnDelete schema txn p) (m.txnDelete schema txn (h.objects p)) := by
  by_cases hT : (h.objects p).category ∈ schema.tables
  · by_cases hid : (h.objects p).identifier = ""
    · have e₁ : h.txnDelete schema txn p = some (h, some "object missing primary index") := by
        dsimp only [Manipulator.txnDelete]; rw [if_neg (not_not.2 hT), if_pos hid]
      rw [e₁, show m.txnDelete schema txn (h.objects p) =
        some (m, some "object missing primary index") by
          simp [Memory.Manipulator.txnDelete, hT, hid]]
      exact opAbstracts_unchanged hR _
    · rcases hR.txns txn trivial with ⟨hn, hn'⟩ | ⟨t, ht, hc, ht'⟩
      · have e₁ : h.txnDelete schema txn p = none := by
          dsimp only [Manipulator.txnDelete]; rw [if_neg (not_not.2 hT), if_neg hid, hn]
        rw [e₁, show m.txnDelete schema txn (h.objects p) = none by
          simp [Memory.Manipulator.txnDelete, hT, hid, hn']]
        exact .none
      · obtain ⟨hnf, hf⟩ := txnDelete_live_eq ht hc hT hid
        cases hany : (t.stored h.objects).any (·.sameKey (h.objects p)) with
        | false =>
          rw [hnf hany, show m.txnDelete schema txn (h.objects p) = some (m, some "not found") by
            simp [Memory.Manipulator.txnDelete, hT, hid, ht', hany]]
          exact opAbstracts_unchanged hR _
        | true =>
          obtain ⟨t', heq, hids⟩ := hf hany
          let r : Txn := ⟨some ((t.stored h.objects).erase (h.objects p))⟩
          rw [heq, show m.txnDelete schema txn (h.objects p) =
              some ({ m with txns := Function.update m.txns txn r }, none) by
            simp [Memory.Manipulator.txnDelete, hT, hid, ht', hany, r]]
          have hc' : Consistent schema h.objects t' :=
            (hc.delete (h.objects p)).of_ids (hids.trans Tree.ids_delete_id.symm)
          have hr : TxnAbstracts schema h.objects (some t') r :=
            .inr ⟨t', rfl, hc', by
              show some _ = some (t'.ids.map _)
              rw [hids, hc.stored_delete]⟩
          have hR' := hR.setTxn txn hr
          exact .some ⟨rfl, hR'.mono fun _ _ => trivial, fun _ => hR'⟩
  · have e₁ : h.txnDelete schema txn p =
        some (h, some ("invalid table \x27" ++ (h.objects p).category ++ "\x27")) := if_pos hT
    rw [e₁, show m.txnDelete schema txn (h.objects p) =
      some (m, some ("invalid table \x27" ++ (h.objects p).category ++ "\x27")) by
        simp [Memory.Manipulator.txnDelete, hT]]
    exact opAbstracts_unchanged hR _

theorem txnInsert_ptrs {txn p : Nat} {h' : Manipulator} {e : Option String}
    (hi : h.txnInsert schema txn p = some (h', e)) {j : Nat} {t' : Tree}
    (ht' : h'.txns j = some t') {y : Nat} (hy : y ∈ t'.ptrs) :
    y = p ∨ ∃ t, h.txns j = some t ∧ y ∈ t.ptrs := by
  dsimp only [Manipulator.txnInsert] at hi
  split_ifs at hi
  · cases hi; exact .inr ⟨t', ht', hy⟩
  · split at hi
    · cases hi
    · rename_i t ht
      cases hi
      simp only [Function.update_apply] at ht'
      split_ifs at ht' with hj
      · cases ht'
        subst hj
        exact (indexLoop_ptrs (fun _ _ _ h => insertIndex_ptrs h) _ t y hy).imp_right
          fun hy => ⟨t, ht, hy⟩
      · exact .inr ⟨t', ht', hy⟩
  · cases hi; exact .inr ⟨t', ht', hy⟩

/-- Setting a fresh pointer's identifier in place is the value-level `Create` giving the object its
identifier. -/
theorem createOp_refines (hR : Abstracts schema (fun _ => True) h m) {txn p : Nat}
    (hdb : p ∉ h.db.ptrs) (htx : ∀ j t, h.txns j = some t → p ∉ t.ptrs) :
    OpAbstracts schema txn ((h.setIdentifier p).txnInsert schema txn p)
      ({ m with minted := m.minted + 1 }.txnInsert schema txn
        { h.objects p with identifier := uuidNewV4 m.minted }) := by
  have ho : (h.setIdentifier p).objects p =
      { h.objects p with identifier := uuidNewV4 m.minted } := by
    rw [setIdentifier_objects, hR.minted]
  rw [← ho]
  exact txnInsert_refines (hR.setIdentifier hdb fun j t _ => htx j t) txn p

/-- The write loop over pointers does what the loop over their objects does; `pre` is what each
operation needs of its pointer, and `keepsAll` says that it writes no object. -/
theorem writeObjects_refines {txn : Nat}
    {opH : Manipulator → Nat → Option (Manipulator × Option String)}
    {opV : Memory.Manipulator → Object → Option (Memory.Manipulator × Option String)}
    {pre : Manipulator → Nat → Prop} {keepsAll : Prop}
    (hop : ∀ h m p, Abstracts schema (fun _ => True) h m → pre h p →
      OpAbstracts schema txn (opH h p) (opV m (h.objects p)))
    (hpre : ∀ h m p h' q, Abstracts schema (fun _ => True) h m → opH h p = some (h', none) →
      pre h q → (q ≠ p ∨ keepsAll) → pre h' q)
    (hkeep : ∀ h p h' e, opH h p = some (h', e) → ∀ x, (x ≠ p ∨ keepsAll) →
      h'.objects x = h.objects x) :
    ∀ (ps : List Nat) (h : Manipulator) (m : Memory.Manipulator),
      Abstracts schema (fun _ => True) h m → (keepsAll ∨ ps.Nodup) → (∀ p ∈ ps, pre h p) →
      OpAbstracts schema txn (writeObjects opH h ps) (Memory.writeObjects opV m (ps.map h.objects))
  | [], h, m, hR, _, _ => .some ⟨rfl, hR.mono fun _ _ => trivial, fun _ => hR⟩
  | p :: ps, h, m, hR, hnd, hps => by
    have hrel := hop h m p hR (hps p (List.mem_cons_self _ _))
    simp only [writeObjects, Memory.writeObjects, List.map_cons]
    rcases hA : opH h p with _ | ⟨h', e⟩ <;> rcases hB : opV m (h.objects p) with _ | ⟨m', e'⟩ <;>
      rw [hA, hB] at hrel <;> cases hrel
    · exact .none
    · rename_i hr
      obtain ⟨rfl, hR', hok⟩ := hr
      cases e with
      | some e => exact .some ⟨rfl, hR', nofun⟩
      | none =>
        have hother : ∀ q ∈ ps, q ≠ p ∨ keepsAll := fun q hq =>
          hnd.elim .inr fun hn => .inl fun hqp => (List.nodup_cons.1 hn).1 (hqp ▸ hq)
        have hmap : ps.map h'.objects = ps.map h.objects :=
          List.map_congr_left fun q hq => hkeep h p h' none hA q (hother q hq)
        rw [← hmap]
        exact writeObjects_refines hop hpre hkeep ps h' m' (hok rfl)
          (hnd.imp_right fun hn => (List.nodup_cons.1 hn).2)
          fun q hq => hpre h m p h' q hR hA (hps q (.tail _ hq)) (hother q hq)

end

/-! ## The writes -/

section
variable {schema : Schema} {h : Manipulator} {m : Memory.Manipulator}

theorem Abstracts.newTxn (hR : Abstracts schema (fun _ => True) h m) :
    h.newTxn.2 = m.newTxn.2 ∧ Abstracts schema (fun _ => True) h.newTxn.1 m.newTxn.1 := by
  have hr : TxnAbstracts schema h.objects (some h.db) ⟨some m.db⟩ :=
    .inr ⟨h.db, rfl, hR.consistent, by rw [hR.db]⟩
  refine ⟨hR.nextTxn, hR.consistent, hR.db, fun j _ => ?_, congrArg (· + 1) hR.nextTxn,
    hR.txnRegistry, hR.minted⟩
  simp only [Manipulator.newTxn, Memory.Manipulator.newTxn, ← hR.nextTxn]
  by_cases hj : j = h.nextTxn
  · subst hj
    simpa using hr
  · simpa [Function.update_noteq hj] using hR.txns j trivial

theorem Abstracts.registerTxn (hR : Abstracts schema (fun _ => True) h m) (id : String)
    (txn : Nat) : Abstracts schema (fun _ => True) (h.registerTxn id txn) (m.registerTxn id txn) :=
  { hR with txnRegistry := by simp [Manipulator.registerTxn, Memory.Manipulator.registerTxn,
      hR.txnRegistry] }

theorem Abstracts.txnForID (hR : Abstracts schema (fun _ => True) h m) (id : String) :
    (h.txnForID id).2 = (m.txnForID id).2 ∧
      Abstracts schema (fun _ => True) (h.txnForID id).1 (m.txnForID id).1 := by
  obtain ⟨hn, hR'⟩ := hR.newTxn
  unfold Manipulator.txnForID Memory.Manipulator.txnForID
  split_ifs
  · exact ⟨hn, hR'⟩
  · rw [Manipulator.registeredTxnWithID, Memory.Manipulator.registeredTxnWithID, hR.txnRegistry]
    cases m.txnRegistry id with
    | some txn => exact ⟨rfl, hR⟩
    | none =>
      rw [hn]
      exact ⟨rfl, hR'.registerTxn _ _⟩

theorem txnForID_objects (id : String) : (h.txnForID id).1.objects = h.objects := by
  unfold Manipulator.txnForID
  split_ifs
  · rfl
  · split <;> rfl

theorem txnForID_db (id : String) : (h.txnForID id).1.db = h.db := by
  unfold Manipulator.txnForID
  split_ifs
  · rfl
  · split <;> rfl

theorem txnForID_txns (id : String) {j : Nat} {t : Tree} (ht : (h.txnForID id).1.txns j = some t) :
    h.txns j = some t ∨ t = h.db := by
  have hnew : h.newTxn.1.txns j = some t → h.txns j = some t ∨ t = h.db := fun ht => by
    simp only [Manipulator.newTxn, Function.update_apply] at ht
    split_ifs at ht
    exacts [.inr (Option.some.inj ht).symm, .inl ht]
  unfold Manipulator.txnForID at ht
  split_ifs at ht
  · exact hnew ht
  · split at ht
    · exact .inl ht
    · exact hnew ht

theorem Abstracts.commitTxn (hR : Abstracts schema (fun _ => True) h m) (txn : Nat) :
    Abstracts schema (fun _ => True) (h.commitTxn txn) (m.commitTxn txn) := by
  rcases hR.txns txn trivial with ⟨hn, hn'⟩ | ⟨t, ht, hc, ht'⟩
  · simpa [Manipulator.commitTxn, Memory.Manipulator.commitTxn, hn, hn'] using hR
  · have hR' := hR.setTxn txn (r := none) (.inl ⟨rfl, rfl⟩)
    simp only [Manipulator.commitTxn, Memory.Manipulator.commitTxn, ht, ht']
    exact ⟨hc, rfl, hR'.txns, hR.nextTxn, hR.txnRegistry, hR.minted⟩

theorem Abstracts.abortTxn {txn : Nat} (hR : Abstracts schema (· ≠ txn) h m) :
    Abstracts schema (fun _ => True) (h.abortTxn txn) (m.abortTxn txn) :=
  { hR with
    txns := fun j _ => by
      by_cases hj : j = txn
      · subst hj
        exact .inl ⟨by simp [Manipulator.abortTxn], by simp [Memory.Manipulator.abortTxn]⟩
      · simpa [Manipulator.abortTxn, Memory.Manipulator.abortTxn, Function.update_noteq hj]
          using hR.txns j hj }

theorem write_refines {opH : Manipulator → Nat → Nat → Option (Manipulator × Option String)}
    {opV : Memory.Manipulator → Nat → Object → Option (Memory.Manipulator × Option String)}
    {pre : Manipulator → Nat → Nat → Prop} {keepsAll : Prop}
    (hop : ∀ txn h m p, Abstracts schema (fun _ => True) h m → pre h txn p →
      OpAbstracts schema txn (opH h txn p) (opV m txn (h.objects p)))
    (hpre : ∀ txn h m p h' q, Abstracts schema (fun _ => True) h m →
      opH h txn p = some (h', none) → pre h txn q → (q ≠ p ∨ keepsAll) → pre h' txn q)
    (hkeep : ∀ txn h p h' e, opH h txn p = some (h', e) → ∀ x, (x ≠ p ∨ keepsAll) →
      h'.objects x = h.objects x)
    (hR : Abstracts schema (fun _ => True) h m) (c : Option Context) {ps : List Nat}
    (hnd : keepsAll ∨ ps.Nodup)
    (hps : ∀ p ∈ ps, pre (h.txnForID (c.getD newContext).transactionID).1
      (h.txnForID (c.getD newContext).transactionID).2 p) :
    Option.Rel (fun r r' => r.2 = r'.2 ∧ Abstracts schema (fun _ => True) r.1 r'.1)
      (write opH h c ps) (Memory.write opV m c (ps.map h.objects)) := by
  obtain ⟨htxn, hR₁⟩ := hR.txnForID (c.getD newContext).transactionID
  have hloop := writeObjects_refines
    (fun h₁ m₁ p hR hp => hop (h.txnForID (c.getD newContext).transactionID).2 h₁ m₁ p hR hp)
    (fun h m p h' q => hpre _ h m p h' q) (fun h p h' e => hkeep _ h p h' e) ps _ _ hR₁ hnd hps
  rw [txnForID_objects] at hloop
  simp only [write, Memory.write]
  rw [← htxn]
  generalize writeObjects _ _ ps = lh at hloop ⊢
  generalize Memory.writeObjects _ _ _ = lv at hloop ⊢
  cases hloop with
  | none => exact .none
  | some hr =>
    rename_i r r'
    obtain ⟨h', e⟩ := r
    obtain ⟨m', e'⟩ := r'
    obtain ⟨rfl, hR', hok⟩ := hr
    cases e with
    | some e => exact .some ⟨rfl, hR'.abortTxn⟩
    | none =>
      refine .some ⟨rfl, ?_⟩
      have hR'' := hok rfl
      split_ifs
      · exact (hR''.commitTxn _).mono (fun _ _ => trivial) |>.abortTxn
      · exact (hR''.mono fun _ _ => trivial).abortTxn

end

/-! ## `Create`, `Update` and `Delete` -/

/-- Both calls panic, or both return the same error with corresponding states. -/
def CallAbstracts (schema : Schema) :
    Option (Manipulator × Option Error) → Option (Memory.Manipulator × Option Error) → Prop :=
  Option.Rel fun r r' => r.2 = r'.2 ∧ Abstracts schema (fun _ => True) r.1 r'.1

/-- `p` is in no tree: neither the committed one nor a live transaction's. -/
def Unstored (h : Manipulator) (p : Nat) : Prop :=
  p ∉ h.db.ptrs ∧ ∀ j t, h.txns j = some t → p ∉ t.ptrs

section
variable {schema : Schema} {h : Manipulator} {m : Memory.Manipulator}

theorem update_abstracts (hR : Abstracts schema (fun _ => True) h m) (c : Option Context)
    (ps : List Nat) :
    CallAbstracts schema (h.update schema c ps) (m.update schema c (ps.map h.objects)) :=
  write_refines (fun txn h _ p hR (_ : True) => txnInsert_refines hR txn p)
    (fun _ _ _ _ _ _ _ _ _ _ => trivial)
    (fun _ _ _ _ _ he x (_ : x ≠ _ ∨ True) => by rw [(txnInsert_frame he).2.1]) hR c
    (.inl trivial) fun _ _ => trivial

theorem delete_abstracts (hR : Abstracts schema (fun _ => True) h m) (c : Option Context)
    (ps : List Nat) :
    CallAbstracts schema (h.delete schema c ps) (m.delete schema c (ps.map h.objects)) :=
  write_refines (fun txn h _ p hR (_ : True) => txnDelete_refines hR txn p)
    (fun _ _ _ _ _ _ _ _ _ _ => trivial)
    (fun _ _ _ _ _ he x (_ : x ≠ _ ∨ True) => by rw [(txnDelete_frame he).2.1]) hR c
    (.inl trivial) fun _ _ => trivial

theorem create_abstracts (hR : Abstracts schema (fun _ => True) h m) (c : Option Context)
    {ps : List Nat} (hnd : ps.Nodup) (hfresh : ∀ p ∈ ps, Unstored h p) :
    CallAbstracts schema (h.create schema c ps) (m.create schema c (ps.map h.objects)) := by
  refine write_refines (fun txn h _ p hR (hp : Unstored h p) => createOp_refines hR hp.1 hp.2)
    (fun txn h _ p h' q _ hop hq (hqp : q ≠ p ∨ False) => ?_)
    (fun txn h p h' e hop x (hx : x ≠ p ∨ False) => ?_) hR c (.inr hnd) fun p hp => ?_
  · have hne := hqp.resolve_right id
    refine ⟨by rw [(txnInsert_frame hop).1, setIdentifier_db]; exact hq.1, fun j t' ht' hy => ?_⟩
    rcases txnInsert_ptrs hop ht' hy with rfl | ⟨t, ht, hy⟩
    exacts [hne rfl, hq.2 j t ht hy]
  · rw [(txnInsert_frame hop).2.1, setIdentifier_objects_ne (hx.resolve_right id)]
  · obtain ⟨hdb, htx⟩ := hfresh p hp
    refine ⟨by rw [txnForID_db]; exact hdb, fun j t ht => ?_⟩
    rcases txnForID_txns _ ht with ht | rfl
    exacts [htx j t ht, hdb]

end

/-! ## The committed store between calls -/

/-- A state between calls: its committed tree consistent and no transaction live. -/
structure Sound (schema : Schema) (h : Manipulator) : Prop where
  consistent : Consistent schema h.objects h.db
  done : AllDone h

/-- The manipulator over values that a state between calls stands for. -/
def Manipulator.abs (h : Manipulator) : Memory.Manipulator where
  db := h.db.stored h.objects
  txns _ := ⟨none⟩
  nextTxn := h.nextTxn
  txnRegistry := h.txnRegistry
  minted := h.minted

/-- A write from a state between calls does what the store's write `w` does and ends between calls:
on `some s` it returns nil with the committed store `s`, on `none` an error with the store as it
was. -/
def CallRefines (schema : Schema) (h : Manipulator) (call : Option (Manipulator × Option Error))
    (w : Option Store) : Prop :=
  ∃ h' e, call = some (h', e) ∧ Sound schema h' ∧
    match w with
    | some s => e = none ∧ h'.view = s
    | none => e ≠ none ∧ h'.view = h.view

section
variable {schema : Schema} {live : Nat → Prop} {h : Manipulator} {m : Memory.Manipulator}

theorem Abstracts.view (hR : Abstracts schema live h m) : h.view = m.db.view := by
  funext k
  rw [← hR.db]
  exact hR.consistent.get_map ⟨k.1, k.2, ""⟩

theorem Sound.abstracts (hs : Sound schema h) : Abstracts schema (fun _ => True) h h.abs :=
  ⟨hs.consistent, rfl, fun j _ => .inl ⟨hs.done j, rfl⟩, rfl, rfl, rfl⟩

theorem Sound.of_abstracts (hR : Abstracts schema (fun _ => True) h m) (hd : Memory.AllDone m) :
    Sound schema h where
  consistent := hR.consistent
  done j := by
    rcases hR.txns j trivial with ⟨hj, -⟩ | ⟨t, -, -, ht⟩
    · exact hj
    · cases (hd j).symm.trans ht

theorem CallAbstracts.refines (hs : Sound schema h) {call : Option (Manipulator × Option Error)}
    {call' : Option (Memory.Manipulator × Option Error)} {w : Option Store}
    (hc : CallAbstracts schema call call') (hr : Refines h.abs call' w)
    (hd : ∀ m', call'.map Prod.fst = some m' → Memory.AllDone m') :
    CallRefines schema h call w := by
  obtain ⟨m', e, rfl, hw⟩ := hr
  obtain ⟨⟨h', e'⟩, rfl, he, hR⟩ :
      ∃ r, call = some r ∧ r.2 = e ∧ Abstracts schema (fun _ => True) r.1 m' := by
    cases hc with
    | some hr => exact ⟨_, rfl, hr⟩
  dsimp only at he hR
  subst he
  refine ⟨h', e', rfl, Sound.of_abstracts hR (hd m' rfl), ?_⟩
  cases w with
  | none => exact ⟨hw.1, by rw [hR.view, hw.2, hs.abstracts.view]⟩
  | some s => exact ⟨hw.1, hR.view.trans hw.2⟩

/-- `Update` with no transaction ID writes the committed store as `Store.update` does. -/
theorem update_refines_store (hs : Sound schema h) {c : Option Context}
    (hc : (c.getD newContext).transactionID = "") (ps : List Nat) :
    CallRefines schema h (h.update schema c ps)
      (Store.update schema h.view (ps.map h.objects)) := by
  rw [hs.abstracts.view]
  exact (update_abstracts hs.abstracts c ps).refines hs (update_refines h.abs hc _)
    fun _ hm => (Memory.AllDone.write (fun _ => rfl) Memory.txnInsert_opFrame hm).1

theorem update_refines_store_stored :
    let h := (runCalls lists
      (newMemoryManipulator fun p => ⟨"list", "", if p = 0 then "x" else "y"⟩)
      [.create none [0]]).getD (newMemoryManipulator fun _ => ⟨"", "", ""⟩)
    Sound lists h ∧
      CallRefines lists h (h.update lists none [0])
        (Store.update lists h.view ([0].map h.objects)) := by
  intro h
  let h₀ := newMemoryManipulator fun p => ⟨"list", "", if p = 0 then "x" else "y"⟩
  have hr : runCalls lists h₀ [.create none [0]] = some h := rfl
  have hs : Sound lists h := ⟨by decide, (runCalls_frame (show AllDone h₀ from fun _ => rfl) hr).1⟩
  exact ⟨hs, update_refines_store (c := none) hs rfl [0]⟩

/-- `Create` with no transaction ID of distinct objects the store does not hold writes the
committed store as `Store.create` does. -/
theorem create_refines_store (hs : Sound schema h) {c : Option Context}
    (hc : (c.getD newContext).transactionID = "") {ps : List Nat} (hnd : ps.Nodup)
    (hfresh : ∀ p ∈ ps, p ∉ h.db.ptrs) :
    CallRefines schema h (h.create schema c ps)
      (Store.create schema h.view h.minted (ps.map h.objects)) := by
  rw [hs.abstracts.view]
  refine (create_abstracts hs.abstracts c hnd fun p hp => ⟨hfresh p hp, fun j t ht => ?_⟩).refines
    hs (create_refines h.abs hc _)
    fun _ hm => (Memory.AllDone.write (fun _ => rfl) Memory.create_opFrame hm).1
  cases (hs.done j).symm.trans ht

theorem create_refines_store_second :
    let h := (runCalls lists
      (newMemoryManipulator fun p => ⟨"list", "", if p = 0 then "x" else "y"⟩)
      [.create none [0]]).getD (newMemoryManipulator fun _ => ⟨"", "", ""⟩)
    Sound lists h ∧ [1].Nodup ∧ (∀ p ∈ [1], p ∉ h.db.ptrs) ∧
      CallRefines lists h (h.create lists none [1])
        (Store.create lists h.view h.minted ([1].map h.objects)) := by
  intro h
  let h₀ := newMemoryManipulator fun p => ⟨"list", "", if p = 0 then "x" else "y"⟩
  have hr : runCalls lists h₀ [.create none [0]] = some h := rfl
  have hs : Sound lists h := ⟨by decide, (runCalls_frame (show AllDone h₀ from fun _ => rfl) hr).1⟩
  have hnd : [1].Nodup := by decide
  have hf : ∀ p ∈ [1], p ∉ h.db.ptrs := by decide
  exact ⟨hs, hnd, hf, create_refines_store (c := none) hs rfl hnd hf⟩

end

/-! ## Reads -/

section
variable {schema : Schema} {objects : Nat → Object} {t : Tree} {h h' : Manipulator}

/-- An `id` query with an argument reaches first the entry `get` finds. -/
theorem Consistent.scan_id (hc : Consistent schema objects t) (table id : String) :
    (t.scan table "id" (· == id)).head? = t.get table "id" [id.data] := by
  have hP : ∀ e ∈ t, (e.table == table && e.index == "id" && e.value == id) =
      (e.table == table && e.index == "id" && e.key == [id.data]) := fun e he => by
    by_cases hi : e.index = "id"
    · have hk : e.key = [(objects e.ptr).identifier.data] :=
        congrArg Entry.key (hc.ids e (Tree.mem_ids.2 ⟨he, hi⟩)).1
      have hv : e.value = (objects e.ptr).identifier := by rw [Entry.value, hk]; rfl
      rw [hv, hk]
      congr 1
      rw [Bool.eq_iff_iff, beq_iff_eq, beq_iff_eq, List.cons.injEq, String.ext_iff]
      simp
    · have hi : (e.index == "id") = false := by simpa using hi
      rw [hi, Bool.and_false, Bool.false_and, Bool.false_and]
  unfold Tree.scan Tree.get
  rw [List.filter_congr hP, List.Sorted.insertionSort_eq, List.head?_map, List.filter_head?]
  refine List.pairwise_of_forall_mem_list fun a ha b hb => le_of_eq ?_
  simp only [List.mem_filter, Bool.and_eq_true, beq_iff_eq] at ha hb
  rw [ha.2.2, hb.2.2]

theorem Consistent.get_ptr (hc : Consistent schema objects t) {p : Nat} (hp : p ∈ t.ptrs) :
    t.get (objects p).category "id" [(objects p).identifier.data] = some p := by
  obtain ⟨d, hd, hdi, rfl⟩ := Tree.mem_ptrs.1 hp
  have hd' : d ∈ t.ids := Tree.mem_ids.2 ⟨hd, hdi⟩
  have hde := (hc.ids d hd').1
  have hQ : (d.table == (objects d.ptr).category && d.index == "id" &&
      d.key == [(objects d.ptr).identifier.data]) = true := by
    rw [hde]; simp [idEntry]
  obtain ⟨e, hfe⟩ := Option.isSome_iff_exists.1 (List.find?_isSome (p := fun e =>
    e.table == (objects d.ptr).category && e.index == "id" &&
      e.key == [(objects d.ptr).identifier.data]) |>.2 ⟨d, hd, hQ⟩)
  have he := List.find?_some hfe
  simp only [Bool.and_eq_true, beq_iff_eq] at he hQ
  have hed : e = d := List.inj_on_of_nodup_map hc.keys
    (Tree.mem_ids.2 ⟨List.mem_of_find?_eq_some hfe, he.1.2⟩) hd'
    (by rw [he.1.1, he.2, hQ.1.1, hQ.2])
  simp only [Tree.get, hfe, hed, Option.map_some']

theorem Sound.congr (hs : Sound schema h) (hdb : h'.db = h.db) (htx : h'.txns = h.txns)
    (hobj : ∀ x ∈ h.db.ptrs, h'.objects x = h.objects x) : Sound schema h' where
  consistent := hdb ▸ hs.consistent.congr hobj
  done j := htx ▸ hs.done j

theorem Schema.get_id_scan (t : Tree) (table id : String) :
    Schema.get schema t table "id" [id] =
      if table ∈ schema.tables then .ok (t.scan table "id" (· == id))
      else .error ("invalid table \x27" ++ table ++ "\x27") := by
  rw [Schema.get, Schema.getIndexValue_id]
  split_ifs <;> rfl

theorem Schema.get_id_all_scan (t : Tree) (table : String) :
    Schema.get schema t table "id" [] =
      if table ∈ schema.tables then .ok (t.scan table "id" fun _ => true)
      else .error ("invalid table \x27" ++ table ++ "\x27") := by
  rw [Schema.get, Schema.getIndexValue_id_all]
  split_ifs <;> rfl

/-- The `id` index of a table, walked in key order, points to its objects in the order of their
identifiers. -/
theorem Consistent.scan_all (hc : Consistent schema objects t) (table : String) :
    (t.scan table "id" fun _ => true).map objects =
      ((t.stored objects).filter (·.category == table)).insertionSort idIndex.keyLE := by
  have hcat : ∀ e ∈ t.ids, (objects e.ptr).category = e.table := fun e he =>
    (congrArg Entry.table (hc.ids e he).1).symm
  have hkey : ∀ e ∈ t.ids, idIndex.keyOf (objects e.ptr) = e.key := fun e he =>
    (congrArg Entry.key (hc.ids e he).1).symm
  have hf : (t.filter fun e => e.table == table && e.index == "id" && true) =
      t.ids.filter (·.table == table) := by
    rw [Tree.ids, List.filter_filter]
    exact List.filter_congr fun e _ => by rw [Bool.and_true, Bool.and_comm]
  have hfm : (t.ids.map fun e => objects e.ptr).filter (·.category == table) =
      (t.ids.filter (·.table == table)).map fun e => objects e.ptr := by
    rw [List.filter_map]
    exact congrArg _ (List.filter_congr fun e he => by rw [Function.comp_apply, hcat e he])
  rw [Tree.scan, hf, List.map_map, Tree.stored, hfm]
  refine List.map_insertionSort _ _ _ _ fun a ha b hb => ?_
  rw [Index.keyLE, Function.comp_apply, Function.comp_apply, hkey a (List.mem_of_mem_filter ha),
    hkey b (List.mem_of_mem_filter hb)]

theorem retrieve_objects {ps : List Nat} {x : Nat} (hx : x ∉ ps) :
    (h.retrieve schema ps).1.objects x = h.objects x := by
  induction ps generalizing h with
  | nil => rfl
  | cons p ps ih =>
    unfold Manipulator.retrieve
    split
    · rfl
    · rfl
    · rw [ih (List.not_mem_of_not_mem_cons hx)]
      exact Function.update_noteq (List.ne_of_not_mem_cons hx) _ _

/-- `Retrieve` of distinct objects copies into each what the store holds under its key, up to the
first error, and leaves the store as it was. -/
theorem retrieve_refines_store (hs : Sound schema h) {ps : List Nat} (hnd : ps.Nodup) :
    (ps.map (h.retrieve schema ps).1.objects, (h.retrieve schema ps).2) =
        Store.retrieve schema.tables h.view (ps.map h.objects) ∧
      Sound schema (h.retrieve schema ps).1 ∧ (h.retrieve schema ps).1.view = h.view := by
  induction ps generalizing h with
  | nil => exact ⟨rfl, hs, rfl⟩
  | cons p ps ih =>
    obtain ⟨hp, hnd⟩ := List.nodup_cons.1 hnd
    have hv : h.view (h.objects p).key =
        (h.db.get (h.objects p).category "id" [(h.objects p).identifier.data]).map h.objects := rfl
    have hg := hs.consistent.scan_id (h.objects p).category (h.objects p).identifier
    simp only [List.map_cons]
    rw [Store.retrieve, Manipulator.retrieve, Schema.get_id_scan]
    by_cases ht : (h.objects p).category ∈ schema.tables
    · rw [if_pos ht, if_neg (not_not.2 ht), hv]
      cases hl : h.db.scan (h.objects p).category "id" (· == (h.objects p).identifier) with
      | nil =>
        rw [hl] at hg
        rw [← hg]
        exact ⟨rfl, hs, rfl⟩
      | cons q qs =>
        rw [hl] at hg
        rw [← hg]
        let h' : Manipulator := { h with objects := Function.update h.objects p (h.objects q) }
        -- a stored `p` is its own entry, so copying the stored object into it changes nothing
        have hobj : ∀ x ∈ h.db.ptrs, h'.objects x = h.objects x := fun x hx => by
          by_cases hxp : x = p
          · subst hxp
            obtain rfl : q = x := Option.some.inj (hg.trans (hs.consistent.get_ptr hx))
            exact congrFun (Function.update_eq_self _ _) _
          · exact Function.update_noteq hxp _ _
        have hview : h'.view = h.view := view_congr rfl hobj
        have hmap : ps.map h'.objects = ps.map h.objects := List.map_congr_left fun x hx =>
          Function.update_noteq (ne_of_mem_of_not_mem hx hp) _ _
        obtain ⟨ih₁, ih₂, ih₃⟩ := ih (h := h') (hs.congr rfl rfl hobj) hnd
        rw [hview, hmap] at ih₁
        dsimp only
        rw [← ih₁, retrieve_objects hp]
        refine ⟨?_, ih₂, ih₃.trans hview⟩
        simp only [List.head?_cons, Option.map_some', h', Function.update_same]
    · rw [if_neg ht, if_pos ht]
      exact ⟨rfl, hs, rfl⟩

theorem retrieve_refines_store_copy :
    let h := (runCalls lists (newMemoryManipulator fun p =>
      if p = 0 then ⟨"list", "", "x"⟩ else ⟨"list", uuidNewV4 0, ""⟩) [.create none [0]]).getD
        (newMemoryManipulator fun _ => ⟨"", "", ""⟩)
    Sound lists h ∧ [1, 0].Nodup ∧
      ([1, 0].map (h.retrieve lists [1, 0]).1.objects, (h.retrieve lists [1, 0]).2) =
          Store.retrieve lists.tables h.view ([1, 0].map h.objects) ∧
        Sound lists (h.retrieve lists [1, 0]).1 ∧ (h.retrieve lists [1, 0]).1.view = h.view := by
  intro h
  let h₀ := newMemoryManipulator fun p =>
    if p = 0 then ⟨"list", "", "x"⟩ else ⟨"list", uuidNewV4 0, ""⟩
  have hr : runCalls lists h₀ [.create none [0]] = some h := rfl
  have hs : Sound lists h := ⟨by decide, (runCalls_frame (show AllDone h₀ from fun _ => rfl) hr).1⟩
  have hnd : [1, 0].Nodup := by decide
  exact ⟨hs, hnd, retrieve_refines_store hs hnd⟩

/-- `RetrieveMany` with no filter lists, through the pointers, what it lists over values. -/
theorem retrieveMany_refines (hs : Sound schema h) (category : String) (dest : List Nat) :
    (h.retrieveMany schema none category dest).map (Except.map (·.map h.objects)) =
      h.abs.retrieveMany schema none category (dest.map h.objects) := by
  rw [Memory.Manipulator.retrieveMany_none]
  simp only [Manipulator.retrieveMany, Option.getD_none, newContext, Schema.get_id_all_scan]
  split_ifs
  · simp only [Option.map_some', Except.map, List.map_append, hs.consistent.scan_all]
    rfl
  · rfl

theorem retrieveMany_refines_two :
    let h := (runCalls lists
      (newMemoryManipulator fun p => ⟨"list", "", if p = 0 then "x" else "y"⟩)
      [.create none [1, 0]]).getD (newMemoryManipulator fun _ => ⟨"", "", ""⟩)
    Sound lists h ∧ (h.retrieveMany lists none "list" []).map (Except.map (·.map h.objects)) =
      h.abs.retrieveMany lists none "list" [] := by
  intro h
  let h₀ := newMemoryManipulator fun p => ⟨"list", "", if p = 0 then "x" else "y"⟩
  have hr : runCalls lists h₀ [.create none [1, 0]] = some h := by
    obtain ⟨v, hv⟩ := Option.isSome_iff_exists.1
      (show (runCalls lists h₀ [.create none [1, 0]]).isSome from by decide)
    show _ = some ((runCalls lists h₀ [.create none [1, 0]]).getD _)
    rw [hv]
    rfl
  have hs : Sound lists h := ⟨by decide, (runCalls_frame (show AllDone h₀ from fun _ => rfl) hr).1⟩
  exact ⟨hs, retrieveMany_refines hs "list" []⟩

end

end Manipulate.Memory.Heap
