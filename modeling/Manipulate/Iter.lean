import Mathlib.Data.List.Basic

/-!
# Paginated iteration (`iter.go`)

`iterFunc` is `IterFunc`: it asks the manipulator's `RetrieveMany` for pages `1, 2, …` of
`blockSize` objects (`iterDefaultBlockSize` when `blockSize ≤ 0`, `effectiveBlockSize`), hands
every non-empty block to the callback and stops at the first empty block or the first error.
`iter` is `Iter`, whose callback appends each block to the template. The loop runs on fuel; a
run (`IterRun`) records what `IterFunc` returns, the callback's captured state and the contexts
of the `RetrieveMany` calls made.

* `loop_paged`: over a backend that serves a list `L` by pages of `s` (`ServesPages`), the loop
  entered after `k` full pages with the first `k * s` elements in hand returns `L` after
  `n - k + 1` more calls, `n = ⌈|L| / s⌉`.
* `iter_returns_all`: hence `Iter` with an empty template returns `L` after `n + 1` calls, for
  any fuel above that.
* `loop_continued`, `iterFunc_stops_at_first`: over any backend and any callback, `IterFunc`
  goes through the pages whose blocks are non-empty and that the callback takes, and stops at
  the first other page, with `nil` exactly when that page is empty.
-/

namespace Manipulate

/-- `manipulate.Context`, modelled from the spec (the type is not in the source): only the
pagination `IterFunc` sets. -/
structure Context where
  page : Nat
  pageSize : Int
  deriving DecidableEq, Repr

/-- Modelled from the spec: `NewContext`, a context with no option set. -/
def newContext : Context := ⟨0, 0⟩

/-- `mctx.Derive(ContextOptionPage(page, pageSize))`: a copy with the pagination replaced. -/
def Context.derivePage (c : Context) (page : Nat) (pageSize : Int) : Context :=
  { c with page := page, pageSize := pageSize }

def iterDefaultBlockSize : Int := 10000

/-- The block size `IterFunc` uses: `blockSize`, or the default when `blockSize ≤ 0`. -/
def effectiveBlockSize (blockSize : Int) : Int :=
  if blockSize ≤ 0 then iterDefaultBlockSize else blockSize

/-- A run of `IterFunc`'s loop: the error it returns (`none` is `nil`), the callback's captured
state, and the contexts of the `RetrieveMany` calls, in order. -/
structure IterRun (σ : Type) where
  err : Option String
  captured : σ
  calls : List Context

section
variable {α σ : Type}

/-- The loop of `IterFunc` after `page` pages, with `fuel` more iterations; `retrieveMany` is the
manipulator's `RetrieveMany` on a copy of the template. -/
def iterFunc.loop (retrieveMany : Context → List α → Except String (List α))
    (iteratorFunc : List α → σ → σ × Option String) (template : List α) (mctx : Context)
    (blockSize : Int) : Nat → Nat → σ → Option (IterRun σ)
  | 0, _, _ => none
  | fuel + 1, page, st =>
    let page := page + 1
    let c := mctx.derivePage page blockSize
    let rest : Option (IterRun σ) :=
      match retrieveMany c template with
      | .error e =>
        some (.mk (some ("unable to retrieve objects for page " ++ toString page ++ ": " ++ e))
          st [])
      | .ok objects =>
        if objects.length = 0 then some (.mk none st [])
        else
          match iteratorFunc objects st with
          | (st', some e) =>
            some (.mk (some ("iter function returned an error on page " ++ toString page ++
              ": " ++ e)) st' [])
          | (st', none) =>
            iterFunc.loop retrieveMany iteratorFunc template mctx blockSize fuel page st'
    rest.map fun r => { r with calls := c :: r.calls }

/-- `IterFunc` with `fuel` iterations; `init` is the state the callback starts from. -/
def iterFunc (fuel : Nat) (retrieveMany : Context → List α → Except String (List α))
    (template : List α) (mctx : Option Context) (iteratorFunc : List α → σ → σ × Option String)
    (blockSize : Int) (init : σ) : Option (IterRun σ) :=
  iterFunc.loop retrieveMany iteratorFunc template (mctx.getD newContext)
    (effectiveBlockSize blockSize) fuel 0 init

def appendBlock (block : List α) (acc : List α) : List α × Option String := (acc ++ block, none)

/-- `Iter`: the run of `IterFunc` whose callback appends every block to the template. -/
def iter (fuel : Nat) (retrieveMany : Context → List α → Except String (List α))
    (mctx : Option Context) (template : List α) (blockSize : Int) : Option (IterRun (List α)) :=
  iterFunc fuel retrieveMany template mctx appendBlock blockSize template

def IterRun.result (r : IterRun (List α)) : Except String (List α) :=
  match r.err with
  | none => .ok r.captured
  | some e => .error e

theorem effectiveBlockSize_pos (blockSize : Int) : 0 < effectiveBlockSize blockSize := by
  unfold effectiveBlockSize iterDefaultBlockSize; split <;> omega

/-- `retrieveMany` serves `L` by pages of `s`: page `p ≥ 1` holds the elements of `L` from
`(p - 1) * s` to `p * s`. -/
def ServesPages (retrieveMany : Context → List α → Except String (List α)) (L : List α)
    (s : Nat) : Prop :=
  ∀ p, 1 ≤ p → retrieveMany ⟨p, s⟩ [] = .ok ((L.drop ((p - 1) * s)).take s)

theorem lt_ceil_iff {k m s : Nat} (hs : 0 < s) : k < (m + s - 1) / s ↔ k * s < m := by
  rw [← Nat.add_one_le_iff, Nat.le_div_iff_mul_le hs, Nat.succ_mul]
  omega

theorem ceil_mul_ge {m s : Nat} (hs : 0 < s) : m ≤ (m + s - 1) / s * s := by
  have := Nat.lt_div_mul_add (a := m + s - 1) hs
  omega

theorem loop_paged {retrieveMany : Context → List α → Except String (List α)} {L : List α}
    {s : Nat} (hs : 0 < s) (h : ServesPages retrieveMany L s) (mctx : Context) :
    ∀ fuel k, k ≤ (L.length + s - 1) / s → (L.length + s - 1) / s - k + 1 ≤ fuel →
      ∃ r, iterFunc.loop retrieveMany appendBlock [] mctx s fuel k (L.take (k * s)) = some r ∧
        r.err = none ∧ r.captured = L ∧ r.calls.length = (L.length + s - 1) / s - k + 1
  | 0, _, _, hf => by omega
  | fuel + 1, k, hk, hf => by
    have hpage := h (k + 1) (by omega)
    simp only [Nat.add_sub_cancel] at hpage
    simp only [iterFunc.loop, Context.derivePage, hpage, List.length_take, List.length_drop]
    rcases Nat.lt_or_ge k ((L.length + s - 1) / s) with hlt | hge
    · have hks := (lt_ceil_iff hs).1 hlt
      rw [if_neg (by omega)]
      obtain ⟨r, hr, herr, hcap, hlen⟩ := loop_paged hs h mctx fuel (k + 1) hlt (by omega)
      have hL : L.take (k * s) ++ (L.drop (k * s)).take s = L.take ((k + 1) * s) := by
        rw [Nat.succ_mul, List.take_add]
      simp only [appendBlock, hL, hr, Option.map_some']
      exact ⟨_, rfl, herr, hcap, by simp only [List.length_cons, hlen]; omega⟩
    · have hle : L.length ≤ k * s :=
        (ceil_mul_ge hs).trans (Nat.mul_le_mul_right s (by omega))
      rw [if_pos (by omega)]
      exact ⟨_, rfl, rfl, List.take_of_length_le hle, by simp; omega⟩

theorem iter_returns_all (L : List α) (blockSize : Int) (mctx : Option Context)
    (retrieveMany : Context → List α → Except String (List α))
    (h : ServesPages retrieveMany L (effectiveBlockSize blockSize).toNat) (fuel : Nat)
    (hf : (L.length + (effectiveBlockSize blockSize).toNat - 1) /
      (effectiveBlockSize blockSize).toNat + 1 ≤ fuel) :
    ∃ r, iter fuel retrieveMany mctx [] blockSize = some r ∧ r.result = .ok L ∧
      r.calls.length = (L.length + (effectiveBlockSize blockSize).toNat - 1) /
        (effectiveBlockSize blockSize).toNat + 1 := by
  have hpos := effectiveBlockSize_pos blockSize
  have hs : 0 < (effectiveBlockSize blockSize).toNat := by omega
  have hcast : ((effectiveBlockSize blockSize).toNat : Int) = effectiveBlockSize blockSize :=
    Int.toNat_of_nonneg (by omega)
  obtain ⟨r, hr, herr, hcap, hlen⟩ :=
    loop_paged hs h (mctx.getD newContext) fuel 0 (Nat.zero_le _) (by rwa [Nat.sub_zero])
  rw [hcast, Nat.zero_mul, List.take_zero] at hr
  exact ⟨r, hr, by simp [IterRun.result, herr, hcap], by rw [hlen, Nat.sub_zero]⟩

theorem iter_returns_all_three :
    ∃ r, iter 3 (fun c _ => .ok (([1, 2, 3].drop ((c.page - 1) * c.pageSize.toNat)).take
      c.pageSize.toNat)) none [] 2 = some r ∧ r.result = .ok [1, 2, 3] ∧ r.calls.length = 3 :=
  iter_returns_all [1, 2, 3] 2 none _ (fun _ _ => rfl) 3 (by decide)

/-! ## Where the loop stops -/

def callbackOk (iteratorFunc : List α → σ → σ × Option String) (st : σ) (block : List α) :
    Option σ :=
  match iteratorFunc block st with
  | (st', none) => some st'
  | (_, some _) => none

theorem loop_continued {retrieveMany : Context → List α → Except String (List α)}
    {iteratorFunc : List α → σ → σ × Option String} {template : List α} {mctx : Context}
    {blockSize : Int} {blocks : List (List α)} {p : Nat}
    (hpages : ∀ i (hi : i < blocks.length),
      retrieveMany (mctx.derivePage (p + i + 1) blockSize) template = .ok blocks[i])
    (hne : ∀ b ∈ blocks, b ≠ []) {init st : σ}
    (hcb : blocks.foldlM (callbackOk iteratorFunc) init = some st) (n : Nat) :
    iterFunc.loop retrieveMany iteratorFunc template mctx blockSize (n + blocks.length) p init =
      (iterFunc.loop retrieveMany iteratorFunc template mctx blockSize n (p + blocks.length)
        st).map fun r => { r with calls :=
          (List.range blocks.length).map (fun i => mctx.derivePage (p + i + 1) blockSize) ++
            r.calls } := by
  induction blocks generalizing p init with
  | nil => cases hcb; simp
  | cons b bs ih =>
    simp only [List.foldlM_cons, Option.bind_eq_bind, Option.bind_eq_some] at hcb
    obtain ⟨st₁, h₁, h₂⟩ := hcb
    have hb := hpages 0 (Nat.zero_lt_succ _)
    have hb' : b.length ≠ 0 := fun h => hne b (.head _) (List.eq_nil_of_length_eq_zero h)
    have hcall : iteratorFunc b init = (st₁, none) := by
      unfold callbackOk at h₁; split at h₁ <;> cases h₁; assumption
    have hpages' : ∀ i (hi : i < bs.length),
        retrieveMany (mctx.derivePage (p + 1 + i + 1) blockSize) template = .ok bs[i] :=
      fun i hi => by
        simpa [Nat.add_right_comm _ 1, Nat.add_assoc] using hpages (i + 1) (by simpa using hi)
    have ih' := ih hpages' (fun b hb => hne b (.tail _ hb)) h₂
    rw [List.length_cons, ← Nat.add_assoc, iterFunc.loop]
    simp only [Nat.add_zero, List.getElem_cons_zero] at hb
    simp only [hb, hb', if_false, hcall, ih', Option.map_map]
    rw [show p + (bs.length + 1) = p + 1 + bs.length by omega, List.range_succ_eq_map]
    simp only [Function.comp_def, List.map_cons, List.map_map, List.cons_append, Nat.add_zero,
      Nat.succ_eq_add_one, Nat.add_right_comm p 1, ← Nat.add_assoc]

/-- `IterFunc` stops at the first page that fails, is empty, or whose block the callback rejects,
and returns `nil` exactly when that page is empty. -/
theorem iterFunc_stops_at_first (retrieveMany : Context → List α → Except String (List α))
    (template : List α) (mctx : Option Context) (iteratorFunc : List α → σ → σ × Option String)
    (blockSize : Int) (init : σ) (blocks : List (List α)) (st : σ)
    (hpages : ∀ i (hi : i < blocks.length), retrieveMany ((mctx.getD newContext).derivePage
      (i + 1) (effectiveBlockSize blockSize)) template = .ok blocks[i])
    (hne : ∀ b ∈ blocks, b ≠ []) (hcb : blocks.foldlM (callbackOk iteratorFunc) init = some st)
    (fuel : Nat) (hfuel : blocks.length < fuel) :
    let k := blocks.length + 1
    let c := (mctx.getD newContext).derivePage k (effectiveBlockSize blockSize)
    let calls := (List.range k).map fun i =>
      (mctx.getD newContext).derivePage (i + 1) (effectiveBlockSize blockSize)
    let run := iterFunc fuel retrieveMany template mctx iteratorFunc blockSize init
    (∀ e, retrieveMany c template = .error e →
        run = some ⟨some ("unable to retrieve objects for page " ++ toString k ++ ": " ++ e), st,
          calls⟩) ∧
      (retrieveMany c template = .ok [] → run = some ⟨none, st, calls⟩) ∧
      (∀ b st' e, retrieveMany c template = .ok b → b ≠ [] → iteratorFunc b st = (st', some e) →
        run = some ⟨some ("iter function returned an error on page " ++ toString k ++ ": " ++ e),
          st', calls⟩) := by
  intro k c calls run
  obtain ⟨n, rfl⟩ := Nat.exists_eq_add_of_lt hfuel
  have hrun : run = (iterFunc.loop retrieveMany iteratorFunc template (mctx.getD newContext)
      (effectiveBlockSize blockSize) (n + 1) blocks.length st).map fun r =>
        { r with calls := (List.range blocks.length).map (fun i =>
          (mctx.getD newContext).derivePage (i + 1) (effectiveBlockSize blockSize)) ++
            r.calls } := by
    have := @loop_continued α σ retrieveMany iteratorFunc template (mctx.getD newContext)
      (effectiveBlockSize blockSize) blocks 0 (by simpa using hpages) hne init st hcb (n + 1)
    rw [show n + 1 + blocks.length = blocks.length + n + 1 by omega] at this
    simpa only [Nat.zero_add] using this
  have hcalls : calls = (List.range blocks.length).map (fun i =>
      (mctx.getD newContext).derivePage (i + 1) (effectiveBlockSize blockSize)) ++ [c] := by
    simp [calls, c, k, List.range_succ]
  refine ⟨fun e he => ?_, fun he => ?_, fun b st' e he hb hcall => ?_⟩ <;>
    simp only [c, k] at he <;> rw [hrun, iterFunc.loop, he, hcalls]
  · simp [c, k]
  · simp [c, k]
  · simp [c, k, hcall, List.length_eq_zero, hb]

theorem iterFunc_stops_at_first_two_pages :
    iterFunc 2 (fun c _ => if c.page = 1 then .ok [1, 2] else .ok []) [] none appendBlock 2 [] =
      some ⟨none, [1, 2], [⟨1, 2⟩, ⟨2, 2⟩]⟩ :=
  (iterFunc_stops_at_first (fun c _ => if c.page = 1 then .ok [1, 2] else .ok []) [] none
    appendBlock 2 [] [[1, 2]] [1, 2]
    (fun i hi => by
      obtain rfl : i = 0 := by simpa using hi
      rfl)
    (by simp) rfl 2 (by decide)).2.1 rfl

end

end Manipulate
