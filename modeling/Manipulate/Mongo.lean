import Mathlib.Data.Finset.Card
import Mathlib.Data.String.Basic

/-!
# The mongo helpers (`manipmongo`)

The helpers of the mongo manipulator: the sort keys a query gets (`invertSortKey`,
`applyOrdering`), the fields a query selects (`makeFieldsSelector`), the classification of the
driver's errors (`handleQueryError`, `getErrorCode`, `isConnectionError`), the retry loop every
query runs in (`runQueryFunc`), and the mapping of consistency levels to the driver's.

The driver's errors are what `handleQueryError` tells apart: a `net.Error`, `mgo.ErrNotFound`,
`io.EOF`, the driver's typed errors with their codes, and any other error, each with the text its
`Error()` returns. `strings.ToLower` is `String.toLower`, which lowers ASCII letters only.
`runQueryFunc`'s loop reads, at each round, what `operationFunc` returns, what the retry function
it consults answers and whether the deadline has passed (`Round`); it returns the results and
the retry functions' calls.

* `invertSortKey_twice`: inverting a sort key twice gives it back, unless it starts with two
  dashes, when it loses them.
* `makeFieldsSelector_eq_none_iff`: no selector exactly when every field is empty; else the
  selector has the key of each non-empty field, at least one.
* `descending_id_not_renamed`: `-id` keeps the name `id`, which the selector calls `_id`.
* `lone_dash_empty_key`: the entry `-` gives a key that names no field.
* `applyOrdering_inverted`: the inverted ordering is the plain one with every key inverted
  (`strings.ToLower` keeps a leading dash and makes none, `toLower_eq_dash`).
* `runQueryFunc_stops_at_first`: the retry loop stops at the first round that does not retry,
  with what that round calls for, after one consultation per communication error before it.
-/

namespace Manipulate.Mongo

/-! ## Sort keys and selectors -/

/-- `strings.HasPrefix(s, pre)`. -/
def hasPrefix (s pre : String) : Bool := pre.toList.isPrefixOf s.toList

/-- `strings.HasSuffix(s, suf)`. -/
def hasSuffix (s suf : String) : Bool := suf.toList.isSuffixOf s.toList

/-- `strings.Contains(s, sub)`. -/
def containsStr (s sub : String) : Bool := s.toList.tails.any (sub.toList.isPrefixOf ·)

/-- `invertSortKey`: the key of the other direction when `revert` is set. -/
def invertSortKey (k : String) (revert : Bool) : String :=
  if !revert then k
  else if hasPrefix k "-" then k.drop 1
  else "-" ++ k

theorem dash_isPrefixOf {m : List Char} (h : m.head? ≠ some '-') (t : List Char) :
    ('-' :: t).isPrefixOf m = false := by
  cases m with
  | nil => rfl
  | cons c l =>
    simp only [List.isPrefixOf, beq_false_of_ne fun e : '-' = c => h (by subst e; rfl),
      Bool.false_and]

theorem head_dash {l : List Char} (h : l.head? = some '-') : ∃ m, l = '-' :: m := by
  cases l with
  | nil => cases h
  | cons c m => cases h; exact ⟨m, rfl⟩

theorem invertSortKey_dash {k : String} {l : List Char} (h : k.data = '-' :: l) :
    invertSortKey k true = ⟨l⟩ := by
  obtain ⟨m⟩ := k
  cases h
  simp [invertSortKey, hasPrefix, List.isPrefixOf, String.drop_eq]

theorem invertSortKey_plain {k : String} (h : k.data.head? ≠ some '-') :
    invertSortKey k true = ⟨'-' :: k.data⟩ := by
  simp only [invertSortKey, hasPrefix, String.toList, dash_isPrefixOf h]
  rfl

theorem invertSortKey_twice (k : String) :
    (invertSortKey (invertSortKey k true) true = k ↔ hasPrefix k "--" = false) ∧
      ∀ f : String, invertSortKey (invertSortKey ("--" ++ f) true) true = f := by
  refine ⟨?_, fun f => ?_⟩
  · obtain ⟨l⟩ := k
    by_cases h₁ : l.head? = some '-'
    · obtain ⟨m, rfl⟩ := head_dash h₁
      rw [invertSortKey_dash rfl]
      by_cases h₂ : m.head? = some '-'
      · obtain ⟨n, rfl⟩ := head_dash h₂
        have hn : (⟨n⟩ : String) ≠ ⟨'-' :: '-' :: n⟩ := fun h => by
          have := congrArg (List.length ∘ String.data) h
          simp at this; omega
        rw [invertSortKey_dash rfl]
        simp [hasPrefix, List.isPrefixOf, hn]
      · rw [invertSortKey_plain h₂]
        simp [hasPrefix, List.isPrefixOf, dash_isPrefixOf h₂]
    · rw [invertSortKey_plain h₁, invertSortKey_dash rfl]
      simp [hasPrefix, dash_isPrefixOf h₁]
  · rw [invertSortKey_dash (k := "--" ++ f) (l := '-' :: f.data) rfl, invertSortKey_dash rfl]

/-- The name both `applyOrdering` and `makeFieldsSelector` give the identifier field. -/
def idField (f : String) : String := if f = "ID" ∨ f = "id" then "_id" else f

def orderingKey (inverted : Bool) (f : String) : Option String :=
  if f = "" then none else some (invertSortKey (idField f) inverted).toLower

/-- `applyOrdering`: the keys of the non-empty fields of `order`, in order. -/
def applyOrdering (order : List String) (inverted : Bool) : List String :=
  order.filterMap (orderingKey inverted)

def selectorKey (f : String) : Option String :=
  if f = "" then none else some (idField f).toLower

/-- `makeFieldsSelector`: the keys of a `bson.M` selector, or `nil` when there are none. -/
def makeFieldsSelector (fields : List String) : Option (Finset String) :=
  if fields.length = 0 then none
  else
    let sels := (fields.filterMap selectorKey).toFinset
    if sels.card = 0 then none else some sels

theorem selectorKey_eq_none {f : String} : selectorKey f = none ↔ f = "" := by
  unfold selectorKey; split_ifs with h <;> simp [h]

theorem makeFieldsSelector_eq_none_iff (fields : List String) :
    (makeFieldsSelector fields = none ↔ ∀ f ∈ fields, f = "") ∧
      ∀ s, makeFieldsSelector fields = some s →
        s = (fields.filterMap selectorKey).toFinset ∧ s.Nonempty := by
  have hsels : (fields.filterMap selectorKey).toFinset.card = 0 ↔ ∀ f ∈ fields, f = "" := by
    simp [List.filterMap_eq_nil_iff, selectorKey_eq_none]
  unfold makeFieldsSelector; dsimp only
  split_ifs with h₀ h₁
  · exact ⟨iff_of_true rfl (by simp [List.length_eq_zero.1 h₀]), nofun⟩
  · exact ⟨iff_of_true rfl (hsels.1 h₁), nofun⟩
  · refine ⟨iff_of_false (by simp) (mt hsels.2 h₁), fun s hs => ?_⟩
    cases hs
    exact ⟨rfl, Finset.card_pos.1 (Nat.pos_of_ne_zero h₁)⟩

theorem toLower_eq_map (s : String) : s.toLower = ⟨s.data.map Char.toLower⟩ := String.map_eq _ s

/-- The descending entry `-id` keeps the name `id`, where `makeFieldsSelector` names the field
`_id`. -/
theorem descending_id_not_renamed :
    applyOrdering ["id"] false = ["_id"] ∧ applyOrdering ["-id"] false = ["-id"] ∧
      applyOrdering ["-id"] true = ["id"] ∧ selectorKey "id" = some "_id" := by
  simp only [applyOrdering, List.filterMap_cons, List.filterMap_nil, orderingKey, selectorKey,
    idField, toLower_eq_map]
  decide

/-- The entry `-` is kept and names no field: its key is `-`, or the empty key when `inverted` is
set. -/
theorem lone_dash_empty_key :
    applyOrdering ["-"] true = [""] ∧ applyOrdering ["-"] false = ["-"] := by
  simp only [applyOrdering, List.filterMap_cons, List.filterMap_nil, orderingKey, idField,
    toLower_eq_map]
  decide

theorem toLower_eq_dash (c : Char) : c.toLower = '-' ↔ c = '-' := by
  refine ⟨fun h => ?_, fun h => by subst h; decide⟩
  unfold Char.toLower at h
  dsimp only at h
  split_ifs at h with hu
  · have hl : ∀ n < 26, Char.ofNat (n + 97) ≠ '-' := by decide
    exact absurd (show c.toNat + 32 = c.toNat - 65 + 97 by omega ▸ h) (hl _ (by omega))
  · exact h

theorem invertSortKey_toLower (k : String) :
    invertSortKey k.toLower true = (invertSortKey k true).toLower := by
  obtain ⟨l⟩ := k
  have hdash : '-'.toLower = '-' := by decide
  simp only [toLower_eq_map]
  cases l with
  | nil => rfl
  | cons c l =>
    by_cases hc : c = '-'
    · subst hc
      simp only [List.map_cons, hdash]
      rw [invertSortKey_dash rfl, invertSortKey_dash rfl]
    · have hc' : c.toLower ≠ '-' := mt (toLower_eq_dash c).1 hc
      rw [invertSortKey_plain (by simpa using hc'), invertSortKey_plain (by simpa using hc)]
      rfl

theorem orderingKey_inverted (f : String) :
    orderingKey true f = (orderingKey false f).map (invertSortKey · true) := by
  unfold orderingKey
  split_ifs
  · rfl
  · simp only [Option.map_some', invertSortKey_toLower]
    rfl

theorem applyOrdering_inverted (order : List String) :
    applyOrdering order true = (applyOrdering order false).map (invertSortKey · true) := by
  rw [applyOrdering, applyOrdering, List.map_filterMap]
  exact congrArg (List.filterMap · order) (funext orderingKey_inverted)

/-! ## The driver's errors -/

/-- An error of the mongo driver, as `handleQueryError` tells them apart: a `net.Error`,
`mgo.ErrNotFound`, `io.EOF`, a `*mgo.QueryError`, `*mgo.LastError` or `*mgo.BulkError`, or another
error. -/
inductive DriverError where
  | net (msg : String)
  | notFound
  | eof
  | query (code : Int) (msg : String)
  | last (code : Int) (msg : String)
  | bulk (cases : List DriverError) (msg : String)
  | other (msg : String)

/-- `err.Error()`. -/
def DriverError.error : DriverError → String
  | .net msg | .query _ msg | .last _ msg | .bulk _ msg | .other msg => msg
  | .notFound => "not found"
  | .eof => "EOF"

/-- `getErrorCode`: the code of a typed error, the first case's for a bulk error, else 0. -/
def getErrorCode : DriverError → Int
  | .query code _ | .last code _ => code
  | .bulk (c :: _) _ => getErrorCode c
  | _ => 0

mutual
/-- `mgo.IsDup`: a duplicate key error; a bulk error whose every case is one. -/
def isDup : DriverError → Bool
  | .last code msg =>
    code == 11000 || code == 11001 || code == 12582 || code == 16460 && containsStr msg " E11000 "
  | .query code _ => code == 11000 || code == 11001 || code == 12582
  | .bulk cases _ => allDup cases
  | _ => false

def allDup : List DriverError → Bool
  | [] => true
  | e :: es => isDup e && allDup es
end

def errLostConnection : String := "lost connection to server"
def errNoReachableServers : String := "no reachable servers"
def errReplTimeoutPrefix : String := "waiting for replication timed out"
def errCouldNotContactPrimaryPrefix : String := "could not contact primary for replica set"
def errWriteResultsUnavailable : String := "write results unavailable from"
def errCouldNotFindPrimaryPrefix : String :=
  "could not find host matching read preference \x7b mode: \"primary\""
def errUnableToTargetPrefix : String := "unable to target"
def errNotMaster : String := "not master"
def errConnectionRefusedSuffix : String := "connection refused"

/-- `isConnectionError`: the lowered message is one the driver gives when it lost the server. -/
def isConnectionError : Option DriverError → Bool
  | none => false
  | some err =>
    let lowerCaseError := err.error.toLower
    lowerCaseError == errNoReachableServers ||
      (match err with
        | .eof => true
        | _ => false) ||
      containsStr lowerCaseError errLostConnection ||
      containsStr lowerCaseError errReplTimeoutPrefix ||
      containsStr lowerCaseError errCouldNotContactPrimaryPrefix ||
      containsStr lowerCaseError errWriteResultsUnavailable ||
      containsStr lowerCaseError errCouldNotFindPrimaryPrefix ||
      containsStr lowerCaseError errUnableToTargetPrefix ||
      lowerCaseError == errNotMaster ||
      hasSuffix lowerCaseError errConnectionRefusedSuffix

/-- The server's error codes that mean it cannot be reached now. -/
def communicationErrorCodes : List Int :=
  [6, 7, 71, 74, 91, 109, 189, 202, 216, 262, 10107, 13436, 13435, 11600, 11602]

/-- The errors of `manipulate` the helpers return (`manipulate.NewErr…`), and an error of
another package, returned as it is. -/
inductive ManipError where
  | cannotCommunicate (msg : String)
  | objectNotFound (msg : String)
  | constraintViolation (msg : String)
  | cannotExecuteQuery (msg : String)
  | other (msg : String)
  deriving DecidableEq, Repr

/-- `manipulate.IsCannotCommunicateError`. -/
def ManipError.isCannotCommunicate : ManipError → Bool
  | .cannotCommunicate _ => true
  | _ => false

/-- `handleQueryError`: the driver's error as a `manipulate` error. -/
def handleQueryError (err : DriverError) : ManipError :=
  match err with
  | .net msg => .cannotCommunicate msg
  | .notFound => .objectNotFound "cannot find the object for the given ID"
  | _ =>
    if isDup err then .constraintViolation "duplicate key."
    else if isConnectionError (some err) then .cannotCommunicate err.error
    else if getErrorCode err ∈ communicationErrorCodes then .cannotCommunicate err.error
    else .cannotExecuteQuery err.error

/-! ## The retry loop -/

/-- What a retry function is given (`RetryInfo`). -/
structure RetryInfo where
  operation : String
  identity : String
  «try» : Nat
  err : ManipError
  deriving DecidableEq, Repr

/-- Which retry function `runQueryFunc` consults: the context's (`mctx.RetryFunc()`) or the
manipulator's default one. -/
inductive RetryFunc where
  | context
  | default
  deriving DecidableEq, Repr

/-- What one round of `runQueryFunc`'s loop meets: what `operationFunc()` returns, what the retry
function consulted returns (`none`: retry), and whether the context's deadline has passed. -/
structure Round (α : Type) where
  out : Option α
  err : Option DriverError
  retry : Option ManipError
  deadlinePassed : Bool

/-- What `runQueryFunc` returns, and the calls it made to retry functions. -/
structure QueryRun (α : Type) where
  out : Option α
  err : Option ManipError
  retries : List (RetryFunc × RetryInfo)

section
variable {α : Type}

/-- The context's retry function when it has one, else the default one when it is set. -/
def consulted (hasContextRetry hasDefaultRetry : Bool) : Option RetryFunc :=
  if hasContextRetry then some .context else if hasDefaultRetry then some .default else none

/-- `runQueryFunc`'s loop from round `try` on; `none` when the rounds run out. -/
def runQueryFunc.loop (hasContextRetry hasDefaultRetry : Bool) (operation identity : String) :
    Nat → List (Round α) → Option (QueryRun α)
  | _, [] => none
  | «try», r :: rs =>
    match r.err with
    | none => some ⟨r.out, none, []⟩
    | some e =>
      let err := handleQueryError e
      if !err.isCannotCommunicate then some ⟨r.out, some err, []⟩
      else
        let info : RetryInfo := ⟨operation, identity, «try», err⟩
        let calls := ((consulted hasContextRetry hasDefaultRetry).map (·, info)).toList
        match consulted hasContextRetry hasDefaultRetry, r.retry with
        | some _, some rerr => some ⟨none, some rerr, calls⟩
        | _, _ =>
          if r.deadlinePassed then
            some ⟨none, some (.cannotExecuteQuery "context deadline exceeded"), calls⟩
          else
            (runQueryFunc.loop hasContextRetry hasDefaultRetry operation identity («try» + 1)
              rs).map fun q => { q with retries := calls ++ q.retries }

/-- `runQueryFunc`: `operationFunc` until it succeeds, fails in a way that is not a
communication error, a retry function refuses, or the deadline passes. -/
def runQueryFunc (hasContextRetry hasDefaultRetry : Bool) (operation identity : String)
    (rounds : List (Round α)) : Option (QueryRun α) :=
  runQueryFunc.loop hasContextRetry hasDefaultRetry operation identity 0 rounds

/-- A round `runQueryFunc` goes past: a communication error no retry function refuses, before the
deadline. -/
def Round.retried (hasContextRetry hasDefaultRetry : Bool) (r : Round α) : Prop :=
  ∃ e, r.err = some e ∧ (handleQueryError e).isCannotCommunicate = true ∧
    ((consulted hasContextRetry hasDefaultRetry).isNone ∨ r.retry = none) ∧
    r.deadlinePassed = false

def consultations (f : Option RetryFunc) (operation identity : String) :
    Nat → List ManipError → List (RetryFunc × RetryInfo)
  | _, [] => []
  | k, e :: es =>
    (f.map (·, ⟨operation, identity, k, e⟩)).toList ++ consultations f operation identity (k + 1) es

theorem loop_retried {hc hd : Bool} {operation identity : String} {pre : List (Round α)}
    (hpre : ∀ p ∈ pre, p.retried hc hd) (k : Nat) (rs : List (Round α)) :
    let calls := consultations (consulted hc hd) operation identity k
      (pre.filterMap fun p => p.err.map handleQueryError)
    runQueryFunc.loop hc hd operation identity k (pre ++ rs) =
      (runQueryFunc.loop hc hd operation identity (k + pre.length) rs).map fun q =>
        { q with retries := calls ++ q.retries } := by
  induction pre generalizing k with
  | nil => simp [consultations]
  | cons p pre ih =>
    obtain ⟨e, he, hcomm, hretry, hdl⟩ := hpre p (.head _)
    rw [List.cons_append, runQueryFunc.loop, he]
    simp only [hcomm, Bool.not_true, Bool.false_eq_true, if_false]
    split
    · rename_i hf hr
      rcases hretry with h | h <;> simp [hf, hr] at h
    · simp only [hdl, Bool.false_eq_true, if_false, ih (fun q hq => hpre q (.tail _ hq)),
        Option.map_map, List.filterMap_cons, he, Option.map_some', consultations,
        List.length_cons, Nat.add_right_comm k 1, ← Nat.add_assoc, Function.comp_def,
        List.append_assoc]

/-- `runQueryFunc` stops at the first round that does not retry, having consulted the one retry
function there is at every round before it. -/
theorem runQueryFunc_stops_at_first (hc hd : Bool) (operation identity : String)
    {pre : List (Round α)} (hpre : ∀ p ∈ pre, p.retried hc hd) (r : Round α)
    (post : List (Round α)) :
    let calls := consultations (consulted hc hd) operation identity 0
      (pre.filterMap fun p => p.err.map handleQueryError)
    let run := runQueryFunc hc hd operation identity (pre ++ r :: post)
    (r.err = none → run = some ⟨r.out, none, calls⟩) ∧
      (∀ e, r.err = some e → (handleQueryError e).isCannotCommunicate = false →
        run = some ⟨r.out, some (handleQueryError e), calls⟩) ∧
      (∀ e f rerr, r.err = some e → (handleQueryError e).isCannotCommunicate = true →
        consulted hc hd = some f → r.retry = some rerr →
        run = some ⟨none, some rerr,
          calls ++ [(f, ⟨operation, identity, pre.length, handleQueryError e⟩)]⟩) ∧
      (∀ e, r.err = some e → (handleQueryError e).isCannotCommunicate = true →
        ((consulted hc hd).isNone ∨ r.retry = none) → r.deadlinePassed = true →
        run = some ⟨none, some (.cannotExecuteQuery "context deadline exceeded"),
          calls ++ ((consulted hc hd).map (·, ⟨operation, identity, pre.length,
            handleQueryError e⟩)).toList⟩) := by
  intro calls run
  have hrun : run = (runQueryFunc.loop hc hd operation identity pre.length (r :: post)).map
      fun q => { q with retries := calls ++ q.retries } := by
    simpa only [Nat.zero_add] using loop_retried hpre 0 (r :: post)
  refine ⟨fun h => ?_, fun e h hcomm => ?_, fun e f rerr h hcomm hf hr => ?_,
    fun e h hcomm hretry hdl => ?_⟩ <;> rw [hrun, runQueryFunc.loop, h]
  · simp
  · simp [hcomm]
  · simp [hcomm, hf, hr]
  · simp only [hcomm, Bool.not_true, Bool.false_eq_true, if_false]
    split
    · rename_i hf' hr'
      rcases hretry with h' | h' <;> simp [hf', hr'] at h'
    · simp [hdl]

end

theorem runQueryFunc_stops_at_first_retry :
    (⟨none, some (.net "i/o timeout"), none, false⟩ : Round Nat).retried true false ∧
      runQueryFunc true false "retrieve" "list"
          [⟨none, some (.net "i/o timeout"), none, false⟩, ⟨some 7, none, none, false⟩] =
        some ⟨some 7, none,
          [(.context, ⟨"retrieve", "list", 0, .cannotCommunicate "i/o timeout"⟩)]⟩ :=
  ⟨⟨_, rfl, rfl, .inr rfl, rfl⟩,
    (@runQueryFunc_stops_at_first Nat true false "retrieve" "list"
      [⟨none, some (.net "i/o timeout"), none, false⟩]
      (by simp only [List.mem_singleton]; rintro _ rfl; exact ⟨_, rfl, rfl, .inr rfl, rfl⟩)
      ⟨some 7, none, none, false⟩ []).1 rfl⟩

/-! ## Consistency levels -/

/-- `manipulate.ReadConsistency`. -/
inductive ReadConsistency where
  | default | eventual | monotonic | nearest | strong | weakest
  deriving DecidableEq, Repr

/-- `convertReadConsistency`: the driver's `mgo.Mode` (`Eventual` 0, `Monotonic` 1, `Strong` 2,
`Nearest` 6), `-1` for the others. -/
def convertReadConsistency : ReadConsistency → Int
  | .eventual => 0
  | .monotonic => 1
  | .nearest => 6
  | .strong => 2
  | _ => -1

/-- `manipulate.WriteConsistency`. -/
inductive WriteConsistency where
  | default | none | strong | strongest
  deriving DecidableEq, Repr

structure Safe where
  wMode : String
  j : Bool
  deriving DecidableEq, Repr

/-- `convertWriteConsistency`: `nil` for none, else the driver's write concern. -/
def convertWriteConsistency : WriteConsistency → Option Safe
  | .none => none
  | .strong => some ⟨"majority", false⟩
  | .strongest => some ⟨"majority", true⟩
  | _ => some ⟨"", false⟩

end Manipulate.Mongo
