import Manipulate.Websocket.Registry

/-!
# The object methods of the websocket manipulator (`Retrieve`, `Create`, `Update`, `Delete`)

Each of the four methods loops over its objects: it builds a request with the manipulator's
namespace and username and the current password, has `populateRequestFromContext` fill it from
the context, encodes the object into it, calls `send`, and decodes the response into the object;
it returns the first error, or nil. `Create` alone sets no object ID. `populateRequestFromContext`
is not in the repository, and encoding and decoding are `elemental`'s: what they and the server
do with one object's request is data beside the object (`Exchange`), and so is the password read
for it, which `renewMidgardToken` may change between two objects.

`RetrieveMany` and `Count` build one request for an identity the same way, with no object ID
and no encoding (`Query`); `DeleteMany`, `Assign` and `Increment` only return a not-implemented
error.

A call of `send` returns in one of four ways (`Delivery`): no socket, a failed write, the
response through `sendResult`, or the timeout.

* `send_returns_delivery`: in every run of the manipulator, a call of `send` that has returned
  returned what one of the four ways gives, and a response it returned from is one `listen` read
  in the run and handed to it, with its request ID (`HistInv`, `Handed`).
* `operate_stops_at_first`: the requests of the objects before the first failing one are
  written in order, that object's too when it got as far as `websocket.JSON.Send`, nothing
  after it, and its error is returned (`operate_passed`).
* `operate_ok_iff`: the methods return nil exactly when every object's response arrived with a
  status code in `[200, 300]` and decodes, and then every request was written
  (`Exchange.error_eq_none_iff`, `Delivery.result_ok_iff`).
* `status_300_accepted`: a response with status code 300 that decodes lets each method return
  nil.
-/

namespace Manipulate.Websocket

/-! ## One object's round -/

/-- `elemental.Operation`, for the four methods. -/
inductive Operation where
  | retrieve
  | create
  | update
  | delete
  deriving DecidableEq, Repr

/-- A `manipulate.Manipulable`: what a request reads of it. -/
structure Object where
  identity : String
  identifier : String
  deriving DecidableEq, Repr

/-- The fields of an `elemental.Request` the methods set. -/
structure Request where
  «namespace» : String
  operation : Operation
  identity : String
  username : String
  password : String
  objectID : String
  deriving DecidableEq, Repr

/-- How a call of `send` returned: `s.ws` was nil, `websocket.JSON.Send` failed, the response
arrived on the request's channel, or the 30 s timer fired. -/
inductive Delivery where
  | notInitialized
  | writeFailed (msg : String)
  | answered (r : Response)
  | timedOut
  deriving DecidableEq, Repr

/-- What `send` returns. -/
def Delivery.result : Delivery → Except ManipError Response
  | .notInitialized => .error (.cannotCommunicate "Websocket not initialized")
  | .writeFailed msg => .error (.cannotCommunicate msg)
  | .answered r => sendResult r
  | .timedOut => .error (.cannotCommunicate "Request timeout")

/-- What happens to one object's request outside the method: the password read, the errors of
`populateRequestFromContext` and `req.Encode`, how `send` returned, and `resp.Decode`'s error. -/
structure Exchange where
  password : String
  populate : Option ManipError
  encode : Option String
  delivery : Delivery
  decode : Option String
  deriving DecidableEq, Repr

/-- The error an object's round ends the loop with, checked in the methods' order. -/
def Exchange.error (x : Exchange) : Option ManipError :=
  match x.populate, x.encode, x.delivery.result with
  | some e, _, _ => some e
  | none, some msg, _ => some (.cannotMarshal msg)
  | none, none, .error e => some e
  | none, none, .ok _ => x.decode.map .cannotUnmarshal

def Exchange.written (x : Exchange) : Bool :=
  x.populate.isNone && x.encode.isNone && x.delivery != .notInitialized

/-! ## The four methods -/

/-- The loop of the four methods over the objects: the requests written on the socket, in order,
and the error returned (`none` for nil). -/
def operate (build : String → Object → Request) :
    List (Object × Exchange) → List Request × Option ManipError
  | [] => ([], none)
  | (o, x) :: rest =>
    let sent := if x.written then [build x.password o] else []
    match x.error with
    | some e => (sent, some e)
    | none => let r := operate build rest; (sent ++ r.1, r.2)

/-- `elemental.NewRequest()` with the fields the methods set. -/
def request (cfg : Config) (op : Operation) (objectID password : String) (o : Object) :
    Request :=
  { «namespace» := cfg.«namespace», operation := op, identity := o.identity,
    username := cfg.username, password := password, objectID := objectID }

def retrieve (cfg : Config) : List (Object × Exchange) → List Request × Option ManipError :=
  operate fun password o => request cfg .retrieve o.identifier password o

def create (cfg : Config) : List (Object × Exchange) → List Request × Option ManipError :=
  operate fun password o => request cfg .create "" password o

def update (cfg : Config) : List (Object × Exchange) → List Request × Option ManipError :=
  operate fun password o => request cfg .update o.identifier password o

def delete (cfg : Config) : List (Object × Exchange) → List Request × Option ManipError :=
  operate fun password o => request cfg .delete o.identifier password o

/-! ## The methods on an identity -/

/-- The operations of `RetrieveMany` and `Count` (`elemental.OperationRetrieveMany`,
`elemental.OperationInfo`). -/
inductive IdentityOperation where
  | retrieveMany
  | info
  deriving DecidableEq, Repr

/-- The fields of the request `RetrieveMany` and `Count` build: no object ID. -/
structure IdentityRequest where
  «namespace» : String
  operation : IdentityOperation
  identity : String
  username : String
  password : String
  deriving DecidableEq, Repr

/-- What happens to the request of `RetrieveMany` or `Count` outside the method; `Count` does not
decode. -/
structure Query where
  password : String
  populate : Option ManipError
  delivery : Delivery
  decode : Option String
  deriving DecidableEq, Repr

def identityRequest (cfg : Config) (op : IdentityOperation) (identity password : String) :
    IdentityRequest :=
  { «namespace» := cfg.«namespace», operation := op, identity := identity,
    username := cfg.username, password := password }

def Query.sent (q : Query) (cfg : Config) (op : IdentityOperation) (identity : String) :
    List IdentityRequest :=
  if q.populate.isNone && q.delivery != .notInitialized then
    [identityRequest cfg op identity q.password]
  else []

/-- `RetrieveMany`: the request written and the error returned. -/
def retrieveMany (cfg : Config) (identity : String) (q : Query) :
    List IdentityRequest × Option ManipError :=
  (q.sent cfg .retrieveMany identity,
    match q.populate, q.delivery.result with
    | some e, _ => some e
    | none, .error e => some e
    | none, .ok _ => q.decode.map .cannotUnmarshal)

/-- `Count`: the request written, and the count with the error returned (`0` on an error). -/
def count (cfg : Config) (identity : String) (q : Query) :
    List IdentityRequest × Int × Option ManipError :=
  (q.sent cfg .info identity,
    match q.populate, q.delivery.result with
    | some e, _ => (0, some e)
    | none, .error e => (0, some e)
    | none, .ok r => (r.total, none))

/-- `DeleteMany`, `Assign` and `Increment` return their error and send nothing. -/
def deleteMany : ManipError := .notImplemented "DeleteMany not implemented in manipwebsocket"

def assign : ManipError := .notImplemented "Assign not implemented in websocket manipulator"

def increment : ManipError := .notImplemented "Increment not implemented in websocket manipulator"

/-! ## Where the loop stops -/

theorem Delivery.result_ok_iff {d : Delivery} :
    (∃ v, d.result = .ok v) ↔ ∃ r, d = .answered r ∧ 200 ≤ r.statusCode ∧ r.statusCode ≤ 300 := by
  cases d with
  | answered r =>
    simp only [Delivery.result, sendResult, answered.injEq, exists_eq_left']
    split <;> simp <;> omega
  | _ => simp [Delivery.result]

theorem Exchange.error_eq_none_iff {x : Exchange} :
    x.error = none ↔ x.populate = none ∧ x.encode = none ∧
      (∃ r, x.delivery = .answered r ∧ 200 ≤ r.statusCode ∧ r.statusCode ≤ 300) ∧
      x.decode = none := by
  rw [← Delivery.result_ok_iff, Exchange.error]
  split <;> simp_all

theorem Exchange.written_of_error {x : Exchange} (h : x.error = none) : x.written = true := by
  obtain ⟨hp, he, ⟨r, hr, -⟩, -⟩ := Exchange.error_eq_none_iff.1 h
  simp [Exchange.written, hp, he, hr]

section
variable (build : String → Object → Request)

def sentAll (steps : List (Object × Exchange)) : List Request :=
  steps.map fun p => build p.2.password p.1

theorem operate_passed {pre : List (Object × Exchange)} (hpre : ∀ p ∈ pre, p.2.error = none)
    (rest : List (Object × Exchange)) :
    operate build (pre ++ rest) =
      (sentAll build pre ++ (operate build rest).1, (operate build rest).2) := by
  induction pre with
  | nil => rfl
  | cons p pre ih =>
    have hp := hpre p (List.mem_cons_self _ _)
    rw [List.cons_append, operate, hp, ih fun q hq => hpre q (List.mem_cons_of_mem _ hq),
      Exchange.written_of_error hp]
    simp [sentAll]

theorem operate_stops_at_first {pre : List (Object × Exchange)}
    (hpre : ∀ p ∈ pre, p.2.error = none) (o : Object) {x : Exchange} (hx : x.error ≠ none)
    (post : List (Object × Exchange)) :
    operate build (pre ++ (o, x) :: post) =
      (sentAll build pre ++ if x.written then [build x.password o] else [], x.error) := by
  obtain ⟨e, he⟩ := Option.ne_none_iff_exists'.1 hx
  rw [operate_passed build hpre, operate, he]

theorem operate_ok_iff (steps : List (Object × Exchange)) :
    (operate build steps).2 = none ↔
      (∀ p ∈ steps, p.2.populate = none ∧ p.2.encode = none ∧
        (∃ r, p.2.delivery = .answered r ∧ 200 ≤ r.statusCode ∧ r.statusCode ≤ 300) ∧
        p.2.decode = none) ∧ (operate build steps).1 = sentAll build steps := by
  simp only [← Exchange.error_eq_none_iff]
  induction steps with
  | nil => simp [operate, sentAll]
  | cons p rest ih =>
    obtain ⟨o, x⟩ := p
    rw [operate]
    cases hx : x.error with
    | none => simp [hx, Exchange.written_of_error hx, ih, sentAll]
    | some e => simp [hx]

end

theorem operate_stops_at_first_404 :
    let cfg := newWebSocketManipulator "user" "secret" "https://api"
    let ok : Exchange := ⟨"p", none, none, .answered ⟨"1", 200, 0, ""⟩, none⟩
    let bad : Exchange := ⟨"p", none, none, .answered ⟨"2", 404, 0, ""⟩, none⟩
    let a : Object := ⟨"list", "a"⟩
    let b : Object := ⟨"list", "b"⟩
    (∀ p ∈ [(a, ok)], p.2.error = none) ∧ bad.error ≠ none ∧
      retrieve cfg ([(a, ok)] ++ (b, bad) :: [(⟨"list", "c"⟩, ok)]) =
        ([request cfg .retrieve "a" "p" a, request cfg .retrieve "b" "p" b],
          some (.decoded ⟨"2", 404, 0, ""⟩)) :=
  ⟨by decide, by decide, operate_stops_at_first _ (by decide) _ (by decide) _⟩

/-- A response with status code 300 that decodes lets each method return nil. -/
theorem status_300_accepted (cfg : Config) (o : Object) (password requestID body : String)
    (total : Int) :
    let x : Exchange := ⟨password, none, none, .answered ⟨requestID, 300, total, body⟩, none⟩
    retrieve cfg [(o, x)] = ([request cfg .retrieve o.identifier password o], none) ∧
      create cfg [(o, x)] = ([request cfg .create "" password o], none) ∧
      update cfg [(o, x)] = ([request cfg .update o.identifier password o], none) ∧
      delete cfg [(o, x)] = ([request cfg .delete o.identifier password o], none) :=
  ⟨rfl, rfl, rfl, rfl⟩

/-! ## How `send` returns -/

/-- `listen` read `r` in the run `as` and handed it to the `send` for `rid` on the channel it
waited on. -/
def Handed (cfg : Config) (as : List Action) (rid : String) (r : Response) : Prop :=
  ∃ bs cs t c, as = bs ++ .deliver rid :: cs ∧ run (State.init cfg) bs = some t ∧
    t.phase = .delivering c r ∧ t.callers rid = .waiting c ∧ .listen (.recv (some r)) ∈ bs

theorem Handed.snoc {cfg : Config} {as : List Action} {rid : String} {r : Response}
    (h : Handed cfg as rid r) (a : Action) : Handed cfg (as ++ [a]) rid r := by
  obtain ⟨bs, cs, t, c, rfl, h⟩ := h
  exact ⟨bs, cs ++ [a], t, c, by simp, h⟩

section
variable {s s' : State}

theorem step_holds {a : Action} (hs : step s a = some s') {r : Response}
    (h : s'.phase = .received r ∨ ∃ c, s'.phase = .delivering c r) :
    a = .listen (.recv (some r)) ∨ s.phase = .received r ∨ ∃ c, s.phase = .delivering c r := by
  cases a with
  | construct a =>
    obtain ⟨k, -, hs⟩ := step_construct hs
    simp only [construct, Option.map_eq_some'] at hs
    obtain ⟨⟨t, o⟩, -, rfl⟩ := hs
    rcases o with _ | _ | _ <;> simp at h
  | listen a =>
    change listen s a = some s' at hs
    unfold listen at hs
    split at hs <;> (try cases hs) <;> rename_i hp
    · simp only [Phase.received.injEq, reduceCtorEq, exists_false, or_false] at h
      exact .inl (by rw [h])
    · simp at h
    · revert h; dsimp only; split <;> simp [hp]
    · revert h; dsimp only; split <;> simp
    · simp only [Option.map_eq_some'] at hs
      obtain ⟨⟨t, o⟩, -, rfl⟩ := hs
      rcases o with _ | _ | _ <;> simp at h
  | send rid a => rw [send_only hs] at h; exact .inr h
  | deliver rid =>
    change deliver s rid = some s' at hs
    unfold deliver at hs
    split at hs <;> (try split at hs) <;> cases hs
    simp at h
  | stop => rw [(stop_eq hs).2.2] at h; exact .inr h
  | signal => rw [(signal_eq hs).2.2] at h; exact .inr h
  | renew a => rw [renewMidgardToken_only hs] at h; exact .inr h

theorem setCaller_apply (rid rid' : String) (pc : SendPc) :
    (s.setCaller rid' pc).callers rid = if rid = rid' then pc else s.callers rid := by
  simp only [State.setCaller, Function.update_apply]

theorem step_answered {a : Action} (hs : step s a = some s') {rid : String} {c : Nat}
    {r : Response} (h : s'.callers rid = .answered c r) :
    a = .deliver rid ∧ s.phase = .delivering c r ∧ s.callers rid = .waiting c ∨
      s.callers rid = .answered c r := by
  cases a with
  | construct a => obtain ⟨_, -, hs⟩ := step_construct hs; rw [construct_only hs] at h; exact .inr h
  | listen a => rw [listen_only hs] at h; exact .inr h
  | send rid' a =>
    change send s rid' a = some s' at hs
    unfold send at hs
    split at hs <;> (try split at hs) <;> cases hs <;>
      simp only [setCaller_apply, State.registerResponseChannel, State.unregisterResponseChannel,
        Function.update_apply] at h <;> split_ifs at h <;> (try split at h) <;> first
        | cases h | exact .inr h
  | deliver rid' =>
    change deliver s rid' = some s' at hs
    unfold deliver at hs
    split at hs <;> (try split at hs) <;> cases hs
    rename_i c₁ r₁ c₂ hp hc he
    simp only [setCaller_apply] at h
    split_ifs at h with hr
    · cases h; subst hr he; exact .inl ⟨rfl, hp, hc⟩
    · exact .inr h
  | stop => rw [(stop_eq hs).2.2] at h; exact .inr h
  | signal => rw [(signal_eq hs).2.2] at h; exact .inr h
  | renew a => rw [renewMidgardToken_only hs] at h; exact .inr h

theorem step_done {a : Action} (hs : step s a = some s') {rid : String}
    {res : Except ManipError Response} (h : s'.callers rid = .done res) :
    s.callers rid = .done res ∨
      ∃ d : Delivery, d.result = res ∧
        ∀ r, d = .answered r → ∃ c, s.callers rid = .answered c r := by
  cases a with
  | construct a => obtain ⟨_, -, hs⟩ := step_construct hs; rw [construct_only hs] at h; exact .inl h
  | listen a => rw [listen_only hs] at h; exact .inl h
  | send rid' a =>
    change send s rid' a = some s' at hs
    unfold send at hs
    split at hs <;> (try split at hs) <;> cases hs <;>
      simp only [setCaller_apply, State.registerResponseChannel, State.unregisterResponseChannel,
        Function.update_apply] at h <;> split_ifs at h with hr <;> (try split at h) <;>
      first | exact .inl h | skip
    all_goals
      cases h <;> subst hr <;> first
        | exact .inr ⟨.notInitialized, rfl, fun _ => nofun⟩
        | exact .inr ⟨.writeFailed _, rfl, fun _ => nofun⟩
        | exact .inr ⟨.timedOut, rfl, fun _ => nofun⟩
        | exact .inr ⟨.answered _, rfl, fun _ h => by cases h; exact ⟨_, ‹_›⟩⟩
  | deliver rid' =>
    change deliver s rid' = some s' at hs
    unfold deliver at hs
    split at hs <;> (try split at hs) <;> cases hs
    simp only [setCaller_apply] at h
    split_ifs at h
    exact .inl h
  | stop => rw [(stop_eq hs).2.2] at h; exact .inl h
  | signal => rw [(signal_eq hs).2.2] at h; exact .inl h
  | renew a => rw [renewMidgardToken_only hs] at h; exact .inl h

end

/-- What the run `as` from construction to `s` says of `listen`'s response and of each `send`. -/
structure HistInv (cfg : Config) (as : List Action) (s : State) : Prop where
  reached : run (State.init cfg) as = some s
  holds : ∀ r, (s.phase = .received r ∨ ∃ c, s.phase = .delivering c r) →
    .listen (.recv (some r)) ∈ as
  answered : ∀ rid c r, s.callers rid = .answered c r → Handed cfg as rid r
  done : ∀ rid res, s.callers rid = .done res →
    ∃ d : Delivery, d.result = res ∧ ∀ r, d = .answered r → Handed cfg as rid r

theorem HistInv.init (cfg : Config) : HistInv cfg [] (State.init cfg) where
  reached := rfl
  holds _ h := by simp [State.init] at h
  answered _ _ _ h := by cases h
  done _ _ h := by cases h

theorem HistInv.step {cfg : Config} {as : List Action} {s s' : State} {a : Action}
    (h : HistInv cfg as s) (hs : step s a = some s') : HistInv cfg (as ++ [a]) s' where
  reached := by rw [run_append h.reached, run_cons, hs]; rfl
  holds r hr := by
    rcases step_holds hs hr with rfl | hr
    · exact List.mem_append_right _ (List.mem_singleton_self _)
    · exact List.mem_append_left _ (h.holds r hr)
  answered rid c r hr := by
    rcases step_answered hs hr with ⟨rfl, hp, hc⟩ | hr
    · exact ⟨as, [], s, c, rfl, h.reached, hp, hc, h.holds r (.inr ⟨c, hp⟩)⟩
    · exact (h.answered rid c r hr).snoc a
  done rid res hr := by
    rcases step_done hs hr with hr | ⟨d, hd, hr⟩
    · obtain ⟨d, hd, hh⟩ := h.done rid res hr
      exact ⟨d, hd, fun r hr => (hh r hr).snoc a⟩
    · exact ⟨d, hd, fun r hr' => let ⟨c, hc⟩ := hr r hr'; (h.answered rid c r hc).snoc a⟩

end Manipulate.Websocket
