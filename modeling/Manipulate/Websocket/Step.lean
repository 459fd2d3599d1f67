import Manipulate.Websocket.State

/-!
# The websocket manipulator: steps and runs

One atomic step of one goroutine (`step`): a critical section under one of the manipulator's
locks, one socket operation, or a channel rendezvous. The outcome of every I/O (a dial, a read,
a write, the server's responses in any order, the timer) is a parameter of the action, so a run
(`run`, a list of actions) covers every interleaving and every server behaviour. A panic ends
its goroutine only; the process would end with it, so every run of the program is a prefix of a
run here.

* `construct`: the constructor's `connect`; when it succeeds `listen` starts, and with the
  certificate constructor `renewMidgardToken`.
* `listen`: the receive loop, its `running` check and its reconnect loop (`connect`).
* `send`: one caller of `send` per request ID; `deliver` is `listen`'s `ch <- response` meeting
  that caller's `select`.
* `stop`, `signal`: the stop function (`State.stopSocket`), and the certificate constructor's
  `stopCh <- true`; `renewMidgardToken`: the refresh loop.
-/

namespace Manipulate.Websocket

/-- What the network does when `connect` dials; `badConfig` is `websocket.NewConfig` rejecting the
URL. -/
inductive DialResult where
  | badConfig (msg : String)
  | refused (msg : String)
  | connected
  deriving DecidableEq, Repr

/-- A step of `connect`. -/
inductive ConnectAction where
  | clear
  | build
  | dial (r : DialResult)
  | handshake (r : Except String Response)
  deriving DecidableEq, Repr

/-- A step of `listen`. -/
inductive ListenAction where
  | connect (a : ConnectAction)
  | recv (r : Option Response)
  | lookup
  | checkRunning
  deriving DecidableEq, Repr

/-- A step of `send`. -/
inductive SendAction where
  | check
  | write (err : Option String)
  | register
  | timeout
  | unregister
  deriving DecidableEq, Repr

/-- A step of `renewMidgardToken`. -/
inductive RenewAction where
  | tick
  | issue (r : IssueResult)
  deriving DecidableEq, Repr

inductive Action where
  | construct (a : ConnectAction)
  | listen (a : ListenAction)
  | send (rid : String) (a : SendAction)
  | deliver (rid : String)
  | stop
  | signal
  | renew (a : RenewAction)
  deriving DecidableEq, Repr

variable (s : State)

/-- A step of `connect` at `k`: the state after it, and where `connect` is then or what it returns.
The URL is built with the password read under `renewLock`, released before the dial;
`websocket.NewConfig` is one step with the dial. -/
def connect : ConnectPc → ConnectAction → Option (State × (ConnectPc ⊕ Except ManipError Unit))
  | .clearing, .clear => some (s.unregisterAllResponseChannels, .inl .building)
  | .building, .build => some (s, .inl (.dialing (connectURL s.cfg s.currentPassword)))
  | .dialing _, .dial (.badConfig msg) => some (s, .inr (.error (.other msg)))
  | .dialing _, .dial (.refused msg) =>
    some ({ s with ws := none }, .inr (.error (.cannotCommunicate msg)))
  | .dialing url, .dial .connected => some (s.dialed url, .inl .handshaking)
  | .handshaking, .handshake (.error msg) => some (s, .inr (.error (.cannotCommunicate msg)))
  | .handshaking, .handshake (.ok r) =>
    some (s, .inr (if r.statusCode = 200 then .ok () else .error (decodeErrors r)))
  | _, _ => none

/-- A step of the constructor: its `connect`, then `go m.listen()` (and, for the certificate
constructor, `go m.renewMidgardToken(…)`) or the error. -/
def construct (k : ConnectPc) (a : ConnectAction) : Option State :=
  (connect s k a).map fun (s', r) =>
    match r with
    | .inl k' => { s' with phase := .constructing k' }
    | .inr (.ok ()) =>
      { s' with phase := .reading, renew := if s'.cfg.renews then .selecting else .idle }
    | .inr (.error e) => { s' with phase := .constructFailed e }

/-- A step of `listen`: a response goes to the channel registered for its request ID, or is
dropped; a read error ends the loop when `running` is false, else starts the reconnect loop. -/
def listen (a : ListenAction) : Option State :=
  match s.phase, a with
  | .reading, .recv (some r) => some { s with phase := .received r }
  | .reading, .recv none => some { s with phase := .failed }
  | .received r, .lookup =>
    some { s with phase := match s.responseChannelForID r.requestID with
      | some c => .delivering c r
      | none => .reading }
  | .failed, .checkRunning =>
    some { s with phase := if s.running then .reconnecting .clearing else .exited }
  | .reconnecting k, .connect a =>
    (connect s k a).map fun (s', r) =>
      match r with
      | .inl k' => { s' with phase := .reconnecting k' }
      | .inr (.ok ()) => { s' with phase := .reading }
      | .inr (.error _) => { s' with phase := .reconnecting .clearing }
  | _, _ => none

/-- What `send` returns for the response it received. -/
def sendResult (r : Response) : Except ManipError Response :=
  if r.statusCode < 200 ∨ r.statusCode > 300 then .error (decodeErrors r) else .ok r

/-- A step of the call of `send` for `rid`: the check of `s.ws`, the write,
`registerResponseChannel`, the timer, and the deferred `unregisterResponseChannel` with the return.
-/
def send (rid : String) (a : SendAction) : Option State :=
  match s.callers rid, a with
  | .idle, .check =>
    if s.phase.built then
      some (s.setCaller rid (match s.ws with
        | none => .done (.error (.cannotCommunicate "Websocket not initialized"))
        | some _ => .checked))
    else none
  | .checked, .write err =>
    some (s.setCaller rid (match s.ws, err with
      | none, _ => .panicked
      | some _, some msg => .done (.error (.cannotCommunicate msg))
      | some _, none => .written))
  | .written, .register => some (s.registerResponseChannel rid)
  | .waiting c, .timeout => some (s.setCaller rid (.timedOut c))
  | .answered _ r, .unregister =>
    some ((s.unregisterResponseChannel rid).setCaller rid (.done (sendResult r)))
  | .timedOut _, .unregister =>
    some ((s.unregisterResponseChannel rid).setCaller rid
      (.done (.error (.cannotCommunicate "Request timeout"))))
  | _, _ => none

/-- `listen`'s `ch <- response` on channel `c` meets the `select` of the `send` for `rid`,
waiting on `c`. -/
def deliver (rid : String) : Option State :=
  match s.phase, s.callers rid with
  | .delivering c r, .waiting c' =>
    if c = c' then some { s.setCaller rid (.answered c r) with phase := .reading } else none
  | _, _ => none

/-- A call of the stop function the constructor returned. -/
def stop : Option State :=
  if s.phase.built ∧ s.stopper = .idle then
    some { s.stopSocket with
      stopCalls := s.stopCalls + 1
      stopper := if s.cfg.renews then .signalling else .idle }
  else none

/-- The certificate constructor's `stopCh <- true` meets `renewMidgardToken`'s `select`. -/
def signal : Option State :=
  match s.stopper, s.renew with
  | .signalling, .selecting => some { s with stopper := .idle, renew := .exited }
  | _, _ => none

/-- A step of `renewMidgardToken`: the ticker fires, then the token `IssueFromCertificate`
returns is stored (its error is only logged). -/
def renewMidgardToken (a : RenewAction) : Option State :=
  match s.renew, a with
  | .selecting, .tick => some { s with renew := .issuing }
  | .issuing, .issue r => some { s with password := r.token, renew := .selecting }
  | _, _ => none

def step : Action → Option State
  | .construct a =>
    match s.phase with
    | .constructing k => construct s k a
    | _ => none
  | .listen a => listen s a
  | .send rid a => send s rid a
  | .deliver rid => deliver s rid
  | .stop => stop s
  | .signal => signal s
  | .renew a => renewMidgardToken s a

def run : State → List Action → Option State
  | s, [] => some s
  | s, a :: as => (step s a).bind fun s' => run s' as

/-- A state some run of the manipulator built with `cfg` reaches. -/
def Reachable (cfg : Config) (t : State) : Prop := ∃ as, run (State.init cfg) as = some t

variable {s}

/-! ## What each step can change -/

section
variable {s' : State}

theorem connect_only {k : ConnectPc} {a : ConnectAction} {o : ConnectPc ⊕ Except ManipError Unit}
    (h : connect s k a = some (s', o)) :
    s' = { s with
      responsesChanRegistry := s'.responsesChanRegistry, ws := s'.ws, sockets := s'.sockets } := by
  cases k <;> cases a <;> (try rename_i r; cases r) <;> simp only [connect] at h <;>
    cases h <;> rfl

theorem connect_sockets {k : ConnectPc} {a : ConnectAction}
    {o : ConnectPc ⊕ Except ManipError Unit} (h : connect s k a = some (s', o)) :
    s'.sockets = s.sockets ∧ (s'.ws = s.ws ∨ s'.ws = none) ∨
      ∃ url, k = .dialing url ∧ s'.ws = some s.sockets.length ∧
        s'.sockets = s.sockets ++ [url] := by
  cases k <;> cases a <;> (try rename_i r; cases r) <;> simp only [connect] at h <;>
    cases h <;> simp [State.unregisterAllResponseChannels, State.dialed]

theorem construct_only {k : ConnectPc} {a : ConnectAction} (h : construct s k a = some s') :
    s' = { s with
      responsesChanRegistry := s'.responsesChanRegistry, ws := s'.ws, sockets := s'.sockets,
      phase := s'.phase, renew := s'.renew } := by
  simp only [construct, Option.map_eq_some'] at h
  obtain ⟨⟨t, o⟩, ht, rfl⟩ := h
  rw [connect_only ht]
  rcases o with _ | _ | _ <;> rfl

theorem listen_only {a : ListenAction} (h : listen s a = some s') :
    s' = { s with
      responsesChanRegistry := s'.responsesChanRegistry, ws := s'.ws, sockets := s'.sockets,
      phase := s'.phase } := by
  unfold listen at h
  split at h <;> (try cases h) <;> try rfl
  simp only [Option.map_eq_some'] at h
  obtain ⟨⟨t, o⟩, ht, rfl⟩ := h
  rw [connect_only ht]
  rcases o with _ | _ | _ <;> rfl

theorem send_only {rid : String} {a : SendAction} (h : send s rid a = some s') :
    s' = { s with
      responsesChanRegistry := s'.responsesChanRegistry, chanOwner := s'.chanOwner,
      nextChan := s'.nextChan, callers := s'.callers } := by
  unfold send at h
  split at h <;> (try split at h) <;> cases h <;> rfl

theorem deliver_only {rid : String} (h : deliver s rid = some s') :
    s' = { s with phase := s'.phase, callers := s'.callers } := by
  unfold deliver at h
  split at h <;> (try split at h) <;> cases h
  rfl

theorem stop_eq (h : stop s = some s') :
    s.phase.built = true ∧ s.stopper = .idle ∧
      s' = { s with
        running := match s.ws with
          | some _ => false
          | none => s.running
        closed := match s.ws with
          | some k => insert k s.closed
          | none => s.closed
        stopCalls := s.stopCalls + 1
        stopper := if s.cfg.renews then .signalling else .idle } := by
  unfold stop at h
  split at h
  · cases h
    refine ⟨‹_ ∧ _›.1, ‹_ ∧ _›.2, ?_⟩
    cases hws : s.ws <;> simp [State.stopSocket, hws]
  · cases h

theorem signal_eq (h : signal s = some s') :
    s.stopper = .signalling ∧ s.renew = .selecting ∧
      s' = { s with stopper := .idle, renew := .exited } := by
  unfold signal at h
  split at h <;> cases h
  exact ⟨‹_›, ‹_›, rfl⟩

theorem renewMidgardToken_only {a : RenewAction} (h : renewMidgardToken s a = some s') :
    s' = { s with password := s'.password, renew := s'.renew } := by
  unfold renewMidgardToken at h
  split at h <;> cases h <;> rfl

/-- A step of the constructor is a step of `construct` from the place it has reached. -/
theorem step_construct {a : ConnectAction} (h : step s (.construct a) = some s') :
    ∃ k, s.phase = .constructing k ∧ construct s k a = some s' := by
  simp only [step] at h
  split at h
  · exact ⟨_, ‹_›, h⟩
  · cases h

end

@[simp] theorem run_nil : run s [] = some s := rfl

theorem run_cons (a : Action) (as : List Action) :
    run s (a :: as) = (step s a).bind fun s' => run s' as := rfl

theorem run_append {as bs : List Action} {t : State} (h : run s as = some t) :
    run s (as ++ bs) = run t bs := by
  induction as generalizing s with
  | nil => cases h; rfl
  | cons a as ih =>
    simp only [run_cons, Option.bind_eq_some] at h
    obtain ⟨s', hs, ht⟩ := h
    simp only [List.cons_append, run_cons, hs, Option.some_bind, ih ht]

theorem run_preserves (P : State → Prop) (hP : ∀ s a s', P s → step s a = some s' → P s')
    {as : List Action} {t : State} (hs : P s) (h : run s as = some t) : P t := by
  induction as generalizing s with
  | nil => cases h; exact hs
  | cons a as ih =>
    simp only [run_cons, Option.bind_eq_some] at h
    obtain ⟨s', h1, h2⟩ := h
    exact ih (hP _ _ _ hs h1) h2

theorem run_preserves_on (P : State → Prop) (A : Action → Prop)
    (hP : ∀ s a s', A a → P s → step s a = some s' → P s') {as : List Action} {t : State}
    (ha : ∀ a ∈ as, A a) (hs : P s) (h : run s as = some t) : P t := by
  induction as generalizing s with
  | nil => cases h; exact hs
  | cons a as ih =>
    simp only [run_cons, Option.bind_eq_some] at h
    obtain ⟨s', h1, h2⟩ := h
    exact ih (fun b hb => ha b (.tail _ hb)) (hP _ _ _ (ha a (.head _)) hs h1) h2

theorem run_preserves_hist (P : List Action → State → Prop)
    (hP : ∀ pre s a s', P pre s → step s a = some s' → P (pre ++ [a]) s')
    {pre as : List Action} {t : State} (hs : P pre s) (h : run s as = some t) :
    P (pre ++ as) t := by
  induction as generalizing pre s with
  | nil => cases h; rwa [List.append_nil]
  | cons a as ih =>
    simp only [run_cons, Option.bind_eq_some] at h
    obtain ⟨s', h1, h2⟩ := h
    simpa using ih (hP _ _ _ _ hs h1) h2

theorem Reachable.induct {cfg : Config} {t : State} (ht : Reachable cfg t) (P : State → Prop)
    (h0 : P (State.init cfg)) (hP : ∀ s a s', P s → step s a = some s' → P s') : P t :=
  let ⟨_, h⟩ := ht; run_preserves P hP h0 h

theorem Reachable.step {cfg : Config} {t t' : State} {a : Action} (ht : Reachable cfg t)
    (h : step t a = some t') : Reachable cfg t' :=
  let ⟨as, has⟩ := ht
  ⟨as ++ [a], by rw [run_append has, run_cons, h]; rfl⟩

end Manipulate.Websocket
