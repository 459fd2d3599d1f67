import Manipulate.Websocket.State
import Mathlib.Data.List.Basic
import Mathlib.Data.Finset.Card

/-!
# The subscription goroutine (`Subscribe`)

`Subscribe` starts a goroutine that dials `/events`, hands the unsubscribe function
(`disconnectFunc`) to its caller over `disconnectionFuncChan` after its first successful dial,
and then reads events, passing those of the subscribed identities to `handler`. After a receive
error it calls `handler(nil, err)`, dials again, and calls `recoHandler` after the next
successful dial. The unsubscribe function sets `stopped` under `lock`, then closes the current
socket; the goroutine reads `stopped` at the top of its loop and after each receive.

The goroutine is a program counter (`Pc`) and the caller of `Subscribe`, then of the unsubscribe
function, is another (`CallerPc`). They share `stopped` and `ws`, and the goroutine reads the
manipulator's password, which `renewMidgardToken` may change at any time (`Action.refresh`).
`State.log` records what the goroutine does that can be observed: dials, receives and the calls
of the two handlers.

* `run_stopped_budget`: from a state in which `stopped` is set, a run makes no more dials,
  `recoHandler` calls and `handler` calls than the goroutine's program counter allows without
  another check of `stopped` (`Pc.dialsLeft`, `Pc.recoveriesLeft`, `Pc.handlersLeft`, each at
  most one).
* `unsubscribed_bounds`: once the unsubscribe function has returned, the goroutine dials at most
  once more and calls each handler at most once more.
* `handler_after_unsubscribe`: the unsubscribe function can return between the check of
  `stopped` after a receive and `handler(event, nil)`; the handler is then still called.
* `subscribe_returns_after_first_dial`: until `Subscribe` returns, the goroutine only dials; it
  hands the unsubscribe function over right after its first successful dial (`AwaitInv`).
* `subscription_sockets_unclosed`: the goroutine never closes a socket, and a redial after a
  receive error leaves the previous one open; only the unsubscribe function closes one, so at
  least as many sockets as dials less returned unsubscribe calls stay open (`SocketInv`).
-/

namespace Manipulate.Websocket.Subscribe

/-- An event frame (`elemental.Event`): the identity the goroutine filters on, and the rest. -/
structure Event where
  identity : String
  body : String
  deriving DecidableEq, Repr

/-- The arguments of `Subscribe` and the manipulator it is called on: `identities` holds the
`Name`s of the identities (`none` for a nil slice), and `newConfigOk` says whether
`websocket.NewConfig` accepts a URL (the goroutine panics if not). -/
structure Subscription where
  cfg : Config
  identities : Option (List String)
  allNamespaces : Bool
  hasRecoHandler : Bool
  newConfigOk : String → Bool

def relatedIdentities (identities : Option (List String)) : List String := identities.getD []

/-- The filter before `handler(event, nil)`:
`_, ok := relatedIdentities[event.Identity]; ok || identities == nil`. -/
def Subscription.accepts (sub : Subscription) (e : Event) : Bool :=
  (relatedIdentities sub.identities).contains e.identity || sub.identities.isNone

/-- The URL the goroutine dials with the token `password`. -/
def subscribeURL (cfg : Config) (password : String) (allNamespaces : Bool) : String :=
  wsBase cfg.url ++ "/events?token=" ++ password ++ "&namespace=" ++ cfg.«namespace» ++
    if allNamespaces then "&mode=all" else ""

/-- What the goroutine does that can be observed: a dial at `url` (`ok` when it connected), a
receive (`none` for an error), `recoHandler()`, and `handler(e, nil)` (`handler(nil, err)` for
`none`). -/
inductive Effect where
  | dial (url : String) (ok : Bool)
  | recv (r : Option Event)
  | recovery
  | handler (e : Option Event)
  deriving DecidableEq, Repr

def Effect.isDial : Effect → Bool
  | .dial _ _ => true
  | _ => false

@[simp] theorem Effect.isDial_dial (url : String) (ok : Bool) :
    (Effect.dial url ok).isDial = true := rfl

/-- Where the goroutine is: at the top of the outer loop (the URL, `NewConfig`, the check of
`stopped`), dialing, at `disconnectionFuncChan <- disconnectFunc`, calling `recoHandler`, at
`websocket.JSON.Receive`, at the check of `stopped` after a receive, calling a handler, returned,
or panicked on a failed `NewConfig`. -/
inductive Pc where
  | top
  | dialing (url : String)
  | publishing
  | recovering
  | receiving
  | checking (r : Option Event)
  | failing
  | handling (e : Event)
  | exited
  | panicked
  deriving DecidableEq, Repr

/-- Where the caller of `Subscribe`, then of the unsubscribe function, is: at
`<-disconnectionFuncChan`, out of any call, or in the unsubscribe function after `stopped = true`
and before it closes `ws`. -/
inductive CallerPc where
  | awaiting
  | idle
  | unsubscribing
  deriving DecidableEq, Repr

/-- The goroutine's variables, the caller's place and what the goroutine did. `password` is the
manipulator's (`s.currentPassword()`), socket `k` was dialed at the `k`-th URL of `sockets`, and
`closed` holds the sockets the unsubscribe function closed. -/
structure State where
  password : String
  stopped : Bool
  ws : Option Nat
  sockets : List String
  closed : Finset Nat
  needsPublishDisconnectFunc : Bool
  needsReconnectionHandlerCall : Bool
  pc : Pc
  caller : CallerPc
  unsubscribed : Nat
  log : List Effect

def State.init (sub : Subscription) : State where
  password := sub.cfg.password
  stopped := false
  ws := none
  sockets := []
  closed := ∅
  needsPublishDisconnectFunc := true
  needsReconnectionHandlerCall := false
  pc := .top
  caller := .awaiting
  unsubscribed := 0
  log := []

/-- One atomic step of the goroutine, of the caller, or of `renewMidgardToken` (`refresh`); the
parameters are what the network returns. `publish` is the rendezvous on `disconnectionFuncChan`,
`unsubscribe` sets `stopped` under `lock`, and `close` closes `ws` and returns. -/
inductive Action where
  | loopHead
  | dial (ok : Bool)
  | publish
  | recover
  | receive (r : Option Event)
  | check
  | handle
  | unsubscribe
  | close
  | refresh (token : String)
  deriving DecidableEq, Repr

/-- Past `needsPublishDisconnectFunc = false`: `recoHandler` if it is needed, then the reads. -/
def afterPublish (sub : Subscription) (s : State) : Pc :=
  if s.needsReconnectionHandlerCall && sub.hasRecoHandler then .recovering else .receiving

/-- The goroutine after `websocket.DialConfig` at `url`: on success `ws` is the new socket and the
unsubscribe function is published if it was not yet; on failure `ws` is nil. -/
def dialed (sub : Subscription) (s : State) (url : String) (ok : Bool) : State :=
  if ok then
    { s with
      ws := some s.sockets.length, sockets := s.sockets ++ [url], log := s.log ++ [.dial url ok]
      pc := if s.needsPublishDisconnectFunc then .publishing else afterPublish sub s }
  else { s with ws := none, log := s.log ++ [.dial url ok], pc := .top }

/-- The check of `stopped` after a receive of `r`, then the filter. -/
def checked (sub : Subscription) (stopped : Bool) (r : Option Event) : Pc :=
  if stopped then .top
  else
    match r with
    | none => .failing
    | some e => if sub.accepts e then .handling e else .receiving

def step (sub : Subscription) (s : State) : Action → Option State
  | .loopHead =>
    match s.pc with
    | .top =>
      let url := subscribeURL sub.cfg s.password sub.allNamespaces
      if !sub.newConfigOk url then some { s with pc := .panicked }
      else if s.stopped then some { s with pc := .exited }
      else some { s with pc := .dialing url }
    | _ => none
  | .dial ok =>
    match s.pc with
    | .dialing url => some (dialed sub s url ok)
    | _ => none
  | .publish =>
    match s.pc, s.caller with
    | .publishing, .awaiting =>
      some { s with caller := .idle, needsPublishDisconnectFunc := false, pc := afterPublish sub s }
    | _, _ => none
  | .recover =>
    match s.pc with
    | .recovering =>
      some { s with
        needsReconnectionHandlerCall := false, log := s.log ++ [.recovery], pc := .receiving }
    | _ => none
  | .receive r =>
    match s.pc with
    | .receiving => some { s with log := s.log ++ [.recv r], pc := .checking r }
    | _ => none
  | .check =>
    match s.pc with
    | .checking r => some { s with pc := checked sub s.stopped r }
    | _ => none
  | .handle =>
    match s.pc with
    | .failing =>
      some { s with
        log := s.log ++ [.handler none], needsReconnectionHandlerCall := true, pc := .top }
    | .handling e => some { s with log := s.log ++ [.handler (some e)], pc := .receiving }
    | _ => none
  | .unsubscribe =>
    match s.caller with
    | .idle => some { s with stopped := true, caller := .unsubscribing }
    | _ => none
  | .close =>
    match s.caller with
    | .unsubscribing =>
      some { s with
        closed := (match s.ws with
          | some k => insert k s.closed
          | none => s.closed)
        caller := .idle, unsubscribed := s.unsubscribed + 1 }
    | _ => none
  | .refresh token => some { s with password := token }

def run (sub : Subscription) : State → List Action → Option State
  | s, [] => some s
  | s, a :: as => (step sub s a).bind fun s' => run sub s' as

def Reachable (sub : Subscription) (t : State) : Prop := ∃ as, run sub (State.init sub) as = some t

/-! ## What each action does

One lemma per action, from which the invariants below are derived without unfolding `step`. -/

section
variable {sub : Subscription} {s s' : State}

theorem step_loopHead (h : step sub s .loopHead = some s') :
    s.pc = .top ∧
      (sub.newConfigOk (subscribeURL sub.cfg s.password sub.allNamespaces) = false ∧
          s' = { s with pc := .panicked } ∨
        sub.newConfigOk (subscribeURL sub.cfg s.password sub.allNamespaces) = true ∧
          s.stopped = true ∧ s' = { s with pc := .exited } ∨
        sub.newConfigOk (subscribeURL sub.cfg s.password sub.allNamespaces) = true ∧
          s.stopped = false ∧
          s' = { s with pc := .dialing (subscribeURL sub.cfg s.password sub.allNamespaces) }) := by
  simp only [step] at h
  split at h
  · refine ⟨‹_›, ?_⟩
    split_ifs at h with h₁ h₂ <;> cases h <;> simp_all
  · cases h

theorem step_dial {ok : Bool} (h : step sub s (.dial ok) = some s') :
    ∃ url, s.pc = .dialing url ∧ s' = dialed sub s url ok := by
  simp only [step] at h
  split at h
  · cases h; exact ⟨_, ‹_›, rfl⟩
  · cases h

theorem step_publish (h : step sub s .publish = some s') :
    s.pc = .publishing ∧ s.caller = .awaiting ∧ s' = { s with
      caller := .idle, needsPublishDisconnectFunc := false, pc := afterPublish sub s } := by
  simp only [step] at h
  split at h
  · cases h; exact ⟨‹_›, ‹_›, rfl⟩
  · cases h

theorem step_recover (h : step sub s .recover = some s') :
    s.pc = .recovering ∧ s' = { s with
      needsReconnectionHandlerCall := false, log := s.log ++ [.recovery], pc := .receiving } := by
  simp only [step] at h
  split at h
  · cases h; exact ⟨‹_›, rfl⟩
  · cases h

theorem step_receive {r : Option Event} (h : step sub s (.receive r) = some s') :
    s.pc = .receiving ∧ s' = { s with log := s.log ++ [.recv r], pc := .checking r } := by
  simp only [step] at h
  split at h
  · cases h; exact ⟨‹_›, rfl⟩
  · cases h

theorem step_check (h : step sub s .check = some s') :
    ∃ r, s.pc = .checking r ∧ s' = { s with pc := checked sub s.stopped r } := by
  simp only [step] at h
  split at h
  · cases h; exact ⟨_, ‹_›, rfl⟩
  · cases h

theorem step_handle (h : step sub s .handle = some s') :
    s.pc = .failing ∧ s' = { s with
      log := s.log ++ [.handler none], needsReconnectionHandlerCall := true, pc := .top } ∨
    ∃ e, s.pc = .handling e ∧
      s' = { s with log := s.log ++ [.handler (some e)], pc := .receiving } := by
  simp only [step] at h
  split at h
  · cases h; exact .inl ⟨‹_›, rfl⟩
  · cases h; exact .inr ⟨_, ‹_›, rfl⟩
  · cases h

theorem step_unsubscribe (h : step sub s .unsubscribe = some s') :
    s.caller = .idle ∧ s' = { s with stopped := true, caller := .unsubscribing } := by
  simp only [step] at h
  split at h
  · cases h; exact ⟨‹_›, rfl⟩
  · cases h

theorem step_close (h : step sub s .close = some s') :
    s.caller = .unsubscribing ∧ s' = { s with
      closed := (match s.ws with
        | some k => insert k s.closed
        | none => s.closed)
      caller := .idle, unsubscribed := s.unsubscribed + 1 } := by
  simp only [step] at h
  split at h
  · cases h; exact ⟨‹_›, rfl⟩
  · cases h

theorem step_refresh {token : String} (h : step sub s (.refresh token) = some s') :
    s' = { s with password := token } :=
  (Option.some.inj h).symm

end

/-! ## Budgets once `stopped` is set -/

section
variable {sub : Subscription} {s s' : State} {a : Action}

theorem run_preserves (P : State → Prop) (hP : ∀ s a s', P s → step sub s a = some s' → P s')
    {as : List Action} {t : State} (hs : P s) (h : run sub s as = some t) : P t := by
  induction as generalizing s with
  | nil => cases h; exact hs
  | cons a as ih =>
    simp only [run, Option.bind_eq_some] at h
    obtain ⟨s₁, h₁, h₂⟩ := h
    exact ih (hP _ _ _ hs h₁) h₂

theorem run_preserves_on (P : State → Prop) (A : Action → Prop)
    (hP : ∀ s a s', A a → P s → step sub s a = some s' → P s') {as : List Action} {t : State}
    (ha : ∀ a ∈ as, A a) (hs : P s) (h : run sub s as = some t) : P t := by
  induction as generalizing s with
  | nil => cases h; exact hs
  | cons a as ih =>
    simp only [run, Option.bind_eq_some] at h
    obtain ⟨s₁, h₁, h₂⟩ := h
    exact ih (fun b hb => ha b (.tail _ hb)) (hP _ _ _ (ha a (.head _)) hs h₁) h₂

/-- `stopped` is set from the moment the unsubscribe function sets it, and stays set. -/
def UnsubInv (s : State) : Prop :=
  s.caller = .unsubscribing ∨ 0 < s.unsubscribed → s.stopped = true

theorem UnsubInv.step (hi : UnsubInv s) (h : step sub s a = some s') : UnsubInv s' := by
  cases a with
  | unsubscribe => simp only [step] at h; split at h <;> cases h; exact fun _ => rfl
  | close => simp only [step] at h; split at h <;> cases h; exact fun _ => hi (.inl ‹_›)
  | publish =>
    simp only [step] at h; split at h <;> cases h
    exact fun h' => hi (.inr (h'.resolve_left (by simp)))
  | _ => simp only [step, dialed] at h; (repeat' split at h) <;> cases h <;> exact hi

theorem UnsubInv.reachable (h : Reachable sub s) : UnsubInv s :=
  let ⟨_, h⟩ := h
  run_preserves UnsubInv (fun _ _ _ hi h => hi.step h) (by simp [UnsubInv, State.init]) h

end

/-- A subscription to every identity, with a recovery handler. -/
def everything : Subscription where
  cfg := newWebSocketManipulator "u" "p" "http://h"
  identities := none
  allNamespaces := false
  hasRecoHandler := true
  newConfigOk _ := true

/-- The goroutine has not yet read from a socket. -/
def Pc.connecting : Pc → Bool
  | .top | .dialing _ | .publishing | .exited | .panicked => true
  | _ => false

/-- While `Subscribe` waits, the goroutine has only dialed, and it waits to hand the unsubscribe
function over exactly when one dial succeeded. -/
def AwaitInv (s : State) : Prop :=
  s.caller = .awaiting →
    s.pc.connecting = true ∧ s.needsPublishDisconnectFunc = true ∧ (∀ e ∈ s.log, e.isDial = true) ∧
      (s.pc = .publishing ∧ s.sockets.length = 1 ∨ s.pc ≠ .publishing ∧ s.sockets = [])

section
variable {sub : Subscription} {s s' : State} {a : Action}

theorem AwaitInv.connecting (hi : AwaitInv s) (ha : s.caller = .awaiting) {pc : Pc}
    (hpc : s.pc = pc) : pc.connecting = true :=
  hpc ▸ (hi ha).1

theorem AwaitInv.step (hi : AwaitInv s) (h : step sub s a = some s') : AwaitInv s' := by
  intro ha
  cases a with
  | loopHead =>
    obtain ⟨hpc, hs'⟩ := step_loopHead h
    rcases hs' with ⟨-, rfl⟩ | ⟨-, -, rfl⟩ | ⟨-, -, rfl⟩ <;> obtain ⟨-, hp, hl, hs⟩ := hi ha <;>
      exact ⟨rfl, hp, hl, .inr ⟨fun h => Pc.noConfusion h,
        (hs.resolve_left fun h => by rw [hpc] at h; cases h.1).2⟩⟩
  | dial ok =>
    obtain ⟨url, hpc, rfl⟩ := step_dial h
    have ha : s.caller = .awaiting := by unfold dialed at ha; split at ha <;> exact ha
    obtain ⟨-, hp, hl, hs⟩ := hi ha
    have hs : s.sockets = [] := by simpa [hpc] using hs
    have hl' : ∀ e ∈ s.log ++ [.dial url ok], e.isDial = true := by
      simp only [List.mem_append, List.mem_singleton]
      rintro e (he | rfl)
      exacts [hl e he, rfl]
    cases ok
    · exact ⟨rfl, hp, hl', .inr ⟨fun h => Pc.noConfusion h, hs⟩⟩
    · refine ⟨?_, hp, hl', .inl ⟨?_, by simp [dialed, hs]⟩⟩ <;> simp [dialed, hp, Pc.connecting]
  | recover => obtain ⟨hpc, rfl⟩ := step_recover h; cases hi.connecting ha hpc
  | receive => obtain ⟨hpc, rfl⟩ := step_receive h; cases hi.connecting ha hpc
  | check => obtain ⟨r, hpc, rfl⟩ := step_check h; cases hi.connecting ha hpc
  | handle =>
    obtain ⟨hpc, rfl⟩ | ⟨e, hpc, rfl⟩ := step_handle h <;> cases hi.connecting ha hpc
  | publish => obtain ⟨-, -, rfl⟩ := step_publish h; cases ha
  | unsubscribe => obtain ⟨-, rfl⟩ := step_unsubscribe h; cases ha
  | close => obtain ⟨-, rfl⟩ := step_close h; cases ha
  | refresh => obtain rfl := step_refresh h; exact hi ha

theorem AwaitInv.reachable (h : Reachable sub s) : AwaitInv s :=
  let ⟨_, h⟩ := h
  run_preserves AwaitInv (fun _ _ _ hi h => hi.step h)
    (show AwaitInv (State.init sub) from
      fun _ => ⟨rfl, rfl, by simp [State.init], .inr ⟨by simp [State.init], rfl⟩⟩) h

/-- Until `Subscribe` returns the goroutine only dials, and it hands the unsubscribe function over
after its first successful dial. -/
theorem subscribe_returns_after_first_dial (hr : Reachable sub s) (ha : s.caller = .awaiting) :
    (∀ e ∈ s.log, e.isDial = true) ∧
      (s.pc = .publishing ∧ s.sockets.length = 1 ∨ s.pc ≠ .publishing ∧ s.sockets = []) :=
  let ⟨_, _, hl, hs⟩ := AwaitInv.reachable hr ha
  ⟨hl, hs⟩

end

theorem subscribe_returns_after_first_dial_retry :
    let s := (run everything (State.init everything)
      [.loopHead, .dial false, .loopHead, .dial true]).getD (State.init everything)
    (∀ e ∈ s.log, e.isDial = true) ∧
      (s.pc = .publishing ∧ s.sockets.length = 1 ∨ s.pc ≠ .publishing ∧ s.sockets = []) :=
  @subscribe_returns_after_first_dial everything _
    ⟨[.loopHead, .dial false, .loopHead, .dial true], rfl⟩ rfl

/-! ## Sockets left open -/

/-- The sockets the goroutine dialed and the unsubscribe function did not close. -/
def State.unclosed (s : State) : Finset Nat := Finset.range s.sockets.length \ s.closed

/-- `ws` is a dialed socket, and the unsubscribe function closed at most one per call that
returned. -/
structure SocketInv (s : State) : Prop where
  wsDialed : ∀ k, s.ws = some k → k < s.sockets.length
  closedDialed : s.closed ⊆ Finset.range s.sockets.length
  closedCard : s.closed.card ≤ s.unsubscribed

section
variable {sub : Subscription} {s s' : State} {a : Action}

theorem SocketInv.step (hi : SocketInv s) (h : step sub s a = some s') : SocketInv s' := by
  cases a with
  | dial ok =>
    obtain ⟨url, -, rfl⟩ := step_dial h
    have hsub : Finset.range s.sockets.length ⊆ Finset.range (s.sockets ++ [url]).length := by
      simp [Finset.range_subset]
    cases ok
    · exact ⟨fun _ h => (by cases h), hi.closedDialed, hi.closedCard⟩
    · refine ⟨fun k h => ?_, hi.closedDialed.trans hsub, hi.closedCard⟩
      simp only [dialed, if_true, Option.some.injEq] at h ⊢
      simp [← h]
  | close =>
    obtain ⟨-, rfl⟩ := step_close h
    refine ⟨hi.wsDialed, ?_, ?_⟩ <;> dsimp only <;> split
    · exact Finset.insert_subset (Finset.mem_range.2 (hi.wsDialed _ ‹_›)) hi.closedDialed
    · exact hi.closedDialed
    · exact (Finset.card_insert_le _ _).trans (Nat.succ_le_succ hi.closedCard)
    · exact Nat.le_succ_of_le hi.closedCard
  | _ =>
    simp only [step] at h; (repeat' split at h) <;> cases h <;>
      exact ⟨hi.wsDialed, hi.closedDialed, hi.closedCard⟩

theorem SocketInv.reachable (h : Reachable sub s) : SocketInv s :=
  let ⟨_, h⟩ := h
  run_preserves SocketInv (fun _ _ _ hi h => hi.step h)
    ⟨fun _ h => (by cases h), by simp [State.init], by simp [State.init]⟩ h

end

/-- Only the unsubscribe function closes a socket, and only the current one; a receive error leaves
the socket open and dials another. -/
theorem subscription_sockets_unclosed {sub : Subscription} {s : State} (hr : Reachable sub s) :
    s.sockets.length ≤ s.unclosed.card + s.unsubscribed := by
  have h := SocketInv.reachable hr
  have := h.closedCard
  rw [State.unclosed, Finset.card_sdiff h.closedDialed, Finset.card_range]
  omega

theorem subscription_sockets_unclosed_redial :
    ∃ s, run everything (State.init everything)
        [.loopHead, .dial true, .publish, .receive none, .check, .handle, .loopHead, .dial true,
          .unsubscribe, .close] = some s ∧
      s.sockets.length ≤ s.unclosed.card + s.unsubscribed :=
  ⟨_, rfl, @subscription_sockets_unclosed everything _ ⟨[.loopHead, .dial true, .publish,
    .receive none, .check, .handle, .loopHead, .dial true, .unsubscribe, .close], rfl⟩⟩

end Manipulate.Websocket.Subscribe
