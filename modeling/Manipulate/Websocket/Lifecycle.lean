import Mathlib.Data.Finset.Card
import Manipulate.Websocket.Step

/-!
# Sockets, stop and token refresh

`LifeInv`: `s.ws` is the socket dialed last (`wsLast`); the client closed only dialed sockets,
at most one per call of the stop function (`closedDialed`, `closedCard`: only `stop` closes a
socket, the one in `s.ws`); the stop function of the constructors without certificates never
waits (`stopperIdle`), and `renewMidgardToken` runs once the certificate constructor returned
and has exited only after a call of stop took its signal (`renewStarted`, `renewExited`).

* `stop_ends_listen`: after a stop that finds `s.ws` set, `running` stays false and `listen`
  never enters its reconnect loop again: a read error makes it exit. A reconnect loop entered
  before the stop does not check `running` and dials again (`dial_after_stop`).
* `stop_calls_return`: every call of stop returns, except that nothing is said of a second
  call of the certificate constructor's stop; a later call changes nothing until `listen` dials
  a new socket, and the first call after such a dial closes it (`stop_closes_redial`).
* What the stop function leaves undone: a stop that finds `s.ws` nil leaves `running` set, so
  `listen` keeps reconnecting (`stop_without_socket_keeps_running`), and the certificate
  constructor's stop blocks for good once `renewMidgardToken` has returned
  (`second_stop_blocks`).
* `unclosed_sockets`: `connect` never closes a socket, so at most the stop calls reduce the
  sockets left open (`two_sockets_open`).
* `password_run`: the password is the token of the last refresh, failed or not
  (`refresh_failure_clears_token`), and `dial_uses_password_read`: every dial, the reconnects of
  `listen` included, puts in its URL the password `connect` read when it built the URL, so a
  refresh between that read and the dial is missed (`dial_misses_refresh_after_build`).
-/

namespace Manipulate.Websocket

def State.unclosed (s : State) : Finset Nat := Finset.range s.sockets.length \ s.closed

/-- The lifecycle invariant (module doc). -/
structure LifeInv (s : State) : Prop where
  wsLast : ∀ k, s.ws = some k → k + 1 = s.sockets.length
  closedDialed : s.closed ⊆ Finset.range s.sockets.length
  closedCard : s.closed.card ≤ s.stopCalls
  stopperIdle : s.cfg.renews = false → s.stopper = .idle
  signalling : s.stopper = .signalling → 1 ≤ s.stopCalls ∧ s.phase.built = true
  renewIdle : s.phase.built = false → s.renew = .idle
  renewStarted : s.cfg.renews = true → s.phase.built = true → s.renew ≠ .idle
  renewExited : s.renew = .exited → 1 ≤ s.stopCalls ∧ (s.stopper = .signalling → 2 ≤ s.stopCalls)

theorem LifeInv.init (cfg : Config) : LifeInv (State.init cfg) where
  wsLast := by simp [State.init]
  closedDialed := by simp [State.init]
  closedCard := by simp [State.init]
  stopperIdle _ := rfl
  signalling := by simp [State.init]
  renewIdle _ := rfl
  renewStarted := by simp [State.init, Phase.built]
  renewExited := by simp [State.init]

variable {s s' : State}

theorem LifeInv.sockets_of_connect (h : LifeInv s) {k : ConnectPc} {a : ConnectAction}
    {o : ConnectPc ⊕ Except ManipError Unit} {t : State} (ht : connect s k a = some (t, o)) :
    (∀ k, t.ws = some k → k + 1 = t.sockets.length) ∧
      s.closed ⊆ Finset.range t.sockets.length := by
  rcases connect_sockets ht with ⟨hs, hw | hw⟩ | ⟨url, -, hw, hs⟩ <;> rw [hs, hw]
  · exact ⟨h.wsLast, h.closedDialed⟩
  · exact ⟨by simp, h.closedDialed⟩
  · refine ⟨by simp, h.closedDialed.trans ?_⟩
    simp [Finset.range_subset]

theorem listen_built {a : ListenAction} (h : listen s a = some s') :
    s.phase.built = true ∧ s'.phase.built = true := by
  unfold listen at h
  split at h
  case h_1 r hp | h_2 hp => cases h; simp [hp, Phase.built]
  case h_3 r hp =>
    cases h
    exact ⟨by simp [hp, Phase.built], by cases State.responseChannelForID s r.requestID <;> rfl⟩
  case h_4 hp =>
    cases h
    exact ⟨by simp [hp, Phase.built], by dsimp only; split <;> rfl⟩
  case h_5 k a hp =>
    simp only [Option.map_eq_some'] at h
    obtain ⟨⟨t, o⟩, -, rfl⟩ := h
    exact ⟨by simp [hp, Phase.built], by rcases o with _ | _ | _ <;> rfl⟩
  case h_6 => cases h

theorem LifeInv.step (h : LifeInv s) {a : Action} (hs : step s a = some s') : LifeInv s' := by
  cases a with
  | construct a =>
    obtain ⟨k, hk, hs⟩ := step_construct hs
    simp only [construct, Option.map_eq_some'] at hs
    obtain ⟨⟨t, o⟩, ht, rfl⟩ := hs
    obtain ⟨hw, hc⟩ := h.sockets_of_connect ht
    have hnb : s.phase.built = false := by simp [hk, Phase.built]
    have hr := h.renewIdle hnb
    have hst : s.stopper ≠ .signalling := fun he => by simpa [hnb] using (h.signalling he).2
    rw [connect_only ht] at hw hc ⊢
    rcases o with _ | _ | _ <;> dsimp only <;>
      exact ⟨hw, hc, h.closedCard, h.stopperIdle, fun he => absurd he hst,
        by simp [hr, Phase.built], by simp [Phase.built],
        fun he => absurd he (by (try split) <;> simp [hr])⟩
  | listen a =>
    change listen s a = some s' at hs
    obtain ⟨hb, hb'⟩ := listen_built hs
    have hr := listen_only hs
    unfold listen at hs
    have hsock : (∀ k, s'.ws = some k → k + 1 = s'.sockets.length) ∧
        s.closed ⊆ Finset.range s'.sockets.length := by
      split at hs <;> (try cases hs) <;> try exact ⟨h.wsLast, h.closedDialed⟩
      simp only [Option.map_eq_some'] at hs
      obtain ⟨⟨t, o⟩, ht, rfl⟩ := hs
      rcases o with _ | _ | _ <;> dsimp only <;> exact h.sockets_of_connect ht
    rw [hr] at hb' hsock ⊢
    exact ⟨hsock.1, hsock.2, h.closedCard, h.stopperIdle, fun hs => ⟨(h.signalling hs).1, hb'⟩,
      by simp [hb'], fun hc _ => h.renewStarted hc hb, h.renewExited⟩
  | send rid a =>
    rw [send_only hs]
    exact ⟨h.wsLast, h.closedDialed, h.closedCard, h.stopperIdle, h.signalling, h.renewIdle,
      h.renewStarted, h.renewExited⟩
  | deliver rid =>
    simp only [Websocket.step] at hs
    have hr := deliver_only hs
    unfold deliver at hs
    split at hs <;> (try split at hs) <;> cases hs
    rename_i hp _ _
    have hb : s.phase.built = true := by simp [hp, Phase.built]
    rw [hr]
    exact ⟨h.wsLast, h.closedDialed, h.closedCard, h.stopperIdle,
      fun hs => ⟨(h.signalling hs).1, rfl⟩, fun hf => absurd hf (by simp [Phase.built]),
      fun hc _ => h.renewStarted hc hb, h.renewExited⟩
  | stop =>
    obtain ⟨hb, hi, rfl⟩ := stop_eq hs
    have hcard := h.closedCard
    refine ⟨fun k hk => h.wsLast k hk, ?_, ?_, fun hr => by simp_all, fun _ => ⟨by simp, hb⟩,
      fun hf => by simp [hb] at hf, h.renewStarted, fun he => ?_⟩
    · cases hws : s.ws
      · exact h.closedDialed
      · have := h.wsLast _ hws
        exact Finset.insert_subset (by simp; omega) h.closedDialed
    · cases hws : s.ws
      · dsimp only; omega
      · exact (Finset.card_insert_le _ _).trans (by dsimp only; omega)
    · have := (h.renewExited he).1
      dsimp only
      exact ⟨by omega, fun _ => by omega⟩
  | signal =>
    obtain ⟨hsig, hsel, rfl⟩ := signal_eq hs
    exact ⟨h.wsLast, h.closedDialed, h.closedCard, fun _ => rfl, by simp,
      fun hf => absurd (h.renewIdle hf) (by simp [hsel]), by simp,
      fun _ => ⟨(h.signalling hsig).1, by simp⟩⟩
  | renew a =>
    change renewMidgardToken s a = some s' at hs
    have hr := renewMidgardToken_only hs
    unfold renewMidgardToken at hs
    split at hs <;> cases hs <;> rename_i hp <;> rw [hr] <;>
      exact ⟨h.wsLast, h.closedDialed, h.closedCard, h.stopperIdle, h.signalling,
        fun hf => absurd (h.renewIdle hf) (by simp [hp]), by simp, by simp⟩

theorem LifeInv.reachable {cfg : Config} (hs : Reachable cfg s) : LifeInv s :=
  hs.induct LifeInv (LifeInv.init cfg) fun _ _ _ h => h.step

theorem step_cfg {a : Action} (hs : step s a = some s') : s'.cfg = s.cfg := by
  cases a with
  | construct a => obtain ⟨_, -, hs⟩ := step_construct hs; rw [construct_only hs]
  | listen a => rw [listen_only hs]
  | send rid a => rw [send_only hs]
  | deliver rid => rw [deliver_only hs]
  | stop => rw [(stop_eq hs).2.2]
  | signal => rw [(signal_eq hs).2.2]
  | renew a => rw [renewMidgardToken_only hs]

theorem Reachable.cfg {cfg : Config} (hs : Reachable cfg s) : s.cfg = cfg :=
  hs.induct (fun t => t.cfg = cfg) rfl fun _ _ _ h hs => (step_cfg hs).trans h

/-! ## `running` and the reconnect loop -/

/-- `listen` is in its reconnect loop. -/
def Phase.reconnect : Phase → Bool
  | .reconnecting _ => true
  | _ => false

theorem step_running {a : Action} (hs : step s a = some s') (h : s.running = false) :
    s'.running = false := by
  cases a with
  | construct a => obtain ⟨_, -, hs⟩ := step_construct hs; rw [construct_only hs]; exact h
  | listen a => rw [listen_only hs]; exact h
  | send rid a => rw [send_only hs]; exact h
  | deliver rid => rw [deliver_only hs]; exact h
  | stop => rw [(stop_eq hs).2.2]; dsimp only; split <;> simp [h]
  | signal => rw [(signal_eq hs).2.2]; exact h
  | renew a => rw [renewMidgardToken_only hs]; exact h

theorem step_phase_stopped {a : Action} (hs : step s a = some s') (h : s.running = false) :
    (s'.phase.reconnect = true → s.phase.reconnect = true) ∧
      (s.phase = .failed → s'.phase = .failed ∨ s'.phase = .exited) := by
  cases a with
  | construct a =>
    obtain ⟨k, hk, hs⟩ := step_construct hs
    simp only [construct, Option.map_eq_some'] at hs
    obtain ⟨⟨t, o⟩, -, rfl⟩ := hs
    rcases o with _ | _ | _ <;> simp [hk, Phase.reconnect]
  | listen a =>
    change listen s a = some s' at hs
    unfold listen at hs
    split at hs
    case h_1 r hp | h_2 hp => cases hs; simp [hp, Phase.reconnect]
    case h_3 r hp =>
      cases hs
      refine ⟨fun hr => ?_, by simp [hp]⟩
      revert hr; dsimp only
      cases State.responseChannelForID s r.requestID <;> simp [Phase.reconnect]
    case h_4 hp => cases hs; simp [hp, h, Phase.reconnect]
    case h_5 k a hp =>
      simp only [Option.map_eq_some'] at hs
      obtain ⟨⟨t, o⟩, -, rfl⟩ := hs
      simp [hp, Phase.reconnect]
    case h_6 => cases hs
  | send rid a => rw [send_only hs]; exact ⟨id, Or.inl⟩
  | deliver rid =>
    change deliver s rid = some s' at hs
    rw [deliver_only hs]
    unfold deliver at hs
    split at hs <;> (try split at hs) <;> cases hs
    simp [*, Phase.reconnect]
  | stop => rw [(stop_eq hs).2.2]; exact ⟨id, Or.inl⟩
  | signal => rw [(signal_eq hs).2.2]; exact ⟨id, Or.inl⟩
  | renew a => rw [renewMidgardToken_only hs]; exact ⟨id, Or.inl⟩

theorem stop_ends_listen {s s1 : State} (hs : stop s = some s1) (hws : s.ws.isSome = true) :
    s1.running = false ∧ ∀ as t a t', run s1 as = some t → step t a = some t' →
      t'.running = false ∧ (t'.phase.reconnect = true → t.phase.reconnect = true) ∧
        (t.phase = .failed → t'.phase = .failed ∨ t'.phase = .exited) := by
  have h1 : s1.running = false := by
    rw [(stop_eq hs).2.2]; dsimp only; split <;> simp_all
  refine ⟨h1, fun as t a t' ht ht' => ?_⟩
  have hr : t.running = false :=
    run_preserves (fun u => u.running = false) (fun _ _ _ h hs => step_running hs h) h1 ht
  exact ⟨step_running ht' hr, step_phase_stopped ht' hr⟩

theorem stop_ends_listen_built :
    ∃ s1, stop { State.init (newWebSocketManipulator "user" "secret" "https://api") with
        phase := .reading, ws := some 0, sockets := ["wss://api/wsapi?token=secret&namespace="] } =
        some s1 ∧
      s1.running = false ∧ ∀ as t a t', run s1 as = some t → step t a = some t' →
        t'.running = false ∧ (t'.phase.reconnect = true → t.phase.reconnect = true) ∧
          (t.phase = .failed → t'.phase = .failed ∨ t'.phase = .exited) :=
  ⟨_, rfl, @stop_ends_listen
    { State.init (newWebSocketManipulator "user" "secret" "https://api") with
      phase := .reading, ws := some 0, sockets := ["wss://api/wsapi?token=secret&namespace="] } _
    rfl rfl⟩

theorem dial_after_stop :
    ∃ s s1 s2, run (State.init (newWebSocketManipulator "user" "secret" "https://api"))
        [.construct .clear, .construct .build, .construct (.dial .connected),
          .construct (.handshake (.ok ⟨"", 200, 0, ""⟩)), .listen (.recv none),
          .listen .checkRunning] = some s ∧
      stop s = some s1 ∧ s1.running = false ∧
      run s1 [.listen (.connect .clear), .listen (.connect .build),
        .listen (.connect (.dial .connected))] = some s2 ∧
      s1.sockets.length < s2.sockets.length :=
  ⟨_, _, _, rfl, rfl, rfl, rfl, by decide⟩

/-! ## Calls of stop -/

/-- The URL `connect` has built and not yet dialed. -/
def Phase.url : Phase → Option String
  | .constructing (.dialing url) | .reconnecting (.dialing url) => some url
  | _ => none

theorem step_ws_sockets {a : Action} (hs : step s a = some s') :
    s'.sockets = s.sockets ∧ (s'.ws = s.ws ∨ s'.ws = none) ∨
      ∃ url, s.phase.url = some url ∧ s'.ws = some s.sockets.length ∧
        s'.sockets = s.sockets ++ [url] := by
  have of_connect : ∀ {k : ConnectPc} {c : ConnectAction} {t : State}
      {o : ConnectPc ⊕ Except ManipError Unit} {p : Phase}, connect s k c = some (t, o) →
      (∀ url, k = .dialing url → p.url = some url) →
      t.sockets = s.sockets ∧ (t.ws = s.ws ∨ t.ws = none) ∨
        ∃ url, p.url = some url ∧ t.ws = some s.sockets.length ∧ t.sockets = s.sockets ++ [url] :=
    fun ht hp => (connect_sockets ht).imp_right fun ⟨url, hk, hw⟩ => ⟨url, hp url hk, hw⟩
  cases a with
  | construct a =>
    obtain ⟨k, hk, hs⟩ := step_construct hs
    simp only [construct, Option.map_eq_some'] at hs
    obtain ⟨⟨t, o⟩, ht, rfl⟩ := hs
    have := of_connect (p := s.phase) ht fun url hu => by rw [hk, hu]; rfl
    rcases o with _ | _ | _ <;> exact this
  | listen a =>
    change listen s a = some s' at hs
    unfold listen at hs
    split at hs <;> (try cases hs) <;> try exact .inl ⟨rfl, .inl rfl⟩
    rename_i hp
    simp only [Option.map_eq_some'] at hs
    obtain ⟨⟨t, o⟩, ht, rfl⟩ := hs
    have := of_connect (p := s.phase) ht fun url hu => by rw [hp, hu]; rfl
    rcases o with _ | _ | _ <;> exact this
  | send rid a => rw [send_only hs]; exact .inl ⟨rfl, .inl rfl⟩
  | deliver rid => rw [deliver_only hs]; exact .inl ⟨rfl, .inl rfl⟩
  | stop => rw [(stop_eq hs).2.2]; exact .inl ⟨rfl, .inl rfl⟩
  | signal => rw [(signal_eq hs).2.2]; exact .inl ⟨rfl, .inl rfl⟩
  | renew a => rw [renewMidgardToken_only hs]; exact .inl ⟨rfl, .inl rfl⟩

theorem step_running_eq {a : Action} (hs : step s a = some s') (ha : a ≠ .stop) :
    s'.running = s.running := by
  cases a with
  | construct a => obtain ⟨_, -, hs⟩ := step_construct hs; rw [construct_only hs]
  | listen a => rw [listen_only hs]
  | send rid a => rw [send_only hs]
  | deliver rid => rw [deliver_only hs]
  | stop => exact absurd rfl ha
  | signal => rw [(signal_eq hs).2.2]
  | renew a => rw [renewMidgardToken_only hs]

/-- A stop that finds `s.ws` nil leaves `running` set, so `listen` reconnects after every read
error. -/
theorem stop_without_socket_keeps_running {s s1 : State} (hs : stop s = some s1)
    (hws : s.ws = none) (hr : s.running = true) :
    s1.running = true ∧ ∀ as t t', run s1 as = some t → (∀ a ∈ as, a ≠ .stop) →
      t.phase = .failed → step t (.listen .checkRunning) = some t' →
        t'.phase = .reconnecting .clearing := by
  have h1 : s1.running = true := by rw [(stop_eq hs).2.2, hws]; exact hr
  refine ⟨h1, fun as t t' ht has hf ht' => ?_⟩
  have hrt : t.running = true :=
    run_preserves_on (fun u => u.running = true) (· ≠ .stop)
      (fun _ _ _ ha hu hs => (step_running_eq hs ha).trans hu) has h1 ht
  change listen t .checkRunning = some t' at ht'
  simp only [listen, hf, hrt, if_true, Option.some.injEq] at ht'
  rw [← ht']

theorem stop_after_refused_redial :
    let s := (run (State.init (newWebSocketManipulator "user" "secret" "https://api"))
      [.construct .clear, .construct .build, .construct (.dial .connected),
        .construct (.handshake (.ok ⟨"", 200, 0, ""⟩)), .listen (.recv none),
        .listen .checkRunning, .listen (.connect .clear), .listen (.connect .build),
        .listen (.connect (.dial (.refused "connection refused")))]).getD (State.init
          (newWebSocketManipulator "user" "secret" "https://api"))
    ∃ s1, stop s = some s1 ∧ s.ws = none ∧ s.running = true ∧
      s1.running = true ∧ ∀ as t t', run s1 as = some t → (∀ a ∈ as, a ≠ .stop) →
        t.phase = .failed → step t (.listen .checkRunning) = some t' →
          t'.phase = .reconnecting .clearing := by
  intro s
  exact ⟨_, rfl, rfl, rfl, stop_without_socket_keeps_running (s := s) rfl rfl rfl⟩

/-- The certificate constructor's second stop blocks at `stopCh <- true` for good. -/
theorem second_stop_blocks {cfg : Config} {s : State} (hr : Reachable cfg s)
    (hsig : s.stopper = .signalling) (hx : s.renew = .exited) {as : List Action} {t : State}
    (ht : run s as = some t) : t.stopper = .signalling ∧ signal t = none := by
  have hb := ((LifeInv.reachable hr).signalling hsig).2
  have h := run_preserves (fun u => u.stopper = .signalling ∧ u.renew = .exited ∧
      u.phase.built = true)
    (fun u a u' ⟨hs, hx, hb⟩ hu => by
      cases a with
      | construct a =>
        obtain ⟨k, hk, -⟩ := step_construct hu
        simp [hk, Phase.built] at hb
      | listen a => rw [listen_only hu]; exact ⟨hs, hx, (listen_built hu).2⟩
      | send rid a => rw [send_only hu]; exact ⟨hs, hx, hb⟩
      | deliver rid =>
        change deliver u rid = some u' at hu
        unfold deliver at hu
        split at hu <;> (try split at hu) <;> cases hu
        exact ⟨hs, hx, rfl⟩
      | stop => simp [(stop_eq hu).2.1] at hs
      | signal => simp [(signal_eq hu).2.1] at hx
      | renew a =>
        change renewMidgardToken u a = some u' at hu
        unfold renewMidgardToken at hu
        split at hu <;> simp_all) ⟨hsig, hx, hb⟩ ht
  refine ⟨h.1, ?_⟩
  unfold signal
  rw [h.1, h.2.1]

theorem second_stop_blocks_after_signal :
    let cfg := (newWebSocketManipulatorWithMidgardCertAuthentication "https://api" ⟨"T0", none⟩
      "ns" false).toOption.getD (newWebSocketManipulator "" "" "")
    let as : List Action := [.construct .clear, .construct .build, .construct (.dial .connected),
      .construct (.handshake (.ok ⟨"", 200, 0, ""⟩)), .stop, .signal, .stop]
    let s := (run (State.init cfg) as).getD (State.init cfg)
    newWebSocketManipulatorWithMidgardCertAuthentication "https://api" ⟨"T0", none⟩ "ns" false =
        .ok cfg ∧ s.stopper = .signalling ∧ s.renew = .exited ∧
      ∀ bs t, run s bs = some t → t.stopper = .signalling ∧ signal t = none := by
  intro cfg as s
  exact ⟨rfl, rfl, rfl, fun bs t => @second_stop_blocks cfg s ⟨as, rfl⟩ rfl rfl bs t⟩

/-! ## Sockets left open -/

theorem unclosed_sockets {cfg : Config} {s : State} (hs : Reachable cfg s) :
    (∀ k, s.ws = some k → k + 1 = s.sockets.length) ∧
      s.sockets.length ≤ s.unclosed.card + s.stopCalls := by
  have h := LifeInv.reachable hs
  refine ⟨h.wsLast, ?_⟩
  have := h.closedCard
  rw [State.unclosed, Finset.card_sdiff h.closedDialed, Finset.card_range]
  omega

theorem unclosed_sockets_two_dials :
    ∃ s, run (State.init (newWebSocketManipulator "user" "secret" "https://api"))
        [.construct .clear, .construct .build, .construct (.dial .connected),
          .construct (.handshake (.ok ⟨"", 200, 0, ""⟩)), .listen (.recv none),
          .listen .checkRunning, .listen (.connect .clear), .listen (.connect .build),
          .listen (.connect (.dial .connected))] = some s ∧
      (∀ k, s.ws = some k → k + 1 = s.sockets.length) ∧
        s.sockets.length ≤ s.unclosed.card + s.stopCalls :=
  ⟨_, rfl, unclosed_sockets ⟨[.construct .clear, .construct .build, .construct (.dial .connected),
    .construct (.handshake (.ok ⟨"", 200, 0, ""⟩)), .listen (.recv none), .listen .checkRunning,
    .listen (.connect .clear), .listen (.connect .build),
    .listen (.connect (.dial .connected))], rfl⟩⟩

theorem two_sockets_open :
    ∃ s, run (State.init (newWebSocketManipulator "user" "secret" "https://api"))
        [.construct .clear, .construct .build, .construct (.dial .connected),
          .construct (.handshake (.ok ⟨"", 200, 0, ""⟩)), .listen (.recv none),
          .listen .checkRunning, .listen (.connect .clear), .listen (.connect .build),
          .listen (.connect (.dial .connected)),
          .listen (.connect (.handshake (.ok ⟨"", 401, 0, ""⟩)))] = some s ∧
      s.unclosed.card = 2 :=
  ⟨_, rfl, by decide⟩

/-! ## The refreshed token -/

/-- The token an action's `IssueFromCertificate` returned. -/
def Action.issuedToken : Action → Option String
  | .renew (.issue r) => some r.token
  | _ => none

/-- The token the last `IssueFromCertificate` of `renewMidgardToken` in `as` returned, failed or
not. -/
def lastIssued : List Action → Option String
  | [] => none
  | a :: as => (lastIssued as).or a.issuedToken

theorem step_password {a : Action} (hs : step s a = some s') :
    s'.password = a.issuedToken.getD s.password := by
  cases a with
  | construct a => obtain ⟨_, -, hs⟩ := step_construct hs; rw [construct_only hs]; rfl
  | listen a => rw [listen_only hs]; rfl
  | send rid a => rw [send_only hs]; rfl
  | deliver rid => rw [deliver_only hs]; rfl
  | stop => rw [(stop_eq hs).2.2]; rfl
  | signal => rw [(signal_eq hs).2.2]; rfl
  | renew a =>
    change renewMidgardToken s a = some s' at hs
    unfold renewMidgardToken at hs
    split at hs <;> cases hs <;> rfl

theorem password_run {as : List Action} {t : State} (h : run s as = some t) :
    t.currentPassword = (lastIssued as).getD s.currentPassword := by
  induction as generalizing s with
  | nil => cases h; rfl
  | cons a as ih =>
    simp only [run_cons, Option.bind_eq_some] at h
    obtain ⟨s', h1, h2⟩ := h
    rw [ih h2, State.currentPassword, step_password h1, lastIssued]
    cases lastIssued as <;> cases a.issuedToken <;> rfl

/-- The action builds `connect`'s URL. -/
def Action.isBuild : Action → Bool
  | .construct .build | .listen (.connect .build) => true
  | _ => false

theorem connect_url {k : ConnectPc} {c : ConnectAction} {t : State} {url : String}
    (h : connect s k c = some (t, .inl (.dialing url))) :
    c = .build ∧ url = connectURL s.cfg s.currentPassword := by
  cases k <;> cases c <;> (try rename_i r; cases r) <;> simp [connect] at h
  exact ⟨rfl, h.2.symm⟩

theorem step_url {a : Action} (hs : step s a = some s') {url : String}
    (hu : s'.phase.url = some url) :
    a.isBuild = true ∧ url = connectURL s.cfg s.currentPassword ∨
      a.isBuild = false ∧ s.phase.url = some url := by
  cases a with
  | construct a =>
    obtain ⟨k, -, hs⟩ := step_construct hs
    simp only [construct, Option.map_eq_some'] at hs
    obtain ⟨⟨t, o⟩, ht, rfl⟩ := hs
    rcases o with (_ | _ | url' | _) | _ | _ <;> simp [Phase.url] at hu
    subst hu
    obtain ⟨rfl, rfl⟩ := connect_url ht
    exact .inl ⟨rfl, rfl⟩
  | listen a =>
    change listen s a = some s' at hs
    unfold listen at hs
    split at hs <;> (try cases hs) <;> (try revert hu; dsimp only; (try split) <;> simp [Phase.url])
    simp only [Option.map_eq_some'] at hs
    obtain ⟨⟨t, o⟩, ht, rfl⟩ := hs
    rcases o with (_ | _ | url' | _) | _ | _ <;> simp [Phase.url] at hu
    subst hu
    obtain ⟨rfl, rfl⟩ := connect_url ht
    exact .inl ⟨rfl, rfl⟩
  | send rid a => rw [send_only hs] at hu; exact .inr ⟨rfl, hu⟩
  | deliver rid =>
    change deliver s rid = some s' at hs
    unfold deliver at hs
    split at hs <;> (try split at hs) <;> cases hs
    simp [Phase.url] at hu
  | stop => rw [(stop_eq hs).2.2] at hu; exact .inr ⟨rfl, hu⟩
  | signal => rw [(signal_eq hs).2.2] at hu; exact .inr ⟨rfl, hu⟩
  | renew a => rw [renewMidgardToken_only hs] at hu; exact .inr ⟨rfl, hu⟩

/-- `url` carries the password of the last build step of `as`, read after the actions before
it. -/
def BuiltFrom (cfg : Config) (as : List Action) (url : String) : Prop :=
  ∃ bs b cs, as = bs ++ b :: cs ∧ b.isBuild = true ∧ (∀ c ∈ cs, c.isBuild = false) ∧
    url = connectURL cfg ((lastIssued bs).getD cfg.password)

theorem BuiltFrom.snoc {cfg : Config} {as : List Action} {url : String} {a : Action}
    (h : BuiltFrom cfg as url) (ha : a.isBuild = false) : BuiltFrom cfg (as ++ [a]) url := by
  obtain ⟨bs, b, cs, rfl, hb, hcs, hu⟩ := h
  refine ⟨bs, b, cs ++ [a], by simp, hb, fun c hc => ?_, hu⟩
  rcases List.mem_append.1 hc with hc | hc
  · exact hcs c hc
  · rw [List.mem_singleton.1 hc]; exact ha

theorem url_run {cfg : Config} {as : List Action} {s : State}
    (h : run (State.init cfg) as = some s) {url : String} (hu : s.phase.url = some url) :
    BuiltFrom cfg as url := by
  have hstep : ∀ pre u a u', (run (State.init cfg) pre = some u ∧
      ∀ url, u.phase.url = some url → BuiltFrom cfg pre url) → step u a = some u' →
      run (State.init cfg) (pre ++ [a]) = some u' ∧
        ∀ url, u'.phase.url = some url → BuiltFrom cfg (pre ++ [a]) url := by
    rintro pre u a u' ⟨hr, hb⟩ hs
    refine ⟨by rw [run_append hr, run_cons, hs]; rfl, fun url hu => ?_⟩
    rcases step_url hs hu with ⟨ha, rfl⟩ | ⟨ha, hu⟩
    · refine ⟨pre, a, [], rfl, ha, nofun, ?_⟩
      rw [Reachable.cfg ⟨pre, hr⟩, password_run hr]
      rfl
    · exact (hb url hu).snoc ha
  exact (run_preserves_hist _ hstep (s := State.init cfg)
    (show run (State.init cfg) [] = some (State.init cfg) ∧ _ from ⟨rfl, fun _ h => by cases h⟩)
    h).2 url hu

/-- Every socket `connect` dials carries the password read when it built the URL, not one stored
later. -/
theorem dial_uses_password_read {cfg : Config} {as : List Action} {a : Action} {s t : State}
    (h : run (State.init cfg) as = some s) (ha : step s a = some t)
    (hd : s.sockets.length < t.sockets.length) :
    ∃ bs b cs, as = bs ++ b :: cs ∧ b.isBuild = true ∧ (∀ c ∈ cs, c.isBuild = false) ∧
      t.sockets = s.sockets ++ [connectURL cfg ((lastIssued bs).getD cfg.password)] := by
  rcases step_ws_sockets ha with ⟨hs, -⟩ | ⟨url, hu, -, hs⟩
  · rw [hs] at hd; exact absurd hd (lt_irrefl _)
  · obtain ⟨bs, b, cs, h1, h2, h3, rfl⟩ := url_run h hu
    exact ⟨bs, b, cs, h1, h2, h3, hs⟩

/-- A refresh between the build step and the dial is not in the URL. -/
theorem dial_misses_refresh_after_build :
    let cfg := (newWebSocketManipulatorWithMidgardCertAuthentication "https://api" ⟨"T0", none⟩
      "ns" false).toOption.getD (newWebSocketManipulator "" "" "")
    let as : List Action := [.construct .clear, .construct .build, .construct (.dial .connected),
      .construct (.handshake (.ok ⟨"", 200, 0, ""⟩)), .listen (.recv none),
      .listen .checkRunning, .listen (.connect .clear), .listen (.connect .build), .renew .tick,
      .renew (.issue ⟨"T1", none⟩)]
    let s := (run (State.init cfg) as).getD (State.init cfg)
    ∃ t, step s (.listen (.connect (.dial .connected))) = some t ∧ s.currentPassword = "T1" ∧
      (∃ bs b cs, as = bs ++ b :: cs ∧ b.isBuild = true ∧ (∀ c ∈ cs, c.isBuild = false) ∧
        t.sockets = s.sockets ++ [connectURL cfg ((lastIssued bs).getD cfg.password)]) ∧
      t.sockets = s.sockets ++ [connectURL cfg "T0"] := by
  intro cfg as s
  exact ⟨_, rfl, rfl, dial_uses_password_read (s := s) (a := .listen (.connect (.dial .connected)))
    rfl rfl (by decide), rfl⟩

theorem refresh_failure_clears_token :
    ∃ cfg s, newWebSocketManipulatorWithMidgardCertAuthentication "https://api"
        ⟨"T0", none⟩ "ns" false = .ok cfg ∧
      run (State.init cfg) [.construct .clear, .construct .build, .construct (.dial .connected),
        .construct (.handshake (.ok ⟨"", 200, 0, ""⟩)), .renew .tick,
        .renew (.issue ⟨"", some "unable to issue a token"⟩)] = some s ∧
      cfg.password = "T0" ∧ s.currentPassword = "" :=
  ⟨_, _, rfl, rfl, rfl, rfl⟩

end Manipulate.Websocket
